import GmpRouter.Evm.RecvBitmap
import GmpRouter.Evm.Status
import GmpRouter.Aptos.Status

/-!
# Receiving is executing with a status

On the EVM and on Aptos `recvMessage` is, up to its payment, the view of the status of the message
followed by `execMessage`. The tests differ: the EVM endpoint also requires an enabled adapter and a
non-zero bitmap, and the Aptos endpoint an entry in its table, which has an attestation when it is
not executed.
-/

namespace GmpRouter

/-- The bitmap of an integrator with an enabled adapter is not empty. -/
theorem Evm.recvAdapterBitmap_ne_zero {s : Evm.State} {I : Evm.Address} {chain : ChainId}
    (h : ∃ A, Evm.ListedRecvEnabled s I chain A) : s.perChainRecvAdapterBitmap I chain ≠ 0#128 := by
  obtain ⟨A, -, hA⟩ := h
  exact Bitmap.ne_zero_iff.2 ⟨_, hA⟩

/-- **Receiving is executing with a status.** In every state that the EVM endpoint reaches, when an
adapter of the caller is enabled for the source chain, `recvMessage` succeeds exactly when
`getMessageStatus` reports that the message is attested and not executed; in every state that the
Aptos endpoint reaches, exactly when `get_message_status` returns, for the address of the signer,
that the message is not executed. Whenever `recvMessage` succeeds, on either chain, it returns the
status from before the call (from both overloads of the EVM view), and its effect is that of
`execMessage`: it sets the executed flag in the record of the message. On EVM, where `recvMessage`
is payable and `execMessage` is not, the states after the two agree up to the value that the call
brings. -/
theorem recv_message_status (E : Evm.Env) (keccak256 : List Byte → Digest) :
    (∀ log s, (Evm.machine E).Path .init log s → ∀ msg args,
      ((∃ A, Evm.ListedRecvEnabled s msg.sender args.srcChain A) →
        ((∃ t r, Evm.step E s (.call msg (.recvMessage args)) = .ok (t, r)) ↔
          ∃ status, Evm.Endpoint.getMessageStatus E s msg.sender args = .ok status ∧
            status.executed = false ∧ status.attestedBitmap ≠ 0#128)) ∧
      ∀ t r, Evm.step E s (.call msg (.recvMessage args)) = .ok (t, r) →
        ∃ status, Evm.Received E s t r msg args status) ∧
    ∀ l s, (Aptos.machine keccak256).Path .init l s → ∀ (f : Aptos.Fields) (I : Aptos.Address),
      (∀ status, f.getMessageStatus keccak256 s = .ok status → ∃ J, f.IsTo J) ∧
      (f.IsTo I →
        ((∃ t o, Aptos.process keccak256 s (f.recv I) = .ok (t, o)) ↔
          ∃ status, f.getMessageStatus keccak256 s = .ok status ∧ status.executed = false) ∧
        ∀ t o, Aptos.process keccak256 s (f.recv I) = .ok (t, o) →
          ∃ status, Aptos.Fields.Received keccak256 s t o I f status) := by
  refine ⟨fun log s _ msg args => ⟨fun henabled => ?_, fun t r => Evm.received_of_step⟩,
    fun l s h f I => ⟨fun status => Aptos.Fields.dstAddr_of_status,
      fun hI => ⟨Aptos.Fields.exists_recv_iff hI, fun t o hstep => ?_⟩⟩⟩
  · exact Evm.exists_recv_iff (Evm.recvAdapterBitmap_ne_zero henabled)
  · obtain ⟨a, ha⟩ := Aptos.exists_refines h
    exact Aptos.Fields.received_of_step ha hI hstep

/-- The messages of the sample runs, once they are attested. -/
theorem recv_message_status_sample :
    (∃ t r, Evm.step Evm.sampleEnv (Evm.execAll Evm.sampleEnv .init (Evm.sampleTxs.take 4)).1
        (.call ⟨10#160, 3⟩ (.recvMessage Evm.sampleArgs)) = .ok (t, r) ∧
      r.ret = .received 1#128 1#128 1#8) ∧
    ∃ t o, Aptos.process id
        ((Aptos.machine id).run .init (Aptos.sampleSetup ++ Aptos.sampleAttestation.take 2)).1
        (Aptos.sampleFields.recv 10#256) = .ok (t, o) ∧ o = .adapters 3#128 1#128 := by
  have hevm := Evm.execAll_path Evm.sampleEnv .init (Evm.sampleTxs.take 4)
  have haptos := (Aptos.machine id).run_path .init
    (Aptos.sampleSetup ++ Aptos.sampleAttestation.take 2)
  have hlisted : Evm.ListedRecvEnabled
      (Evm.execAll Evm.sampleEnv .init (Evm.sampleTxs.take 4)).1 10#160 1#16 12#160 :=
    ⟨by decide +kernel, Bitmap.mem_indices.2 (by decide +kernel)⟩
  have hstatus : Evm.Endpoint.getMessageStatus Evm.sampleEnv
      (Evm.execAll Evm.sampleEnv .init (Evm.sampleTxs.take 4)).1 10#160 Evm.sampleArgs =
        .ok ⟨1#128, 1#128, 1#8, false⟩ := by
    decide +kernel
  have hstatus' : Aptos.sampleFields.getMessageStatus id
      ((Aptos.machine id).run .init (Aptos.sampleSetup ++ Aptos.sampleAttestation.take 2)).1 =
        .ok ⟨3#128, 1#128, false⟩ := by
    decide +kernel
  obtain ⟨hiff, hreceived⟩ := (recv_message_status Evm.sampleEnv id).1 _ _ hevm ⟨10#160, 3⟩
    Evm.sampleArgs
  obtain ⟨hiff', hreceived'⟩ := ((recv_message_status Evm.sampleEnv id).2 _ _ haptos
    Aptos.sampleFields 10#256).2 rfl
  obtain ⟨t, r, hstep⟩ := (hiff ⟨_, hlisted⟩).2 ⟨_, hstatus, rfl, by decide⟩
  obtain ⟨t', o, hstep'⟩ := hiff'.2 ⟨_, hstatus', rfl⟩
  obtain ⟨status, h⟩ := hreceived t r hstep
  obtain ⟨status', h'⟩ := hreceived' t' o hstep'
  obtain rfl := Except.ok.inj (h.status_eq.symm.trans hstatus)
  obtain rfl := Except.ok.inj (h'.status_eq.symm.trans hstatus')
  exact ⟨⟨t, r, hstep, h.ret_eq⟩, t', o, hstep', h'.output_eq⟩

end GmpRouter
