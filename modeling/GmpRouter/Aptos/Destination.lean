import GmpRouter.Aptos.Attestation

/-!
# Destination chains on the Aptos endpoint

The module does not know the chain that it runs on, and takes the destination chain of a message as
it is given. A history has only messages to one chain as long as no adapter makes an attestation for
another that the other guards let pass (`oneChain_iff`).
-/

namespace GmpRouter.Aptos

open GmpRouter.Bitmap (indices)

variable {keccak256 : List Byte → Digest} {s t : State} {l : Log} {a : Router.State} {A : Address}
  {o : Output} {ourChain : ChainId}

/-- The destination chain of the message that the call attests or receives. -/
def Call.inboundChain : Call → Option ChainId
  | .attestMessage _ _ _ _ dstChain _ _ => some dstChain
  | .recvMessage _ _ _ _ dstChain _ => some dstChain
  | _ => none

/-- Only messages to the chain are attested and received. -/
def OneChain (ourChain : ChainId) (l : Log) : Prop :=
  ∀ c ∈ l, ∀ dstChain, c.input.inboundChain = some dstChain → dstChain = ourChain

/-- The guards of `attest_message`: an adapter of the integrator, enabled for the source chain, that
has not attested the message. -/
structure Attestable (keccak256 : List Byte → Digest) (s : State) (f : Fields) (A : Address) :
    Prop where
  valid : f.Valid
  exists_index : ∃ addr index bitmap digest, UniversalAddress.fromBytes f.dstAddr = .ok addr ∧
    Integrator.getAdapterIndex s addr.toAddress A = .ok index ∧
    Integrator.getEnabledRecvAdapters s addr.toAddress f.srcChain = .ok bitmap ∧
    Bitmap.get bitmap index = .ok true ∧ f.messageHash keccak256 = .ok digest ∧
    Bitmap.get (s.attestationInfos.borrowWithDefault digest {}).attestedAdapters index = .ok false

theorem attest_isOk_iff {f : Fields} :
    (∃ r, process keccak256 s (f.attest A) = .ok r) ↔ Attestable keccak256 s f A := by
  constructor
  · rintro ⟨⟨t, o⟩, h⟩
    obtain ⟨hattest, -⟩ := noOutput_eq_ok.1 h
    obtain ⟨hsrc, hdst, hpayload, m, indexTable, index, table, info, rfl, hindexTable,
      hindex, htable, hlt, hmem, rfl, hnew, -⟩ := Endpoint.attestMessage_eq_ok.1 hattest
    have hf : f.Valid := ⟨hsrc, hdst, hpayload⟩
    refine ⟨hf, _, index, _, _, UniversalAddress.fromBytes_of_length hdst,
      Integrator.getAdapterIndex_eq_ok.2 ⟨indexTable, hindexTable, hindex⟩,
      Integrator.getEnabledAdapters_eq_ok.2 ⟨table, htable, rfl⟩,
      Bitmap.get_eq_ok_true.2 ⟨hlt, hmem⟩, Fields.messageHash_eq_ok.2 ⟨hf, rfl⟩,
      Bitmap.get_eq_ok_false.2 ⟨hlt, hnew⟩⟩
  · rintro ⟨hf, addr, index, bitmap, digest, haddr, hget, hbitmap, hbit, hdigest, hnew⟩
    obtain ⟨indexTable, hindexTable, hindex⟩ := Integrator.getAdapterIndex_eq_ok.1 hget
    obtain ⟨table, htable, rfl⟩ := Integrator.getEnabledAdapters_eq_ok.1 hbitmap
    obtain ⟨hlt, hmem⟩ := Bitmap.get_eq_ok_true.1 hbit
    obtain ⟨-, rfl⟩ := Fields.messageHash_eq_ok.1 hdigest
    obtain ⟨-, hnew⟩ := Bitmap.get_eq_ok_false.1 hnew
    rw [UniversalAddress.fromBytes_of_length hf.dstAddr] at haddr
    cases haddr
    exact ⟨_, noOutput_eq_ok.2 ⟨Endpoint.attestMessage_eq_ok.2 ⟨hf.srcAddr, hf.dstAddr,
      hf.payloadHash, _, indexTable, index, table, _, rfl, hindexTable, hindex, htable, hlt, hmem,
      rfl, hnew, rfl⟩,
      rfl⟩⟩

/-- The call attests a message to another chain. -/
def Call.Misdirected (keccak256 : List Byte → Digest) (ourChain : ChainId) (s : State)
    (call : Call) : Prop :=
  ∃ f A, call = Fields.attest f A ∧ f.dstChain ≠ ourChain ∧ Attestable keccak256 s f A

/-- A message that is received has been attested. -/
theorem exists_attest_of_recv (hK : CollisionFree keccak256)
    (h : (machine keccak256).Path .init l s) {I : Address} {srcChain : ChainId}
    {srcAddr : List Byte}
    {sequence : BitVec 64} {dstChain : ChainId} {payloadHash : List Byte}
    (hstep : process keccak256 s (.recvMessage I srcChain srcAddr sequence dstChain payloadHash) =
      .ok (t, o)) :
    ∃ c ∈ l, ∃ A, c.input = (Fields.to I srcChain srcAddr sequence dstChain
      payloadHash).attest A := by
  obtain ⟨a, ha⟩ := exists_refines h
  obtain ⟨⟨⟨enabled, attested⟩, u⟩, hrecv, -⟩ := bind_eq_ok.1 hstep
  obtain ⟨hsrc, hpayload, m, info, table, rfl, hinfo, hexecuted, -⟩ :=
    Endpoint.recvMessage_eq_ok.1 hrecv
  have hne := (ha.represents.live _ _ hinfo).resolve_left (by simp [hexecuted])
  obtain ⟨i, hi⟩ := GmpRouter.Bitmap.ne_zero_iff.1 hne
  obtain ⟨f, J, A, hf, -, ⟨c, hc, hattested⟩, -⟩ := exists_attestedBy h hinfo hi
  obtain ⟨hvalid, hdigest⟩ := Fields.messageHash_eq_ok.1 hf
  have hvalid' : (Fields.to I srcChain srcAddr sequence dstChain payloadHash).Valid :=
    ⟨hsrc, (UniversalAddress.fromAddress I).length_eq, hpayload⟩
  have hmessage := hK.eq hdigest
  rw [← Endpoint.messageOf_fromAddress] at hmessage
  have hfields := hvalid'.eq_of_message hvalid hmessage
  exact ⟨c, hc, A, hfields ▸ hattested.input_eq⟩

theorem inboundChain_eq_some {call : Call} {dstChain : ChainId}
    (h : call.inboundChain = some dstChain) :
      (∃ f A, call = Fields.attest f A ∧ f.dstChain = dstChain) ∨
      ∃ I srcChain srcAddr sequence payloadHash,
        call = .recvMessage I srcChain srcAddr sequence dstChain payloadHash := by
  cases call with
  | attestMessage A srcChain srcAddr sequence dstChain' dstAddr payloadHash =>
    exact .inl ⟨⟨srcChain, srcAddr, sequence, dstChain', dstAddr, payloadHash⟩, A, rfl,
      Option.some.inj h⟩
  | recvMessage I srcChain srcAddr sequence dstChain' payloadHash =>
    obtain rfl := Option.some.inj h
    exact .inr ⟨I, srcChain, srcAddr, sequence, payloadHash, rfl⟩
  | _ => cases h

/-- It is enough that the attestations are for the chain. -/
theorem oneChain_of_attest (hK : CollisionFree keccak256) (h : (machine keccak256).Path .init l t)
    (hattest : ∀ c ∈ l, ∀ (f : Fields) (A : Address), c.input = f.attest A →
      f.dstChain = ourChain) :
    OneChain ourChain l := by
  intro c hc dstChain hchain
  rcases inboundChain_eq_some hchain with
    ⟨f, A, hinput, rfl⟩ | ⟨I, srcChain, srcAddr, sequence, payloadHash, hinput⟩
  · exact hattest c hc f A hinput
  · obtain ⟨l₁, l₂, rfl, hbefore, hvalid, -⟩ := h.split hc
    have hstep : process keccak256 c.pre (.recvMessage I srcChain srcAddr sequence dstChain
        payloadHash) = .ok (c.post, c.output) := hinput ▸ hvalid
    obtain ⟨d, hd, A, hd'⟩ := exists_attest_of_recv hK hbefore hstep
    exact hattest d (List.mem_append_left _ hd) _ A hd'

/-- **One deployment receives for one chain exactly in the runs without a misdirected attestation**:
one for another chain that passes the guards of `attest_message` where it is made. -/
theorem oneChain_iff (hK : CollisionFree keccak256) (ourChain : ChainId) (calls : List Call) :
    OneChain ourChain ((machine keccak256).run .init calls).2 ↔
      ∀ before call after, calls = before ++ call :: after →
        ¬ call.Misdirected keccak256 ourChain ((machine keccak256).run .init before).1 := by
  constructor
  · rintro hone before call after rfl ⟨f, A, rfl, hne, hattestable⟩
    obtain ⟨⟨t, o⟩, hstep⟩ := attest_isOk_iff.2 hattestable
    have hmem : ⟨((machine keccak256).run .init before).1, f.attest A, o, t⟩ ∈
        ((machine keccak256).run .init (before ++ f.attest A :: after)).2 :=
      Machine.mem_run_iff.2 ⟨before, after, rfl, rfl, hstep⟩
    exact hne (hone _ hmem f.dstChain rfl)
  · intro hnone
    refine oneChain_of_attest hK ((machine keccak256).run_path .init calls)
      fun c hc f A hinput => ?_
    by_contra hne
    obtain ⟨before, after, hcalls, hpre, hvalid⟩ := Machine.mem_run_iff.1 hc
    have hstep : process keccak256 c.pre (f.attest A) = .ok (c.post, c.output) := hinput ▸ hvalid
    exact hnone before c.input after hcalls
      ⟨f, A, hinput, hne, attest_isOk_iff.1 ⟨_, hpre ▸ hstep⟩⟩

/-! ## A run -/

/-- The message to the integrator 10, once on chain 2 and once on chain 5. -/
def sampleMisdirected : List Call :=
  [sampleFields.attest 12#256, { sampleFields with dstChain := 5#16 }.attest 12#256]

/-- Two attestations with different destination chains succeed. -/
theorem attests_two_chains : ∃ calls, ¬ ∃ ourChain,
    OneChain ourChain ((machine id).run .init calls).2 := by
  refine ⟨sampleSetup ++ sampleMisdirected, ?_⟩
  rintro ⟨ourChain, hone⟩
  have hchains : (((machine id).run .init (sampleSetup ++ sampleMisdirected)).2.filterMap
      fun c => c.input.inboundChain) = [2#16, 5#16] := by
    decide +kernel
  have hall : ∀ dstChain ∈ [2#16, 5#16], dstChain = ourChain := by
    intro dstChain hmem
    rw [← hchains] at hmem
    obtain ⟨c, hc, hchain⟩ := List.mem_filterMap.1 hmem
    exact hone c hc dstChain hchain
  exact absurd ((hall 2#16 (by simp)).trans (hall 5#16 (by simp)).symm) (by decide)

/-- The messages are for chain 2, but for one that an address attests which is no adapter. -/
def sampleDirected : List Call :=
  sampleSetup ++ sampleAttestation ++ [{ sampleFields with dstChain := 5#16 }.attest 14#256]

theorem oneChain_iff_sample :
    OneChain 2#16 ((machine id).run .init sampleDirected).2 ∧
      (((machine id).run .init sampleDirected).2.filterMap fun c => c.input.inboundChain) =
        [2#16, 2#16, 2#16] := by
  have hchains : ∀ call ∈ sampleSetup ++ sampleAttestation,
      call.inboundChain = none ∨ call.inboundChain = some 2#16 := by
    decide +kernel
  have hfails : (process id ((machine id).run .init (sampleSetup ++ sampleAttestation)).1
      ({ sampleFields with dstChain := 5#16 }.attest 14#256)).isOk = false := by
    decide +kernel
  refine ⟨(oneChain_iff collisionFree_id 2#16 sampleDirected).2 ?_, by decide +kernel⟩
  rintro before call after hcalls ⟨f, A, rfl, hne, hattestable⟩
  rcases List.eq_nil_or_concat' after with rfl | ⟨after, last, rfl⟩
  · -- the last call does not succeed
    obtain ⟨rfl, hlast⟩ := List.append_inj' hcalls rfl
    have hok := isOk_iff.2 (attest_isOk_iff.2 hattestable)
    rw [← List.singleton_inj.1 hlast, hfails] at hok
    cases hok
  · rw [← List.cons_append, ← List.append_assoc] at hcalls
    obtain ⟨hinit, -⟩ := List.append_inj' hcalls rfl
    have hmem : f.attest A ∈ sampleSetup ++ sampleAttestation := by
      rw [hinit]
      exact List.mem_append_right _ (List.mem_cons_self ..)
    rcases hchains _ hmem with hnone | htwo
    · cases hnone
    · exact hne (Option.some.inj htwo)

end GmpRouter.Aptos
