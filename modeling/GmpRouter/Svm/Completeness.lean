import GmpRouter.Svm.Attestation

/-!
# When the SVM instructions succeed

`Calls` says that an instruction is the call of an operation of the router, with the accounts and
the signers that this operation needs. Such an instruction succeeds when the router makes the step
and the guards hold that the program adds (`Guards`): non-zero chain IDs when an account is created
for them, and a destination that is this chain (`Calls.complete`).
-/

namespace GmpRouter.Svm

open GmpRouter.Bitmap (indices)

variable {E : Env} {s t : State} {a b : Router.State} {o : Output} {out : Router.Out}

/-! ## Free addresses -/

theorem accounts_config_eq_none (hs : Canonical E s) {I : Pubkey}
    (h : (s.view E).config I = none) : s.accounts (E.pda (.integratorConfig I)) = none := by
  refine accounts_eq_none hs fun account bump hseeds haccount => ?_
  cases account <;> simp [Account.seeds] at hseeds
  rw [view_config.2 haccount] at h
  cases h

theorem accounts_tracker_eq_none (hs : Canonical E s) {I : Pubkey}
    (h : (s.view E).tracker I = none) : s.accounts (E.pda (.sequenceTracker I)) = none := by
  refine accounts_eq_none hs fun account bump hseeds haccount => ?_
  cases account <;> simp [Account.seeds] at hseeds
  rw [view_tracker.2 haccount] at h
  cases h

theorem accounts_adapterInfo_eq_none (hs : Canonical E s) {I A : Pubkey}
    (h : (s.view E).adapterInfo I A = none) : s.accounts (E.pda (.adapterInfo I A)) = none := by
  refine accounts_eq_none hs fun account bump hseeds haccount => ?_
  cases account <;> simp [Account.seeds] at hseeds
  rw [view_adapterInfo.2 haccount] at h
  cases h

namespace Refines

variable {I A signer : Pubkey} {x : Address} {c : Router.Integrator} {i : ℕ}

/-! ## Finding the accounts -/

theorem config_derived (h : Refines E s a) (hc : a.integrators I = some c) :
    Derived s (E.pda (.integratorConfig I)) (.integratorConfig I) (configOf E I c).bump
      (.integratorConfig (configOf E I c)) := by
  have hview := (h.represents.integrator I).config
  rw [hc, Option.map_some, view_config] at hview
  exact ⟨hview, rfl⟩

theorem of_byAdmin (h : Refines E s a) (hby : Router.ByAdmin a signer I c)
    (hx : x = E.pda (.integratorConfig I)) : ByAdmin s x I signer (configOf E I c) := by
  subst hx
  exact ⟨h.config_derived hby.integrator_eq, hby.admin_eq, hby.pendingAdmin_eq⟩

theorem adapterInfo_derived (h : Refines E s a) (hc : a.integrators I = some c)
    (hindex : c.adapters.idxOf? A = some i) :
    ∃ info : AdapterInfo, Derived s (E.pda (.adapterInfo I A)) (.adapterInfo I A) info.bump
      (.adapterInfo info) ∧ info.index.toNat = i := by
  have hview := (h.represents.integrator I).adapterInfo A
  rw [hc, Option.bind_some, hindex, Option.map_some, view_adapterInfo] at hview
  have hinfo : Derived s (E.pda (.adapterInfo I A)) (.adapterInfo I A) (adapterInfoOf E I A i).bump
      (.adapterInfo (adapterInfoOf E I A i)) := ⟨hview, rfl⟩
  obtain ⟨c', hc', hindex'⟩ := h.adapterInfo_eq hinfo
  obtain rfl : c = c' := Option.some.inj (hc.symm.trans hc')
  exact ⟨_, hinfo, Option.some.inj (hindex'.symm.trans hindex)⟩

theorem tracker_derived (h : Refines E s a) (hc : a.integrators I = some c) :
    Derived s (E.pda (.sequenceTracker I)) (.sequenceTracker I) (trackerOf E I c).bump
      (.sequenceTracker (trackerOf E I c)) := by
  have hview := (h.represents.integrator I).tracker
  rw [hc, Option.map_some, view_tracker] at hview
  exact ⟨hview, rfl⟩

/-- The chain configuration exists once an adapter is enabled. -/
theorem chainConfig_derived (h : Refines E s a) (hc : a.integrators I = some c) {d : Direction}
    {chain : ChainId} (hne : c.enabled d chain ≠ ∅) :
    Derived s (E.pda (.integratorChainConfig I chain)) (.integratorChainConfig I chain)
      (s.chainConfigOf E I chain).bump (.integratorChainConfig (s.chainConfigOf E I chain)) := by
  rw [h.enabled_eq hc, chainConfigOf_bitmap, View.bitmap] at hne
  split at hne
  · next config hview =>
    have haccount := view_chainConfig.1 hview
    rw [chainConfigOf_eq haccount]
    exact derived_of_seeds h.canonical haccount (by
      obtain ⟨hI, hchain, -⟩ := chainConfigOf_seeds h.canonical I chain
      rw [chainConfigOf_eq haccount] at hI hchain
      rw [Account.seeds, hI, hchain])
  · simp at hne

/-! ## The instructions -/

theorem register_ok {ctx : Register} {args : RegisterArgs} (h : Refines E s a)
    (hx : ctx.integratorConfig = E.pda (.integratorConfig args.integratorProgramId))
    (hy : ctx.sequenceTracker = E.pda (.sequenceTracker args.integratorProgramId))
    (hpda : ctx.integratorProgramPda =
      integratorProgramPda args.integratorProgramId args.integratorProgramPdaBump)
    (hnone : a.integrators args.integratorProgramId = none) :
    ∃ r, Svm.register E s ctx args = .ok r := by
  have hI := h.represents.integrator args.integratorProgramId
  rw [hnone] at hI
  exact ⟨_, register_eq_ok.2 ⟨hx, hx ▸ accounts_config_eq_none h.canonical hI.config, hy,
    hy ▸ accounts_tracker_eq_none h.canonical hI.tracker, hpda, rfl, rfl⟩⟩

theorem addAdapter_ok {ctx : AddAdapter} {args : AddAdapterArgs} (h : Refines E s a)
    (hx : ctx.integratorConfig = E.pda (.integratorConfig args.integratorProgramId))
    (hy : ctx.adapterInfo = E.pda (.adapterInfo args.integratorProgramId args.adapterProgramId))
    (hby : Router.ByAdmin a ctx.admin args.integratorProgramId c)
    (hnew : args.adapterProgramId ∉ c.adapters) (hlt : c.adapters.length < 128) :
    ∃ r, Svm.addAdapter E s ctx args = .ok r := by
  have hview := (h.represents.integrator args.integratorProgramId).adapterInfo args.adapterProgramId
  rw [hby.integrator_eq, Option.bind_some, List.idxOf?_eq_none_iff.2 hnew, Option.map_none] at hview
  exact ⟨_, addAdapter_eq_ok.2 ⟨configOf E args.integratorProgramId c, h.of_byAdmin hby hx, hy,
    hy ▸ accounts_adapterInfo_eq_none h.canonical hview, hlt, rfl, rfl⟩⟩

theorem enableAdapter_ok {d : Direction} {ctx : SetAdapter} {args : AdapterInfoArgs}
    (h : Refines E s a)
    (hx : ctx.integratorConfig = E.pda (.integratorConfig args.integratorProgramId))
    (hy : ctx.adapterInfo = E.pda (.adapterInfo args.integratorProgramId args.adapterProgramId))
    (hz : ctx.integratorChainConfig =
      E.pda (.integratorChainConfig args.integratorProgramId args.chainId))
    (hby : Router.ByAdmin a ctx.admin args.integratorProgramId c) (hchain : args.chainId ≠ 0#16)
    (hindex : c.adapters.idxOf? args.adapterProgramId = some i)
    (hmem : i ∉ c.enabled d args.chainId) : ∃ r, Svm.enableAdapter d E s ctx args = .ok r := by
  obtain ⟨info, hinfo, rfl⟩ := h.adapterInfo_derived hby.integrator_eq hindex
  obtain ⟨config, hconfig⟩ :=
    loadsOrNew_chainConfig h.canonical args.integratorProgramId args.chainId
  have hnew := hconfig.orNew_chainConfig h.canonical
  have hlt : info.index.toNat < 128 := lt_of_lt_of_le (List.idxOf?_eq_some_iff.1 hindex).1
    (h.inv.integrators _ _ hby.integrator_eq).length_le
  rw [h.enabled_eq hby.integrator_eq, ← hnew] at hmem
  exact ⟨_, enableAdapter_eq_ok.2 ⟨_, info, config, _, h.of_byAdmin hby hx, hy ▸ hinfo, hz,
    hz ▸ hconfig, hchain, rfl, hlt, hmem, rfl, rfl⟩⟩

theorem disableAdapter_ok {d : Direction} {ctx : SetAdapter} {args : AdapterInfoArgs}
    (h : Refines E s a)
    (hx : ctx.integratorConfig = E.pda (.integratorConfig args.integratorProgramId))
    (hy : ctx.adapterInfo = E.pda (.adapterInfo args.integratorProgramId args.adapterProgramId))
    (hz : ctx.integratorChainConfig =
      E.pda (.integratorChainConfig args.integratorProgramId args.chainId))
    (hby : Router.ByAdmin a ctx.admin args.integratorProgramId c)
    (hindex : c.adapters.idxOf? args.adapterProgramId = some i)
    (hmem : i ∈ c.enabled d args.chainId) : ∃ r, Svm.disableAdapter d E s ctx args = .ok r := by
  obtain ⟨info, hinfo, rfl⟩ := h.adapterInfo_derived hby.integrator_eq hindex
  have hconfig := h.chainConfig_derived hby.integrator_eq (Finset.ne_empty_of_mem hmem)
  have hlt : info.index.toNat < 128 := lt_of_lt_of_le (List.idxOf?_eq_some_iff.1 hindex).1
    (h.inv.integrators _ _ hby.integrator_eq).length_le
  rw [h.enabled_eq hby.integrator_eq] at hmem
  exact ⟨_, disableAdapter_eq_ok.2 ⟨_, info, _, h.of_byAdmin hby hx, hy ▸ hinfo, hz, hz ▸ hconfig.1,
    hlt, hmem, rfl, rfl⟩⟩

theorem claimAdmin_ok {ctx : ClaimAdmin} (h : Refines E s a)
    (hx : ctx.integratorConfig = E.pda (.integratorConfig I)) (hc : a.integrators I = some c)
    (hpending : c.pendingAdmin ≠ none)
    (hsigner : c.admin = some ctx.newAdmin ∨ c.pendingAdmin = some ctx.newAdmin) :
    ∃ r, Svm.claimAdmin s ctx = .ok r := by
  have hadmin := (h.inv.integrators _ _ hc).admin_ne_none hpending
  exact ⟨_, claimAdmin_eq_ok.2 ⟨configOf E I c, hx ▸ (h.config_derived hc).1, hadmin, hpending,
    hsigner.symm, rfl, rfl⟩⟩

theorem sendMessage_ok {ctx : SendMessage} {args : SendMessageArgs} (h : Refines E s a)
    (hpda : ctx.integratorProgramPda =
      integratorProgramPda args.integratorProgramId args.integratorProgramPdaBump)
    (hx : ctx.integratorChainConfig =
      E.pda (.integratorChainConfig args.integratorProgramId args.dstChain))
    (hy : ctx.sequenceTracker = E.pda (.sequenceTracker args.integratorProgramId))
    (hpayer : ctx.outboxMessage ≠ ctx.payer)
    (hfresh : s.accounts (.external ctx.outboxMessage) = none)
    (hc : a.integrators args.integratorProgramId = some c)
    (hne : c.enabled .send args.dstChain ≠ ∅) (hmax : c.nextSequence ≠ BitVec.allOnes 64) :
    ∃ r, Svm.sendMessage s ctx args = .ok r := by
  have hchain := h.chainConfig_derived hc hne
  rw [h.enabled_eq hc] at hne
  exact ⟨_, sendMessage_eq_ok.2 ⟨_, trackerOf E args.integratorProgramId c, hx ▸ hchain,
    hy ▸ h.tracker_derived hc, hpayer, hfresh, hpda,
    mt GmpRouter.Bitmap.indices_eq_empty.2 hne, hmax,
    rfl, rfl⟩⟩

theorem pickUpMessage_ok {ctx : PickUpMessage} {args : PickUpMessageArgs} {message : OutboxMessage}
    (h : Refines E s a) (hload : s.accounts ctx.outboxMessage = some (.outboxMessage message))
    (hx : ctx.adapterInfo = E.pda (.adapterInfo message.srcAddr args.adapterProgramId))
    (hpda : ctx.adapterPda = adapterPda args.adapterProgramId args.adapterPdaBump)
    (hrefund : message.refundRecipient = ctx.refundRecipient)
    (hc : a.integrators message.srcAddr = some c)
    (hindex : c.adapters.idxOf? args.adapterProgramId = some i)
    (hmem : i ∈ indices message.outstandingAdapters) :
    ∃ r, Svm.pickUpMessage s ctx args = .ok r := by
  obtain ⟨info, hinfo, rfl⟩ := h.adapterInfo_derived hc hindex
  exact ⟨_, pickUpMessage_eq_ok.2 ⟨message, info, hload, hx ▸ hinfo, hrefund, hpda, hmem, rfl, rfl⟩⟩

theorem attestMessage_ok {ctx : AttestMessage} {args : AttestMessageArgs} (h : Refines E s a)
    (hx : ctx.adapterInfo = E.pda (.adapterInfo args.integratorProgramId args.adapterProgramId))
    (hpda : ctx.adapterPda = adapterPda args.adapterProgramId args.adapterPdaBump)
    (hy : ctx.integratorChainConfig =
      E.pda (.integratorChainConfig args.integratorProgramId args.srcChain))
    (hz : ctx.attestationInfo = E.pda (attestationSeeds E args.message))
    (hdst : args.dstChain = CHAIN_ID) (hc : a.integrators args.integratorProgramId = some c)
    (hindex : c.adapters.idxOf? args.adapterProgramId = some i)
    (hmem : i ∈ c.enabled .recv args.srcChain)
    (hnew : i ∉ (a.inbox (AttestationInfo.computeMessageHash E args.message)).attested) :
    ∃ r, Svm.attestMessage E s ctx args = .ok r := by
  obtain ⟨info, hinfo, rfl⟩ := h.adapterInfo_derived hc hindex
  have hchain := h.chainConfig_derived hc (Finset.ne_empty_of_mem hmem)
  have hsrc : args.srcChain ≠ 0#16 := by
    rw [← (chainConfigOf_seeds h.canonical args.integratorProgramId args.srcChain).2.1]
    exact (h.canonical _ _ hchain.1).valid
  have hdst' : args.dstChain ≠ 0#16 := by
    rw [hdst]
    decide
  obtain ⟨attestation, hattestation, horNew⟩ :=
    exists_orNew_attestation (m := args.message) h.canonical ⟨hsrc, hdst'⟩
  rw [h.enabled_eq hc] at hmem
  rw [h.inbox_eq] at hnew
  exact ⟨_, attestMessage_eq_ok.2 ⟨info, _, attestation, _, hx ▸ hinfo, hpda, hy ▸ hchain, hz,
    hz ▸ hattestation, hdst, hmem, horNew, hnew, rfl, rfl⟩⟩

theorem recvMessage_ok {ctx : RecvMessage} {args : RecvMessageArgs} (h : Refines E s a)
    (hpda : ctx.integratorProgramPda =
      integratorProgramPda args.integratorProgramId args.integratorProgramPdaBump)
    (hx : ctx.integratorChainConfig =
      E.pda (.integratorChainConfig args.integratorProgramId args.srcChain))
    (hz : ctx.attestationInfo = E.pda (attestationSeeds E args.message))
    (hchain : s.accounts (E.pda (.integratorChainConfig args.integratorProgramId args.srcChain)) ≠
      none)
    (hattested : (a.inbox (AttestationInfo.computeMessageHash E args.message)).attested ≠ ∅)
    (hexecuted : (a.inbox (AttestationInfo.computeMessageHash E args.message)).executed = false) :
    ∃ r, Svm.recvMessage E s ctx args = .ok r := by
  rw [h.inbox_eq] at hattested hexecuted
  have haccount := accounts_attestationOf (.inr (mt GmpRouter.Bitmap.indices_eq_empty.2 hattested))
  have hinfo := derived_of_seeds h.canonical haccount (by
    rw [Account.seeds, (attestationOf_seeds h.canonical _).1, attestationSeeds])
  obtain ⟨account, hconfig⟩ := Option.ne_none_iff_exists'.1 hchain
  obtain ⟨bump, hseeds⟩ := seeds_eq h.canonical hconfig
  have hderived := derived_of_seeds h.canonical hconfig hseeds
  cases account with
  | integratorChainConfig config =>
    obtain ⟨-, rfl⟩ := Prod.mk.inj (Option.some.inj hseeds)
    exact ⟨_, recvMessage_eq_ok.2 ⟨config, _, hpda, hx ▸ hderived, hz ▸ hinfo, hexecuted, rfl, rfl⟩⟩
  | _ => simp [Account.seeds] at hseeds

theorem execMessage_ok {ctx : ExecMessage} {args : RecvMessageArgs} (h : Refines E s a)
    (hpda : ctx.integratorProgramPda =
      integratorProgramPda args.integratorProgramId args.integratorProgramPdaBump)
    (hz : ctx.attestationInfo = E.pda (attestationSeeds E args.message))
    (hsrc : args.srcChain ≠ 0#16) (hdst : args.dstChain ≠ 0#16)
    (hexecuted : (a.inbox (AttestationInfo.computeMessageHash E args.message)).executed = false) :
    ∃ r, Svm.execMessage E s ctx args = .ok r := by
  rw [h.inbox_eq] at hexecuted
  obtain ⟨info, hinfo, horNew⟩ :=
    exists_orNew_attestation (m := args.message) h.canonical ⟨hsrc, hdst⟩
  have heq := (hinfo.orNew_attestation h.canonical horNew).2.1
  exact ⟨_, execMessage_eq_ok.2 ⟨info, _, hz, hz ▸ hinfo, hpda, heq.trans hexecuted, horNew,
    rfl, rfl⟩⟩

end Refines

/-! ## Calls of operations -/

/-- The instruction that enables an adapter in the direction, or disables it. -/
def Instruction.setAdapter : Direction → Bool → SetAdapter → AdapterInfoArgs → Instruction
  | .send, true => .enableSendAdapter
  | .recv, true => .enableRecvAdapter
  | .send, false => .disableSendAdapter
  | .recv, false => .disableRecvAdapter

/-- The account of the message, while the message waits, and an account without a message
afterwards; the refund goes to the recipient that the message stores. -/
structure PicksUp (s : State) (I : Pubkey) (sequence : BitVec 64) (x : Address) (refund : Pubkey) :
    Prop where
  eq_external : ∀ k message, s.accounts (.external k) = some (.outboxMessage message) →
    message.srcAddr = I → message.sequence = sequence → x = .external k
  message : ∀ message, s.accounts x = some (.outboxMessage message) →
    message.srcAddr = I ∧ message.sequence = sequence ∧ message.refundRecipient = refund

/-- The instruction calls the operation, with the accounts and the signers of the operation. -/
inductive Calls (E : Env) (s : State) : Instruction → Router.Op → Prop
  | register (I admin : Pubkey) (bump : Byte) :
    Calls E s (.register ⟨E.pda (.integratorConfig I), E.pda (.sequenceTracker I),
      integratorProgramPda I bump⟩ ⟨I, bump, admin⟩) (.register I admin)
  | updateAdmin (signer I newAdmin : Pubkey) :
    Calls E s (.updateAdmin ⟨signer, E.pda (.integratorConfig I)⟩ ⟨newAdmin, I⟩)
      (.configure signer I (.updateAdmin newAdmin))
  | transferAdmin (signer I newAdmin : Pubkey) :
    Calls E s (.transferAdmin ⟨signer, E.pda (.integratorConfig I)⟩ ⟨newAdmin, I⟩)
      (.configure signer I (.transferAdmin newAdmin))
  | discardAdmin (signer I : Pubkey) :
    Calls E s (.discardAdmin ⟨signer, E.pda (.integratorConfig I)⟩)
      (.configure signer I .discardAdmin)
  | claimAdmin (signer I : Pubkey) :
    Calls E s (.claimAdmin ⟨signer, E.pda (.integratorConfig I)⟩) (.claimAdmin signer I)
  | addAdapter (signer I A : Pubkey) :
    Calls E s (.addAdapter ⟨signer, E.pda (.integratorConfig I), E.pda (.adapterInfo I A)⟩ ⟨I, A⟩)
      (.configure signer I (.addAdapter A))
  | setAdapter (direction : Direction) (on : Bool) (signer I A : Pubkey) (chain : ChainId) :
    Calls E s (.setAdapter direction on ⟨signer, E.pda (.integratorConfig I),
      E.pda (.integratorChainConfig I chain), E.pda (.adapterInfo I A)⟩ ⟨chain, A, I⟩)
      (.configure signer I (.setAdapter direction on chain A))
  | send (I payer k : Pubkey) (bump : Byte) (dstChain : ChainId) (dstAddr : UniversalAddress)
      (payloadHash : Bytes32) (hpayer : k ≠ payer) (hfresh : s.accounts (.external k) = none) :
    Calls E s (.sendMessage ⟨payer, integratorProgramPda I bump,
      E.pda (.integratorChainConfig I dstChain), E.pda (.sequenceTracker I), k⟩
      ⟨I, bump, dstChain, dstAddr, payloadHash⟩) (.send I dstChain dstAddr payloadHash)
  | pickUp (I A refund : Pubkey) (bump : Byte) (sequence : BitVec 64) (x : Address)
      (h : PicksUp s I sequence x refund) :
    Calls E s (.pickUpMessage ⟨x, E.pda (.adapterInfo I A), adapterPda A bump, refund⟩ ⟨A, bump⟩)
      (.pickUp A I sequence)
  | attest (A : Pubkey) (bump : Byte) (m : Message) :
    Calls E s (.attestMessage ⟨E.pda (.adapterInfo m.dstAddr A), adapterPda A bump,
      E.pda (.integratorChainConfig m.dstAddr m.srcChain), E.pda (attestationSeeds E m)⟩
      ⟨A, bump, m.srcChain, m.srcAddr, m.sequence, m.dstChain, m.dstAddr, m.payloadHash⟩)
      (.attest A m)
  | recv (bump : Byte) (m : Message) :
    Calls E s (.recvMessage ⟨integratorProgramPda m.dstAddr bump,
      E.pda (.integratorChainConfig m.dstAddr m.srcChain), E.pda (attestationSeeds E m)⟩
      ⟨bump, m.srcChain, m.srcAddr, m.sequence, m.dstChain, m.dstAddr, m.payloadHash⟩) (.recv m)
  | exec (bump : Byte) (m : Message) :
    Calls E s (.execMessage ⟨integratorProgramPda m.dstAddr bump, E.pda (attestationSeeds E m)⟩
      ⟨bump, m.srcChain, m.srcAddr, m.sequence, m.dstChain, m.dstAddr, m.payloadHash⟩) (.exec m)

/-- The guards that the router does not have. -/
def Guards : Router.Op → Prop
  | .configure _ _ (.setAdapter _ true chain _) => chain ≠ 0#16
  | .attest _ m => m.dstChain = CHAIN_ID
  | .exec m => m.srcChain ≠ 0#16 ∧ m.dstChain ≠ 0#16
  | _ => True

variable {i : Instruction} {op : Router.Op} {l : Log} {m : Message}

/-- A call that succeeds is the step of its operation. -/
theorem Calls.op_eq (h : Refines E s a) (hcall : Calls E s i op)
    (hstep : process E s i = .ok (t, o)) : i.op s = some op := by
  cases hcall with
  | discardAdmin signer I =>
    obtain ⟨config, hby, -, -⟩ := discardAdmin_eq_ok.1 hstep
    obtain rfl := Seeds.integratorConfig.inj (E.pda_injective (hby.derived.eq_pda h.canonical))
    have hfind : s.find (E.pda (.integratorConfig config.integratorProgramId)) = some config :=
      State.find_eq_some.2 hby.derived.1
    rw [Instruction.op, hfind, Option.map_some]
  | claimAdmin signer I =>
    obtain ⟨config, hload, -⟩ := claimAdmin_eq_ok.1 hstep
    obtain rfl := Seeds.integratorConfig.inj (E.pda_injective (h.config_eq hload).1)
    have hfind : s.find (E.pda (.integratorConfig config.integratorProgramId)) = some config :=
      State.find_eq_some.2 hload
    rw [Instruction.op, hfind, Option.map_some]
  | pickUp I A refund bump sequence x hx =>
    obtain ⟨message, info, hload, -⟩ := pickUpMessage_eq_ok.1 hstep
    obtain ⟨hI, hsequence, -⟩ := hx.message message hload
    have hfind : s.find x = some message := State.find_eq_some.2 hload
    simp only [Instruction.op, hfind, Option.map_some, hI, hsequence]
  | setAdapter direction on => cases direction <;> cases on <;> rfl
  | _ => rfl

/-- A derived account is never removed. -/
theorem Refines.derived_ne_none (h : Refines E s a) (hpath : (machine E).Path s l t) {seeds : Seeds}
    (hne : s.accounts (E.pda seeds) ≠ none) : t.accounts (E.pda seeds) ≠ none := by
  have hinv : (machine E).Invariant fun s =>
      (∃ a, Refines E s a) ∧ s.accounts (E.pda seeds) ≠ none := by
    rintro s i o t hstep ⟨⟨a, ha⟩, hne⟩
    have hstep : process E s i = .ok (t, o) := hstep
    refine ⟨refines_invariant E hstep ⟨a, ha⟩, ?_⟩
    by_cases hsend : ∃ ctx args, i = .sendMessage ctx args
    · obtain ⟨ctx, args, rfl⟩ := hsend
      obtain ⟨_, _, -, -, -, -, -, -, -, rfl, -⟩ := sendMessage_eq_ok.1 hstep
      rw [State.set_of_ne (by simp)]
      by_cases heq : E.pda seeds = ctx.sequenceTracker
      · simp [heq]
      · rwa [State.set_of_ne heq]
    · by_cases hpick : ∃ ctx args, i = .pickUpMessage ctx args
      · obtain ⟨ctx, args, rfl⟩ := hpick
        obtain ⟨message, _, hload, -, -, -, -, rfl, -⟩ := pickUpMessage_eq_ok.1 hstep
        obtain ⟨k, hk⟩ := (ha.canonical _ _ hload).external rfl
        rw [hk]
        split
        · rwa [State.close_of_ne (by simp)]
        · rwa [State.set_of_ne (by simp)]
      · exact (frames_of_step ha.canonical hstep (fun ctx args hi => hsend ⟨ctx, args, hi⟩)
          fun ctx args hi => hpick ⟨ctx, args, hi⟩).pda seeds hne
  exact (hpath.invariant hinv ⟨⟨a, h⟩, hne⟩).2

/-- The chain configuration for an attested message exists: an adapter was enabled for it. -/
theorem chainConfig_of_attested (hK : CollisionFree E.keccak) (hpath : (machine E).Path .init l s)
    (hne : (s.attestationOf E m).attestedAdapters ≠ 0#128) :
    s.accounts (E.pda (.integratorChainConfig m.dstAddr m.srcChain)) ≠ none := by
  obtain ⟨i, hi⟩ := GmpRouter.Bitmap.ne_zero_iff.1 hne
  obtain ⟨_, _, -, -, c, hc, hattested⟩ := attestedBy_of_mem hK hpath hi
  obtain ⟨config, hconfig, -⟩ := hattested.enabled
  obtain ⟨l₁, l₂, -, hbefore, hvalid, hafter⟩ := hpath.split hc
  obtain ⟨b, hb⟩ := exists_refines hbefore
  exact hb.derived_ne_none ((Machine.Path.single hvalid).append hafter) (by simp [hconfig])

/-- **A call succeeds when the router makes the step and the guards hold.** -/
theorem Calls.complete (hK : CollisionFree E.keccak) (hpath : (machine E).Path .init l s)
    (h : Refines E s a) (hcall : Calls E s i op) (hguards : Guards op)
    {r : Router.State × Router.Out}
    (hstep : Router.step (AttestationInfo.computeMessageHash E) a op = .ok r) :
    ∃ r', process E s i = .ok r' := by
  cases hcall with
  | register I admin bump =>
    obtain ⟨hnone, -, -⟩ := Router.register_eq_ok.1 hstep
    exact h.register_ok rfl rfl rfl hnone
  | updateAdmin signer I newAdmin =>
    obtain ⟨c, c', hby, -⟩ := Router.configure_eq_ok.1 hstep
    exact ⟨_, updateAdmin_eq_ok.2 ⟨_, h.of_byAdmin hby rfl, rfl, rfl⟩⟩
  | transferAdmin signer I newAdmin =>
    obtain ⟨c, c', hby, -⟩ := Router.configure_eq_ok.1 hstep
    exact ⟨_, transferAdmin_eq_ok.2 ⟨_, h.of_byAdmin hby rfl, rfl, rfl⟩⟩
  | discardAdmin signer I =>
    obtain ⟨c, c', hby, -⟩ := Router.configure_eq_ok.1 hstep
    exact ⟨_, discardAdmin_eq_ok.2 ⟨configOf E I c, h.of_byAdmin hby rfl, rfl, rfl⟩⟩
  | claimAdmin signer I =>
    obtain ⟨c, hc, hpending, hsigner, -⟩ := Router.claimAdmin_eq_ok.1 hstep
    exact h.claimAdmin_ok rfl hc hpending hsigner
  | addAdapter signer I A =>
    obtain ⟨c, c', hby, happly, -⟩ := Router.configure_eq_ok.1 hstep
    obtain ⟨hnew, hlt, -⟩ := Router.addAdapter_eq_ok.1 happly
    exact h.addAdapter_ok rfl rfl hby hnew hlt
  | setAdapter direction on signer I A chain =>
    obtain ⟨c, c', hby, happly, -⟩ := Router.configure_eq_ok.1 hstep
    obtain ⟨i, hindex, hmem, -⟩ := Router.setAdapter_eq_ok.1 happly
    cases on with
    | true =>
      have hmem : i ∉ c.enabled direction chain := by simpa using hmem
      cases direction <;> exact h.enableAdapter_ok rfl rfl rfl hby hguards hindex hmem
    | false =>
      have hmem : i ∈ c.enabled direction chain := by simpa using hmem
      cases direction <;> exact h.disableAdapter_ok rfl rfl rfl hby hindex hmem
  | send I payer k bump dstChain dstAddr payloadHash hpayer hfresh =>
    obtain ⟨c, hc, hne, hmax, -⟩ := Router.send_eq_ok.1 hstep
    exact h.sendMessage_ok rfl rfl rfl hpayer hfresh hc hne hmax
  | pickUp I A refund bump sequence x hx =>
    obtain ⟨c, outgoing, i, hc, houtbox, hindex, hmem, -⟩ := Router.pickUp_eq_ok.1 hstep
    obtain ⟨k, message, hk, rfl, rfl, rfl⟩ := (h.represents.outbox.exists_iff _ _ _).1 houtbox
    have hload := view_outbox.1 hk
    have hxk := hx.eq_external k message hload rfl rfl
    rw [← hxk] at hload
    obtain ⟨-, -, hrefund⟩ := hx.message message hload
    exact h.pickUpMessage_ok hload rfl rfl hrefund hc hindex hmem
  | attest A bump m =>
    obtain ⟨c, i, hc, hindex, hmem, hnew, -⟩ := Router.attest_eq_ok.1 hstep
    exact h.attestMessage_ok rfl rfl rfl rfl hguards hc hindex hmem hnew
  | recv bump m =>
    obtain ⟨c, hc, hattested, hexecuted, -⟩ := Router.recv_eq_ok.1 hstep
    refine h.recvMessage_ok rfl rfl rfl (chainConfig_of_attested (m := m) hK hpath ?_) hattested
      hexecuted
    rw [h.inbox_eq] at hattested
    exact mt GmpRouter.Bitmap.indices_eq_empty.2 hattested
  | exec bump m =>
    obtain ⟨hexecuted, -, -⟩ := Router.exec_eq_ok.1 hstep
    exact h.execMessage_ok rfl rfl hguards.1 hguards.2 hexecuted

end GmpRouter.Svm
