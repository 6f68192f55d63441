import GmpRouter.Svm.Simulation
import GmpRouter.Router.Messages

/-!
# Attestation accounts of the SVM endpoint

An attestation account is initialised by the first attestation of its message or by its execution,
and never again, because its source chain is not 0 from then on. The histories of the router say the
rest: its bits are those of the adapters that attested, and the message is consumed at most once.
-/

namespace GmpRouter.Svm

open GmpRouter.Bitmap (indices)

variable {E : Env} {s t : State} {l : Log} {m : Message} {i : ℕ}

/-- The adapter with the index signs a successful attestation of the message, and is enabled at that
moment for messages from its source chain. -/
structure AttestedBy (E : Env) (m : Message) (i : ℕ) (adapter : Pubkey)
    (c : Commit State Instruction Output) : Prop where
  input_eq : ∃ ctx args, c.input = .attestMessage ctx args ∧ args.adapterProgramId = adapter ∧
    args.message = m ∧ ctx.adapterPda = adapterPda adapter args.adapterPdaBump
  dstChain_eq : m.dstChain = CHAIN_ID
  index : ∃ info : AdapterInfo, c.pre.accounts (E.pda (.adapterInfo m.dstAddr adapter)) =
    some (.adapterInfo info) ∧ info.index.toNat = i
  enabled : ∃ config : IntegratorChainConfig,
    c.pre.accounts (E.pda (.integratorChainConfig m.dstAddr m.srcChain)) =
      some (.integratorChainConfig config) ∧ i ∈ indices config.recvAdapterBitmap

/-- The instruction receives or executes the message. -/
def Instruction.consumes (m : Message) : Instruction → Bool
  | .recvMessage _ args => args.message = m
  | .execMessage _ args => args.message = m
  | _ => false

theorem op_consumes {i : Instruction} {op : Router.Op} (h : i.op s = some op)
    (hi : i.consumes m = true) :
    op.consumes (AttestationInfo.computeMessageHash E) (AttestationInfo.computeMessageHash E m) =
      true := by
  cases i <;> simp only [Instruction.consumes, Bool.false_eq_true, decide_eq_true_eq] at hi
  all_goals
    obtain rfl := Option.some.inj h
    simp [Router.Op.consumes, hi]

theorem consumed_le_one (h : (machine E).Path .init l t) (m : Message) :
    l.countP (fun c => c.input.consumes m) ≤ 1 := by
  obtain ⟨l', b, hpath, -, hmatches⟩ := exists_path h
  have hle := Machine.Matches.countP_le (p := fun c => c.input.consumes m = true)
    (fun c d hcd hi => op_consumes (E := E) hcd.label.1 hi) hmatches
  have hone := Router.consumed_le_one hpath Router.inv_init (AttestationInfo.computeMessageHash E m)
  simp only [Bool.decide_eq_true] at hle
  exact hle.trans hone

/-- An attestation that the router sees was signed by the adapter. -/
theorem AttestedBy.of_router {c : Commit State Instruction Output}
    {d : Commit Router.State Router.Op Router.Out} {adapter : Pubkey} (hcd : Matches E c d)
    (h : Router.AttestedBy m i adapter d) : AttestedBy E m i adapter c := by
  obtain ⟨s, instruction, o, t⟩ := c
  have hc : process E s instruction = .ok (t, o) := hcd.left
  obtain ⟨hop, -⟩ := hcd.label
  have hR : Refines E s d.pre := hcd.pre
  rw [h.input_eq] at hop
  obtain ⟨e, he, hindex, -⟩ := h.enabled
  cases instruction <;> simp only [Instruction.op, Option.map_eq_some_iff] at hop
  case attestMessage ctx args =>
    obtain ⟨rfl, rfl⟩ := Router.Op.attest.inj (Option.some.inj hop)
    obtain ⟨info, chainConfig, _, _, hinfo, hpda, hchain, -, -, hdst, hmem, -⟩ :=
      attestMessage_eq_ok.1 hc
    have hx := hinfo.eq_pda hR.canonical
    have hy := hchain.eq_pda hR.canonical
    obtain ⟨e', he', hindex'⟩ := hR.adapterInfo_eq hinfo
    obtain rfl : e = e' := Option.some.inj (he.symm.trans he')
    have hi : info.index.toNat = i := Option.some.inj (hindex'.symm.trans hindex)
    exact ⟨⟨ctx, args, rfl, rfl, rfl, hpda⟩, hdst, ⟨info, hx ▸ hinfo.1, hi⟩,
      ⟨chainConfig, hy ▸ hchain.1, hi ▸ hmem⟩⟩
  case claimAdmin | discardAdmin | pickUpMessage =>
    obtain ⟨_, -, hop⟩ := hop
    cases hop
  all_goals cases hop

/-! ## Histories -/

theorem computeMessageHash_injective (hK : CollisionFree E.keccak) :
    Function.Injective (AttestationInfo.computeMessageHash E) := by
  intro m m' h
  rw [AttestationInfo.computeMessageHash_eq, AttestationInfo.computeMessageHash_eq] at h
  exact hK.eq h

/-- The adapter of a set bit attested the message. -/
theorem attestedBy_of_mem (hK : CollisionFree E.keccak) (h : (machine E).Path .init l t)
    (hi : i ∈ indices (t.attestationOf E m).attestedAdapters) :
    ∃ (config : IntegratorConfig) (adapter : Pubkey),
      t.accounts (E.pda (.integratorConfig m.dstAddr)) = some (.integratorConfig config) ∧
      config.adapterInfos[i]? = some adapter ∧ ∃ c ∈ l, AttestedBy E m i adapter c := by
  obtain ⟨l', b, hpath, hb, hmatches⟩ := exists_path h
  have hmem : i ∈ (b.inbox (AttestationInfo.computeMessageHash E m)).attested := by
    rwa [hb.inbox_eq]
  obtain ⟨e, adapter, he, hget, d, hd, hatt⟩ :=
    Router.exists_attestedBy (computeMessageHash_injective hK) hpath hmem
  obtain ⟨c, hc, hcd⟩ := Machine.Matches.exists_left hmatches hd
  refine ⟨configOf E m.dstAddr e, adapter, view_config.1 ?_, hget, c, hc, .of_router hcd hatt⟩
  rw [(hb.represents.integrator _).config, he, Option.map_some]

/-- A message with attestations is for this chain. -/
theorem dstChain_of_attested (hK : CollisionFree E.keccak) (h : (machine E).Path .init l t)
    (hne : (t.attestationOf E m).attestedAdapters ≠ 0#128) : m.dstChain = CHAIN_ID := by
  obtain ⟨i, hi⟩ := GmpRouter.Bitmap.ne_zero_iff.1 hne
  obtain ⟨_, _, -, -, c, -, hatt⟩ := attestedBy_of_mem hK h hi
  exact hatt.dstChain_eq

/-- Attested bits are not lost, and executed messages stay so. -/
theorem attestationInfo_mono (hK : CollisionFree E.keccak) (h : (machine E).Path .init l t)
    {l' : Log} {u : State} (h' : (machine E).Path t l' u) {x : Address} {info : AttestationInfo}
    (hx : t.accounts x = some (.attestationInfo info)) :
    ∃ info', u.accounts x = some (.attestationInfo info') ∧ info'.message = info.message ∧
      indices info.attestedAdapters ⊆ indices info'.attestedAdapters ∧
      (info.executed = true → info'.executed = true) := by
  obtain ⟨b, hb⟩ := exists_refines h
  obtain ⟨l₂, b', hpath, hb', -⟩ := (simulation E).path h' hb
  obtain ⟨hvalid, hpda, hold⟩ := hb.canonical.attestationInfo hx
  have hinbox := hb.inbox_eq info.message
  have hinbox' := hb'.inbox_eq info.message
  rw [hold] at hinbox
  obtain ⟨hsub, hexecuted⟩ :=
    Router.record_mono hpath hb.inv (AttestationInfo.computeMessageHash E info.message)
  rw [hinbox, hinbox'] at hsub hexecuted
  have hlive : (u.attestationOf E info.message).executed = true ∨
      (u.attestationOf E info.message).attestedAdapters ≠ 0#128 := by
    refine hvalid.live.imp hexecuted fun hne => ?_
    obtain ⟨i, hi⟩ := GmpRouter.Bitmap.ne_zero_iff.1 hne
    exact GmpRouter.Bitmap.ne_zero_iff.2 ⟨i, hsub hi⟩
  refine ⟨u.attestationOf E info.message, ?_, attestationOf_message hK hb'.canonical _, hsub,
    hexecuted⟩
  rw [hpda]
  exact accounts_attestationOf hlive

/-- A successful `recvMessage` reports at least one attestation, of a message for this chain. -/
theorem recvMessage_attested (hK : CollisionFree E.keccak) (h : (machine E).Path .init l s)
    {ctx : RecvMessage} {args : RecvMessageArgs} {o : Output}
    (hstep : process E s (.recvMessage ctx args) = .ok (t, o)) :
    ∃ enabledBitmap attestedBitmap,
      o.event = .messageReceived (AttestationInfo.computeMessageHash E args.message) args.message
        enabledBitmap attestedBitmap ∧
      attestedBitmap = (s.attestationOf E args.message).attestedAdapters ∧ attestedBitmap ≠ 0#128 ∧
      args.srcChain ≠ 0#16 ∧ args.dstChain = CHAIN_ID := by
  obtain ⟨a, ha⟩ := exists_refines h
  obtain ⟨chainConfig, info, -, -, hinfo, hexecuted, -, rfl⟩ := recvMessage_eq_ok.1 hstep
  have hx := hinfo.eq_pda ha.canonical
  have hold := attestationOf_eq (hx ▸ hinfo.1)
  have hvalid : info.Valid E := (ha.canonical _ _ hinfo.1).valid
  have hne : info.attestedAdapters ≠ 0#128 := hvalid.live.resolve_left (by simp [hexecuted])
  have hdst := dstChain_of_attested (m := args.message) hK h (hold ▸ hne)
  have hm := attestationOf_message hK ha.canonical args.message
  rw [hold] at hm ⊢
  have hsrc : args.message.srcChain ≠ 0#16 := hm ▸ hvalid.srcChain_ne
  exact ⟨_, _, by rw [hvalid.messageHash_eq, hm], rfl, hne, hsrc, hdst⟩

/-- **The life of attestation accounts.** In every history from deployment: every initialised
account is at the address derived from the hash of its fields, has non-zero chain IDs, is executed
or attested, and attested only when its destination is this chain; the sentinel does not take it for
a new one; each of its bits belongs to the adapter at that index of its integrator's list, which
signed an attestation of these fields while it was enabled. No later history removes the account,
loses a bit or clears the flag `executed`. A message is received or executed at most once, and when
it is received it has an attestation. -/
theorem attestation_lifecycle (hK : CollisionFree E.keccak) (h : (machine E).Path .init l t) :
    (∀ x info, t.accounts x = some (.attestationInfo info) →
      x = E.pda (.attestationInfo (AttestationInfo.computeMessageHash E info.message)) ∧
      info.messageHash = AttestationInfo.computeMessageHash E info.message ∧
      info.srcChain ≠ 0#16 ∧ info.dstChain ≠ 0#16 ∧
      (info.executed = true ∨ info.attestedAdapters ≠ 0#128) ∧
      (info.attestedAdapters ≠ 0#128 → info.dstChain = CHAIN_ID) ∧
      (∀ bump m, info.orNew E bump m = .ok info) ∧
      ∀ i ∈ indices info.attestedAdapters, ∃ (config : IntegratorConfig) (adapter : Pubkey),
        t.accounts (E.pda (.integratorConfig info.dstAddr)) = some (.integratorConfig config) ∧
        config.adapterInfos[i]? = some adapter ∧ ∃ c ∈ l, AttestedBy E info.message i adapter c) ∧
    (∀ l' u, (machine E).Path t l' u → ∀ x info, t.accounts x = some (.attestationInfo info) →
      ∃ info', u.accounts x = some (.attestationInfo info') ∧ info'.message = info.message ∧
        indices info.attestedAdapters ⊆ indices info'.attestedAdapters ∧
        (info.executed = true → info'.executed = true)) ∧
    (∀ m, l.countP (fun c => c.input.consumes m) ≤ 1) ∧
    ∀ c ∈ l, ∀ ctx args, c.input = .recvMessage ctx args → ∃ enabledBitmap attestedBitmap,
      c.output.event = .messageReceived (AttestationInfo.computeMessageHash E args.message)
        args.message enabledBitmap attestedBitmap ∧
      attestedBitmap = (c.pre.attestationOf E args.message).attestedAdapters ∧
      attestedBitmap ≠ 0#128 ∧ args.srcChain ≠ 0#16 ∧ args.dstChain = CHAIN_ID := by
  obtain ⟨b, hb⟩ := exists_refines h
  refine ⟨fun x info hx => ?_, fun l' u h' x info hx => attestationInfo_mono hK h h' hx,
    consumed_le_one h, fun c hc ctx args hinput => ?_⟩
  · obtain ⟨hvalid, hpda, hold⟩ := hb.canonical.attestationInfo hx
    refine ⟨hpda, hvalid.messageHash_eq, hvalid.srcChain_ne, hvalid.dstChain_ne, hvalid.live,
      fun hne => dstChain_of_attested (m := info.message) hK h (hold.symm ▸ hne),
      fun _ _ => if_neg hvalid.srcChain_ne, fun i hi => ?_⟩
    exact attestedBy_of_mem (m := info.message) hK h (by rwa [hold])
  · obtain ⟨l₁, l₂, -, hbefore, hvalid, -⟩ := h.split hc
    have hstep : process E c.pre c.input = .ok (c.post, c.output) := hvalid
    rw [hinput] at hstep
    exact recvMessage_attested hK hbefore hstep

/-! ## A run -/

def sampleEnv : Env := ⟨id, fun _ => 255#8⟩

def samplePda (seeds : Seeds) : Address := sampleEnv.pda seeds

/-- The message 5 of the integrator 77 on chain 2 to the integrator 10. -/
def sampleMessage : Message := ⟨2#16, 77#256, 5#64, CHAIN_ID, 10#256, 6#256⟩

/-- The integrator 10, with admin 11, adds the adapter 12 and enables it for messages from chain 2.
The adapter attests a message, which is received, and then not again. -/
def sampleInstructions : List Instruction :=
  [.register ⟨samplePda (.integratorConfig 10#256), samplePda (.sequenceTracker 10#256),
      integratorProgramPda 10#256 1#8⟩ ⟨10#256, 1#8, 11#256⟩,
    .addAdapter ⟨11#256, samplePda (.integratorConfig 10#256),
      samplePda (.adapterInfo 10#256 12#256)⟩ ⟨10#256, 12#256⟩,
    .enableRecvAdapter ⟨11#256, samplePda (.integratorConfig 10#256),
      samplePda (.integratorChainConfig 10#256 2#16), samplePda (.adapterInfo 10#256 12#256)⟩
      ⟨2#16, 12#256, 10#256⟩,
    .attestMessage ⟨samplePda (.adapterInfo 10#256 12#256), adapterPda 12#256 2#8,
      samplePda (.integratorChainConfig 10#256 2#16),
      samplePda (attestationSeeds sampleEnv sampleMessage)⟩
      ⟨12#256, 2#8, 2#16, 77#256, 5#64, CHAIN_ID, 10#256, 6#256⟩,
    .recvMessage ⟨integratorProgramPda 10#256 1#8, samplePda (.integratorChainConfig 10#256 2#16),
      samplePda (attestationSeeds sampleEnv sampleMessage)⟩
      ⟨1#8, 2#16, 77#256, 5#64, CHAIN_ID, 10#256, 6#256⟩,
    .execMessage ⟨integratorProgramPda 10#256 1#8,
      samplePda (attestationSeeds sampleEnv sampleMessage)⟩
      ⟨1#8, 2#16, 77#256, 5#64, CHAIN_ID, 10#256, 6#256⟩]

theorem attestation_lifecycle_sample :
    ((machine sampleEnv).run .init sampleInstructions).2.length = 5 ∧
      ((machine sampleEnv).run .init sampleInstructions).2.countP
        (fun c => c.input.consumes sampleMessage) ≤ 1 :=
  ⟨by decide +kernel, (attestation_lifecycle (E := sampleEnv) collisionFree_id
    ((machine sampleEnv).run_path .init sampleInstructions)).2.2.1 sampleMessage⟩

end GmpRouter.Svm
