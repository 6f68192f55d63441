import GmpRouter.Evm.Registry

/-!
# Attestations and replay protection of the EVM endpoint

The record of a message to an integrator is a pair of latches: each bit of `attestedAdapters` is set
by the attestation of one adapter (`latch_attested`), and `executed` is set by `recvMessage` or
`execMessage`, which need it to be clear (`latch_executed`). The results over whole histories follow
from the rules for latches: a bit is set exactly when the adapter at its index attested, nothing is
ever lost, and a message is consumed at most once.
-/

namespace GmpRouter.Evm

open Endpoint AdapterRegistry

variable {E : Env} {s t : State} {op : Op} {r : Receipt}

theorem computeMessageDigest_inj (hk : CollisionFree E.keccak) {m m' : Message} :
    computeMessageDigest E m = computeMessageDigest E m' ↔ m = m' := by
  rw [computeMessageDigest_eq, computeMessageDigest_eq]
  exact ⟨hk.eq, fun h => by rw [h]⟩

/-- The attestation record of a message to an integrator. -/
def record (E : Env) (s : State) (integrator : Address) (m : Message) : AttestationInfo :=
  s.attestationInfo integrator (computeMessageDigest E m)

/-- The adapter attests the message, being registered and enabled at that moment. -/
structure AttestedBy (integrator : Address) (m : Message) (adapter : Address)
    (c : Commit State Op Receipt) : Prop where
  input_eq : ∃ value, c.input = .call ⟨adapter, value⟩ (.attestMessage m)
  registered : (c.pre.adapterInfos integrator adapter).registered = true
  enabled : RecvEnabled c.pre.toRegistry integrator m.srcChain adapter

/-- The call is one by the integrator that consumes the message with the given fields. -/
def Op.consumes (integrator : Address) (args : RecvMessageArgs) : Op → Bool
  | .call msg (.recvMessage args') => msg.sender = integrator ∧ args' = args
  | .call msg (.execMessage args') => msg.sender = integrator ∧ args' = args
  | _ => false

theorem inbound_inj {I I' : Address} {args args' : RecvMessageArgs} :
    inbound E I args = inbound E I' args' ↔ I = I' ∧ args = args' := by
  cases args
  cases args'
  simp only [inbound, Message.mk.injEq, RecvMessageArgs.mk.injEq, fromAddress_injective.eq_iff]
  tauto

/-! ## The two latches -/

/-- A bit of the record of a message is set by the adapters that have its index when they attest the
message. -/
theorem latch_attested (hk : CollisionFree E.keccak) (integrator : Address)
    (args : RecvMessageArgs) (i : ℕ) :
    (machine E).Latch (fun s => s.toRegistry.WellFormed)
      (fun s => i ∈ Bitmap.indices
        (record E s integrator (inbound E integrator args)).attestedAdapters)
      (fun c => ∃ adapter, AttestedBy integrator (inbound E integrator args) adapter c ∧
        (c.pre.adapterInfos integrator adapter).index.toNat = i) where
  invariant := Registry.WellFormed.invariant E
  step := by
    intro s op r t hstep hs
    set m := inbound E integrator args with hm
    -- a step other than an attestation of `m` does not fire
    have hquiet : (∀ adapter value, op ≠ .call ⟨adapter, value⟩ (.attestMessage m)) →
        (record E t integrator m).attestedAdapters = (record E s integrator m).attestedAdapters →
        (i ∈ Bitmap.indices (record E t integrator m).attestedAdapters ↔
          i ∈ Bitmap.indices (record E s integrator m).attestedAdapters ∨
            ∃ adapter, AttestedBy integrator m adapter ⟨s, op, r, t⟩ ∧
              (s.adapterInfos integrator adapter).index.toNat = i) := by
      intro hop hsame
      rw [hsame, or_iff_left]
      rintro ⟨adapter, ⟨⟨value, hcall⟩, -, -⟩, -⟩
      exact hop adapter value hcall
    cases step_effect hstep with
    | admin h => exact hquiet (by cases h <;> simp) rfl
    | configure => exact hquiet (by simp) rfl
    | send => exact hquiet (by simp) rfl
    | forward => exact hquiet (by simp) rfl
    | sent => exact hquiet (by simp) rfl
    | @inbox msg call I m' info r h =>
      simp only [record, update₂_apply, computeMessageDigest_inj hk] at hquiet ⊢
      cases h with
      | recv hm' hinfo =>
        refine hquiet (by simp) ?_
        split
        · next heq => rw [hinfo, heq.1, heq.2]
        · rfl
      | exec hm' hinfo =>
        refine hquiet (by simp) ?_
        split
        · next heq => rw [hinfo, heq.1, heq.2]
        · rfl
      | attest hatt =>
        by_cases hmm : m = m'
        · subst hmm
          obtain rfl : I = integrator := fromAddress_injective hatt.dstAddr_eq.symm
          rw [if_pos ⟨rfl, rfl⟩, indices_attest hs hatt.registered.registered, Finset.mem_insert,
            or_comm]
          refine or_congr_right ⟨fun h => ⟨msg.sender, ⟨⟨msg.value, rfl⟩,
            hatt.registered.registered, hatt.enabled⟩, h.symm⟩, ?_⟩
          rintro ⟨adapter, ⟨⟨value, hcall⟩, -, -⟩, h⟩
          simp only [Op.call.injEq] at hcall
          rw [← h, hcall.1]
        · have hne : ¬ (integrator = I ∧ m = m') := fun h => hmm h.2
          rw [if_neg hne] at hquiet ⊢
          refine hquiet (fun adapter value hcall => hmm ?_) rfl
          simpa using (Op.call.inj hcall).2.symm

/-- The flag `executed` of a message is set by the calls that consume it. -/
theorem latch_executed (hk : CollisionFree E.keccak) (integrator : Address)
    (args : RecvMessageArgs) :
    (machine E).Latch (fun _ => True)
      (fun s => (record E s integrator (inbound E integrator args)).executed = true)
      (fun c => c.input.consumes integrator args = true) where
  invariant _ _ _ _ _ _ := trivial
  step := by
    intro s op r t hstep _
    cases step_effect hstep with
    | admin h => cases h <;> simp [record, Op.consumes]
    | configure => simp [record, Op.consumes]
    | send => simp [record, Op.consumes, State.credit]
    | forward => simp [record, Op.consumes]
    | sent => simp [record, Op.consumes]
    | inbox h =>
      simp only [record, update₂_apply, computeMessageDigest_inj hk]
      cases h with
      | attest hatt =>
        simp only [Op.consumes, Bool.false_eq_true, or_false]
        split
        · next heq =>
          obtain ⟨rfl, rfl⟩ := heq
          exact Iff.rfl
        · rfl
      | @recv args' m info hm hinfo | @exec args' m info hm hinfo =>
        subst hm
        simp only [Op.consumes, inbound_inj, and_self_left, decide_eq_true_eq,
          eq_comm (a := integrator), eq_comm (a := args)]
        split
        · next heq => simp [heq]
        · next hne => simp [hne]

/-- A message is only consumed while it is not executed. -/
theorem not_executed_of_consumes {integrator : Address} {args : RecvMessageArgs}
    (hstep : step E s op = .ok (t, r)) (hop : op.consumes integrator args = true) :
    ¬ (record E s integrator (inbound E integrator args)).executed = true := by
  cases step_effect hstep with
  | admin h => cases h <;> simp [Op.consumes] at hop
  | configure | send | forward | sent => simp [Op.consumes] at hop
  | inbox h =>
    cases h with
    | attest => simp [Op.consumes] at hop
    | recv hm hinfo _ _ _ hex =>
      obtain ⟨rfl, rfl⟩ : _ ∧ _ := by simpa [Op.consumes] using hop
      rw [record, ← hm, ← hinfo, hex]
      exact Bool.false_ne_true
    | exec hm hinfo hex =>
      obtain ⟨rfl, rfl⟩ : _ ∧ _ := by simpa [Op.consumes] using hop
      rw [record, ← hm, ← hinfo, hex]
      exact Bool.false_ne_true

/-- A received message was attested, and its attestations are reported. -/
theorem recvMessage_attested {msg : Msg} {args : RecvMessageArgs}
    (hstep : step E s (.call msg (.recvMessage args)) = .ok (t, r)) :
    (record E s msg.sender (inbound E msg.sender args)).attestedAdapters ≠ 0#128 ∧
      ∃ enabledBitmap numAttested, r.ret = .received enabledBitmap
        (record E s msg.sender (inbound E msg.sender args)).attestedAdapters numAttested := by
  cases step_effect hstep with
  | admin h => cases h
  | inbox h =>
    cases h with
    | recv hm hinfo _ _ hne =>
      subst hinfo hm
      exact ⟨hne, _, _, rfl⟩

/-! ## Histories -/

section Histories

variable {log : Log}

/-- The bits of a record are the indices of the adapters that attested the message. -/
theorem mem_attested_iff (hk : CollisionFree E.keccak) (h : (machine E).Path State.init log t)
    (integrator : Address) (args : RecvMessageArgs) (i : ℕ) :
    i ∈ Bitmap.indices (record E t integrator (inbound E integrator args)).attestedAdapters ↔
      ∃ adapter, (t.registeredAdapters integrator)[i]? = some adapter ∧
        ∃ c ∈ log, AttestedBy integrator (inbound E integrator args) adapter c := by
  rw [(latch_attested hk integrator args i).iff_exists h .init, or_iff_right (by
    simp [record, State.init])]
  have hfinal := h.invariant (Registry.WellFormed.invariant E) .init
  have hinv := Registry.WellFormed.invariant E
  -- the adapter keeps the position it has when it attests
  have hstable : ∀ c ∈ log, ∀ adapter, AttestedBy integrator (inbound E integrator args) adapter c →
      (t.registeredAdapters integrator)[(c.pre.adapterInfos integrator adapter).index.toNat]? =
        some adapter := by
    intro c hc adapter hatt
    obtain ⟨l₁, l₂, -, hbefore, hvalid, hafter⟩ := h.split hc
    exact getElem?_index_of_path ((Machine.Path.single hvalid).append hafter)
      (hbefore.invariant hinv .init) hatt.registered
  constructor
  · rintro ⟨c, hc, adapter, hatt, rfl⟩
    exact ⟨adapter, hstable c hc adapter hatt, c, hc, hatt⟩
  · rintro ⟨adapter, hlist, c, hc, hatt⟩
    have hlookup := (h.invariant hinv .init).lookup integrator adapter
    refine ⟨c, hc, adapter, hatt, ?_⟩
    rw [← ((hlookup _).1 (hstable c hc adapter hatt)).2, ((hlookup _).1 hlist).2]

/-- **Replay protection and provenance of attestations.** In every history from deployment, for
every message to an integrator: the set bits of its record are the indices of the adapters that
attested it while they were registered and enabled; no later history clears a bit or the flag
`executed`; the message is consumed at most once; and a successful `recvMessage` reports at least
one attestation. -/
theorem attestation_replay_protection (hk : CollisionFree E.keccak)
    (h : (machine E).Path State.init log t) (integrator : Address) (args : RecvMessageArgs) :
    (∀ i, i ∈ Bitmap.indices (record E t integrator (inbound E integrator args)).attestedAdapters ↔
      ∃ adapter, (t.registeredAdapters integrator)[i]? = some adapter ∧
        ∃ c ∈ log, AttestedBy integrator (inbound E integrator args) adapter c) ∧
    (∀ log' u, (machine E).Path t log' u →
      Bitmap.indices (record E t integrator (inbound E integrator args)).attestedAdapters ⊆
        Bitmap.indices (record E u integrator (inbound E integrator args)).attestedAdapters ∧
      ((record E t integrator (inbound E integrator args)).executed = true →
        (record E u integrator (inbound E integrator args)).executed = true)) ∧
    log.countP (fun c => c.input.consumes integrator args) ≤ 1 ∧
    ∀ c ∈ log, ∀ msg args', c.input = .call msg (.recvMessage args') →
      ∃ enabledBitmap attestedBitmap numAttested,
        c.output.ret = .received enabledBitmap attestedBitmap numAttested ∧
          attestedBitmap ≠ 0#128 := by
  refine ⟨mem_attested_iff hk h integrator args, fun log' u hlater => ⟨fun i hi => ?_, ?_⟩, ?_, ?_⟩
  · exact (latch_attested hk integrator args i).mono hlater
      (h.invariant (Registry.WellFormed.invariant E) .init) hi
  · exact (latch_executed hk integrator args).mono hlater trivial
  · simpa using (latch_executed hk integrator args).countP_le_one
      (fun s op r t hstep _ => not_executed_of_consumes hstep) h trivial
  · intro c hc msg args' hcall
    have hvalid : step E c.pre c.input = .ok (c.post, c.output) := h.valid hc
    rw [hcall] at hvalid
    obtain ⟨hne, enabledBitmap, numAttested, hret⟩ := recvMessage_attested hvalid
    exact ⟨enabledBitmap, _, numAttested, hret, hne⟩

/-- A chain with an integrator, at address 10, that has registered one adapter and enabled it for
messages from chain 1; the adapter attests a message, which is received, and then not again. -/
def sampleEnv : Env := ⟨id, 2#16⟩

def sampleArgs : RecvMessageArgs := ⟨1#16, 77#256, 0#64, 5#256⟩

def sampleTxs : List Tx :=
  [.mk ⟨10#160, 0⟩ (.register 11#160) [],
    .mk ⟨11#160, 0⟩ (.configure 10#160 (.addAdapter 12#160)) [],
    .mk ⟨11#160, 0⟩ (.configure 10#160 (.enableRecvAdapter 1#16 12#160)) [],
    .mk ⟨12#160, 0⟩ (.attestMessage (inbound sampleEnv 10#160 sampleArgs)) [],
    .mk ⟨10#160, 0⟩ (.recvMessage sampleArgs) [],
    .mk ⟨10#160, 0⟩ (.execMessage sampleArgs) []]

theorem attestation_replay_protection_sample :
    (execAll sampleEnv State.init sampleTxs).2.length = 5 ∧
      (execAll sampleEnv State.init sampleTxs).2.countP
        (fun c => c.input.consumes 10#160 sampleArgs) ≤ 1 :=
  ⟨by decide +kernel, (attestation_replay_protection (E := sampleEnv) collisionFree_id
    (execAll_path sampleEnv State.init sampleTxs) 10#160 sampleArgs).2.2.1⟩

end Histories

end GmpRouter.Evm
