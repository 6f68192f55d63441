import GmpRouter.Router.Invariant

/-!
# Messages in the histories of the router

Each attestation of a message and its consumption are latches, and so is each pick-up of a message
of the outbox. Hence in every history an index is in the record of a message exactly when its
adapter attested it (`mem_attested_iff`), a message is consumed at most once (`consumed_le_one`),
and of a sent message exactly the adapters remain that have not picked it up
(`mem_outstanding_iff`), each of which does so at most once (`pickedUp_le_one`).
-/

namespace GmpRouter.Router

variable {hash : Message → Digest} {s t : State} {op : Op} {o : Out} {d : Digest} {i : ℕ}

/-- A list of commits. -/
abbrev Log := List (Commit State Op Out)

/-! ## The inbox -/

/-- The adapter with the index attests the message, being enabled at that moment. -/
structure AttestedBy (m : Message) (i : ℕ) (adapter : UniversalAddress)
    (c : Commit State Op Out) : Prop where
  input_eq : c.input = .attest adapter m
  enabled : ∃ config, c.pre.integrators m.dstAddr = some config ∧
    config.adapters.idxOf? adapter = some i ∧ i ∈ config.enabled .recv m.srcChain

/-- The operation attests a message with the digest. -/
def Op.attests (hash : Message → Digest) (d : Digest) : Op → Bool
  | .attest _ m => hash m = d
  | _ => false

/-- The operation receives or executes a message with the digest. -/
def Op.consumes (hash : Message → Digest) (d : Digest) : Op → Bool
  | .recv m => hash m = d
  | .exec m => hash m = d
  | _ => false

/-- What a step does to a record. -/
theorem record_cases (h : step hash s op = .ok (t, o)) (d : Digest) :
    (∃ m adapter i, hash m = d ∧ AttestedBy m i adapter ⟨s, op, o, t⟩ ∧ i ∉ (s.inbox d).attested ∧
      t.inbox d = { s.inbox d with attested := insert i (s.inbox d).attested }) ∨
    (op.consumes hash d = true ∧ (s.inbox d).executed = false ∧
      t.inbox d = { s.inbox d with executed := true }) ∨
    (op.attests hash d = false ∧ op.consumes hash d = false ∧ t.inbox d = s.inbox d) := by
  cases op with
  | register =>
    obtain ⟨-, rfl, -⟩ := register_eq_ok.1 h
    exact .inr (.inr ⟨rfl, rfl, rfl⟩)
  | configure =>
    obtain ⟨c, c', -, -, rfl, -⟩ := configure_eq_ok.1 h
    exact .inr (.inr ⟨rfl, rfl, rfl⟩)
  | claimAdmin =>
    obtain ⟨c, -, -, -, rfl, -⟩ := claimAdmin_eq_ok.1 h
    exact .inr (.inr ⟨rfl, rfl, rfl⟩)
  | send =>
    obtain ⟨c, -, -, -, rfl, -⟩ := send_eq_ok.1 h
    exact .inr (.inr ⟨rfl, rfl, rfl⟩)
  | pickUp =>
    obtain ⟨c, message, j, -, -, -, -, rfl, -⟩ := pickUp_eq_ok.1 h
    exact .inr (.inr ⟨rfl, rfl, rfl⟩)
  | attest adapter m =>
    obtain ⟨c, j, hc, hj, henabled, hnew, rfl, -⟩ := attest_eq_ok.1 h
    by_cases hm : hash m = d
    · subst hm
      exact .inl ⟨m, adapter, j, rfl, ⟨rfl, c, hc, hj, henabled⟩, hnew, setRecord_self ..⟩
    · exact .inr (.inr ⟨decide_eq_false hm, rfl, setRecord_of_ne (Ne.symm hm) _⟩)
  | recv m =>
    obtain ⟨c, -, -, hexecuted, rfl, -⟩ := recv_eq_ok.1 h
    by_cases hm : hash m = d
    · subst hm
      exact .inr (.inl ⟨decide_eq_true rfl, hexecuted, setRecord_self ..⟩)
    · exact .inr (.inr ⟨rfl, decide_eq_false hm, setRecord_of_ne (Ne.symm hm) _⟩)
  | exec m =>
    obtain ⟨hexecuted, rfl, -⟩ := exec_eq_ok.1 h
    by_cases hm : hash m = d
    · subst hm
      exact .inr (.inl ⟨decide_eq_true rfl, hexecuted, setRecord_self ..⟩)
    · exact .inr (.inr ⟨rfl, decide_eq_false hm, setRecord_of_ne (Ne.symm hm) _⟩)

/-- An index enters a record when its adapter attests. -/
theorem latch_attested (hash : Message → Digest) (d : Digest) (i : ℕ) :
    (machine hash).Latch Inv (fun s => i ∈ (s.inbox d).attested)
      (fun c => ∃ m adapter, hash m = d ∧ AttestedBy m i adapter c) where
  invariant := inv_invariant
  step := by
    intro s op o t hstep _
    rcases record_cases hstep d with ⟨m, adapter, j, hm, hatt, -, heq⟩ |
      ⟨hop, -, heq⟩ | ⟨hop, -, heq⟩
    · rw [heq, Finset.mem_insert, or_comm]
      refine or_congr_right ⟨fun hij => ⟨m, adapter, hm, hij ▸ hatt⟩, ?_⟩
      rintro ⟨m', adapter', -, hinput, config, hconfig, hi, -⟩
      obtain ⟨config', hconfig', hj, -⟩ := hatt.enabled
      obtain ⟨rfl, rfl⟩ := Op.attest.inj (hinput.symm.trans hatt.input_eq)
      obtain rfl : config = config' := Option.some.inj (hconfig.symm.trans hconfig')
      exact Option.some.inj (hi.symm.trans hj)
    · rw [heq, or_iff_left]
      rintro ⟨m, adapter, -, hinput, -⟩
      have hinput : op = .attest adapter m := hinput
      rw [hinput] at hop
      cases hop
    · rw [heq, or_iff_left]
      rintro ⟨m, adapter, hm, hinput, -⟩
      have hinput : op = .attest adapter m := hinput
      simp [hinput, Op.attests, hm] at hop

/-- Consuming a message marks its record. -/
theorem latch_executed (hash : Message → Digest) (d : Digest) :
    (machine hash).Latch Inv (fun s => (s.inbox d).executed = true)
      (fun c => c.input.consumes hash d = true) where
  invariant := inv_invariant
  step := by
    intro s op o t hstep _
    rcases record_cases hstep d with ⟨m, adapter, j, hm, hatt, -, heq⟩ |
      ⟨hop, -, heq⟩ | ⟨-, hop, heq⟩
    · have hinput : op = .attest adapter m := hatt.input_eq
      simp [heq, hinput, Op.consumes]
    · simp [heq, hop]
    · simp [heq, hop]

/-- Only a message that is not executed is consumed. -/
theorem not_executed_of_consumes (h : step hash s op = .ok (t, o))
    (hop : op.consumes hash d = true) : ¬ (s.inbox d).executed = true := by
  rcases record_cases h d with ⟨m, adapter, j, hm, hatt, -, -⟩ | ⟨-, hexecuted, -⟩ | ⟨-, hop', -⟩
  · have hinput : op = .attest adapter m := hatt.input_eq
    simp [hinput, Op.consumes] at hop
  · simp [hexecuted]
  · simp [hop'] at hop

section

variable {l : Log}

theorem mem_attested_iff (h : (machine hash).Path {} l t) (d : Digest) (i : ℕ) :
    i ∈ (t.inbox d).attested ↔ ∃ c ∈ l, ∃ m adapter, hash m = d ∧ AttestedBy m i adapter c := by
  rw [(latch_attested hash d i).iff_exists h inv_init, or_iff_right (by simp)]

/-- The adapter of an index of a record attested the message, and keeps the index. -/
theorem exists_attestedBy (hinj : Function.Injective hash) (h : (machine hash).Path {} l t)
    {m : Message} (hi : i ∈ (t.inbox (hash m)).attested) :
    ∃ config adapter, t.integrators m.dstAddr = some config ∧
      config.adapters[i]? = some adapter ∧ ∃ c ∈ l, AttestedBy m i adapter c := by
  obtain ⟨c, hc, m', adapter, hm, hatt⟩ := (mem_attested_iff h _ i).1 hi
  obtain rfl := hinj hm
  obtain ⟨config, hconfig, hindex, -⟩ := hatt.enabled
  obtain ⟨l₁, l₂, -, -, hvalid, hafter⟩ := h.split hc
  have hgrows : Grows c.pre t := (grows_of_step hvalid).trans (grows_of_path hafter)
  obtain ⟨config', hconfig', hadapters, -⟩ := hgrows _ _ hconfig
  obtain ⟨hlt, hget, -⟩ := List.idxOf?_eq_some_iff.1 hindex
  refine ⟨config', adapter, hconfig', ?_, c, hc, hatt⟩
  rw [List.prefix_iff_getElem?.1 hadapters i hlt, hget]

/-- Attestations are not lost, and a consumed message stays so. -/
theorem record_mono (h : (machine hash).Path s l t) (hs : Inv s) (d : Digest) :
    (s.inbox d).attested ⊆ (t.inbox d).attested ∧
      ((s.inbox d).executed = true → (t.inbox d).executed = true) :=
  ⟨fun i hi => (latch_attested hash d i).mono h hs hi, (latch_executed hash d).mono h hs⟩

theorem consumed_le_one (h : (machine hash).Path s l t) (hs : Inv s) (d : Digest) :
    l.countP (fun c => c.input.consumes hash d) ≤ 1 := by
  have hcount := (latch_executed hash d).countP_le_one
    (fun _ _ _ _ hstep _ => not_executed_of_consumes hstep) h hs
  simpa only [Bool.decide_eq_true] using hcount

end

/-! ## Sequence numbers -/

/-- The operation sends a message of the integrator. -/
def Op.sends (I : UniversalAddress) : Op → Bool
  | .send I' _ _ _ => I' = I
  | _ => false

/-- How many sequence numbers the integrator has used. -/
def State.sent (s : State) (I : UniversalAddress) : ℕ :=
  match s.integrators I with
  | some c => c.nextSequence.toNat
  | none => 0

theorem sent_setIntegrator {I I' : UniversalAddress} {c c' : Integrator}
    (hc : s.integrators I' = some c) (hsequence : c'.nextSequence = c.nextSequence) :
    (s.setIntegrator I' c').sent I = s.sent I := by
  by_cases hI : I = I'
  · subst hI
    simp only [State.sent, setIntegrator_self, hc, hsequence]
  · simp only [State.sent, setIntegrator_of_ne hI]

theorem sent_of_step (h : step hash s op = .ok (t, o)) (I : UniversalAddress) :
    t.sent I = s.sent I + if op.sends I then 1 else 0 := by
  cases op with
  | register I' =>
    obtain ⟨hnone, rfl, -⟩ := register_eq_ok.1 h
    by_cases hI : I = I'
    · subst hI
      simp [State.sent, hnone, Op.sends]
    · simp [State.sent, setIntegrator_of_ne hI, Op.sends]
  | configure caller I' change =>
    obtain ⟨c, c', hby, happly, rfl, -⟩ := configure_eq_ok.1 h
    exact sent_setIntegrator hby.integrator_eq (Change.nextSequence_eq happly)
  | claimAdmin =>
    obtain ⟨c, hc, -, -, rfl, -⟩ := claimAdmin_eq_ok.1 h
    exact sent_setIntegrator hc rfl
  | send I' =>
    obtain ⟨c, hc, -, hmax, rfl, -⟩ := send_eq_ok.1 h
    have hlt := lt_add_one hmax
    have hmod := c.nextSequence.isLt
    rw [BitVec.lt_def, BitVec.toNat_add, BitVec.toNat_ofNat] at hlt
    by_cases hI : I = I'
    · subst hI
      simp only [State.sent, setIntegrator_self, hc, Op.sends, decide_true, if_true,
        BitVec.toNat_add, BitVec.toNat_ofNat]
      omega
    · simp [State.sent, setIntegrator_of_ne hI, Op.sends, Ne.symm hI]
  | pickUp =>
    obtain ⟨c, message, j, -, -, -, -, rfl, -⟩ := pickUp_eq_ok.1 h
    rfl
  | attest =>
    obtain ⟨c, i, -, -, -, -, rfl, -⟩ := attest_eq_ok.1 h
    rfl
  | recv =>
    obtain ⟨c, -, -, -, rfl, -⟩ := recv_eq_ok.1 h
    rfl
  | exec =>
    obtain ⟨-, rfl, -⟩ := exec_eq_ok.1 h
    rfl

/-- **The sequence numbers of an integrator are used one after another.** -/
theorem sent_eq_countP {l : Log} (h : (machine hash).Path s l t) (I : UniversalAddress) :
    t.sent I = s.sent I + l.countP fun c => c.input.sends I := by
  induction h with
  | nil => rfl
  | @snoc l c hpath hc ih =>
    have hstep := sent_of_step hc I
    rw [hstep, ih, List.countP_append, List.countP_singleton, Nat.add_assoc]

/-- The sequence number that a send of the integrator returned. -/
def sentSequence (I : UniversalAddress) (c : Commit State Op Out) : Option (BitVec 64) :=
  match c.input, c.output with
  | .send I' _ _ _, .sequence n => if I' = I then some n else none
  | _, _ => none

theorem sentSequence_of_step (h : step hash s op = .ok (t, o)) (I : UniversalAddress) :
    ((sentSequence I ⟨s, op, o, t⟩).toList).map BitVec.toNat =
      List.range' (s.sent I) (if op.sends I then 1 else 0) := by
  cases op with
  | send I' dstChain dstAddr payloadHash =>
    obtain ⟨c, hc, -, -, -, rfl⟩ := send_eq_ok.1 h
    by_cases hI : I' = I
    · subst hI
      simp [sentSequence, Op.sends, State.sent, hc]
    · simp [sentSequence, Op.sends, hI]
  | _ => rfl

/-- The sequence numbers of the messages that an integrator sends follow each other. -/
theorem sequences_of_path {l : Log} (h : (machine hash).Path s l t) (I : UniversalAddress) :
    (l.filterMap (sentSequence I)).map BitVec.toNat =
      List.range' (s.sent I) (l.countP fun c => c.input.sends I) := by
  induction h with
  | nil => rfl
  | @snoc l c hpath hc ih =>
    have hnext := sentSequence_of_step hc I
    rw [sent_eq_countP hpath] at hnext
    rw [List.filterMap_append, List.map_append, ih, List.countP_append, List.countP_singleton,
      ← List.range'_append_1, ← hnext]
    cases hs : sentSequence I c <;> simp [hs]

/-! ## The outbox -/

/-- The adapters that have not picked up a message. -/
def State.outstanding (s : State) (I : UniversalAddress) (sequence : BitVec 64) : Finset ℕ :=
  match s.outbox I sequence with
  | some message => message.outstanding
  | none => ∅

/-- The outputs that an operation can have. -/
def Op.Returns : Op → Out → Prop
  | .send .., o => ∃ sequence, o = .sequence sequence
  | .pickUp .., o => ∃ message, o = .pickedUp message
  | .recv .., o => ∃ enabled attested, o = .received enabled attested
  | _, o => o = .unit

theorem returns_of_step (h : step hash s op = .ok (t, o)) : op.Returns o := by
  cases op with
  | register =>
    obtain ⟨-, -, hout⟩ := register_eq_ok.1 h
    exact hout
  | configure =>
    obtain ⟨c, c', -, -, -, hout⟩ := configure_eq_ok.1 h
    exact hout
  | claimAdmin =>
    obtain ⟨c, -, -, -, -, hout⟩ := claimAdmin_eq_ok.1 h
    exact hout
  | send =>
    obtain ⟨c, -, -, -, -, hout⟩ := send_eq_ok.1 h
    exact ⟨_, hout⟩
  | pickUp =>
    obtain ⟨c, message, i, -, -, -, -, -, hout⟩ := pickUp_eq_ok.1 h
    exact ⟨_, hout⟩
  | attest =>
    obtain ⟨c, i, -, -, -, -, -, hout⟩ := attest_eq_ok.1 h
    exact hout
  | recv =>
    obtain ⟨c, -, -, -, -, hout⟩ := recv_eq_ok.1 h
    exact ⟨_, _, hout⟩
  | exec =>
    obtain ⟨-, -, hout⟩ := exec_eq_ok.1 h
    exact hout

/-- Only sends report a sequence number. -/
theorem exists_send_of_out {sequence : BitVec 64}
    (h : step hash s op = .ok (t, .sequence sequence)) :
    ∃ I dstChain dstAddr payloadHash, op = .send I dstChain dstAddr payloadHash := by
  have hreturns := returns_of_step h
  cases op with
  | send I dstChain dstAddr payloadHash => exact ⟨I, dstChain, dstAddr, payloadHash, rfl⟩
  | _ => simp [Op.Returns] at hreturns

/-- Only pick-ups report a message that was picked up. -/
theorem exists_pickUp_of_out {message : Outgoing}
    (h : step hash s op = .ok (t, .pickedUp message)) :
    ∃ adapter I sequence, op = .pickUp adapter I sequence := by
  have hreturns := returns_of_step h
  cases op with
  | pickUp adapter I sequence => exact ⟨adapter, I, sequence, rfl⟩
  | _ => simp [Op.Returns] at hreturns

/-- The integrator has used the sequence number. -/
def Used (I : UniversalAddress) (sequence : BitVec 64) (s : State) : Prop :=
  Inv s ∧ ∃ c, s.integrators I = some c ∧ sequence < c.nextSequence

theorem used_invariant (hash : Message → Digest) (I : UniversalAddress) (sequence : BitVec 64) :
    (machine hash).Invariant (Used I sequence) := by
  rintro s op o t hstep ⟨hs, c, hc, hlt⟩
  obtain ⟨c', hc', -, hle⟩ := grows_of_step hstep I c hc
  rw [BitVec.lt_def] at hlt
  rw [BitVec.le_def] at hle
  exact ⟨inv_invariant hstep hs, c', hc', lt_of_lt_of_le hlt hle⟩

/-- The adapter with the index picks the message up. -/
structure PickedUpBy (I : UniversalAddress) (sequence : BitVec 64) (i : ℕ)
    (adapter : UniversalAddress) (c : Commit State Op Out) : Prop where
  input_eq : c.input = .pickUp adapter I sequence
  index : ∃ d, c.pre.integrators I = some d ∧ d.adapters.idxOf? adapter = some i

variable {I : UniversalAddress} {sequence : BitVec 64}

/-- What a step does to a message that was sent. -/
theorem outbox_cases (hs : Used I sequence s) (h : step hash s op = .ok (t, o)) :
    (∃ adapter i message, PickedUpBy I sequence i adapter ⟨s, op, o, t⟩ ∧
      s.outbox I sequence = some message ∧ i ∈ message.outstanding ∧
      t.outbox I sequence = (if message.outstanding.erase i = ∅ then none
        else some { message with outstanding := message.outstanding.erase i }) ∧
      o = .pickedUp { message with outstanding := message.outstanding.erase i }) ∨
    ((∀ adapter, op ≠ .pickUp adapter I sequence) ∧ t.outbox I sequence = s.outbox I sequence) := by
  cases op with
  | register =>
    obtain ⟨-, rfl, -⟩ := register_eq_ok.1 h
    exact .inr ⟨by simp, rfl⟩
  | configure =>
    obtain ⟨c, c', -, -, rfl, -⟩ := configure_eq_ok.1 h
    exact .inr ⟨by simp, rfl⟩
  | claimAdmin =>
    obtain ⟨c, -, -, -, rfl, -⟩ := claimAdmin_eq_ok.1 h
    exact .inr ⟨by simp, rfl⟩
  | send I' =>
    obtain ⟨c, hc, -, -, rfl, -⟩ := send_eq_ok.1 h
    refine .inr ⟨by simp, update₂_of_ne ?_⟩
    -- the new message has a number that was not used
    rintro ⟨rfl, rfl⟩
    obtain ⟨-, c', hc', hlt⟩ := hs
    obtain rfl : c = c' := Option.some.inj (hc.symm.trans hc')
    exact absurd hlt (BitVec.lt_irrefl _)
  | pickUp adapter I' sequence' =>
    obtain ⟨c, message, i, hc, hm, hi, hmem, rfl, rfl⟩ := pickUp_eq_ok.1 h
    by_cases heq : I = I' ∧ sequence = sequence'
    · obtain ⟨rfl, rfl⟩ := heq
      exact .inl ⟨adapter, i, message, ⟨rfl, c, hc, hi⟩, hm, hmem, update₂_self .., rfl⟩
    · refine .inr ⟨fun adapter' hop => heq ?_, update₂_of_ne heq⟩
      obtain ⟨-, rfl, rfl⟩ := Op.pickUp.inj hop
      exact ⟨rfl, rfl⟩
  | attest =>
    obtain ⟨c, i, -, -, -, -, rfl, -⟩ := attest_eq_ok.1 h
    exact .inr ⟨by simp, rfl⟩
  | recv =>
    obtain ⟨c, -, -, -, rfl, -⟩ := recv_eq_ok.1 h
    exact .inr ⟨by simp, rfl⟩
  | exec =>
    obtain ⟨-, rfl, -⟩ := exec_eq_ok.1 h
    exact .inr ⟨by simp, rfl⟩

/-- The adapter may pick the message up. -/
def State.CanPickUp (s : State) (I : UniversalAddress) (sequence : BitVec 64)
    (adapter : UniversalAddress) : Prop :=
  ∃ c i, s.integrators I = some c ∧ c.adapters.idxOf? adapter = some i ∧
    i ∈ s.outstanding I sequence

theorem canPickUp_iff (hash : Message → Digest) {adapter : UniversalAddress} :
    (∃ r, step hash s (.pickUp adapter I sequence) = .ok r) ↔ s.CanPickUp I sequence adapter := by
  constructor
  · rintro ⟨⟨t, o⟩, h⟩
    obtain ⟨c, message, i, hc, hm, hi, hmem, -, -⟩ := pickUp_eq_ok.1 h
    exact ⟨c, i, hc, hi, by rwa [State.outstanding, hm]⟩
  · rintro ⟨c, i, hc, hi, hmem⟩
    cases hm : s.outbox I sequence with
    | none => simp [State.outstanding, hm] at hmem
    | some message =>
      rw [State.outstanding, hm] at hmem
      exact ⟨_, pickUp_eq_ok.2 ⟨c, message, i, hc, hm, hi, hmem, rfl, rfl⟩⟩

/-- A message waits while some adapter may pick it up. -/
theorem exists_outbox_iff (hs : Inv s) :
    (∃ message, s.outbox I sequence = some message) ↔
      ∃ adapter, s.CanPickUp I sequence adapter := by
  constructor
  · rintro ⟨message, hm⟩
    obtain ⟨hne, c, hc, -, hlt⟩ := hs.outbox I sequence message hm
    obtain ⟨i, hi⟩ := Finset.nonempty_iff_ne_empty.2 hne
    have hi' := hlt i hi
    refine ⟨c.adapters[i], c, i, hc, ?_, by rwa [State.outstanding, hm]⟩
    refine List.idxOf?_eq_some_iff.2 ⟨hi', rfl, fun j hj heq => ?_⟩
    have hij := (hs.integrators I c hc).nodup.getElem_inj_iff.1 heq
    omega
  · rintro ⟨adapter, c, i, -, -, hmem⟩
    unfold State.outstanding at hmem
    split at hmem
    · next message hm => exact ⟨message, hm⟩
    · simp at hmem

/-- The growth of the list of adapters does not matter to the adapters of a message. -/
theorem canPickUp_of_grows (hs : Inv s) (hgrows : Grows s t)
    (hsub : t.outstanding I sequence ⊆ s.outstanding I sequence) {adapter : UniversalAddress} :
    t.CanPickUp I sequence adapter ↔
      ∃ c i, s.integrators I = some c ∧ c.adapters.idxOf? adapter = some i ∧
        i ∈ t.outstanding I sequence := by
  constructor
  · rintro ⟨c', i, hc', hi, hmem⟩
    have hold := hsub hmem
    unfold State.outstanding at hold
    split at hold
    · next message hm =>
      obtain ⟨-, c, hc, -, hlt⟩ := hs.outbox I sequence message hm
      obtain ⟨c'', hc'', hadapters, -⟩ := hgrows I c hc
      obtain rfl : c' = c'' := Option.some.inj (hc'.symm.trans hc'')
      exact ⟨c, i, hc, (idxOf?_of_isPrefix hadapters (hlt i hold)).1 hi, hmem⟩
    · simp at hold
  · rintro ⟨c, i, hc, hi, hmem⟩
    obtain ⟨c', hc', hadapters, -⟩ := hgrows I c hc
    have hlt : i < c.adapters.length := (List.idxOf?_eq_some_iff.1 hi).1
    exact ⟨c', i, hc', (idxOf?_of_isPrefix hadapters hlt).2 hi, hmem⟩

/-- An adapter may pick a message up until it does. -/
theorem latch_pickedUp (hash : Message → Digest) (I : UniversalAddress) (sequence : BitVec 64)
    (adapter : UniversalAddress) :
    (machine hash).Latch (Used I sequence) (fun s => ¬ s.CanPickUp I sequence adapter)
      (fun c => c.input = .pickUp adapter I sequence) where
  invariant := used_invariant hash I sequence
  step := by
    intro s op o t hstep hs
    have hgrows := grows_of_step hstep
    rcases outbox_cases hs hstep with ⟨adapter', j, message, hpick, hm, hmem, ht, -⟩ | ⟨hop, ht⟩
    · have hrest : t.outstanding I sequence = (s.outstanding I sequence).erase j := by
        rw [State.outstanding, State.outstanding, ht, hm]
        split_ifs with hempty
        · exact hempty.symm
        · rfl
      have hinput : op = .pickUp adapter' I sequence := hpick.input_eq
      obtain ⟨d, hd, hj⟩ := hpick.index
      rw [canPickUp_of_grows hs.1 hgrows (hrest ▸ Finset.erase_subset ..), hrest, hinput]
      by_cases hadapter : adapter = adapter'
      · -- the adapter itself: its index is gone
        subst hadapter
        refine iff_of_true ?_ (.inr rfl)
        rintro ⟨c, i, hc, hi, hmem'⟩
        obtain rfl : c = d := Option.some.inj (hc.symm.trans hd)
        obtain rfl : i = j := Option.some.inj (hi.symm.trans hj)
        exact Finset.notMem_erase _ _ hmem'
      · -- another adapter has another index
        have hne : Op.pickUp adapter' I sequence ≠ .pickUp adapter I sequence := by
          simpa using Ne.symm hadapter
        rw [or_iff_left hne, not_iff_not, State.CanPickUp]
        refine exists_congr fun c => exists_congr fun i => and_congr_right fun hc =>
          and_congr_right fun hi => ?_
        rw [Finset.mem_erase, and_iff_right]
        rintro rfl
        obtain rfl : c = d := Option.some.inj (hc.symm.trans hd)
        obtain ⟨_, hl, -⟩ := List.idxOf?_eq_some_iff.1 hi
        obtain ⟨_, hl', -⟩ := List.idxOf?_eq_some_iff.1 hj
        exact hadapter (hl.symm.trans hl')
    · have hsame : t.outstanding I sequence = s.outstanding I sequence := by
        rw [State.outstanding, ht, ← State.outstanding]
      rw [canPickUp_of_grows hs.1 hgrows (hsame ▸ Finset.Subset.refl _), hsame, ← State.CanPickUp,
        or_iff_left (hop adapter)]

section

variable {l : Log}

/-- **Exactly the adapters may pick the message up that could at first and have not done so.** -/
theorem canPickUp_iff_of_path (h : (machine hash).Path s l t) (hs : Used I sequence s)
    (adapter : UniversalAddress) :
    t.CanPickUp I sequence adapter ↔ s.CanPickUp I sequence adapter ∧
      ∀ c ∈ l, c.input ≠ .pickUp adapter I sequence := by
  rw [← not_iff_not, (latch_pickedUp hash I sequence adapter).iff_exists h hs, not_and_or]
  simp

/-- The rest of a message never changes. -/
theorem outgoing_of_path (h : (machine hash).Path s l t) (hs : Used I sequence s)
    {message : Outgoing} (hm : t.outbox I sequence = some message) :
    ∃ message₀, s.outbox I sequence = some message₀ ∧
      message = { message₀ with outstanding := message.outstanding } := by
  induction h generalizing message with
  | nil => exact ⟨message, hm, rfl⟩
  | snoc hpath hc ih =>
    have hused := hpath.invariant (used_invariant hash I sequence) hs
    rcases outbox_cases hused hc with ⟨adapter, j, message', -, hm', -, ht, -⟩ | ⟨-, ht⟩
    · obtain ⟨message₀, hm₀, heq⟩ := ih hm'
      rw [ht] at hm
      split at hm
      · cases hm
      · obtain rfl := Option.some.inj hm
        exact ⟨message₀, hm₀, by rw [heq]⟩
    · exact ih (ht ▸ hm)

/-- **An adapter picks a message up at most once.** -/
theorem pickedUp_le_one (h : (machine hash).Path s l t) (hs : Used I sequence s)
    (adapter : UniversalAddress) :
    l.countP (fun c => c.input = .pickUp adapter I sequence) ≤ 1 :=
  (latch_pickedUp hash I sequence adapter).countP_le_one (fun s op o t hstep _ hop => by
    have hop : op = .pickUp adapter I sequence := hop
    rw [not_not, ← canPickUp_iff hash, ← hop]
    exact ⟨_, hstep⟩) h hs

end

end GmpRouter.Router
