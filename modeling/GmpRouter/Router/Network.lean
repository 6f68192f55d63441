import GmpRouter.Foundations.Network
import GmpRouter.Router.Messages

/-!
# The router as a node of a network

On a chain, every history of the router is the trace of a lawful node (`lawful_of_path`): a message
is sent once because its sequence number is used once, the outbox holds what was sent, a received
message has as many attestors as indices in its record, and it is consumed once.
-/

namespace GmpRouter.Router

open Network (Event Lawful)

variable {hash : Message → Digest} {s t : State} {op : Op} {o : Out} {l : Log} {chain : ChainId}
  {I : UniversalAddress} {sequence : BitVec 64} {message : Outgoing} {m : Message}

/-- A message of the outbox, with the chain from which and the fields under which it is sent. -/
def Outgoing.toMessage (chain : ChainId) (I : UniversalAddress) (sequence : BitVec 64)
    (message : Outgoing) : Message :=
  ⟨chain, I, sequence, message.dstChain, message.dstAddr, message.payloadHash⟩

/-- What a commit is to the network. -/
def event (chain : ChainId) (c : Commit State Op Out) : Event Message UniversalAddress :=
  match c.input, c.output with
  | .send I dstChain dstAddr payloadHash, .sequence n =>
    .sends ⟨chain, I, n, dstChain, dstAddr, payloadHash⟩
  | .pickUp _ I n, .pickedUp message => .handsOver (message.toMessage chain I n)
  | .attest A m, _ => .attests A m
  | .recv m, .received _ attested => .receives m attested.card
  | _, _ => .internal

section Inversion

variable {c : Commit State Op Out}

theorem event_eq_sends : event chain c = .sends m ↔
    c.input = .send m.srcAddr m.dstChain m.dstAddr m.payloadHash ∧ c.output = .sequence m.sequence ∧
      m.srcChain = chain := by
  obtain ⟨pre, op, o, post⟩ := c
  constructor
  · intro h
    cases op <;> cases o <;> simp only [event, reduceCtorEq] at h
    obtain rfl := Event.sends.inj h
    exact ⟨rfl, rfl, rfl⟩
  · rintro ⟨hop, hout, rfl⟩
    obtain rfl : op = _ := hop
    obtain rfl : o = _ := hout
    rfl

theorem event_eq_handsOver : event chain c = .handsOver m ↔
    ∃ adapter message, c.input = .pickUp adapter m.srcAddr m.sequence ∧
      c.output = .pickedUp message ∧ message.toMessage chain m.srcAddr m.sequence = m := by
  obtain ⟨pre, op, o, post⟩ := c
  constructor
  · intro h
    cases op <;> cases o <;> simp only [event, reduceCtorEq] at h
    obtain rfl := Event.handsOver.inj h
    exact ⟨_, _, rfl, rfl, rfl⟩
  · rintro ⟨adapter, message, hop, hout, hm⟩
    obtain rfl : op = _ := hop
    obtain rfl : o = _ := hout
    exact congrArg Event.handsOver hm

theorem event_eq_attests {A : UniversalAddress} :
    event chain c = .attests A m ↔ c.input = .attest A m := by
  obtain ⟨pre, op, o, post⟩ := c
  constructor
  · intro h
    cases op <;> cases o <;> simp only [event, reduceCtorEq] at h
    all_goals
      obtain ⟨rfl, rfl⟩ := Event.attests.inj h
      rfl
  · intro hop
    obtain rfl : op = _ := hop
    rfl

theorem event_eq_receives {n : ℕ} : event chain c = .receives m n ↔
    ∃ enabled attested, c.input = .recv m ∧ c.output = .received enabled attested ∧
      attested.card = n := by
  obtain ⟨pre, op, o, post⟩ := c
  constructor
  · intro h
    cases op <;> cases o <;> simp only [event, reduceCtorEq] at h
    obtain ⟨rfl, rfl⟩ := Event.receives.inj h
    exact ⟨_, _, rfl, rfl, rfl⟩
  · rintro ⟨enabled, attested, hop, hout, rfl⟩
    obtain rfl : op = _ := hop
    obtain rfl : o = _ := hout
    rfl

end Inversion

/-! ## The outbox holds what was sent -/

/-- A message of the outbox is sent by the step, or was there before with the same fields. -/
theorem outbox_of_event (chain : ChainId) (h : step hash s op = .ok (t, o))
    (hm : t.outbox I sequence = some message) :
    event chain ⟨s, op, o, t⟩ = .sends (message.toMessage chain I sequence) ∨
      ∃ old, s.outbox I sequence = some old ∧
        old.toMessage chain I sequence = message.toMessage chain I sequence := by
  cases op with
  | register =>
    obtain ⟨-, rfl, -⟩ := register_eq_ok.1 h
    exact .inr ⟨message, hm, rfl⟩
  | configure =>
    obtain ⟨c, c', -, -, rfl, -⟩ := configure_eq_ok.1 h
    exact .inr ⟨message, hm, rfl⟩
  | claimAdmin =>
    obtain ⟨c, -, -, -, rfl, -⟩ := claimAdmin_eq_ok.1 h
    exact .inr ⟨message, hm, rfl⟩
  | attest =>
    obtain ⟨c, i, -, -, -, -, rfl, -⟩ := attest_eq_ok.1 h
    exact .inr ⟨message, hm, rfl⟩
  | recv =>
    obtain ⟨c, -, -, -, rfl, -⟩ := recv_eq_ok.1 h
    exact .inr ⟨message, hm, rfl⟩
  | exec =>
    obtain ⟨-, rfl, -⟩ := exec_eq_ok.1 h
    exact .inr ⟨message, hm, rfl⟩
  | send I' dstChain dstAddr payloadHash =>
    obtain ⟨c, -, -, -, rfl, rfl⟩ := send_eq_ok.1 h
    by_cases hkey : I = I' ∧ sequence = c.nextSequence
    · obtain ⟨rfl, rfl⟩ := hkey
      simp only [update₂_self, Option.some.injEq] at hm
      subst hm
      exact .inl rfl
    · simp only [update₂_of_ne hkey] at hm
      exact .inr ⟨message, hm, rfl⟩
  | pickUp adapter I' sequence' =>
    obtain ⟨c, old, i, -, hold, -, -, rfl, rfl⟩ := pickUp_eq_ok.1 h
    by_cases hkey : I = I' ∧ sequence = sequence'
    · obtain ⟨rfl, rfl⟩ := hkey
      simp only [update₂_self, ite_eq_iff, reduceCtorEq, and_false, false_or,
        Option.some.injEq] at hm
      obtain ⟨-, rfl⟩ := hm
      exact .inr ⟨old, hold, rfl⟩
    · simp only [update₂_of_ne hkey] at hm
      exact .inr ⟨message, hm, rfl⟩

theorem exists_sends_of_outbox (h : (machine hash).Path {} l t)
    (hm : t.outbox I sequence = some message) :
    .sends (message.toMessage chain I sequence) ∈ l.map (event chain) := by
  induction h generalizing message with
  | nil => simp at hm
  | snoc _ hc ih =>
    rw [List.map_append, List.mem_append]
    rcases outbox_of_event chain hc hm with hsends | ⟨old, hold, heq⟩
    · exact .inr (by simp [← hsends])
    · exact .inl (heq ▸ ih hold)

/-! ## The laws -/

theorem countP_sends_le_one (h : (machine hash).Path {} l t) (m : Message) :
    (l.map (event chain)).countP (fun e => e = .sends m) ≤ 1 := by
  have hsequences := congrArg List.Nodup (sequences_of_path h m.srcAddr)
  have hnodup : (l.filterMap (sentSequence m.srcAddr)).Nodup :=
    List.Nodup.of_map BitVec.toNat (hsequences ▸ List.nodup_range' 1)
  refine le_trans ?_ (List.nodup_iff_count_le_one.1 hnodup m.sequence)
  rw [List.countP_map, List.count, List.countP_filterMap]
  refine List.countP_mono_left fun c _ hc => ?_
  obtain ⟨hinput, hout, -⟩ := event_eq_sends.1 (of_decide_eq_true hc)
  simp [sentSequence, hinput, hout]

/-- The adapters that the record of a message lists. -/
theorem exists_attestors (hinj : Function.Injective hash) (h : (machine hash).Path {} l t)
    (m : Message) : ∃ attestors : Finset UniversalAddress, attestors.card =
      (t.inbox (hash m)).attested.card ∧ ∀ A ∈ attestors, .attests A m ∈ l.map (event chain) := by
  classical
  have hattested : ∀ i ∈ (t.inbox (hash m)).attested, ∃ adapter,
      (∃ config, t.integrators m.dstAddr = some config ∧ config.adapters[i]? = some adapter) ∧
        .attests adapter m ∈ l.map (event chain) := by
    intro i hi
    obtain ⟨config, adapter, hconfig, hget, c, hc, hatt⟩ := exists_attestedBy hinj h hi
    exact ⟨adapter, ⟨config, hconfig, hget⟩,
      List.mem_map.2 ⟨c, hc, event_eq_attests.2 hatt.input_eq⟩⟩
  choose! adapter hadapter hmem using hattested
  refine ⟨(t.inbox (hash m)).attested.image adapter, Finset.card_image_of_injOn ?_, fun A hA => ?_⟩
  · -- the list of the integrator has no adapter twice
    intro i hi j hj heq
    obtain ⟨config, hconfig, hi'⟩ := hadapter i hi
    obtain ⟨config', hconfig', hj'⟩ := hadapter j hj
    obtain rfl := Option.some.inj (hconfig.symm.trans hconfig')
    have hnodup := ((h.invariant inv_invariant inv_init).integrators _ _ hconfig).nodup
    obtain ⟨hlt, -⟩ := List.getElem?_eq_some_iff.1 hi'
    exact (List.getElem?_inj hlt hnodup).1 (hi'.trans (heq ▸ hj'.symm))
  · obtain ⟨i, hi, rfl⟩ := Finset.mem_image.1 hA
    exact hmem i hi

/-- **Every history of the router is the trace of a lawful node.** -/
theorem lawful_of_path (hinj : Function.Injective hash) (h : (machine hash).Path {} l t) :
    Lawful (l.map (event chain)) where
  sends_le_one := countP_sends_le_one h
  sends_of_handsOver l₁ l₂ m hl := by
    obtain ⟨k₁, k₂, rfl, rfl, hk⟩ := List.map_eq_append_iff.1 hl
    obtain ⟨c, k₂, rfl, hevent, -⟩ := List.map_eq_cons_iff.1 hk
    obtain ⟨hbefore, hvalid, -⟩ := h.of_append_cons
    obtain ⟨adapter, message, hinput, hout, hm⟩ := event_eq_handsOver.1 hevent
    have hstep : step hash c.pre c.input = .ok (c.post, c.output) := hvalid
    rw [hinput, hout] at hstep
    obtain ⟨config, old, i, -, hold, -, -, -, hmessage⟩ := pickUp_eq_ok.1 hstep
    obtain rfl := Out.pickedUp.inj hmessage
    have hold_eq : old.toMessage chain m.srcAddr m.sequence = m := hm
    exact hold_eq ▸ exists_sends_of_outbox hbefore hold
  attests_of_receives l₁ l₂ m n hl := by
    obtain ⟨k₁, k₂, rfl, rfl, hk⟩ := List.map_eq_append_iff.1 hl
    obtain ⟨c, k₂, rfl, hevent, -⟩ := List.map_eq_cons_iff.1 hk
    obtain ⟨hbefore, hvalid, -⟩ := h.of_append_cons
    obtain ⟨enabled, attested, hinput, hout, rfl⟩ := event_eq_receives.1 hevent
    have hstep : step hash c.pre c.input = .ok (c.post, c.output) := hvalid
    rw [hinput, hout] at hstep
    obtain ⟨config, -, hne, -, -, hreceived⟩ := recv_eq_ok.1 hstep
    obtain ⟨-, rfl⟩ := Out.received.inj hreceived
    exact ⟨Finset.card_pos.2 (Finset.nonempty_iff_ne_empty.2 hne), exists_attestors hinj hbefore m⟩
  receipts_le_one m := by
    refine le_trans ?_ (consumed_le_one h inv_init (hash m))
    rw [List.countP_map]
    refine List.countP_mono_left fun c _ hc => ?_
    obtain ⟨n, hevent, -⟩ := Event.isReceipt_iff.1 hc
    obtain ⟨-, -, hinput, -⟩ := event_eq_receives.1 hevent
    rw [hinput]
    exact decide_eq_true rfl

end GmpRouter.Router
