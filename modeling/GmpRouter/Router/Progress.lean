import GmpRouter.Router.Availability
import GmpRouter.Router.Network

/-!
# Messages that are not stuck at their source

A message that was sent waits in the outbox, with an adapter that can pick it up, until it is handed
over for the first time (`exists_pickUp`). The endpoints that the router simulates can make this
step (`exists_handsOver_of_simulation`), which changes no configuration.
-/

namespace GmpRouter.Router

open Network (Event)

variable {hash : Message → Digest} {s t : State} {op : Op} {o : Out} {l : Log} {chain : ChainId}
  {m : Message}

/-- Until it is handed over, a message waits as it was sent. -/
theorem waits_or_handsOver (h : (machine hash).Path {} l t) (hm : .sends m ∈ l.map (event chain)) :
    .handsOver m ∈ l.map (event chain) ∨ ∃ message, t.outbox m.srcAddr m.sequence = some message ∧
      message.toMessage chain m.srcAddr m.sequence = m := by
  induction h with
  | nil => cases hm
  | @snoc l c hpath hc ih =>
    have hstep : step hash c.pre c.input = .ok (c.post, c.output) := hc
    rw [List.map_append, List.mem_append] at hm ⊢
    rcases hm with hold | hnew
    · rcases ih hold with hhanded | ⟨message, hmessage, hfields⟩
      · exact .inl (.inl hhanded)
      · -- the message waits before the step
        have hs : Inv c.pre := hpath.invariant inv_invariant inv_init
        obtain ⟨-, d, hd, hlt, -⟩ := hs.outbox _ _ _ hmessage
        rcases outbox_cases ⟨hs, d, hd, hlt⟩ hstep with
          ⟨adapter, i, message', hpick, hmessage', -, -, hout⟩ | ⟨-, hsame⟩
        · obtain rfl := Option.some.inj (hmessage.symm.trans hmessage')
          refine .inl (.inr (List.mem_singleton.2 (Eq.symm ?_)))
          exact event_eq_handsOver.2 ⟨adapter, _, hpick.input_eq, hout, hfields⟩
        · exact .inr ⟨message, hsame.trans hmessage, hfields⟩
    · obtain ⟨hinput, hout, hsrc⟩ := event_eq_sends.1 (List.mem_singleton.1 hnew).symm
      rw [hinput, hout] at hstep
      obtain ⟨d, -, -, -, hpost, hsequence⟩ := send_eq_ok.1 hstep
      have hsequence : m.sequence = d.nextSequence := Out.sequence.inj hsequence
      refine .inr ⟨⟨m.dstChain, m.dstAddr, m.payloadHash, d.enabled .send m.dstChain⟩, ?_, ?_⟩
      · rw [hpost, hsequence]
        exact update₂_self ..
      · rw [Outgoing.toMessage, ← hsrc]

/-- A message that waits can be picked up. -/
theorem exists_pickUp (hs : Inv s) {I : UniversalAddress} {sequence : BitVec 64}
    {message : Outgoing} (hmessage : s.outbox I sequence = some message) :
    ∃ A t rest, step hash s (.pickUp A I sequence) = .ok (t, .pickedUp rest) ∧
      rest.toMessage chain I sequence = message.toMessage chain I sequence := by
  obtain ⟨A, hA⟩ := (exists_outbox_iff hs).1 ⟨message, hmessage⟩
  obtain ⟨⟨t, o⟩, hstep⟩ := (canPickUp_iff hash).2 hA
  obtain ⟨c, message', i, -, hmessage', -, -, -, rfl⟩ := pickUp_eq_ok.1 hstep
  obtain rfl := Option.some.inj (hmessage.symm.trans hmessage')
  exact ⟨A, t, _, hstep, rfl⟩

/-! ## Every machine that the router simulates -/

section Simulation

variable {σ ι ε ο : Type} {M : Machine σ ι ε ο} {init : σ} {f : σ → ι → Option Op}
  {conf : σ → UniversalAddress → Option Configuration} {R : σ → State → Prop}
  {L : σ → ι → ο → Op → Out → Prop} {ev : Commit σ ι ο → Event Message UniversalAddress}

/-- The machine can hand the message over, and keeps all configurations. -/
def CanHandOver (M : Machine σ ι ε ο) (f : σ → ι → Option Op)
    (conf : σ → UniversalAddress → Option Configuration)
    (ev : Commit σ ι ο → Event Message UniversalAddress)
    (s : σ) (m : Message) : Prop :=
  ∃ i t o A, M.step s i = .ok (t, o) ∧ f s i = some (.pickUp A m.srcAddr m.sequence) ∧
    ev ⟨s, i, o, t⟩ = .handsOver m ∧ conf t = conf s

/-- **A message that was sent is handed over, or can be**, on every machine that the router
simulates, if it makes the step of the router that a pick-up is whenever the router can. -/
theorem exists_handsOver_of_simulation (S : Machine.Simulation M (machine hash) R L)
    (hinit : R init {}) (hinv : ∀ s a, R s a → Inv a)
    (hshow : ∀ s a, R s a → ∀ I, Shows (a.settings I) (conf s I))
    (hlabel : ∀ s i o j p, L s i o j p → f s i = some j)
    (hevent : ∀ c d, Machine.Matches M (machine hash) R L c d → ev c = event chain d)
    (hpickUp : ∀ s a A I sequence r, R s a → step hash a (.pickUp A I sequence) = .ok r →
      ∃ i r', M.step s i = .ok r' ∧ f s i = some (.pickUp A I sequence))
    {l : List (Commit σ ι ο)} {s : σ} (h : M.Path init l s) (hm : .sends m ∈ l.map ev) :
    .handsOver m ∈ l.map ev ∨ CanHandOver M f conf ev s m := by
  obtain ⟨l', a, hpath, ha, hmatches⟩ := S.path h hinit
  have hevents : l.map ev = l'.map (event chain) := by
    rw [← List.forall₂_eq_eq_eq, List.forall₂_map_left_iff, List.forall₂_map_right_iff]
    exact hmatches.imp hevent
  rw [hevents] at hm ⊢
  refine (waits_or_handsOver hpath hm).imp_right ?_
  rintro ⟨message, hmessage, hfields⟩
  have hpick : ∃ A b rest, step hash a (.pickUp A m.srcAddr m.sequence) = .ok (b, .pickedUp rest) ∧
      rest.toMessage chain m.srcAddr m.sequence = message.toMessage chain m.srcAddr m.sequence :=
    exists_pickUp (hinv s a ha) hmessage
  obtain ⟨A, b, rest, hrouter, hrest⟩ := hpick
  obtain ⟨i, ⟨t, o⟩, hstep, hop⟩ := hpickUp s a A _ _ _ ha hrouter
  obtain ⟨hL, hb⟩ := S.rel_of_input hlabel ha hstep hop hrouter
  refine ⟨i, t, o, A, hstep, hop, ?_, ?_⟩
  · have hmatch : Machine.Matches M (machine hash) R L ⟨s, i, o, t⟩
        ⟨a, .pickUp A m.srcAddr m.sequence, .pickedUp rest, b⟩ := ⟨ha, hstep, hrouter, hL, hb⟩
    exact (hevent _ _ hmatch).trans
      (event_eq_handsOver.2 ⟨A, rest, rfl, rfl, hrest.trans hfields⟩)
  · funext I
    refine ((hshow t b hb I).eq_iff (hshow s a ha I)).2 (settings_of_step hrouter ?_)
    rintro ⟨⟩

end Simulation

/-! ## Messages that are ready -/

section Ready

variable {σ ι ε ο : Type} {M : Machine σ ι ε ο} {init : σ} {f : σ → ι → Option Op}
  {conf : σ → UniversalAddress → Option Configuration} {attest : UniversalAddress → ι} {recv : ι}
  {reported : ο → Option (Finset ℕ × Finset ℕ)} {l : List (Commit σ ι ο)} {x y : σ}
  {A : UniversalAddress} {ev : Commit σ ι ο → Event Message UniversalAddress}

/-- Handing a message over leaves the adapters of another one ready. -/
theorem ready_snoc (hready : (ballot f conf m attest recv reported).Ready l x A) {i : ι} {o : ο}
    {B I : UniversalAddress} {sequence : BitVec 64} (hop : f x i = some (.pickUp B I sequence))
    (hconf : conf y = conf x) :
    (ballot f conf m attest recv reported).Ready (l ++ [⟨x, i, o, y⟩]) y A := by
  obtain ⟨hfresh, j, hindex, henabled⟩ := hready
  refine ⟨fun c hc => ?_, j, ?_, ?_⟩
  · rcases List.mem_append.1 hc with hc | hc
    · exact hfresh c hc
    · obtain rfl := List.mem_singleton.1 hc
      rintro (h | h) <;> exact absurd (hop.symm.trans h) (by simp)
  · rwa [indexOf, hconf]
  · rwa [enabledIndices, hconf]

/-- **A message that is ready is delivered** by an attestation and a receipt. -/
theorem exists_receives (hdelivers : (ballot f conf m attest recv reported).Delivers M init)
    (hop : ∀ s, f s (attest A) = some (.attest A m))
    (hattests : ∀ c : Commit σ ι ο, c.input = attest A → ev c = .attests A m)
    (hreceives : ∀ (c : Commit σ ι ο) enabled attested, c.input = recv →
      reported c.output = some (enabled, attested) → ev c = .receives m attested.card)
    (hpath : M.Path init l x) (hready : (ballot f conf m attest recv reported).Ready l x A) :
    ∃ ext t, M.Path init (l ++ ext) t ∧ Network.Delivers A m (ext.map ev) := by
  have hvote : ∀ c : Commit σ ι ο, M.Valid c → c.input = attest A →
      ¬ (ballot f conf m attest recv reported).consumes c ∧
        ¬ (ballot f conf m attest recv reported).excludes A c := by
    intro c _ hinput
    have hc := hop c.pre
    rw [← hinput] at hc
    constructor
    · rintro (h | h) <;> exact absurd (hc.symm.trans h) (by simp)
    · rintro ⟨signer, h⟩
      exact absurd (hc.symm.trans h) (by simp)
  obtain ⟨votes, c, enabled, attested, j, hpath', -, hvotes, hinput, hreported, hj⟩ :=
    hdelivers.exists_path hpath hready hvote
  refine ⟨_, _, hpath', votes.map ev, attested.card, ?_, Finset.card_pos.2 ⟨j, hj⟩, fun e he => ?_⟩
  · rw [List.map_append, List.map_singleton, hreceives c enabled attested hinput hreported]
  · obtain ⟨d, hd, rfl⟩ := List.mem_map.1 he
    exact hattests d (hvotes d hd).2

end Ready

end GmpRouter.Router
