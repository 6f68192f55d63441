import GmpRouter.Foundations.Machine
import Mathlib.Data.Finset.Defs

/-!
# Votes that nothing stops

An input that is open succeeds whenever it is tried, until it is done, and only some commits close
it (`Awaits`). In a run in which nothing closes it, it is hence done as soon as it was tried once,
whatever else is tried before and after (`Awaits.run`).

A `Ballot` is about one item. Voters vote for it, and it is consumed with the votes that it has. It
delivers when voters that count are enough, whatever everyone else does in the meantime, unless one
of them is excluded or the item is consumed by another input (`Ballot.Delivers`, `Ballot.delivers`).
-/

namespace GmpRouter

variable {σ ι ε ο κ : Type*}

namespace Machine

/-- While the input is open, it succeeds unless it is done, which it then stays. -/
structure Awaits (M : Machine σ ι ε ο) (isOpen done : σ → Prop) (closes : Commit σ ι ο → Prop)
    (i : ι) : Prop where
  stays : ∀ s j o t, M.step s j = .ok (t, o) → isOpen s → ¬ closes ⟨s, j, o, t⟩ → isOpen t
  keeps : ∀ s j o t, M.step s j = .ok (t, o) → isOpen s → done s → done t
  makes : ∀ s, isOpen s → ¬ done s → ∃ t o, M.step s i = .ok (t, o) ∧ done t

variable {M : Machine σ ι ε ο} {isOpen done : σ → Prop} {closes : Commit σ ι ο → Prop}
    {i : ι} {s : σ}

namespace Awaits

/-- Tried in an open state, the input is done afterwards. -/
theorem next (h : M.Awaits isOpen done closes i) (hs : isOpen s) : done (M.next s i) := by
  by_cases hdone : done s
  · rcases M.next_cases s i with ⟨o, hstep⟩ | hsame
    · exact h.keeps _ _ _ _ hstep hs hdone
    · rwa [hsame]
  · obtain ⟨t, o, hstep, ht⟩ := h.makes s hs hdone
    rwa [next_of_ok hstep]

/-- **A run that does not close the input** keeps it open, and leaves it done if it was done before
or tried. -/
theorem run (h : M.Awaits isOpen done closes i) (is : List ι) (hs : isOpen s)
    (hquiet : ∀ c ∈ (M.run s is).2, ¬ closes c) :
    isOpen (M.run s is).1 ∧ (done s ∨ i ∈ is → done (M.run s is).1) := by
  induction is generalizing s with
  | nil => exact ⟨hs, fun hdone => hdone.resolve_right (by simp)⟩
  | cons j is ih =>
    have hdone : done s ∨ i ∈ j :: is → done (M.next s j) ∨ i ∈ is := by
      rintro (hdone | hi)
      · rcases M.next_cases s j with ⟨o, hstep⟩ | hsame
        · exact .inl (h.keeps _ _ _ _ hstep hs hdone)
        · exact .inl (by rwa [hsame])
      · rcases List.mem_cons.1 hi with rfl | hi
        · exact .inl (h.next hs)
        · exact .inr hi
    rw [run_cons_fst]
    cases hstep : M.step s j with
    | error e =>
      rw [run_cons_of_error hstep] at hquiet
      have hsame : M.next s j = s := by rw [Machine.next, hstep]
      rw [hsame] at hdone ⊢
      obtain ⟨hopen, hfinal⟩ := ih hs hquiet
      exact ⟨hopen, hfinal ∘ hdone⟩
    | ok r =>
      obtain ⟨t, o⟩ := r
      rw [run_cons_of_ok hstep] at hquiet
      rw [next_of_ok hstep] at hdone ⊢
      obtain ⟨hopen, hfinal⟩ := ih (h.stays _ _ _ _ hstep hs (hquiet _ (List.mem_cons_self ..)))
        fun c hc => hquiet c (List.mem_cons_of_mem _ hc)
      exact ⟨hopen, hfinal ∘ hdone⟩

end Awaits

end Machine

/-! ## Ballots -/

/-- The votes for one item, by voters that have an index while they count. -/
structure Ballot (σ ι ο κ : Type*) where
  countsAt : σ → κ → ℕ → Prop
  /-- The commit makes the voter count no longer. -/
  excludes : κ → Commit σ ι ο → Prop
  consumes : Commit σ ι ο → Prop
  vote : κ → ι
  consume : ι
  /-- The indices of the voters that count and of those that voted, as reported when the item is
  consumed. -/
  reported : ο → Option (Finset ℕ × Finset ℕ)

namespace Ballot

variable {B : Ballot σ ι ο κ} {M : Machine σ ι ε ο} {init : σ}

/-- **Nothing stops the voters.** Take voters that count in some state reached, of an item that is
not consumed, and any run from there in which each of them tries to vote. Unless a commit of this
run excludes one of the voters or consumes the item, the item can be consumed after the run, and
each of the voters is reported as one that counts and as one that voted. -/
def Delivers (B : Ballot σ ι ο κ) (M : Machine σ ι ε ο) (init : σ) : Prop :=
  ∀ l s is (voters : List κ) (index : κ → ℕ), M.Path init l s → (∀ c ∈ l, ¬ B.consumes c) →
    voters ≠ [] → (∀ v ∈ voters, B.countsAt s v (index v)) → (∀ v ∈ voters, B.vote v ∈ is) →
    (∀ c ∈ (M.run s is).2, ¬ B.consumes c ∧ ∀ v ∈ voters, ¬ B.excludes v c) →
    ∃ t o enabled attested, M.step (M.run s is).1 B.consume = .ok (t, o) ∧
      B.reported o = some (enabled, attested) ∧
      ∀ v ∈ voters, index v ∈ enabled ∧ index v ∈ attested

/-- It is enough that each single vote is open, and that consuming reports what the state has. -/
theorem delivers (isOpen : κ → ℕ → σ → Prop) (enabled attested : σ → Finset ℕ)
    (hopen : ∀ l s v i, M.Path init l s → (∀ c ∈ l, ¬ B.consumes c) → B.countsAt s v i →
      isOpen v i s)
    (hvote : ∀ v i, M.Awaits (isOpen v i) (fun s => i ∈ attested s)
      (fun c => B.consumes c ∨ B.excludes v c) (B.vote v))
    (henabled : ∀ v i s, isOpen v i s → i ∈ enabled s)
    (hconsume : ∀ v i s, isOpen v i s → i ∈ attested s →
      ∃ t o, M.step s B.consume = .ok (t, o) ∧ B.reported o = some (enabled s, attested s)) :
    B.Delivers M init := by
  intro l s is voters index hpath hfresh hne hcounts htried hquiet
  have hfinal : ∀ v ∈ voters, isOpen v (index v) (M.run s is).1 ∧
      index v ∈ attested (M.run s is).1 := by
    intro v hv
    obtain ⟨hstays, hdone⟩ := (hvote v (index v)).run is
      (hopen l s v _ hpath hfresh (hcounts v hv)) fun c hc hcloses =>
        hcloses.elim (hquiet c hc).1 ((hquiet c hc).2 v hv)
    exact ⟨hstays, hdone (.inr (htried v hv))⟩
  obtain ⟨v, hv⟩ := List.exists_mem_of_ne_nil voters hne
  obtain ⟨t, o, hstep, hreported⟩ := hconsume v _ _ (hfinal v hv).1 (hfinal v hv).2
  exact ⟨t, o, _, _, hstep, hreported,
    fun w hw => ⟨henabled w _ _ (hfinal w hw).1, (hfinal w hw).2⟩⟩

/-- The voter counts, and the item is not consumed, after the commits that lead to the state. -/
def Ready (B : Ballot σ ι ο κ) (l : List (Commit σ ι ο)) (s : σ) (v : κ) : Prop :=
  (∀ c ∈ l, ¬ B.consumes c) ∧ ∃ i, B.countsAt s v i

/-- **An item that is ready can be consumed**, after the vote of the voter. -/
theorem Delivers.exists_path (h : B.Delivers M init) {l : List (Commit σ ι ο)} {s : σ} {v : κ}
    (hpath : M.Path init l s) (hready : B.Ready l s v)
    (hvote : ∀ c, M.Valid c → c.input = B.vote v → ¬ B.consumes c ∧ ¬ B.excludes v c) :
    ∃ votes c enabled attested i, M.Path init (l ++ (votes ++ [c])) c.post ∧ M.Valid c ∧
      (∀ d ∈ votes, M.Valid d ∧ d.input = B.vote v) ∧ c.input = B.consume ∧
      B.reported c.output = some (enabled, attested) ∧ i ∈ attested := by
  obtain ⟨hfresh, i, hcounts⟩ := hready
  have hrun : M.Path s (M.run s [B.vote v]).2 (M.run s [B.vote v]).1 := M.run_path ..
  have hvotes : ∀ d ∈ (M.run s [B.vote v]).2, M.Valid d ∧ d.input = B.vote v := by
    intro d hd
    obtain ⟨before, after, heq, -⟩ := Machine.mem_run_iff.1 hd
    exact ⟨hrun.valid hd, List.mem_singleton.1
      (heq ▸ List.mem_append_right _ (List.mem_cons_self ..))⟩
  obtain ⟨t, o, enabled, attested, hstep, hreported, hin⟩ := h l s [B.vote v] [v] (fun _ => i) hpath
    hfresh (by simp) (by simpa using hcounts) (by simp) fun c hc => by
      simpa using hvote c (hvotes c hc).1 (hvotes c hc).2
  refine ⟨(M.run s [B.vote v]).2, ⟨(M.run s [B.vote v]).1, B.consume, o, t⟩, enabled,
    attested, i, ?_, hstep, hvotes, rfl, hreported, (hin v (List.mem_singleton_self v)).2⟩
  exact hpath.append (hrun.append (.single hstep))

end Ballot

end GmpRouter
