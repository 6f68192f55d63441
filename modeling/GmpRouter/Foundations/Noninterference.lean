import Mathlib.Data.List.Forall2
import GmpRouter.Foundations.Machine

/-!
# Runs without some of their inputs

Some inputs of a run do not matter for a part of the state when deleting them from the run changes
neither this part nor whether the other inputs succeed. `Machine.kept` lists the inputs that are not
deleted; whether an input is depends on the state in which it comes. The rule is `Unwinding.run`:
with a relation between the states of the two runs, it is enough that a deleted input keeps the
relation, and that an input that is not deleted has the same outcome in related states (`Agree`).
-/

namespace GmpRouter

variable {σ ι ε ο : Type*}

/-- Both results are errors, or both succeed with the same output, in related states. -/
inductive Agree (R : σ → σ → Prop) : Except ε (σ × ο) → Except ε (σ × ο) → Prop
  | ok {s u : σ} (o : ο) : R s u → Agree R (.ok (s, o)) (.ok (u, o))
  | error (e e' : ε) : Agree R (.error e) (.error e')

namespace Agree

variable {R R' : σ → σ → Prop} {x y : Except ε (σ × ο)}

theorem mono (h : Agree R x y) (hR : ∀ s u, R s u → R' s u) : Agree R' x y := by
  cases h with
  | ok o h => exact .ok o (hR _ _ h)
  | error e e' => exact .error e e'

/-- It is enough that each success of one is a success of the other. -/
theorem of_ok (h : ∀ s o, x = .ok (s, o) → ∃ u, y = .ok (u, o) ∧ R s u)
    (h' : ∀ u o, y = .ok (u, o) → ∃ s, x = .ok (s, o)) : Agree R x y := by
  cases x with
  | ok r =>
    obtain ⟨u, rfl, hu⟩ := h r.1 r.2 rfl
    exact .ok r.2 hu
  | error e =>
    cases y with
    | ok r =>
      obtain ⟨s, hs⟩ := h' r.1 r.2 rfl
      cases hs
    | error e' => exact .error e e'

end Agree

namespace Machine

variable {M : Machine σ ι ε ο} {drop : σ → ι → Prop} {R : σ → σ → Prop} {s u : σ}

/-- The inputs with the states in which they come. -/
def attempts (M : Machine σ ι ε ο) : σ → List ι → List (σ × ι)
  | _, [] => []
  | s, i :: is => (s, i) :: M.attempts (M.next s i) is

/-- The inputs that are not dropped. -/
def kept (M : Machine σ ι ε ο) (drop : σ → ι → Prop) [∀ s i, Decidable (drop s i)] (s : σ)
    (is : List ι) : List (σ × ι) :=
  (M.attempts s is).filter fun p => ¬ drop p.1 p.2

/-- The inputs before an attempt lead to its state. -/
theorem mem_attempts {is : List ι} {p : σ × ι} (hp : p ∈ M.attempts s is) :
    ∃ before after, is = before ++ p.2 :: after ∧ p.1 = (M.run s before).1 := by
  induction is generalizing s with
  | nil => cases hp
  | cons i is ih =>
    rcases List.mem_cons.1 hp with rfl | hp
    · exact ⟨[], is, rfl, rfl⟩
    · obtain ⟨before, after, rfl, hstate⟩ := ih hp
      exact ⟨i :: before, after, rfl, by rw [run_cons_fst, hstate]⟩

theorem kept_cons_of_drop [∀ s i, Decidable (drop s i)] {i : ι} (h : drop s i) (is : List ι) :
    M.kept drop s (i :: is) = M.kept drop (M.next s i) is :=
  List.filter_cons_of_neg (by simpa using h)

theorem kept_cons_of_not_drop [∀ s i, Decidable (drop s i)] {i : ι} (h : ¬ drop s i)
    (is : List ι) : M.kept drop s (i :: is) = (s, i) :: M.kept drop (M.next s i) is :=
  List.filter_cons_of_pos (by simpa using h)

/-- The inputs of the run can be dropped without breaking the relation. -/
structure Unwinding (M : Machine σ ι ε ο) (drop : σ → ι → Prop) (R : σ → σ → Prop)
    (attempts : List (σ × ι)) : Prop where
  dropped : ∀ p ∈ attempts, drop p.1 p.2 → ∀ u, R p.1 u → R (M.next p.1 p.2) u
  kept : ∀ p ∈ attempts, ¬ drop p.1 p.2 → ∀ u, R p.1 u → Agree R (M.step p.1 p.2) (M.step u p.2)

theorem next_of_agree {i : ι} (h : Agree R (M.step s i) (M.step u i)) (hR : R s u) :
    R (M.next s i) (M.next u i) := by
  unfold next
  generalize M.step s i = x at h
  generalize M.step u i = y at h
  cases h with
  | ok o h => exact h
  | error e e' => exact hR

/-- **The run without the dropped inputs** goes through related states, and the inputs that are left
have the same outcome in both runs. -/
theorem Unwinding.run [∀ s i, Decidable (drop s i)] {is : List ι}
    (h : M.Unwinding drop R (M.attempts s is)) (hR : R s u) :
    List.Forall₂
        (fun p q => q.2 = p.2 ∧ R p.1 q.1 ∧ Agree R (M.step p.1 p.2) (M.step q.1 q.2))
        (M.kept drop s is) (M.attempts u ((M.kept drop s is).map Prod.snd)) ∧
      R (M.run s is).1 (M.run u ((M.kept drop s is).map Prod.snd)).1 := by
  induction is generalizing s u with
  | nil => exact ⟨.nil, hR⟩
  | cons i is ih =>
    have hrest : M.Unwinding drop R (M.attempts (M.next s i) is) :=
      ⟨fun p hp => h.dropped p (List.mem_cons_of_mem _ hp),
        fun p hp => h.kept p (List.mem_cons_of_mem _ hp)⟩
    rw [run_cons_fst]
    by_cases hi : drop s i
    · rw [kept_cons_of_drop hi]
      exact ih hrest (h.dropped (s, i) (List.mem_cons_self ..) hi u hR)
    · have hagree := h.kept (s, i) (List.mem_cons_self ..) hi u hR
      obtain ⟨hsteps, hfinal⟩ := ih hrest (next_of_agree hagree hR)
      rw [kept_cons_of_not_drop hi, List.map_cons, run_cons_fst]
      exact ⟨.cons ⟨rfl, hR, hagree⟩ hsteps, hfinal⟩

end Machine

end GmpRouter
