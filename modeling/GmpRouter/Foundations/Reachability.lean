import Mathlib.Data.Fintype.EquivFin
import Mathlib.Data.Finset.Piecewise
import GmpRouter.Foundations.Machine

/-!
# Reachability

`M.Reaches P s t`: committed steps of a kind lead from one state to another. It is reflexive and
transitive, and is carried from an abstract machine to a concrete one that can make each of its
steps (`Reaches.lift`).

To show that every assignment of values to finitely many coordinates is reachable, it is enough to
set one coordinate at a time (`rel_of_coordinates`).
-/

namespace GmpRouter

/-- **What can be set coordinate by coordinate can be set.** The values that a coordinate can have
may depend on it. -/
theorem rel_of_coordinates {κ β : Type*} [Finite κ] [DecidableEq κ] {P : κ → β → Prop}
    {R : (κ → β) → (κ → β) → Prop} (refl : ∀ f, R f f) (trans : ∀ f g h, R f g → R g h → R f h)
    (set : ∀ f k v, (∀ k, P k (f k)) → P k v → R f (Function.update f k v)) {f g : κ → β}
    (hf : ∀ k, P k (f k)) (hg : ∀ k, P k (g k)) : R f g := by
  classical
  obtain ⟨_⟩ := nonempty_fintype κ
  have hpiecewise : ∀ S : Finset κ, R f (S.piecewise g f) := by
    intro S
    induction S using Finset.induction with
    | empty => simpa using refl f
    | @insert k S _ ih =>
      rw [Finset.piecewise_insert]
      refine trans _ _ _ ih (set _ k (g k) (fun j => ?_) (hg k))
      exact Finset.piecewise_cases S g f (P j) (hg j) (hf j)
  simpa using hpiecewise Finset.univ

namespace Machine

variable {σ σ' ι ι' ε ε' ο ο' : Type*} {M : Machine σ ι ε ο} {N : Machine σ' ι' ε' ο'}
  {P : σ → ι → Prop} {Q : σ' → ι' → Prop} {s t u : σ} {a b : σ'}

/-- Steps of a kind lead from the first state to the second. -/
def Reaches (M : Machine σ ι ε ο) (P : σ → ι → Prop) (s t : σ) : Prop :=
  ∃ l, M.Path s l t ∧ ∀ c ∈ l, P c.pre c.input

namespace Reaches

theorem refl (s : σ) : M.Reaches P s s := ⟨[], .nil, by simp⟩

theorem single {i : ι} {o : ο} (h : M.step s i = .ok (t, o)) (hi : P s i) : M.Reaches P s t :=
  ⟨_, .single h, by simpa using hi⟩

theorem trans (h : M.Reaches P s t) (h' : M.Reaches P t u) : M.Reaches P s u := by
  obtain ⟨l, hl, hP⟩ := h
  obtain ⟨l', hl', hP'⟩ := h'
  refine ⟨l ++ l', hl.append hl', fun c hc => ?_⟩
  exact (List.mem_append.1 hc).elim (hP c) (hP' c)

/-- What the steps of the kind preserve. -/
theorem invariant {I : σ → Prop} (h : M.Reaches P s t)
    (hI : ∀ ⦃s : σ⦄ ⦃i : ι⦄ ⦃o : ο⦄ ⦃t : σ⦄, M.step s i = .ok (t, o) → P s i → I s → I t)
    (hs : I s) :
    I t := by
  obtain ⟨l, hl, hP⟩ := h
  induction hl with
  | nil => exact hs
  | snoc _ hc ih =>
    exact hI hc (hP _ (by simp)) (ih fun c hc => hP c (List.mem_append_left _ hc))

/-- **What an abstract machine reaches, a machine reaches that can make each of its steps.** -/
theorem lift {R : σ → σ' → Prop}
    (hback : ∀ ⦃s : σ⦄ ⦃a : σ'⦄ ⦃j : ι'⦄ ⦃b : σ'⦄ ⦃p : ο'⦄, R s a →
      N.step a j = .ok (b, p) → Q a j → ∃ i t o, M.step s i = .ok (t, o) ∧ P s i ∧ R t b)
    (h : N.Reaches Q a b) (hR : R s a) : ∃ t, M.Reaches P s t ∧ R t b := by
  obtain ⟨l, hl, hQ⟩ := h
  induction hl with
  | nil => exact ⟨s, .refl s, hR⟩
  | snoc _ hc ih =>
    obtain ⟨t, ht, hRt⟩ := ih fun c hc => hQ c (List.mem_append_left _ hc)
    obtain ⟨i, u, o, hstep, hP, hRu⟩ := hback hRt hc (hQ _ (by simp))
    exact ⟨u, ht.trans (.single hstep hP), hRu⟩

end Reaches

end Machine

end GmpRouter
