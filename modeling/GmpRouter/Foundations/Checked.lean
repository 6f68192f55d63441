import Mathlib.Logic.Function.Basic

/-!
# Checked computations and updates of mappings

A call of a contract either fails with an error, and then has no effect, or returns. The functions
of the model are written in `Except`, a guard being `require`; the inversion lemmas of this module
turn "the call returned `r`" into the conjunction of its guards and the value it returned, which is
how the specification lemma of every entry point is obtained.

Two-level mappings are curried functions, written with `update₂`.
-/

namespace GmpRouter

/-! ## Guards -/

section Checked

variable {ε α β : Type}

/-- Fail with `e` unless `p` holds. -/
def require (p : Prop) [Decidable p] (e : ε) : Except ε Unit :=
  if p then .ok () else .error e

@[simp] theorem require_eq_ok {p : Prop} [Decidable p] {e : ε} {u : Unit} :
    require p e = .ok u ↔ p := by
  unfold require
  split <;> simp_all

/-- Read an optional value, failing with `e` when it is absent. -/
def orFail (o : Option α) (e : ε) : Except ε α :=
  match o with
  | some a => .ok a
  | none => .error e

@[simp] theorem orFail_eq_ok {o : Option α} {e : ε} {a : α} : orFail o e = .ok a ↔ o = some a := by
  cases o <;> simp [orFail]

/-- A sequence of two computations returns when both do. -/
theorem bind_eq_ok {x : Except ε α} {f : α → Except ε β} {b : β} :
    (x >>= f) = .ok b ↔ ∃ a, x = .ok a ∧ f a = .ok b := by
  cases x <;> simp [bind, Except.bind]

@[simp] theorem require_bind_eq_ok {p : Prop} [Decidable p] {e : ε} {f : Unit → Except ε β}
    {b : β} : (require p e >>= f) = .ok b ↔ p ∧ f () = .ok b := by
  rw [bind_eq_ok]
  constructor
  · rintro ⟨⟨⟩, hp, h⟩
    exact ⟨require_eq_ok.1 hp, h⟩
  · rintro ⟨hp, h⟩
    exact ⟨(), require_eq_ok.2 hp, h⟩

@[simp] theorem orFail_bind_eq_ok {o : Option α} {e : ε} {f : α → Except ε β} {b : β} :
    (orFail o e >>= f) = .ok b ↔ ∃ a, o = some a ∧ f a = .ok b := by
  simp [bind_eq_ok]

@[simp] theorem pure_eq_ok {a b : α} : (pure a : Except ε α) = .ok b ↔ b = a := by
  simp [pure, Except.pure, eq_comm]

theorem isOk_iff {x : Except ε α} : x.isOk = true ↔ ∃ a, x = .ok a := by
  cases x <;> simp [Except.isOk, Except.toBool]

/-! ### Errors -/

section EqError

variable {e e' : ε}

/-- A sequence fails when its first part does, or else its second. -/
theorem bind_eq_error {x : Except ε α} {f : α → Except ε β} :
    (x >>= f) = .error e ↔ x = .error e ∨ ∃ a, x = .ok a ∧ f a = .error e := by
  cases x <;> simp [bind, Except.bind]

@[simp] theorem require_eq_error {p : Prop} [Decidable p] :
    require p e' = .error e ↔ ¬ p ∧ e' = e := by
  unfold require
  split <;> simp_all

theorem require_bind_eq_error {p : Prop} [Decidable p] {f : Unit → Except ε β} :
    (require p e' >>= f) = .error e ↔ (¬ p ∧ e' = e) ∨ (p ∧ f () = .error e) := by
  rw [bind_eq_error, require_eq_error]
  exact or_congr_right ⟨fun ⟨_, hp, h⟩ => ⟨require_eq_ok.1 hp, h⟩,
    fun ⟨hp, h⟩ => ⟨(), require_eq_ok.2 hp, h⟩⟩

end EqError

/-! ### Errors that do not occur -/

section NeError

variable {e e' : ε}

theorem pure_ne_error {a : α} : (pure a : Except ε α) ≠ .error e := by
  simp [pure, Except.pure]

theorem bind_ne_error {x : Except ε α} {f : α → Except ε β} (hx : x ≠ .error e)
    (hf : ∀ a, x = .ok a → f a ≠ .error e) : (x >>= f) ≠ .error e := by
  cases x with
  | ok a => exact hf a rfl
  | error e' => exact fun h => hx (by simpa [bind, Except.bind] using h)

theorem require_bind_ne_error {p : Prop} [Decidable p] {f : Unit → Except ε β} (he : e' ≠ e)
    (hf : p → f () ≠ .error e) : (require p e' >>= f) ≠ .error e := by
  unfold require
  split
  · next hp => exact hf hp
  · simpa [bind, Except.bind] using he

theorem orFail_bind_ne_error {o : Option α} {f : α → Except ε β} (he : e' ≠ e)
    (hf : ∀ a, o = some a → f a ≠ .error e) : (orFail o e' >>= f) ≠ .error e := by
  cases o with
  | some a => exact hf a rfl
  | none => simpa [orFail, bind, Except.bind] using he

end NeError

end Checked

/-! ## Two-level mappings -/

section Update

variable {α β γ : Type*} [DecidableEq α] [DecidableEq β]

/-- Write `v` at `(a, b)` of a mapping of mappings. -/
def update₂ (f : α → β → γ) (a : α) (b : β) (v : γ) : α → β → γ :=
  fun a' b' => if a' = a ∧ b' = b then v else f a' b'

theorem update₂_apply (f : α → β → γ) (a : α) (b : β) (v : γ) (a' : α) (b' : β) :
    update₂ f a b v a' b' = if a' = a ∧ b' = b then v else f a' b' := rfl

@[simp] theorem update₂_self (f : α → β → γ) (a : α) (b : β) (v : γ) : update₂ f a b v a b = v := by
  simp [update₂]

theorem update₂_of_ne {f : α → β → γ} {a a' : α} {b b' : β} {v : γ} (h : ¬ (a' = a ∧ b' = b)) :
    update₂ f a b v a' b' = f a' b' := if_neg h

theorem update₂_left {f : α → β → γ} {a a' : α} {b : β} {v : γ} (h : a' ≠ a) :
    update₂ f a b v a' = f a' := by
  funext b'
  exact update₂_of_ne fun h' => h h'.1

@[simp] theorem update₂_update₂ (f : α → β → γ) (a : α) (b : β) (v w : γ) :
    update₂ (update₂ f a b v) a b w = update₂ f a b w := by
  funext a' b'
  simp only [update₂_apply]
  split <;> rfl

theorem update₂_eq_self {f : α → β → γ} {a : α} {b : β} {v : γ} (h : f a b = v) :
    update₂ f a b v = f := by
  funext a' b'
  rw [update₂_apply]
  split
  · next hsame => rw [hsame.1, hsame.2, h]
  · rfl

theorem update₂_eq_update (f : α → β → γ) (a : α) (b : β) (v : γ) :
    update₂ f a b v a = Function.update (f a) b v := by
  funext b'
  simp only [update₂_apply, true_and, Function.update_apply]

end Update

end GmpRouter
