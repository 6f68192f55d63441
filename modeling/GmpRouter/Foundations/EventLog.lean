import GmpRouter.Foundations.Machine

/-!
# Event logs

The outputs of a machine carry events, and an observer who sees only these keeps a view of the
state, which it updates with every event. `Coherent` says that each event of a list fits the view
that the events before it lead to. When the events of every step lead from the view of its state to
that of the next one and fit on the way, the events of every path do (`Path.discovers`).
-/

namespace GmpRouter

section Coherent

variable {γ η : Type*} {update : γ → η → γ} {fits : γ → η → Prop} {x : γ} {es es' : List η} {e : η}

/-- Each event fits what the events before it lead to. -/
def Coherent (update : γ → η → γ) (fits : γ → η → Prop) (x : γ) (es : List η) : Prop :=
  ∀ before e after, es = before ++ e :: after → fits (before.foldl update x) e

theorem coherent_nil : Coherent update fits x [] := by
  intro before e after h
  simp at h

theorem coherent_cons :
    Coherent update fits x (e :: es) ↔ fits x e ∧ Coherent update fits (update x e) es := by
  constructor
  · intro h
    exact ⟨h [] e es rfl, fun before e' after hes => h (e :: before) e' after (by rw [hes]; rfl)⟩
  · rintro ⟨he, hes⟩ before e' after h
    cases before with
    | nil =>
      obtain ⟨rfl, -⟩ := List.cons_eq_cons.1 h
      exact he
    | cons b before =>
      obtain ⟨rfl, rfl⟩ := List.cons_eq_cons.1 h
      exact hes before e' after rfl

theorem coherent_singleton : Coherent update fits x [e] ↔ fits x e := by
  rw [coherent_cons, and_iff_left coherent_nil]

theorem coherent_append : Coherent update fits x (es ++ es') ↔
    Coherent update fits x es ∧ Coherent update fits (es.foldl update x) es' := by
  induction es generalizing x with
  | nil => simp only [List.nil_append, List.foldl_nil, coherent_nil, true_and]
  | cons e es ih => rw [List.cons_append, coherent_cons, coherent_cons, ih, List.foldl_cons,
    and_assoc]

end Coherent

namespace Machine

variable {σ ι ε ο γ η : Type*} {M : Machine σ ι ε ο} {events : ο → List η} {view : σ → γ}
  {update : γ → η → γ} {fits : γ → η → Prop}

/-- The events of a list of commits, in order. -/
def eventsOf (events : ο → List η) (l : List (Commit σ ι ο)) : List η :=
  l.flatMap fun c => events c.output

theorem eventsOf_append {l l' : List (Commit σ ι ο)} :
    eventsOf events (l ++ l') = eventsOf events l ++ eventsOf events l' :=
  List.flatMap_append

/-- The events lead from one view to the other, and fit on the way. -/
structure Discovers (update : γ → η → γ) (fits : γ → η → Prop) (x : γ) (es : List η) (y : γ) :
    Prop where
  foldl_eq : es.foldl update x = y
  coherent : Coherent update fits x es

theorem Discovers.nil {x : γ} : Discovers update fits x [] x := ⟨rfl, coherent_nil⟩

theorem Discovers.single {x y : γ} {e : η} (hfits : fits x e) (h : update x e = y) :
    Discovers update fits x [e] y :=
  ⟨h, coherent_singleton.2 hfits⟩

/-- **The events of a path lead from the view of its start to that of its end**, when those of every
step do. -/
theorem Path.discovers {I : σ → Prop} (hI : M.Invariant I)
    (hstep : ∀ ⦃s : σ⦄ ⦃i : ι⦄ ⦃o : ο⦄ ⦃t : σ⦄, M.step s i = .ok (t, o) → I s →
      Discovers update fits (view s) (events o) (view t))
    {s t : σ} {l : List (Commit σ ι ο)} (h : M.Path s l t) (hs : I s) :
    Discovers update fits (view s) (eventsOf events l) (view t) := by
  induction h with
  | nil => exact .nil
  | @snoc l c h hc ih =>
    have hlast := hstep hc (h.invariant hI hs)
    rw [eventsOf_append]
    refine ⟨?_, coherent_append.2 ⟨ih.coherent, ?_⟩⟩
    · rw [List.foldl_append, ih.foldl_eq]
      simpa [eventsOf] using hlast.foldl_eq
    · rw [ih.foldl_eq]
      simpa [eventsOf] using hlast.coherent

end Machine

end GmpRouter
