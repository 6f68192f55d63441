import Mathlib.Data.List.Basic
import Mathlib.Data.List.Count
import GmpRouter.Foundations.Checked

/-!
# Machines with rollback, and their histories

A `Machine` has a step function that either commits, with a new state and an output, or fails and
leaves no trace. Its histories are the lists of its commits: `Path s l t` says that the commits `l`
lead from `s` to `t`. A `run` of a list of inputs is a path, the failed inputs being skipped
(`run_path`); an execution with nested calls is one too, once each of its atomic parts is a commit.

The rules the developments below use are

* `Path.invariant`: what every step preserves holds along every path;
* `Path.of_append_cons`, `Path.split`: a commit of a path divides it into a path to its pre-state
  and one from its post-state;
* `Latch`: a fact that never becomes false again, and the commits that make it true. Along a path
  it holds at the end exactly when it held before or one of these commits occurred
  (`Latch.iff_exists`), and when such a commit needs the fact to be false there is at most one
  (`Latch.countP_le_one`);
* `Switch`: a fact that some commits make true and others false. Along a path from a state where it
  is false it holds at the end exactly when the last of these commits made it true
  (`Switch.iff_lastOn`).
-/

namespace GmpRouter

variable {σ ι ε ο : Type*}

/-- A state machine whose inputs may fail. -/
structure Machine (σ ι ε ο : Type*) where
  step : σ → ι → Except ε (σ × ο)

/-- A committed input, with the states around it. -/
structure Commit (σ ι ο : Type*) where
  pre : σ
  input : ι
  output : ο
  post : σ

namespace Machine

variable (M : Machine σ ι ε ο)

/-- The commit is a step of the machine. -/
def Valid (c : Commit σ ι ο) : Prop := M.step c.pre c.input = .ok (c.post, c.output)

/-- The commits of `l` lead from the first state to the last. -/
inductive Path (s : σ) : List (Commit σ ι ο) → σ → Prop
  | nil : Path s [] s
  | snoc {l : List (Commit σ ι ο)} {c : Commit σ ι ο} :
      Path s l c.pre → M.Valid c → Path s (l ++ [c]) c.post

variable {M}

namespace Path

variable {s t u : σ} {l l' : List (Commit σ ι ο)}

theorem single {i : ι} {o : ο} (h : M.step s i = .ok (t, o)) : M.Path s [⟨s, i, o, t⟩] t :=
  (Path.nil (M := M)).snoc (c := ⟨s, i, o, t⟩) h

theorem append (h : M.Path s l t) (h' : M.Path t l' u) : M.Path s (l ++ l') u := by
  induction h' with
  | nil => simpa using h
  | snoc _ hc ih =>
    rw [← List.append_assoc]
    exact ih.snoc hc

/-- A commit of a path is a step, and divides the path in two. -/
theorem of_append_cons {c : Commit σ ι ο} (h : M.Path s (l ++ c :: l') t) :
    M.Path s l c.pre ∧ M.Valid c ∧ M.Path c.post l' t := by
  generalize hk : l ++ c :: l' = k at h
  induction h generalizing l' with
  | nil => simp at hk
  | @snoc k d h hd ih =>
    rcases List.eq_nil_or_concat' l' with rfl | ⟨l', e, rfl⟩
    · obtain ⟨rfl, he⟩ := List.append_inj' hk rfl
      obtain rfl : c = d := by simpa using he
      exact ⟨h, hd, .nil⟩
    · rw [← List.cons_append, ← List.append_assoc] at hk
      obtain ⟨hinit, hlast⟩ := List.append_inj' hk rfl
      obtain rfl : e = d := by simpa using hlast
      obtain ⟨h₁, hv, h₂⟩ := ih hinit
      exact ⟨h₁, hv, h₂.snoc hd⟩

theorem eq_of_nil (h : M.Path s [] t) : t = s := by
  generalize hk : ([] : List (Commit σ ι ο)) = k at h
  cases h with
  | nil => rfl
  | snoc => simp at hk

theorem unique (h : M.Path s l t) (h' : M.Path s l u) : t = u := by
  cases h with
  | nil => exact h'.eq_of_nil.symm
  | snoc => exact h'.of_append_cons.2.2.eq_of_nil.symm

/-- The first commit of a path. -/
theorem of_cons {c : Commit σ ι ο} (h : M.Path s (c :: l) t) :
    c.pre = s ∧ M.Valid c ∧ M.Path c.post l t := by
  obtain ⟨hpre, hvalid, hrest⟩ := of_append_cons (l := []) h
  exact ⟨hpre.eq_of_nil, hvalid, hrest⟩

theorem split (h : M.Path s l t) {c : Commit σ ι ο} (hc : c ∈ l) :
    ∃ l₁ l₂, l = l₁ ++ c :: l₂ ∧ M.Path s l₁ c.pre ∧ M.Valid c ∧ M.Path c.post l₂ t := by
  obtain ⟨l₁, l₂, rfl⟩ := List.append_of_mem hc
  exact ⟨l₁, l₂, rfl, h.of_append_cons⟩

theorem valid (h : M.Path s l t) {c : Commit σ ι ο} (hc : c ∈ l) : M.Valid c := by
  obtain ⟨l₁, l₂, -, -, hv, -⟩ := h.split hc
  exact hv

end Path

/-! ## Invariants -/

/-- `I` is preserved by every step. -/
def Invariant (M : Machine σ ι ε ο) (I : σ → Prop) : Prop :=
  ∀ ⦃s : σ⦄ ⦃i : ι⦄ ⦃o : ο⦄ ⦃t : σ⦄, M.step s i = .ok (t, o) → I s → I t

theorem Path.invariant {I : σ → Prop} (hI : M.Invariant I) {s t : σ} {l : List (Commit σ ι ο)}
    (h : M.Path s l t) (hs : I s) : I t := by
  induction h with
  | nil => exact hs
  | snoc _ hc ih => exact hI hc ih

/-- What every step with an input of a kind preserves holds along a path of such inputs. -/
theorem Path.invariant_on {P : ι → Prop} {I : σ → Prop}
    (hI : ∀ ⦃s : σ⦄ ⦃i : ι⦄ ⦃o : ο⦄ ⦃t : σ⦄, M.step s i = .ok (t, o) → P i → I s → I t)
    {s t : σ} {l : List (Commit σ ι ο)} (h : M.Path s l t) (hP : ∀ c ∈ l, P c.input) (hs : I s) :
    I t := by
  induction h with
  | nil => exact hs
  | snoc _ hc ih =>
    exact hI hc (hP _ (by simp)) (ih fun c hc => hP c (List.mem_append_left _ hc))

/-- A reflexive and transitive relation that every step respects relates the ends of a path. -/
theorem Path.rel {I : σ → Prop} (hI : M.Invariant I) {r : σ → σ → Prop} (refl : ∀ s, r s s)
    (trans : ∀ s t u, r s t → r t u → r s u)
    (hr : ∀ ⦃s : σ⦄ ⦃i : ι⦄ ⦃o : ο⦄ ⦃t : σ⦄, M.step s i = .ok (t, o) → I s → r s t)
    {s t : σ} {l : List (Commit σ ι ο)} (h : M.Path s l t) (hs : I s) : r s t := by
  induction h with
  | nil => exact refl _
  | snoc h hc ih => exact trans _ _ _ ih (hr hc (h.invariant hI hs))

/-- A view of the state is the fold of the outputs, when every output tells how it changes. -/
theorem Path.foldl_eq {γ : Type*} {I : σ → Prop} (hI : M.Invariant I) (view : σ → γ)
    (apply : γ → ο → γ)
    (hview : ∀ ⦃s : σ⦄ ⦃i : ι⦄ ⦃o : ο⦄ ⦃t : σ⦄, M.step s i = .ok (t, o) → I s →
      view t = apply (view s) o)
    {s t : σ} {l : List (Commit σ ι ο)} (h : M.Path s l t) (hs : I s) :
    l.foldl (fun x c => apply x c.output) (view s) = view t := by
  induction h with
  | nil => rfl
  | snoc h hc ih =>
    rw [List.foldl_append, ih, List.foldl_cons, List.foldl_nil]
    exact (hview hc (h.invariant hI hs)).symm

/-! ## Runs -/

/-- The state after an input; a failed one changes nothing. -/
def next (M : Machine σ ι ε ο) (s : σ) (i : ι) : σ :=
  match M.step s i with
  | .ok (t, _) => t
  | .error _ => s

theorem next_of_ok {M : Machine σ ι ε ο} {s t : σ} {i : ι} {o : ο} (h : M.step s i = .ok (t, o)) :
    M.next s i = t := by
  rw [next, h]

/-- An input either commits or changes nothing. -/
theorem next_cases (M : Machine σ ι ε ο) (s : σ) (i : ι) :
    (∃ o, M.step s i = .ok (M.next s i, o)) ∨ M.next s i = s := by
  cases h : M.step s i with
  | ok r => exact .inl ⟨r.2, by rw [next_of_ok h]⟩
  | error e => exact .inr (by rw [next, h])

/-- The state after a list of inputs, and the commits on the way. -/
def run (M : Machine σ ι ε ο) : σ → List ι → σ × List (Commit σ ι ο)
  | s, [] => (s, [])
  | s, i :: is =>
    match M.step s i with
    | .ok (t, o) => ((M.run t is).1, ⟨s, i, o, t⟩ :: (M.run t is).2)
    | .error _ => M.run s is

theorem run_path (M : Machine σ ι ε ο) (s : σ) (is : List ι) :
    M.Path s (M.run s is).2 (M.run s is).1 := by
  induction is generalizing s with
  | nil => exact .nil
  | cons i is ih =>
    unfold run
    split
    · next t o h => simpa using (Path.single h).append (ih t)
    · exact ih s

theorem run_append (M : Machine σ ι ε ο) (s : σ) (is js : List ι) :
    M.run s (is ++ js) =
      ((M.run (M.run s is).1 js).1, (M.run s is).2 ++ (M.run (M.run s is).1 js).2) := by
  induction is generalizing s with
  | nil => simp [run]
  | cons i is ih =>
    simp only [List.cons_append, run]
    split <;> simp [ih]

theorem run_cons_of_ok {M : Machine σ ι ε ο} {s t : σ} {i : ι} {o : ο} (h : M.step s i = .ok (t, o))
    (is : List ι) : M.run s (i :: is) = ((M.run t is).1, ⟨s, i, o, t⟩ :: (M.run t is).2) := by
  rw [run, h]

theorem run_cons_of_error {M : Machine σ ι ε ο} {s : σ} {i : ι} {e : ε} (h : M.step s i = .error e)
    (is : List ι) : M.run s (i :: is) = M.run s is := by
  rw [run, h]

theorem run_cons_fst (M : Machine σ ι ε ο) (s : σ) (i : ι) (is : List ι) :
    (M.run s (i :: is)).1 = (M.run (M.next s i) is).1 := by
  rw [run, next]
  split <;> rfl

theorem run_fst (M : Machine σ ι ε ο) (s : σ) (is : List ι) :
    (M.run s is).1 = is.foldl M.next s := by
  induction is generalizing s with
  | nil => rfl
  | cons i is ih => rw [run_cons_fst, ih, List.foldl_cons]

/-- The commits of a run are its inputs that succeed where the inputs before them lead. -/
theorem mem_run_iff {M : Machine σ ι ε ο} {s : σ} {is : List ι} {c : Commit σ ι ο} :
    c ∈ (M.run s is).2 ↔ ∃ before after, is = before ++ c.input :: after ∧
      c.pre = (M.run s before).1 ∧ M.Valid c := by
  constructor
  · intro hc
    induction is generalizing s with
    | nil => simp [run] at hc
    | cons i is ih =>
      cases h : M.step s i with
      | ok r =>
        rw [run_cons_of_ok h, List.mem_cons] at hc
        rcases hc with rfl | hc
        · exact ⟨[], is, rfl, rfl, h⟩
        · obtain ⟨before, after, rfl, hpre, hvalid⟩ := ih hc
          refine ⟨i :: before, after, rfl, ?_, hvalid⟩
          rw [hpre, run_cons_of_ok h]
      | error e =>
        rw [run_cons_of_error h] at hc
        obtain ⟨before, after, rfl, hpre, hvalid⟩ := ih hc
        refine ⟨i :: before, after, rfl, ?_, hvalid⟩
        rw [hpre, run_cons_of_error h]
  · rintro ⟨before, after, rfl, hpre, hvalid⟩
    have hstep : M.step (M.run s before).1 c.input = .ok (c.post, c.output) := hpre ▸ hvalid
    rw [run_append, run_cons_of_ok hstep, ← hpre]
    simp

/-! ## Latches -/

/-- A fact that stays true once it is, and the commits that make it true, for steps from the states
of an invariant. -/
structure Latch (M : Machine σ ι ε ο) (I : σ → Prop) (flag : σ → Prop)
    (fires : Commit σ ι ο → Prop) : Prop where
  invariant : M.Invariant I
  step : ∀ ⦃s : σ⦄ ⦃i : ι⦄ ⦃o : ο⦄ ⦃t : σ⦄, M.step s i = .ok (t, o) → I s →
    (flag t ↔ flag s ∨ fires ⟨s, i, o, t⟩)

namespace Latch

variable {I flag : σ → Prop} {fires : Commit σ ι ο → Prop} {s t : σ} {l : List (Commit σ ι ο)}

/-- A latch is closed at the end of a path exactly when it was at its start or fired on it. -/
theorem iff_exists (L : M.Latch I flag fires) (h : M.Path s l t) (hs : I s) :
    flag t ↔ flag s ∨ ∃ c ∈ l, fires c := by
  induction h with
  | nil => simp
  | snoc h hc ih =>
    rw [L.step hc (h.invariant L.invariant hs), ih]
    simp [or_and_right, exists_or, or_assoc]

theorem mono (L : M.Latch I flag fires) (h : M.Path s l t) (hs : I s) (hf : flag s) : flag t :=
  (L.iff_exists h hs).2 (.inl hf)

/-- When a latch only fires while it is open, it does not fire on a path on which it starts
closed. -/
theorem countP_eq_zero [DecidablePred fires] (L : M.Latch I flag fires)
    (once : ∀ ⦃s : σ⦄ ⦃i : ι⦄ ⦃o : ο⦄ ⦃t : σ⦄, M.step s i = .ok (t, o) → I s →
      fires ⟨s, i, o, t⟩ → ¬ flag s)
    (h : M.Path s l t) (hs : I s) (hf : flag s) : l.countP (fun c => fires c) = 0 := by
  rw [List.countP_eq_zero]
  intro c hc
  obtain ⟨l₁, l₂, -, h₁, hv, -⟩ := h.split hc
  have hpre := h₁.invariant L.invariant hs
  simpa using fun hfire => once hv hpre hfire (L.mono h₁ hs hf)

/-- **A latch that only fires while it is open fires at most once.** -/
theorem countP_le_one [DecidablePred fires] (L : M.Latch I flag fires)
    (once : ∀ ⦃s : σ⦄ ⦃i : ι⦄ ⦃o : ο⦄ ⦃t : σ⦄, M.step s i = .ok (t, o) → I s →
      fires ⟨s, i, o, t⟩ → ¬ flag s)
    (h : M.Path s l t) (hs : I s) : l.countP (fun c => fires c) ≤ 1 := by
  by_cases hex : ∃ c ∈ l, fires c
  · obtain ⟨c, hc, hfire⟩ := hex
    obtain ⟨l₁, l₂, rfl, h₁, hv, h₂⟩ := h.split hc
    have hpre := h₁.invariant L.invariant hs
    have hopen := once hv hpre hfire
    have hclosed := (L.step hv hpre).2 (.inr hfire)
    have hzero₂ := L.countP_eq_zero once h₂ (L.invariant hv hpre) hclosed
    have hzero₁ : l₁.countP (fun c => fires c) = 0 := by
      rw [List.countP_eq_zero]
      intro d hd
      simpa using fun hd' => hopen ((L.iff_exists h₁ hs).2 (.inr ⟨d, hd, hd'⟩))
    simp [List.countP_append, hzero₁, hzero₂, hfire]
  · have : l.countP (fun c => fires c) = 0 := by
      rw [List.countP_eq_zero]
      intro c hc
      simpa using fun hfire => hex ⟨c, hc, hfire⟩
    omega

end Latch

/-! ## Switches -/

/-- A fact that the commits `on` make true, the other commits `off` make false, and no other commit
changes, for steps from the states of an invariant. -/
structure Switch (M : Machine σ ι ε ο) (I : σ → Prop) (flag : σ → Prop)
    (on off : Commit σ ι ο → Prop) : Prop where
  invariant : M.Invariant I
  step : ∀ ⦃s : σ⦄ ⦃i : ι⦄ ⦃o : ο⦄ ⦃t : σ⦄, M.step s i = .ok (t, o) → I s →
    (flag t ↔ on ⟨s, i, o, t⟩ ∨ flag s ∧ ¬ off ⟨s, i, o, t⟩)

/-- The last commit of the list that is in one of the two sets is in the first. -/
def LastOn (on off : Commit σ ι ο → Prop) (l : List (Commit σ ι ο)) : Prop :=
  ∃ l₁ c l₂, l = l₁ ++ c :: l₂ ∧ on c ∧ ∀ d ∈ l₂, ¬ on d ∧ ¬ off d

section LastOn

variable {on off : Commit σ ι ο → Prop} {l : List (Commit σ ι ο)} {c : Commit σ ι ο}

theorem not_lastOn_nil : ¬ LastOn on off [] := by
  rintro ⟨l₁, c, l₂, h, -⟩
  simp at h

theorem lastOn_snoc :
    LastOn on off (l ++ [c]) ↔ on c ∨ LastOn on off l ∧ ¬ off c := by
  constructor
  · rintro ⟨l₁, d, l₂, h, hd, hquiet⟩
    rcases List.eq_nil_or_concat' l₂ with rfl | ⟨l₂, e, rfl⟩
    · obtain ⟨-, hcd⟩ := List.append_inj' h rfl
      obtain rfl : c = d := by simpa using hcd
      exact .inl hd
    · rw [← List.cons_append, ← List.append_assoc] at h
      obtain ⟨rfl, hce⟩ := List.append_inj' h rfl
      obtain rfl : c = e := by simpa using hce
      refine .inr ⟨⟨l₁, d, l₂, rfl, hd, fun e he => hquiet e (List.mem_append_left _ he)⟩, ?_⟩
      exact (hquiet c (by simp)).2
  · rintro (hc | ⟨⟨l₁, d, l₂, rfl, hd, hquiet⟩, hoff⟩)
    · exact ⟨l, c, [], rfl, hc, by simp⟩
    · by_cases hc : on c
      · exact ⟨l₁ ++ d :: l₂, c, [], rfl, hc, by simp⟩
      · refine ⟨l₁, d, l₂ ++ [c], by simp, hd, fun e he => ?_⟩
        rcases List.mem_append.1 he with he | he
        · exact hquiet e he
        · rw [List.mem_singleton.1 he]
          exact ⟨hc, hoff⟩

end LastOn

/-- **A switch that starts off is on exactly when it was switched on last.** -/
theorem Switch.iff_lastOn {I flag : σ → Prop} {on off : Commit σ ι ο → Prop}
    (S : M.Switch I flag on off) {s t : σ} {l : List (Commit σ ι ο)} (h : M.Path s l t) (hs : I s)
    (hoff : ¬ flag s) : flag t ↔ LastOn on off l := by
  induction h with
  | nil => exact iff_of_false hoff not_lastOn_nil
  | snoc h hc ih => rw [S.step hc (h.invariant S.invariant hs), lastOn_snoc, ih]

end Machine

end GmpRouter
