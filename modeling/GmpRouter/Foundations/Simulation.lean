import Mathlib.Data.List.Forall2
import GmpRouter.Foundations.Machine

/-!
# Simulations between machines

A machine simulates another when each committed step of the concrete one, from related states, is a
committed step of the abstract one to related states, with labels that correspond (`Simulation`).
Every path of the concrete machine then has a path of the abstract machine beside it, commit by
commit (`Simulation.path`), from which facts about the commits of the one are read as facts about
those of the other (`Matches.exists_right`, `Matches.countP_eq`). Where the concrete log also has
commits that are nothing to the abstract machine, only the others are accompanied (`Accompanies`). A
path is followed on another machine by inputs of that machine that each do what one commit does
(`Path.run_of_follows`).

Two machines are bisimilar on paired inputs when, from related states, both inputs of a pair fail or
both commit, with corresponding outputs and to related states (`Bisimulation`). The relation then
holds after any list of pairs, of which each succeeds for both machines or for none
(`Bisimulation.runs`).
-/

namespace GmpRouter

variable {σ σ' ι ι' ε ε' ο ο' : Type*}

namespace Machine

/-! ## Simulations -/

/-- Commits with related states and corresponding labels. -/
structure Matches (M : Machine σ ι ε ο) (N : Machine σ' ι' ε' ο') (R : σ → σ' → Prop)
    (L : σ → ι → ο → ι' → ο' → Prop) (c : Commit σ ι ο) (d : Commit σ' ι' ο') : Prop where
  pre : R c.pre d.pre
  left : M.Valid c
  right : N.Valid d
  label : L c.pre c.input c.output d.input d.output
  post : R c.post d.post

structure Simulation (M : Machine σ ι ε ο) (N : Machine σ' ι' ε' ο') (R : σ → σ' → Prop)
    (L : σ → ι → ο → ι' → ο' → Prop) : Prop where
  step : ∀ ⦃s : σ⦄ ⦃a : σ'⦄ ⦃i : ι⦄ ⦃t : σ⦄ ⦃o : ο⦄, R s a → M.step s i = .ok (t, o) →
    ∃ j b p, L s i o j p ∧ N.step a j = .ok (b, p) ∧ R t b

variable {M : Machine σ ι ε ο} {N : Machine σ' ι' ε' ο'} {R : σ → σ' → Prop}
  {L : σ → ι → ο → ι' → ο' → Prop} {s t : σ} {a : σ'} {l : List (Commit σ ι ο)}
  {l' : List (Commit σ' ι' ο')}

/-- **Every path of the concrete machine is accompanied by one of the abstract machine.** -/
theorem Simulation.path (S : Simulation M N R L) (h : M.Path s l t) (hR : R s a) :
    ∃ l' b, N.Path a l' b ∧ R t b ∧ List.Forall₂ (Matches M N R L) l l' := by
  induction h with
  | nil => exact ⟨[], a, .nil, hR, .nil⟩
  | @snoc l c _ hc ih =>
    obtain ⟨l', b, hpath, hpre, hmatches⟩ := ih
    obtain ⟨j, b', p, hlabel, hstep, hpost⟩ := S.step hpre hc
    refine ⟨l' ++ [⟨b, j, p, b'⟩], b', hpath.snoc (c := ⟨b, j, p, b'⟩) hstep, hpost, ?_⟩
    exact List.rel_append hmatches (.cons ⟨hpre, hc, hstep, hlabel, hpost⟩ .nil)

/-- Where labels determine the abstract input, the abstract machine makes a step with it. -/
theorem Simulation.step_of_input (S : Simulation M N R L) {f : σ → ι → Option ι'}
    (hf : ∀ s i o j p, L s i o j p → f s i = some j) {i : ι} {o : ο} {j : ι'} (hR : R s a)
    (h : M.step s i = .ok (t, o)) (hj : f s i = some j) :
    ∃ b p, L s i o j p ∧ N.step a j = .ok (b, p) ∧ R t b := by
  obtain ⟨j', b, p, hlabel, hstep, hpost⟩ := S.step hR h
  obtain rfl := Option.some.inj (hj.symm.trans (hf _ _ _ _ _ hlabel))
  exact ⟨b, p, hlabel, hstep, hpost⟩

/-- When that step is known, the concrete one leads to a state that is related to its result. -/
theorem Simulation.rel_of_input (S : Simulation M N R L) {f : σ → ι → Option ι'}
    (hf : ∀ s i o j p, L s i o j p → f s i = some j) {i : ι} {o : ο} {j : ι'} {b : σ'} {p : ο'}
    (hR : R s a) (h : M.step s i = .ok (t, o)) (hj : f s i = some j)
    (hstep : N.step a j = .ok (b, p)) : L s i o j p ∧ R t b := by
  obtain ⟨b', p', hlabel, hstep', hpost⟩ := S.step_of_input hf hR h hj
  obtain ⟨rfl, rfl⟩ := Prod.mk.inj (Except.ok.inj (hstep.symm.trans hstep'))
  exact ⟨hlabel, hpost⟩

theorem Matches.exists_right (h : List.Forall₂ (Matches M N R L) l l') {c : Commit σ ι ο}
    (hc : c ∈ l) : ∃ d ∈ l', Matches M N R L c d := by
  induction h with
  | nil => simp at hc
  | @cons c' d' l l' hcd _ ih =>
    rcases List.mem_cons.1 hc with rfl | hc
    · exact ⟨d', by simp, hcd⟩
    · obtain ⟨d, hd, hm⟩ := ih hc
      exact ⟨d, by simp [hd], hm⟩

theorem Matches.exists_left (h : List.Forall₂ (Matches M N R L) l l') {d : Commit σ' ι' ο'}
    (hd : d ∈ l') : ∃ c ∈ l, Matches M N R L c d := by
  induction h with
  | nil => simp at hd
  | @cons c' d' l l' hcd _ ih =>
    rcases List.mem_cons.1 hd with rfl | hd
    · exact ⟨c', by simp, hcd⟩
    · obtain ⟨c, hc, hm⟩ := ih hd
      exact ⟨c, by simp [hc], hm⟩

/-- Kinds of commits that correspond are equally many. -/
theorem Matches.countP_eq {p : Commit σ ι ο → Prop} {q : Commit σ' ι' ο' → Prop} [DecidablePred p]
    [DecidablePred q] (hpq : ∀ c d, Matches M N R L c d → (p c ↔ q d))
    (h : List.Forall₂ (Matches M N R L) l l') :
    l.countP (fun c => p c) = l'.countP fun d => q d := by
  induction h with
  | nil => rfl
  | cons hcd _ ih =>
    simp only [List.countP_cons, ih, hpq _ _ hcd]

theorem Matches.countP_le {p : Commit σ ι ο → Prop} {q : Commit σ' ι' ο' → Prop} [DecidablePred p]
    [DecidablePred q] (hpq : ∀ c d, Matches M N R L c d → p c → q d)
    (h : List.Forall₂ (Matches M N R L) l l') :
    l.countP (fun c => p c) ≤ l'.countP fun d => q d := by
  induction h with
  | nil => exact Nat.le_refl _
  | @cons c d l l' hcd _ ih =>
    have himp := hpq c d hcd
    simp only [List.countP_cons, decide_eq_true_eq]
    split_ifs <;> first | omega | simp_all

theorem forall₂_trans {α β γ : Type*} {P : α → β → Prop} {Q : β → γ → Prop} {S : α → γ → Prop}
    {as : List α} {bs : List β} {cs : List γ} (hS : ∀ a b c, P a b → Q b c → S a c)
    (h : List.Forall₂ P as bs) (h' : List.Forall₂ Q bs cs) : List.Forall₂ S as cs := by
  induction h generalizing cs with
  | nil =>
    cases h'
    exact .nil
  | cons hab _ ih =>
    cases h' with
    | cons hbc hrest => exact .cons (hS _ _ _ hab hbc) (ih hrest)

/-- What is read of two lists, where their elements say the same. -/
theorem filterMap_eq_of_forall₂ {α β γ : Type*} {Q : α → β → Prop} {f : α → Option γ}
    {g : β → Option γ} {as : List α} {bs : List β} (hfg : ∀ a b, Q a b → f a = g b)
    (h : List.Forall₂ Q as bs) :
    as.filterMap f = bs.filterMap g := by
  induction h with
  | nil => rfl
  | cons hab _ ih => simp only [List.filterMap_cons, hfg _ _ hab, ih]

/-- What is read of the commits, where their correspondents say the same. -/
theorem Matches.filterMap_eq {γ : Type*} {f : Commit σ ι ο → Option γ}
    {g : Commit σ' ι' ο' → Option γ}
    (hfg : ∀ c d, Matches M N R L c d → f c = g d) (h : List.Forall₂ (Matches M N R L) l l') :
    l.filterMap f = l'.filterMap g := filterMap_eq_of_forall₂ hfg h

/-! ## Logs with other commits -/

/-- The commits of a kind are accompanied by a path of the other machine, commit by commit. -/
def Accompanies (N : Machine σ' ι' ε' ο') (Q : Commit σ ι ο → Commit σ' ι' ο' → Prop)
    (visible : Commit σ ι ο → Bool) (a : σ') (l : List (Commit σ ι ο)) (b : σ') : Prop :=
  ∃ l', N.Path a l' b ∧ List.Forall₂ Q (l.filter visible) l'

namespace Accompanies

variable {Q : Commit σ ι ο → Commit σ' ι' ο' → Prop} {visible : Commit σ ι ο → Bool} {b b' : σ'}
  {l₁ l₂ : List (Commit σ ι ο)} {c : Commit σ ι ο}

theorem nil : Accompanies N Q visible a [] a := ⟨[], .nil, .nil⟩

theorem single {i : ι'} {o : ο'} (hstep : N.step a i = .ok (b, o)) (hc : visible c = true)
    (hQ : Q c ⟨a, i, o, b⟩) : Accompanies N Q visible a [c] b :=
  ⟨[⟨a, i, o, b⟩], .single hstep, by simpa [List.filter_cons, hc] using hQ⟩

theorem hidden (hc : visible c = false) : Accompanies N Q visible a [c] a :=
  ⟨[], .nil, by simp [hc]⟩

theorem append (h : Accompanies N Q visible a l₁ b) (h' : Accompanies N Q visible b l₂ b') :
    Accompanies N Q visible a (l₁ ++ l₂) b' := by
  obtain ⟨k₁, hpath₁, hmatch₁⟩ := h
  obtain ⟨k₂, hpath₂, hmatch₂⟩ := h'
  exact ⟨k₁ ++ k₂, hpath₁.append hpath₂, List.filter_append .. ▸ List.rel_append hmatch₁ hmatch₂⟩

end Accompanies

/-! ## Inputs for the commits of a path -/

/-- From every state related to its first one, the input does what the commit does. -/
def Follows (N : Machine σ' ι' ε' ο') (R : σ → σ' → Prop) (O : ο → ο' → Prop) (c : Commit σ ι ο)
    (j : ι') : Prop :=
  ∀ a, R c.pre a → ∃ b p, N.step a j = .ok (b, p) ∧ R c.post b ∧ O c.output p

/-- **Inputs that follow the commits of a path all commit**, and lead to a related state. -/
theorem Path.run_of_follows {O : ο → ο' → Prop} {js : List ι'} (h : M.Path s l t) (hR : R s a)
    (hjs : List.Forall₂ (Follows N R O) l js) : R t (N.run a js).1 ∧
      (N.run a js).2.map Commit.input = js ∧
      List.Forall₂ (fun c d => O c.output d.output) l (N.run a js).2 := by
  induction hjs generalizing s a with
  | nil => exact ⟨h.eq_of_nil ▸ hR, rfl, .nil⟩
  | @cons c j l js hj _ ih =>
    obtain ⟨rfl, -, hrest⟩ := h.of_cons
    obtain ⟨b, p, hstep, hpost, hO⟩ := hj a hR
    rw [run_cons_of_ok hstep]
    obtain ⟨ht, hinputs, hmatches⟩ := ih hrest hpost
    exact ⟨ht, congrArg (List.cons j) hinputs, .cons hO hmatches⟩

/-! ## Bisimulations -/

/-- The inputs of a pair, from related states, both fail, or both commit with outputs and states
that correspond. -/
structure Bisimulation (M : Machine σ ι ε ο) (N : Machine σ' ι' ε' ο') (R : σ → σ' → Prop)
    (P : σ → σ' → ι → ι' → Prop) (O : ο → ο' → Prop) : Prop where
  forth : ∀ ⦃s : σ⦄ ⦃a : σ'⦄ ⦃i : ι⦄ ⦃j : ι'⦄ ⦃t : σ⦄ ⦃o : ο⦄, R s a → P s a i j →
    M.step s i = .ok (t, o) → ∃ b p, N.step a j = .ok (b, p) ∧ R t b ∧ O o p
  back : ∀ ⦃s : σ⦄ ⦃a : σ'⦄ ⦃i : ι⦄ ⦃j : ι'⦄ ⦃b : σ'⦄ ⦃p : ο'⦄, R s a → P s a i j →
    N.step a j = .ok (b, p) → ∃ t o, M.step s i = .ok (t, o) ∧ R t b ∧ O o p

/-- The states that pairs of inputs lead to, a failed input changing nothing. The inputs of a pair
correspond in the states in which they are made. -/
inductive Runs (M : Machine σ ι ε ο) (N : Machine σ' ι' ε' ο') (P : σ → σ' → ι → ι' → Prop)
    (s : σ) (a : σ') : σ → σ' → Prop
  | nil : Runs M N P s a s a
  | snoc {t : σ} {b : σ'} {i : ι} {j : ι'} : Runs M N P s a t b → P t b i j →
      Runs M N P s a (M.next t i) (N.next b j)

variable {P : σ → σ' → ι → ι' → Prop} {O : ο → ο' → Prop} {i : ι} {j : ι'} {b : σ'}

/-- Two lists of inputs that correspond in every state. -/
theorem Runs.run {is : List ι} {js : List ι'} (h : List.Forall₂ (fun i j => ∀ s a, P s a i j) is js)
    (hruns : Runs M N P s a t b) : Runs M N P s a (M.run t is).1 (N.run b js).1 := by
  induction h generalizing t b with
  | nil => exact hruns
  | cons hP _ ih =>
    rw [run_cons_fst, run_cons_fst]
    exact ih (hruns.snoc (hP t b))

theorem Runs.mono {Q : σ → σ' → ι → ι' → Prop} (hPQ : ∀ s a i j, P s a i j → Q s a i j)
    (h : Runs M N P s a t b) : Runs M N Q s a t b := by
  induction h with
  | nil => exact .nil
  | snoc _ hP ih => exact ih.snoc (hPQ _ _ _ _ hP)

namespace Bisimulation

theorem isOk_iff (B : Bisimulation M N R P O) (hR : R s a) (hP : P s a i j) :
    (∃ r, M.step s i = .ok r) ↔ ∃ r, N.step a j = .ok r := by
  constructor
  · rintro ⟨⟨t, o⟩, h⟩
    obtain ⟨b, p, h', -⟩ := B.forth hR hP h
    exact ⟨_, h'⟩
  · rintro ⟨⟨b, p⟩, h⟩
    obtain ⟨t, o, h', -⟩ := B.back hR hP h
    exact ⟨_, h'⟩

theorem next (B : Bisimulation M N R P O) (hR : R s a) (hP : P s a i j) :
    R (M.next s i) (N.next a j) := by
  cases h : M.step s i with
  | ok r =>
    obtain ⟨b, p, h', hpost, -⟩ := B.forth hR hP h
    rwa [next_of_ok h, next_of_ok h']
  | error e =>
    have hfail : ∀ r, N.step a j ≠ .ok r := by
      intro r h'
      obtain ⟨r', hr'⟩ := (B.isOk_iff hR hP).2 ⟨r, h'⟩
      rw [h] at hr'
      cases hr'
    rcases N.next_cases a j with ⟨o, h'⟩ | h'
    · exact absurd h' (hfail _)
    · rwa [h', Machine.next, h]

/-- **Related states stay related along every run of corresponding inputs.** -/
theorem runs (B : Bisimulation M N R P O) (h : Runs M N P s a t b) (hR : R s a) : R t b := by
  induction h with
  | nil => exact hR
  | snoc _ hP ih => exact B.next ih hP

end Bisimulation

end Machine

end GmpRouter
