import GmpRouter.Foundations.Noninterference

/-!
# Machines in independent parts

Each input of a machine belongs to a part of the state, changes no other part and depends on no
other (`Machine.Partition`). Along a path, the inputs of a part then determine this part and their
outputs (`Partition.path`). If also whether an input succeeds depends on its part only, a run does
to each part what the inputs of this part do alone (`Partition.run`), so that of an interleaving
only the order within each part matters (`Partition.run_of_filter`).
-/

namespace GmpRouter.Machine

variable {σ ι ε ο κ : Type*} {M : Machine σ ι ε ο} {owner : ι → κ} {Same : κ → σ → σ → Prop}
  {s u t v : σ} {k : κ} {i : ι}

/-- States with the same part `k` are `Same k`; an input changes the part of its owner only, and
what it does to it depends on it only. -/
structure Partition (M : Machine σ ι ε ο) (owner : ι → κ) (Same : κ → σ → σ → Prop) : Prop where
  equivalence : ∀ k, Equivalence (Same k)
  others : ∀ s i t o, M.step s i = .ok (t, o) → ∀ k, k ≠ owner i → Same k s t
  own : ∀ s i t o u v p, M.step s i = .ok (t, o) → M.step u i = .ok (v, p) →
    Same (owner i) s u → p = o ∧ Same (owner i) t v

namespace Partition

variable (P : M.Partition owner Same)

include P

section Path

variable {l l' : List (Commit σ ι ο)}

theorem same_of_quiet (h : M.Path s l t) (hquiet : ∀ c ∈ l, owner c.input ≠ k) : Same k s t := by
  induction h with
  | nil => exact (P.equivalence k).refl _
  | @snoc l c _ hc ih =>
    have hbefore := ih fun d hd => hquiet d (List.mem_append_left _ hd)
    exact (P.equivalence k).trans hbefore (P.others _ _ _ _ hc k (Ne.symm (hquiet c (by simp))))

/-- **The inputs of a part determine it along a path**, and their outputs. -/
theorem path [DecidableEq κ] (h : M.Path s l t) (h' : M.Path u l' v) (hsame : Same k s u)
    (hinputs : (l.filter (owner ·.input = k)).map Commit.input =
      (l'.filter (owner ·.input = k)).map Commit.input) :
    Same k t v ∧ (l.filter (owner ·.input = k)).map Commit.output =
      (l'.filter (owner ·.input = k)).map Commit.output := by
  have hequiv := P.equivalence k
  generalize hx : l.filter (owner ·.input = k) = x at hinputs ⊢
  generalize hx' : l'.filter (owner ·.input = k) = x' at hinputs ⊢
  induction x generalizing s u l l' x' with
  | nil =>
    obtain rfl : x' = [] := List.map_eq_nil_iff.1 hinputs.symm
    have hst := P.same_of_quiet h (by simpa using List.filter_eq_nil_iff.1 hx)
    have huv := P.same_of_quiet h' (by simpa using List.filter_eq_nil_iff.1 hx')
    exact ⟨hequiv.trans (hequiv.symm hst) (hequiv.trans hsame huv), rfl⟩
  | cons c x ih =>
    obtain _ | ⟨c', x'⟩ := x'
    · cases hinputs
    obtain ⟨hinput, hrest⟩ := List.cons.inj hinputs
    -- both paths up to and including the first input of the part
    obtain ⟨l₁, l₂, rfl, hquiet, hc, hx⟩ := List.filter_eq_cons_iff.1 hx
    obtain ⟨l₁', l₂', rfl, hquiet', hc', hx'⟩ := List.filter_eq_cons_iff.1 hx'
    obtain ⟨hbefore, hvalid, hafter⟩ := h.of_append_cons
    obtain ⟨hbefore', hvalid', hafter'⟩ := h'.of_append_cons
    have hst := P.same_of_quiet hbefore (by simpa using hquiet)
    have huv := P.same_of_quiet hbefore' (by simpa using hquiet')
    have hpre : Same k c.pre c'.pre := hequiv.trans (hequiv.symm hst) (hequiv.trans hsame huv)
    obtain rfl : owner c.input = k := of_decide_eq_true hc
    have hvalid' : M.step c'.pre c.input = .ok (c'.post, c'.output) := hinput ▸ hvalid'
    obtain ⟨houtput, hpost⟩ := P.own _ _ _ _ _ _ _ hvalid hvalid' hpre
    obtain ⟨hfinal, houtputs⟩ := ih hafter hafter' hpost hx x' hx' hrest
    exact ⟨hfinal, by rw [List.map_cons, List.map_cons, houtput, houtputs]⟩

end Path

end Partition

/-! ## Runs -/

/-- The inputs of a list, each with its output if it succeeds where it comes. -/
def answers (M : Machine σ ι ε ο) (s : σ) (is : List ι) : List (ι × Option ο) :=
  (M.attempts s is).map fun p => (p.2, (M.step p.1 p.2).toOption.map Prod.snd)

theorem answers_cons (s : σ) (i : ι) (is : List ι) : M.answers s (i :: is) =
    (i, (M.step s i).toOption.map Prod.snd) :: M.answers (M.next s i) is := rfl

/-- Whether an input succeeds depends on its part only. -/
def DecidedBy (M : Machine σ ι ε ο) (owner : ι → κ) (Same : κ → σ → σ → Prop) : Prop :=
  ∀ s i t o u, M.step s i = .ok (t, o) → Same (owner i) s u → ∃ v p, M.step u i = .ok (v, p)

namespace Partition

variable (P : M.Partition owner Same) (D : M.DecidedBy owner Same)

include P D

theorem agree (h : Same (owner i) s u) : Agree (Same (owner i)) (M.step s i) (M.step u i) := by
  refine .of_ok (fun t o hstep => ?_) fun v p hstep => ?_
  · obtain ⟨v, p, hstep'⟩ := D _ _ _ _ _ hstep h
    obtain ⟨rfl, hpost⟩ := P.own _ _ _ _ _ _ _ hstep hstep' h
    exact ⟨v, hstep', hpost⟩
  · obtain ⟨t, o, hstep'⟩ := D _ _ _ _ _ hstep ((P.equivalence _).symm h)
    obtain ⟨rfl, -⟩ := P.own _ _ _ _ _ _ _ hstep' hstep h
    exact ⟨t, hstep'⟩

theorem toOption_eq (h : Same (owner i) s u) :
    (M.step s i).toOption.map Prod.snd = (M.step u i).toOption.map Prod.snd := by
  have hagree := P.agree D h
  generalize M.step s i = x at hagree
  generalize M.step u i = y at hagree
  cases hagree <;> rfl

variable [DecidableEq κ]

/-- **The inputs of a part alone** leave it as the whole run does, with the same answers. -/
theorem run (h : Same k s u) (is : List ι) :
    Same k (M.run s is).1 (M.run u (is.filter (owner · = k))).1 ∧
      (M.answers s is).filter (owner ·.1 = k) = M.answers u (is.filter (owner · = k)) := by
  induction is generalizing s u with
  | nil => exact ⟨h, rfl⟩
  | cons i is ih =>
    rw [run_cons_fst, answers_cons]
    by_cases hi : owner i = k
    · subst hi
      obtain ⟨hrun, hanswers⟩ := ih (next_of_agree (P.agree D h) h)
      rw [List.filter_cons_of_pos (by simp), List.filter_cons_of_pos (by simp), run_cons_fst,
        answers_cons, hanswers, P.toOption_eq D h]
      exact ⟨hrun, rfl⟩
    · have hnext : Same k s (M.next s i) := by
        rcases M.next_cases s i with ⟨o, hstep⟩ | hsame
        · exact P.others _ _ _ _ hstep k (Ne.symm hi)
        · rw [hsame]
          exact (P.equivalence k).refl s
      rw [List.filter_cons_of_neg (by simpa using hi), List.filter_cons_of_neg (by simpa using hi)]
      exact ih ((P.equivalence k).trans ((P.equivalence k).symm hnext) h)

/-- **Only the order within each part matters**: two lists with the same inputs of each part, in the
same order, lead to the same parts and give each input the same answer. -/
theorem run_of_filter {is js : List ι}
    (hfilter : ∀ k, is.filter (owner · = k) = js.filter (owner · = k)) (k : κ) :
    Same k (M.run s is).1 (M.run s js).1 ∧
      (M.answers s is).filter (owner ·.1 = k) = (M.answers s js).filter (owner ·.1 = k) := by
  obtain ⟨hrun, hanswers⟩ := P.run D ((P.equivalence k).refl s) is
  obtain ⟨hrun', hanswers'⟩ := P.run D ((P.equivalence k).refl s) js
  rw [← hfilter] at hrun' hanswers'
  exact ⟨(P.equivalence k).trans hrun ((P.equivalence k).symm hrun'), hanswers.trans hanswers'.symm⟩

end Partition

end GmpRouter.Machine
