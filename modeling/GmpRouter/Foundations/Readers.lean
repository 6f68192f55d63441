import Mathlib.Data.List.Basic

/-!
# Readers of an unbounded stream

A buffer followed by whatever the memory holds after it is a stream `f : ℕ → β`, and a reader that
makes no bounds check takes an offset to a value and the offset after it. It cannot fail: it decodes
*some* value wherever it starts. What makes it useful is `Inverts`: the value it returns is the only
one whose encoding stands at the offset, and it moves by the length of that encoding. The notion is
kept by repetition (`Inverts.repeated`), so that a loop of reads recovers exactly the list whose
encodings stand one after the other, and a buffer is an encoding if and only if the loop ends at its
length (`eq_of_at_getD`).

A reader never returns to an offset that it has passed, so one function `f` also stands for a memory
that changes between the reads.
-/

namespace GmpRouter.Readers

variable {α β : Type*} {f : ℕ → β} {o : ℕ}

/-! ## Lists in a stream -/

/-- The list stands at the offset of the stream. -/
def At (f : ℕ → β) : ℕ → List β → Prop
  | _, [] => True
  | o, x :: l => f o = x ∧ At f (o + 1) l

@[simp] theorem at_nil : At f o [] := trivial

theorem at_cons {x : β} {l : List β} : At f o (x :: l) ↔ f o = x ∧ At f (o + 1) l := Iff.rfl

theorem at_append {l l' : List β} : At f o (l ++ l') ↔ At f o l ∧ At f (o + l.length) l' := by
  induction l generalizing o with
  | nil => simp
  | cons x l ih =>
    rw [List.cons_append, at_cons, at_cons, ih, List.length_cons, and_assoc, Nat.add_right_comm,
      Nat.add_assoc]

/-- The `n` values from an offset on. -/
def window (f : ℕ → β) (o n : ℕ) : List β := (List.range n).map fun i => f (o + i)

@[simp] theorem length_window {n : ℕ} : (window f o n).length = n := by
  simp [window]

theorem window_succ {n : ℕ} : window f o (n + 1) = f o :: window f (o + 1) n := by
  rw [window, List.range_succ_eq_map, List.map_cons, List.map_map, window]
  refine congrArg (f o :: ·) (List.map_congr_left fun i _ => congrArg f ?_)
  simp only [Nat.succ_eq_add_one]
  omega

/-- A list stands at an offset when it is the window of its length there. -/
theorem at_iff_window {l : List β} : At f o l ↔ window f o l.length = l := by
  induction l generalizing o with
  | nil => simp [window]
  | cons x l ih => rw [at_cons, ih, List.length_cons, window_succ, List.cons.injEq]

theorem at_window (n : ℕ) : At f o (window f o n) := by
  rw [at_iff_window, length_window]

/-- Two lists of one length that stand at the same offset are equal. -/
theorem At.eq {l l' : List β} (h : At f o l) (h' : At f o l') (hlength : l.length = l'.length) :
    l = l' := by
  rw [← at_iff_window.1 h, ← at_iff_window.1 h', hlength]

/-! ## Readers -/

/-- **The reader inverts the encoder.** The value it reads is valid, its encoding stands at the
offset and ends at the next offset, and no other valid value has an encoding there. -/
structure Inverts (f : ℕ → β) (read : ℕ → α × ℕ) (encode : α → List β) (Valid : α → Prop) :
    Prop where
  valid : ∀ o, Valid (read o).1
  at_encode : ∀ o, At f o (encode (read o).1)
  next_eq : ∀ o, (read o).2 = o + (encode (read o).1).length
  unique : ∀ o a, Valid a → At f o (encode a) → (read o).1 = a

/-- Read `n` values, one after the other. -/
def repeated (read : ℕ → α × ℕ) : ℕ → ℕ → List α × ℕ
  | 0, o => ([], o)
  | n + 1, o =>
    let (a, o) := read o
    let (l, o) := repeated read n o
    (a :: l, o)

@[simp] theorem length_repeated {read : ℕ → α × ℕ} {n : ℕ} :
    (repeated read n o).1.length = n := by
  induction n generalizing o with
  | zero => rfl
  | succ n ih => simp [repeated, ih]

/-- `n` reads recover the list of the `n` values whose encodings stand one after the other. -/
theorem Inverts.repeated {read : ℕ → α × ℕ} {encode : α → List β} {Valid : α → Prop}
    (h : Inverts f read encode Valid) (n : ℕ) :
    Inverts f (Readers.repeated read n) (List.flatMap encode)
      fun l => l.length = n ∧ ∀ a ∈ l, Valid a := by
  induction n with
  | zero =>
    refine ⟨fun o => ⟨rfl, ?_⟩, fun o => trivial, fun o => rfl, fun o l hl _ => ?_⟩
    · simp [Readers.repeated]
    · exact (List.length_eq_zero_iff.1 hl.1).symm
  | succ n ih =>
    refine ⟨fun o => ⟨length_repeated, ?_⟩, fun o => ?_, fun o => ?_, fun o l hl hat => ?_⟩
    · intro a ha
      rcases List.mem_cons.1 ha with rfl | ha
      · exact h.valid o
      · exact (ih.valid _).2 a ha
    · have htail := ih.at_encode (read o).2
      rw [h.next_eq] at htail
      rw [Readers.repeated, List.flatMap_cons, at_append, h.next_eq]
      exact ⟨h.at_encode o, htail⟩
    · rw [Readers.repeated, List.flatMap_cons, List.length_append, ← Nat.add_assoc, ← h.next_eq]
      exact ih.next_eq _
    · obtain ⟨a, l, rfl⟩ := List.exists_cons_of_length_eq_add_one hl.1
      rw [List.flatMap_cons, at_append] at hat
      have ha := h.unique o a (hl.2 a (List.mem_cons_self ..)) hat.1
      have hl' : l.length = n ∧ ∀ a ∈ l, Valid a :=
        ⟨Nat.succ.inj hl.1, fun b hb => hl.2 b (List.mem_cons_of_mem _ hb)⟩
      have hnext : (read o).2 = o + (encode a).length := by rw [h.next_eq, ha]
      rw [← hnext] at hat
      change (read o).1 :: (Readers.repeated read n (read o).2).1 = a :: l
      rw [ha, ih.unique _ l hl' hat.2]

/-! ## Buffers -/

theorem window_getD (e : List β) (g : ℕ → β) :
    window (fun i => e.getD i (g i)) 0 e.length = e := by
  refine List.ext_getElem length_window fun i hi _ => ?_
  rw [length_window] at hi
  simp [window, hi]

/-- A buffer stands at its own start, whatever follows it. -/
theorem at_getD_self (e : List β) (g : ℕ → β) : At (fun i => e.getD i (g i)) 0 e := by
  rw [at_iff_window, window_getD]

/-- A list that stands at the start of a buffer, and is as long, is the buffer. -/
theorem eq_of_at_getD {e l : List β} {g : ℕ → β} (h : At (fun i => e.getD i (g i)) 0 l)
    (hlength : l.length = e.length) : l = e :=
  h.eq (at_getD_self e g) hlength

end GmpRouter.Readers
