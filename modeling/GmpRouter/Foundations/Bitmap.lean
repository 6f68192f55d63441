import Mathlib.Data.Finset.Card
import Mathlib.Data.Finset.Range

/-!
# Bitmaps as finite sets of indices

A bitmap of width `w` is the finite set of the indices of its set bits, `indices`. Setting a bit is
insertion, clearing one is erasure (`indices_or_twoPow`, `indices_and_not_twoPow`), and the tests
that programs make on the packed word are tests on the set: the or-ed word is unchanged exactly when
the bit was set (`or_twoPow_eq_self_iff`), the masked word is not smaller exactly when it was clear
(`le_and_not_twoPow_iff`).
-/

namespace GmpRouter.Bitmap

variable {w : ℕ}

/-- The indices of the set bits. -/
def indices (b : BitVec w) : Finset ℕ := (Finset.range w).filter fun i => b.getLsbD i = true

@[simp] theorem mem_indices {b : BitVec w} {i : ℕ} : i ∈ indices b ↔ b.getLsbD i = true := by
  simp only [indices, Finset.mem_filter, Finset.mem_range, and_iff_right_iff_imp]
  exact BitVec.lt_of_getLsbD

theorem lt_of_mem_indices {b : BitVec w} {i : ℕ} (h : i ∈ indices b) : i < w :=
  BitVec.lt_of_getLsbD (mem_indices.1 h)

theorem card_indices_le (b : BitVec w) : (indices b).card ≤ w :=
  (Finset.card_filter_le _ _).trans_eq (Finset.card_range w)

theorem indices_injective : Function.Injective (indices : BitVec w → Finset ℕ) := by
  intro b b' h
  apply BitVec.eq_of_getLsbD_eq
  intro i _
  have := congrArg (i ∈ ·) h
  simpa using this

@[simp] theorem indices_zero : indices (0#w) = ∅ := by
  ext i
  simp

@[simp] theorem indices_eq_empty {b : BitVec w} : indices b = ∅ ↔ b = 0#w :=
  ⟨fun h => indices_injective (h.trans indices_zero.symm), fun h => h ▸ indices_zero⟩

theorem ne_zero_iff {b : BitVec w} : b ≠ 0#w ↔ ∃ i, i ∈ indices b := by
  rw [Ne, ← indices_eq_empty, ← Ne, ← Finset.nonempty_iff_ne_empty]
  rfl

/-! ## Setting and clearing one bit -/

@[simp] theorem mem_indices_twoPow {k i : ℕ} : i ∈ indices (BitVec.twoPow w k) ↔ k < w ∧ k = i := by
  rw [mem_indices, BitVec.getLsbD_twoPow, Bool.and_eq_true, decide_eq_true_eq, decide_eq_true_eq]

theorem indices_or_twoPow (b : BitVec w) {k : ℕ} (hk : k < w) :
    indices (b ||| BitVec.twoPow w k) = insert k (indices b) := by
  ext i
  rw [mem_indices, BitVec.getLsbD_or, Bool.or_eq_true, ← mem_indices, ← mem_indices,
    mem_indices_twoPow, Finset.mem_insert]
  simp only [hk, true_and, or_comm, eq_comm]

theorem indices_and_not_twoPow (b : BitVec w) (k : ℕ) :
    indices (b &&& ~~~BitVec.twoPow w k) = (indices b).erase k := by
  ext i
  by_cases hi : i < w
  · by_cases hik : i = k
    · subst hik
      simp [hi]
    · simp [hi, hik]
  · simp [BitVec.getLsbD_of_ge b i (not_lt.1 hi)]

/-- Or-ing a bit in changes nothing exactly when it was set. -/
theorem or_twoPow_eq_self_iff {b : BitVec w} {k : ℕ} (hk : k < w) :
    b ||| BitVec.twoPow w k = b ↔ k ∈ indices b := by
  rw [← indices_injective.eq_iff, indices_or_twoPow b hk, Finset.insert_eq_self]

/-- Masking with a bit gives zero exactly when it was clear. -/
theorem and_twoPow_eq_zero_iff {b : BitVec w} {k : ℕ} :
    b &&& BitVec.twoPow w k = 0#w ↔ k ∉ indices b := by
  rw [← indices_eq_empty, Finset.eq_empty_iff_forall_notMem]
  simp only [mem_indices, BitVec.getLsbD_and, BitVec.getLsbD_twoPow, Bool.and_eq_true,
    decide_eq_true_eq]
  constructor
  · intro h hk
    exact h k ⟨hk, BitVec.lt_of_getLsbD hk, rfl⟩
  · rintro h i ⟨hi, -, rfl⟩
    exact h hi

theorem zero_lt_and_twoPow_iff {b : BitVec w} {k : ℕ} :
    0#w < b &&& BitVec.twoPow w k ↔ k ∈ indices b := by
  rw [BitVec.pos_iff_ne_zero, Ne, and_twoPow_eq_zero_iff, not_not]

/-- Clearing a bit does not make the word smaller exactly when the bit was clear. -/
theorem le_and_not_twoPow_iff {b : BitVec w} {k : ℕ} :
    b ≤ b &&& ~~~BitVec.twoPow w k ↔ k ∉ indices b := by
  have hle : b &&& ~~~BitVec.twoPow w k ≤ b := by
    rw [BitVec.le_def, BitVec.toNat_and]
    exact Nat.and_le_left
  rw [← Finset.erase_eq_self, ← indices_and_not_twoPow, indices_injective.eq_iff]
  exact ⟨fun h => BitVec.le_antisymm hle h, fun h => h.symm ▸ BitVec.le_refl _⟩

/-! ## Clearing the lowest bit -/

/-- A number and its predecessor have the same bits above the lowest set bit of the number, and no
common bit elsewhere. -/
theorem exists_testBit_and_pred {n : ℕ} (hn : n ≠ 0) : ∃ k, n.testBit k = true ∧
    ∀ i, (n.testBit i = true ∧ (n - 1).testBit i = true) ↔ (n.testBit i = true ∧ i ≠ k) := by
  induction n using Nat.strong_induction_on with
  | _ n ih =>
    by_cases hodd : n % 2 = 1
    · refine ⟨0, by simp [hodd], fun i => ?_⟩
      cases i with
      | zero => simp [show (n - 1) % 2 = 0 by omega]
      | succ i => simp [Nat.testBit_succ, show (n - 1) / 2 = n / 2 by omega]
    · obtain ⟨k, hk, hbits⟩ := ih (n / 2) (by omega) (by omega)
      refine ⟨k + 1, by rwa [Nat.testBit_succ], fun i => ?_⟩
      cases i with
      | zero => simp [hodd]
      | succ i =>
        rw [Nat.testBit_succ, Nat.testBit_succ, show (n - 1) / 2 = n / 2 - 1 by omega, hbits i, Ne,
          Ne, Nat.add_right_cancel_iff]

theorem toNat_ne_zero {b : BitVec w} (hb : b ≠ 0#w) : b.toNat ≠ 0 :=
  fun h => hb (BitVec.eq_of_toNat_eq (by simpa using h))

theorem toNat_sub_one {b : BitVec w} (hb : b ≠ 0#w) : (b - 1#w).toNat = b.toNat - 1 := by
  have hpos := toNat_ne_zero hb
  have hlt := b.isLt
  rw [BitVec.toNat_sub, BitVec.toNat_ofNat]
  have hone : 1 % 2 ^ w = 1 := Nat.mod_eq_of_lt (by omega)
  rw [hone, show 2 ^ w - 1 + b.toNat = b.toNat - 1 + 2 ^ w by omega, Nat.add_mod_right]
  exact Nat.mod_eq_of_lt (by omega)

/-- Masking a word with its predecessor clears one bit, the lowest. -/
theorem exists_indices_and_sub_one {b : BitVec w} (hb : b ≠ 0#w) :
    ∃ k ∈ indices b, indices (b &&& (b - 1#w)) = (indices b).erase k := by
  obtain ⟨k, hk, hbits⟩ := exists_testBit_and_pred (toNat_ne_zero hb)
  refine ⟨k, mem_indices.2 hk, ?_⟩
  ext i
  rw [Finset.mem_erase, mem_indices, mem_indices, BitVec.getLsbD_and, Bool.and_eq_true, and_comm]
  rw [BitVec.getLsbD, BitVec.getLsbD, toNat_sub_one hb, and_comm, hbits i, and_comm]

theorem card_indices_and_sub_one {b : BitVec w} (hb : b ≠ 0#w) :
    (indices (b &&& (b - 1#w))).card + 1 = (indices b).card := by
  obtain ⟨k, hk, hindices⟩ := exists_indices_and_sub_one hb
  rw [hindices, Finset.card_erase_add_one hk]

theorem toNat_and_sub_one_lt {b : BitVec w} (hb : b ≠ 0#w) :
    (b &&& (b - 1#w)).toNat < b.toNat := by
  have hne := toNat_ne_zero hb
  have hle : (b &&& (b - 1#w)).toNat ≤ b.toNat - 1 := by
    rw [BitVec.toNat_and, toNat_sub_one hb]
    exact Nat.and_le_right
  omega

end GmpRouter.Bitmap
