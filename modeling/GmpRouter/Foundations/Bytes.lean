import Mathlib.Algebra.Group.Nat.Defs
import Mathlib.Data.List.Induction
import Mathlib.Data.Set.Function

/-!
# Big-endian byte strings

`beBytes n x` is the big-endian encoding of `x` in `n` bytes. It has length `n` and, when the `n`
bytes hold every bit of `x`, determines it. Concatenations of parts of fixed lengths are decoded
with `List.append_inj`. `beWord w bs` reads a byte string back (`beBytes_beWord`, `beWord_beBytes`).
Writing the most significant byte first, or reversing the little-endian encoding, gives the same
bytes (`toBeBytes_eq`, `reverse_leBytes`).
-/

namespace GmpRouter

abbrev Byte := BitVec 8

/-- The big-endian encoding in `n` bytes. -/
def beBytes {w : ℕ} (n : ℕ) (x : BitVec w) : List Byte :=
  (List.range n).reverse.map fun i => x.extractLsb' (8 * i) 8

@[simp] theorem length_beBytes {w : ℕ} (n : ℕ) (x : BitVec w) : (beBytes n x).length = n := by
  simp [beBytes]

theorem beBytes_injective {w n : ℕ} (h : w ≤ 8 * n) :
    Function.Injective (beBytes n : BitVec w → List Byte) := by
  intro x y hxy
  have hbyte : ∀ i < n, x.extractLsb' (8 * i) 8 = y.extractLsb' (8 * i) 8 := by
    unfold beBytes at hxy
    rw [List.map_inj_left] at hxy
    exact fun i hi => hxy i (by simpa using hi)
  apply BitVec.eq_of_getLsbD_eq
  intro i hi
  have hbit := congrArg (BitVec.getLsbD · (i % 8)) (hbyte (i / 8) (by omega))
  simpa [Nat.mod_lt, Nat.div_add_mod] using hbit

theorem beBytes_inj {w n : ℕ} (h : w ≤ 8 * n) {x y : BitVec w} :
    beBytes n x = beBytes n y ↔ x = y := (beBytes_injective h).eq_iff

theorem beBytes_succ {w : ℕ} (n : ℕ) (x : BitVec w) :
    beBytes (n + 1) x = x.extractLsb' (8 * n) 8 :: beBytes n x := by
  rw [beBytes, List.range_succ, List.reverse_append]
  rfl

theorem beBytes_succ' {w : ℕ} (n : ℕ) (x : BitVec w) :
    beBytes (n + 1) x = beBytes n (x >>> 8) ++ [x.setWidth 8] := by
  have hlow : x.extractLsb' (8 * 0) 8 = x.setWidth 8 := by
    apply BitVec.eq_of_getLsbD_eq
    intro i hi
    simp [hi]
  rw [beBytes, List.range_succ_eq_map, List.reverse_cons, List.map_append, List.map_singleton, hlow,
    ← List.map_reverse, List.map_map, beBytes]
  refine congrArg (· ++ _) (List.map_congr_left fun i _ => ?_)
  apply BitVec.eq_of_getLsbD_eq
  intro j hj
  simp only [Function.comp_apply, BitVec.getLsbD_extractLsb', BitVec.getLsbD_ushiftRight]
  congr 2
  omega

/-! ## Other encoders -/

/-- The bytes of a number of `n` bytes from the most significant one on. -/
def toBeBytes {w : ℕ} : ℕ → BitVec w → List Byte
  | 0, _ => []
  | n + 1, x => (x >>> (8 * n)).setWidth 8 :: toBeBytes n x

/-- The little-endian encoding in `n` bytes. -/
def leBytes {w : ℕ} : ℕ → BitVec w → List Byte
  | 0, _ => []
  | n + 1, x => x.setWidth 8 :: leBytes n (x >>> 8)

theorem toBeBytes_eq {w : ℕ} (n : ℕ) (x : BitVec w) : toBeBytes n x = beBytes n x := by
  induction n with
  | zero => rfl
  | succ n ih =>
    rw [toBeBytes, ih, beBytes_succ]
    refine congrArg (· :: _) ?_
    apply BitVec.eq_of_getLsbD_eq
    intro i hi
    simp [hi]

theorem reverse_leBytes {w : ℕ} (n : ℕ) (x : BitVec w) : (leBytes n x).reverse = beBytes n x := by
  induction n generalizing x with
  | zero => rfl
  | succ n ih => rw [leBytes, List.reverse_cons, ih, beBytes_succ']

/-! ## Decoding -/

/-- The number that the bytes are the big-endian digits of. -/
def beNat (bs : List Byte) : ℕ := bs.foldl (fun n b => 256 * n + b.toNat) 0

/-- The word of `w` bits that the bytes encode. -/
def beWord (w : ℕ) (bs : List Byte) : BitVec w := BitVec.ofNat w (beNat bs)

theorem beNat_concat (bs : List Byte) (b : Byte) :
    beNat (bs ++ [b]) = 256 * beNat bs + b.toNat := by
  simp [beNat]

theorem beNat_lt (bs : List Byte) : beNat bs < 256 ^ bs.length := by
  induction bs using List.reverseRecOn with
  | nil => simp [beNat]
  | append_singleton bs b ih =>
    have hb := b.isLt
    rw [beNat_concat, List.length_append, List.length_singleton, Nat.pow_succ]
    omega

theorem beNat_digits (bs : List Byte) :
    ((List.range bs.length).reverse.map fun i => BitVec.ofNat 8 (beNat bs / 256 ^ i)) = bs := by
  induction bs using List.reverseRecOn with
  | nil => rfl
  | append_singleton bs b ih =>
    have hb := b.isLt
    have hdiv : ∀ i, beNat (bs ++ [b]) / 256 ^ (i + 1) = beNat bs / 256 ^ i := by
      intro i
      rw [beNat_concat, Nat.pow_succ', ← Nat.div_div_eq_div_mul]
      congr 1
      omega
    have hlast : BitVec.ofNat 8 (beNat (bs ++ [b]) / 256 ^ 0) = b := by
      apply BitVec.eq_of_toNat_eq
      rw [BitVec.toNat_ofNat, beNat_concat]
      omega
    rw [List.length_append, List.length_singleton, List.range_succ_eq_map, List.reverse_cons,
      List.map_append, List.map_singleton, hlast, ← List.map_reverse, List.map_map]
    refine congrArg (· ++ [b]) ?_
    conv_rhs => rw [← ih]
    refine List.map_congr_left fun i _ => ?_
    rw [Function.comp_apply, Nat.succ_eq_add_one, hdiv]

/-- A byte string is the encoding of the word that it encodes. -/
theorem beBytes_beWord {w : ℕ} {bs : List Byte} (h : w = 8 * bs.length) :
    beBytes bs.length (beWord w bs) = bs := by
  conv_rhs => rw [← beNat_digits bs]
  refine List.map_congr_left fun i _ => ?_
  have hpow : 2 ^ w = 256 ^ bs.length := by rw [h, Nat.pow_mul]
  apply BitVec.eq_of_toNat_eq
  rw [BitVec.extractLsb'_toNat, beWord, BitVec.toNat_ofNat, BitVec.toNat_ofNat, hpow,
    Nat.mod_eq_of_lt (beNat_lt bs), Nat.shiftRight_eq_div_pow, Nat.pow_mul]

/-- Byte strings of one length that encode the same word are equal. -/
theorem beWord_inj {w : ℕ} {bs bs' : List Byte} (hlength : bs.length = bs'.length)
    (h : w = 8 * bs.length) (heq : beWord w bs = beWord w bs') : bs = bs' := by
  rw [← beBytes_beWord h, heq, hlength, beBytes_beWord (hlength ▸ h)]

theorem beWord_beBytes {w n : ℕ} (h : w = 8 * n) (x : BitVec w) : beWord w (beBytes n x) = x := by
  apply beBytes_injective h.le
  have hlength : (beBytes n x).length = n := length_beBytes n x
  have hword : beBytes (beBytes n x).length (beWord w (beBytes n x)) = beBytes n x :=
    beBytes_beWord (by rw [hlength, h])
  rwa [hlength] at hword

end GmpRouter
