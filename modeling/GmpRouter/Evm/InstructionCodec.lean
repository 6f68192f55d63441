import GmpRouter.Evm.AdapterInstructions
import GmpRouter.Foundations.Readers

/-!
# Parsing accepts what the encoder writes

`parseInstructions` reads counts, indices and lengths from wherever its offset has come to, the
memory after the buffer included, and only then compares the offset with the length of the buffer.
This module shows that the one comparison is enough. A read of an instruction inverts `bytes`
(`inverts_parseInstruction`), so the loop finds the only list of instructions whose encodings stand
one after the other from its offset on; when it ends at the length of the buffer, the buffer is the
encoding of that list (`parseInstructions_eq_ok`). The sparse array that it returns holds, for each
adapter, the last instruction with its index (`getElem?_slots`).

`Denotes` is the relation between a byte string and the instructions in it, in the terms of the
encoder, and `parse_exact` says that the parser decides it.
-/

namespace GmpRouter.Evm.AdapterInstructions

open Readers (At Inverts repeated)

variable {encoded : List Byte} {mem : ℕ → Byte} {n o : ℕ} {l : List Instruction}

/-! ## The encoder -/

/-- The encoding of an instruction whose payload fits. -/
def bytes (instruction : Instruction) : List Byte :=
  [instruction.index] ++ beBytes 2 (BitVec.ofNat 16 instruction.payload.length) ++
    instruction.payload

/-- The payload fits the length field. -/
def Fits (instruction : Instruction) : Prop := instruction.payload.length ≤ 65535

theorem encodeInstruction_eq_ok {i : Instruction} :
    encodeInstruction i = .ok encoded ↔ Fits i ∧ encoded = bytes i := by
  simp only [encodeInstruction, require_bind_eq_ok, pure_eq_ok, Fits, bytes]

theorem encodeLoop_eq_ok {acc : List Byte} :
    encodeLoop l acc = .ok encoded ↔ (∀ i ∈ l, Fits i) ∧ encoded = acc ++ l.flatMap bytes := by
  induction l generalizing acc with
  | nil => simp [encodeLoop, eq_comm]
  | cons i l ih =>
    simp only [encodeLoop, bind_eq_ok, encodeInstruction_eq_ok, ih, List.forall_mem_cons,
      List.flatMap_cons]
    constructor
    · rintro ⟨_, ⟨hi, rfl⟩, hl, rfl⟩
      exact ⟨⟨hi, hl⟩, List.append_assoc ..⟩
    · rintro ⟨⟨hi, hl⟩, rfl⟩
      exact ⟨_, ⟨hi, rfl⟩, hl, (List.append_assoc ..).symm⟩

theorem encodeInstructions_eq_ok : encodeInstructions l = .ok encoded ↔
    l.length ≤ 255 ∧ (∀ i ∈ l, Fits i) ∧ encoded = BitVec.ofNat 8 l.length :: l.flatMap bytes := by
  simp only [encodeInstructions, require_bind_eq_ok]
  refine and_congr_right fun _ => ?_
  simp only [bind_eq_ok, encodeLoop_eq_ok, List.nil_append, pure_eq_ok]
  constructor
  · rintro ⟨_, ⟨hl, rfl⟩, rfl⟩
    exact ⟨hl, rfl⟩
  · rintro ⟨hl, rfl⟩
    exact ⟨_, ⟨hl, rfl⟩, rfl⟩

/-! ## Reading an instruction -/

theorem beBytes_append (a b : Byte) : beBytes 2 (a ++ b : BitVec 16) = [a, b] := by
  have hbit : ∀ i, (a ++ b : BitVec 16).getLsbD i =
      if i < 8 then b.getLsbD i else a.getLsbD (i - 8) := fun i => BitVec.getLsbD_append
  have hhigh : (a ++ b : BitVec 16).extractLsb' (8 * 1) 8 = a := by
    apply BitVec.eq_of_getLsbD_eq
    intro i hi
    rw [BitVec.getLsbD_extractLsb', hbit]
    simp [hi]
  have hlow : (a ++ b : BitVec 16).extractLsb' (8 * 0) 8 = b := by
    apply BitVec.eq_of_getLsbD_eq
    intro i hi
    rw [BitVec.getLsbD_extractLsb', hbit]
    simp [hi]
  rw [beBytes_succ, beBytes_succ, hhigh, hlow]
  rfl

/-- The length field at an offset, as the parser reads it. -/
theorem at_length {f : ℕ → Byte} {length : BitVec 16} :
    At f o (beBytes 2 length) ↔ (f o ++ f (o + 1) : BitVec 16) = length := by
  rw [← beBytes_inj (n := 2) (by omega), beBytes_append, Readers.at_iff_window]
  rfl

/-- The instruction at an offset: its index, its length and its payload. -/
theorem at_bytes {f : ℕ → Byte} {i : Instruction} : At f o (bytes i) ↔
    f o = i.index ∧
      (f (o + 1) ++ f (o + 2) : BitVec 16) = BitVec.ofNat 16 i.payload.length ∧
      At f (o + 3) i.payload := by
  rw [bytes, Readers.at_append, List.singleton_append, Readers.at_cons, at_length, List.length_cons,
    length_beBytes, and_assoc]

theorem length_bytes (i : Instruction) : (bytes i).length = i.payload.length + 3 := by
  rw [bytes, List.length_append, List.length_append, length_beBytes, List.length_singleton]
  omega

/-- The instruction that the parser reads at an offset. -/
theorem parseInstructionUnchecked_eq : parseInstructionUnchecked encoded mem o =
    (⟨byteAt encoded mem o, Readers.window (byteAt encoded mem) (o + 3)
        (byteAt encoded mem (o + 1) ++ byteAt encoded mem (o + 2) : BitVec 16).toNat⟩,
      o + 3 + (byteAt encoded mem (o + 1) ++ byteAt encoded mem (o + 2) : BitVec 16).toNat) := rfl

/-- **A read of an instruction inverts its encoding**, whatever it reads. -/
theorem inverts_parseInstruction :
    Inverts (byteAt encoded mem) (parseInstructionUnchecked encoded mem) bytes Fits := by
  refine ⟨fun o => ?_, fun o => ?_, fun o => ?_, fun o i hfits hat => ?_⟩
  · rw [parseInstructionUnchecked_eq, Fits, Readers.length_window]
    exact Nat.le_of_lt_succ (BitVec.isLt _)
  · rw [parseInstructionUnchecked_eq, at_bytes, Readers.length_window, BitVec.ofNat_toNat,
      BitVec.setWidth_eq]
    exact ⟨rfl, rfl, Readers.at_window _⟩
  · rw [parseInstructionUnchecked_eq, length_bytes, Readers.length_window]
    omega
  · obtain ⟨hindex, hlength, hpayload⟩ := at_bytes.1 hat
    have hsize : (BitVec.ofNat 16 i.payload.length).toNat = i.payload.length := by
      rw [BitVec.toNat_ofNat, Nat.mod_eq_of_lt (by unfold Fits at hfits; omega)]
    rw [parseInstructionUnchecked_eq, hindex, hlength, hsize, Readers.at_iff_window.1 hpayload]

/-- A single instruction is parsed from its encoding only. -/
theorem parseInstruction_eq_ok {i : Instruction} :
    parseInstruction encoded mem = .ok i ↔ encodeInstruction i = .ok encoded := by
  have hread : Inverts (byteAt encoded mem) _ _ _ := inverts_parseInstruction
  simp only [parseInstruction, checkLength, require_bind_eq_ok, pure_eq_ok, encodeInstruction_eq_ok]
  constructor
  · rintro ⟨hlength, rfl⟩
    rw [hread.next_eq, Nat.zero_add] at hlength
    exact ⟨hread.valid 0, (Readers.eq_of_at_getD (hread.at_encode 0) hlength.symm).symm⟩
  · rintro ⟨hfits, rfl⟩
    have hi := hread.unique 0 i hfits (Readers.at_getD_self _ mem)
    refine ⟨?_, hi.symm⟩
    rw [hread.next_eq, hi, Nat.zero_add]

/-! ## The loop -/

/-- Every index is that of one of the `n` adapters. -/
def InRange (n : ℕ) (l : List Instruction) : Prop := ∀ i ∈ l, i.index.toNat < n

/-- Write the instructions to the slots of their indices, in order. -/
def place (l : List Instruction) (instructions : List Instruction) : List Instruction :=
  l.foldl (fun t i => t.set i.index.toNat i) instructions

/-- The loop returns when all the indices that it reads are in range. -/
theorem parseLoop_eq_ok {c o' : ℕ} {t t' : List Instruction} :
    parseLoop encoded mem n c o t = .ok (t', o') ↔
      InRange n (repeated (parseInstructionUnchecked encoded mem) c o).1 ∧
        t' = place (repeated (parseInstructionUnchecked encoded mem) c o).1 t ∧
        o' = (repeated (parseInstructionUnchecked encoded mem) c o).2 := by
  induction c generalizing o t with
  | zero =>
    simp only [parseLoop, repeated, InRange, place, Except.ok.injEq, Prod.mk.injEq,
      List.not_mem_nil, false_implies, implies_true, List.foldl_nil, true_and]
    rw [eq_comm (a := t), eq_comm (a := o)]
  | succ c ih =>
    simp only [parseLoop, require_bind_eq_ok, ih, repeated, InRange, place, List.forall_mem_cons,
      List.foldl_cons, and_assoc]

/-- The instructions, as they are stored for `n` adapters. -/
def slots (n : ℕ) (l : List Instruction) : List Instruction := place l (List.replicate n {})

theorem toNat_count (h : l.length ≤ 255) : (BitVec.ofNat 8 l.length).toNat = l.length := by
  rw [BitVec.toNat_ofNat, Nat.mod_eq_of_lt (by omega)]

/-- On a non-empty string the parser returns when its loop does, at the end of the string. -/
theorem parseInstructions_cons {count : Byte} {rest : List Byte} {t : List Instruction} :
    parseInstructions (count :: rest) mem n = .ok t ↔
      parseLoop (count :: rest) mem n count.toNat 1 (List.replicate n {}) =
        .ok (t, (count :: rest).length) := by
  change (parseLoop _ mem n count.toNat 1 (List.replicate n {}) >>= fun p =>
    checkLength _ p.2 >>= fun _ => pure p.1) = .ok t ↔ _
  simp only [bind_eq_ok, checkLength, require_eq_ok, pure_eq_ok]
  constructor
  · rintro ⟨⟨t, o⟩, hloop, -, rfl, rfl⟩
    exact hloop
  · intro hloop
    exact ⟨_, hloop, (), rfl, rfl⟩

/-- The parser returns on the empty string and on the encodings. -/
theorem parseInstructions_eq_ok {t : List Instruction} :
    parseInstructions encoded mem n = .ok t ↔
      (encoded = [] ∧ t = slots n []) ∨
        ∃ l, encodeInstructions l = .ok encoded ∧ InRange n l ∧ t = slots n l := by
  rcases encoded with _ | ⟨count, rest⟩
  · have hnone : ∀ l, encodeInstructions l ≠ .ok [] := fun l h => by
      simpa using (encodeInstructions_eq_ok.1 h).2.2
    simp [parseInstructions, slots, place, hnone]
  have hread : Inverts (byteAt (count :: rest) mem) _ _ _ :=
    inverts_parseInstruction.repeated count.toNat
  have hbuffer := Readers.at_getD_self (count :: rest) mem
  simp only [parseInstructions_cons, parseLoop_eq_ok, false_or, reduceCtorEq, false_and]
  constructor
  · rintro ⟨hrange, rfl, hend⟩
    obtain ⟨hcount, hfits⟩ := hread.valid 1
    refine ⟨_, encodeInstructions_eq_ok.2 ⟨?_, hfits, ?_⟩, hrange, rfl⟩
    · rw [hcount]
      exact Nat.le_of_lt_succ count.isLt
    · rw [hread.next_eq] at hend
      rw [hcount, BitVec.ofNat_toNat, BitVec.setWidth_eq]
      refine (Readers.eq_of_at_getD (Readers.at_cons.2 ⟨rfl, hread.at_encode 1⟩) ?_).symm
      rw [hend, List.length_cons, Nat.add_comm]
  · rintro ⟨l, hl, hrange, rfl⟩
    obtain ⟨hlength, hfits, hbytes⟩ := encodeInstructions_eq_ok.1 hl
    obtain ⟨rfl, rfl⟩ := List.cons.inj hbytes
    have hl := hread.unique 1 l ⟨(toNat_count hlength).symm, hfits⟩ hbuffer.2
    refine ⟨by rwa [hl], by rw [hl]; rfl, ?_⟩
    rw [hread.next_eq, hl, List.length_cons, Nat.add_comm]

/-! ## The sparse array -/

/-- The last instruction for the adapter at an index, or the zero instruction. -/
def lastAt (l : List Instruction) (j : ℕ) : Instruction :=
  (l.filter fun i => i.index.toNat = j).getLastD {}

theorem length_place {t : List Instruction} : (place l t).length = t.length := by
  induction l generalizing t with
  | nil => rfl
  | cons i l ih => exact ih.trans List.length_set

theorem getD_place {t : List Instruction} {j : ℕ} (hj : j < t.length) {d : Instruction} :
    (place l t).getD j d = (l.filter fun i => i.index.toNat = j).getLastD (t.getD j d) := by
  induction l generalizing t with
  | nil => rfl
  | cons i l ih =>
    have hset := ih (t := t.set i.index.toNat i) (by rwa [List.length_set])
    rw [place, List.foldl_cons, ← place, hset]
    by_cases hi : i.index.toNat = j
    · subst hi
      rw [List.filter_cons_of_pos (by simp), List.getLastD_cons]
      simp [hj]
    · rw [List.filter_cons_of_neg (by simpa using hi)]
      simp [hi]

theorem length_slots : (slots n l).length = n := by
  rw [slots, length_place, List.length_replicate]

/-- The slot of an adapter holds the last instruction with its index. -/
theorem getElem?_slots {j : ℕ} (hj : j < n) : (slots n l)[j]? = some (lastAt l j) := by
  have hlt : j < (slots n l).length := by rwa [length_slots]
  have hslot : (slots n l).getD j {} = lastAt l j := by
    rw [slots, getD_place (by rwa [List.length_replicate]), lastAt]
    simp [hj]
  rw [← hslot]
  simp [hlt]

/-! ## What the bytes denote -/

/-- The instructions that a byte string denotes for `n` adapters: it is empty, or their encoding. -/
structure Denotes (encoded : List Byte) (n : ℕ) (l : List Instruction) : Prop where
  encoded_eq : encoded = [] ∧ l = [] ∨ encodeInstructions l = .ok encoded
  length_le : l.length ≤ 255
  payload_le : ∀ i ∈ l, i.payload.length ≤ 65535
  index_lt : ∀ i ∈ l, i.index.toNat < n

theorem Denotes.nil : Denotes [] n [] := ⟨.inl ⟨rfl, rfl⟩, by simp, by simp, by simp⟩

theorem Denotes.of_encode (h : encodeInstructions l = .ok encoded) (hrange : InRange n l) :
    Denotes encoded n l := by
  obtain ⟨hlength, hfits, -⟩ := encodeInstructions_eq_ok.1 h
  exact ⟨.inr h, hlength, hfits, hrange⟩

/-- The parser returns the slots of the instructions that the bytes denote. -/
theorem parseInstructions_eq_ok_iff {t : List Instruction} :
    parseInstructions encoded mem n = .ok t ↔ ∃ l, Denotes encoded n l ∧ t = slots n l := by
  rw [parseInstructions_eq_ok]
  constructor
  · rintro (⟨rfl, rfl⟩ | ⟨l, hl, hrange, rfl⟩)
    · exact ⟨[], .nil, rfl⟩
    · exact ⟨l, .of_encode hl hrange, rfl⟩
  · rintro ⟨l, ⟨⟨rfl, rfl⟩ | hl, _, _, hrange⟩, rfl⟩
    · exact .inl ⟨rfl, rfl⟩
    · exact .inr ⟨l, hl, hrange, rfl⟩

/-- **No encoding is a proper prefix of another.** Both lists are what the loop reads from the
longer string. -/
theorem encodeInstructions_prefix {l' : List Instruction} {rest : List Byte}
    (h : encodeInstructions l = .ok encoded) (h' : encodeInstructions l' = .ok (encoded ++ rest)) :
    l = l' := by
  obtain ⟨hlength, hfits, rfl⟩ := encodeInstructions_eq_ok.1 h
  obtain ⟨hlength', hfits', heq⟩ := encodeInstructions_eq_ok.1 h'
  obtain ⟨hcount, htail⟩ := List.cons.inj heq
  have hsame : l.length = l'.length := by
    rw [← toNat_count hlength, hcount, toNat_count hlength']
  have hread : Inverts (byteAt (l.flatMap bytes ++ rest) fun _ => 0#8) _ _ _ :=
    inverts_parseInstruction.repeated l.length
  have hbuffer := Readers.at_getD_self (l.flatMap bytes ++ rest) fun _ => 0#8
  have hl := hread.unique 0 l ⟨rfl, hfits⟩ (Readers.at_append.1 hbuffer).1
  have hl' := hread.unique 0 l' ⟨hsame.symm, hfits'⟩ (by rwa [← htail])
  exact hl.symm.trans hl'

theorem Denotes.unique {l' : List Instruction} (h : Denotes encoded n l)
    (h' : Denotes encoded n l') : l = l' := by
  have hnone : ∀ l, encodeInstructions l ≠ .ok [] := fun l h => by
    simpa using (encodeInstructions_eq_ok.1 h).2.2
  rcases h.encoded_eq with ⟨rfl, rfl⟩ | henc
  · rcases h'.encoded_eq with ⟨-, rfl⟩ | henc'
    · rfl
    · exact absurd henc' (hnone l')
  · rcases h'.encoded_eq with ⟨rfl, rfl⟩ | henc'
    · exact absurd henc (hnone l)
    · rw [← List.append_nil encoded] at henc'
      exact encodeInstructions_prefix henc henc'

/-- **The parser accepts exactly the encodings.** It returns on a byte string if and only if the
string denotes instructions for the `n` adapters; these are unique, and each slot of the result is
the last of them with its index, whatever the memory holds after the string. It undoes the encoder,
and reverts on every proper prefix and every extension of an encoding but the empty string. -/
theorem parse_exact (encoded : List Byte) (mem : ℕ → Byte) (n : ℕ) :
    ((∃ t, parseInstructions encoded mem n = .ok t) ↔ ∃ l, Denotes encoded n l) ∧
      (∀ l l', Denotes encoded n l → Denotes encoded n l' → l = l') ∧
      (∀ l t, Denotes encoded n l → parseInstructions encoded mem n = .ok t →
        t.length = n ∧ ∀ j < n, t[j]? = some (lastAt l j)) ∧
      (∀ mem' t, parseInstructions encoded mem n = .ok t ↔
        parseInstructions encoded mem' n = .ok t) ∧
      (∀ l, encodeInstructions l = .ok encoded → InRange n l →
        parseInstructions encoded mem n = .ok (slots n l)) ∧
      ∀ l, encodeInstructions l = .ok encoded → ∀ other, other ≠ [] → other ≠ encoded →
        other <+: encoded ∨ encoded <+: other → ∀ t, parseInstructions other mem n ≠ .ok t := by
  refine ⟨⟨?_, ?_⟩, fun l l' => Denotes.unique, fun l t hl ht => ?_, fun mem' t => ?_,
    fun l hl hrange => ?_, fun l hl other hne hother hpre t ht => ?_⟩
  · rintro ⟨t, ht⟩
    obtain ⟨l, hl, -⟩ := parseInstructions_eq_ok_iff.1 ht
    exact ⟨l, hl⟩
  · rintro ⟨l, hl⟩
    exact ⟨_, parseInstructions_eq_ok_iff.2 ⟨l, hl, rfl⟩⟩
  · obtain ⟨l', hl', rfl⟩ := parseInstructions_eq_ok_iff.1 ht
    obtain rfl := hl.unique hl'
    exact ⟨length_slots, fun j hj => getElem?_slots hj⟩
  · rw [parseInstructions_eq_ok_iff, parseInstructions_eq_ok_iff]
  · exact parseInstructions_eq_ok_iff.2 ⟨l, .of_encode hl hrange, rfl⟩
  · obtain ⟨l', hl', -⟩ := parseInstructions_eq_ok_iff.1 ht
    have henc := hl'.encoded_eq.resolve_left fun h => hne h.1
    rcases hpre with ⟨rest, rfl⟩ | ⟨rest, rfl⟩
    · obtain rfl := encodeInstructions_prefix henc hl
      exact hother (Except.ok.inj (henc.symm.trans hl))
    · obtain rfl := encodeInstructions_prefix hl henc
      exact hother (Except.ok.inj (henc.symm.trans hl))

-- the last byte of the payload is missing, and read from the memory
example : parseInstructions [1, 0, 0, 1] (fun _ => 7) 1 = .error (.lengthMismatch 4 5) := by
  decide

/-! ## Rejected instructions -/

section Rejects

variable {α β : Type} {x : Except Error α} {f : α → Except Error β} {e : Error}

/-- The errors that are about the instructions. -/
def OfInstructions : Error → Prop
  | .invalidInstructionIndex .. | .lengthMismatch .. => True
  | _ => False

theorem OfInstructions.ne {e' : Error} (he : OfInstructions e) (h : ¬ OfInstructions e') :
    e' ≠ e := by
  rintro rfl
  exact h he

/-- The computation fails because of the instructions. -/
def Rejects (x : Except Error α) : Prop := ∃ e, OfInstructions e ∧ x = .error e

theorem rejects_bind_iff (hf : ∀ a e, OfInstructions e → f a ≠ .error e) :
    Rejects (x >>= f) ↔ Rejects x := by
  refine exists_congr fun e => and_congr_right fun he => ?_
  rw [bind_eq_error, or_iff_left fun ⟨a, _, ha⟩ => hf a e he ha]

theorem ofInstructions_of_parseLoop {c : ℕ} {t : List Instruction}
    (h : parseLoop encoded mem n c o t = .error e) : OfInstructions e := by
  induction c generalizing o t with
  | zero => cases h
  | succ c ih =>
    rcases require_bind_eq_error.1 h with ⟨-, rfl⟩ | ⟨-, hloop⟩
    · exact trivial
    · exact ih hloop

theorem ofInstructions_of_parse (h : parseInstructions encoded mem n = .error e) :
    OfInstructions e := by
  rw [parseInstructions] at h
  split at h
  · cases h
  · rcases bind_eq_error.1 h with hloop | ⟨p, -, hlength⟩
    · exact ofInstructions_of_parseLoop hloop
    · rcases require_bind_eq_error.1 hlength with ⟨-, rfl⟩ | ⟨-, hpure⟩
      · exact trivial
      · exact absurd hpure pure_ne_error

/-- The parser rejects the byte strings that denote no instructions. -/
theorem rejects_parse_iff :
    Rejects (parseInstructions encoded mem n) ↔ ¬ ∃ l, Denotes encoded n l := by
  cases hparse : parseInstructions encoded mem n with
  | ok t =>
    obtain ⟨l, hl, -⟩ := parseInstructions_eq_ok_iff.1 hparse
    exact iff_of_false (fun ⟨e, _, h⟩ => nomatch h) fun h => h ⟨l, hl⟩
  | error e =>
    refine iff_of_true ⟨e, ofInstructions_of_parse hparse, rfl⟩ fun ⟨l, hl⟩ => ?_
    rw [parseInstructions_eq_ok_iff.2 ⟨l, hl, rfl⟩] at hparse
    cases hparse

end Rejects

end GmpRouter.Evm.AdapterInstructions
