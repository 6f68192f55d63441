import GmpRouter.Evm.Storage

/-!
# Adapter instructions

The library `AdapterInstructions`: the payloads that an integrator passes to its adapters, packed in
one byte string. Its encoder reverts for what does not fit its length fields. Its parser reads
without bounds checks and compares the final offset with the length once, after its loop. The
readers are those of the SDK's `BytesParsing`, as it documents them: a read past the end of the
string returns what the memory holds there, which is the parameter `mem`.
-/

namespace GmpRouter.Evm.AdapterInstructions

/-! ## `BytesParsing` -/

/-- The byte at an offset: one of the string, or of the memory after it. -/
def byteAt (encoded : List Byte) (mem : ℕ → Byte) (offset : ℕ) : Byte :=
  encoded.getD offset (mem offset)

def asUint8Unchecked (encoded : List Byte) (mem : ℕ → Byte) (offset : ℕ) : BitVec 8 × ℕ :=
  (byteAt encoded mem offset, offset + 1)

def asUint16Unchecked (encoded : List Byte) (mem : ℕ → Byte) (offset : ℕ) : BitVec 16 × ℕ :=
  (byteAt encoded mem offset ++ byteAt encoded mem (offset + 1), offset + 2)

def sliceUnchecked (encoded : List Byte) (mem : ℕ → Byte) (offset length : ℕ) : List Byte × ℕ :=
  ((List.range length).map fun i => byteAt encoded mem (offset + i), offset + length)

def checkLength (encoded : List Byte) (expected : ℕ) : Except Error Unit :=
  require (encoded.length = expected) (.lengthMismatch encoded.length expected)

/-! ## The encoder -/

def encodeInstruction (instruction : Instruction) : Except Error (List Byte) := do
  require (instruction.payload.length ≤ 65535) (.payloadTooLong instruction.payload.length)
  let payloadLength := BitVec.ofNat 16 instruction.payload.length
  pure ([instruction.index] ++ beBytes 2 payloadLength ++ instruction.payload)

/-- The loop of `encodeInstructions`. -/
def encodeLoop : List Instruction → List Byte → Except Error (List Byte)
  | [], encoded => .ok encoded
  | instruction :: instructions, encoded => do
    let innerEncoded ← encodeInstruction instruction
    encodeLoop instructions (encoded ++ innerEncoded)

def encodeInstructions (instructions : List Instruction) : Except Error (List Byte) := do
  require (instructions.length ≤ 255) .tooManyInstructions
  let encoded ← encodeLoop instructions []
  pure (BitVec.ofNat 8 instructions.length :: encoded)

/-! ## The parser -/

def parseInstructionUnchecked (encoded : List Byte) (mem : ℕ → Byte) (offset : ℕ) :
    Instruction × ℕ :=
  let (index, nextOffset) := asUint8Unchecked encoded mem offset
  let (instructionLength, nextOffset) := asUint16Unchecked encoded mem nextOffset
  let (payload, nextOffset) := sliceUnchecked encoded mem nextOffset instructionLength.toNat
  (⟨index, payload⟩, nextOffset)

/-- Parse a single instruction, which nothing may follow. -/
def parseInstruction (encoded : List Byte) (mem : ℕ → Byte) : Except Error Instruction := do
  let (instruction, offset) := parseInstructionUnchecked encoded mem 0
  checkLength encoded offset
  pure instruction

/-- The loop of `parseInstructions`, with `n` instructions still to be read. -/
def parseLoop (encoded : List Byte) (mem : ℕ → Byte) (numRegisteredAdapters : ℕ) :
    ℕ → ℕ → List Instruction → Except Error (List Instruction × ℕ)
  | 0, offset, instructions => .ok (instructions, offset)
  | n + 1, offset, instructions => do
    let (instruction, offset) := parseInstructionUnchecked encoded mem offset
    require (instruction.index.toNat < numRegisteredAdapters)
      (.invalidInstructionIndex instruction.index.toNat numRegisteredAdapters)
    parseLoop encoded mem numRegisteredAdapters n offset
      (instructions.set instruction.index.toNat instruction)

/-- Parse the instructions into a sparse array, indexed by the adapters. -/
def parseInstructions (encoded : List Byte) (mem : ℕ → Byte) (numRegisteredAdapters : ℕ) :
    Except Error (List Instruction) := do
  let instructions := List.replicate numRegisteredAdapters {}
  if encoded = [] then
    pure instructions
  else
    let (instructionsLength, offset) := asUint8Unchecked encoded mem 0
    let (instructions, offset) ←
      parseLoop encoded mem numRegisteredAdapters instructionsLength.toNat offset instructions
    checkLength encoded offset
    pure instructions

end GmpRouter.Evm.AdapterInstructions
