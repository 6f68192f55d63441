import GmpRouter.Message
import GmpRouter.Foundations.Bitmap
import GmpRouter.Foundations.Checked

/-!
# Global storage of the Aptos endpoint

The resources that the modules `integrator` and `endpoint` keep under the addresses of the
integrators and of the module account, with the operations of the language and its library that they
use: borrowing and moving resources, tables, options, and the modules `bitmap` and
`universal_address`. Each way to abort is an error of its own.
-/

namespace GmpRouter.Aptos

/-- Account addresses, of 32 bytes. -/
abbrev Address := BitVec 256

/-! ## Aborts -/

inductive Module
  | bitmap
  | universalAddress
  | integrator
  | endpoint
  deriving DecidableEq

inductive Error
  /-- An assertion of the module failed. -/
  | abort (location : Module) (code : ℕ)
  | arithmeticError
  /-- No resource of the type is published under the address, or there is one already. -/
  | missingData
  | resourceAlreadyExists
  /-- The key of a table is not in use, or is in use already. -/
  | tableNotFound
  | tableAlreadyExists
  /-- `std::option` expects some value, or none. -/
  | optionNotSet
  | optionIsSet
  deriving DecidableEq

/-! ## Resources, tables and options -/

variable {α κ : Type} [DecidableEq κ]

/-- `move_to`. -/
def moveTo (slot : Option α) (resource : α) : Except Error (Option α) := do
  require (slot.isNone = true) .resourceAlreadyExists
  pure (some resource)

/-- The values in use of a table. -/
abbrev Table (κ α : Type) := κ → Option α

namespace Table

def empty : Table κ α := fun _ => none

def borrow (table : Table κ α) (key : κ) : Except Error α := orFail (table key) .tableNotFound

def borrowWithDefault (table : Table κ α) (key : κ) (default : α) : α := (table key).getD default

def upsert (table : Table κ α) (key : κ) (value : α) : Table κ α :=
  Function.update table key (some value)

def add (table : Table κ α) (key : κ) (value : α) : Except Error (Table κ α) := do
  require ((table key).isNone = true) .tableAlreadyExists
  pure (table.upsert key value)

def remove (table : Table κ α) (key : κ) : Table κ α := Function.update table key none

end Table

namespace OptionModule

/-- `option::swap`, with the new content. -/
def swap (o : Option α) (new : α) : Except Error (Option α) := do
  require (o.isSome = true) .optionNotSet
  pure (some new)

/-- `option::fill`. -/
def fill (o : Option α) (new : α) : Except Error (Option α) := do
  require (o.isNone = true) .optionIsSet
  pure (some new)

/-- `option::extract`. -/
def extract (o : Option α) : Except Error (Option α) := do
  require (o.isSome = true) .optionNotSet
  pure none

end OptionModule

/-- `n as u8`, which aborts when the value does not fit. -/
def castU8 (n : ℕ) : Except Error (BitVec 8) := do
  require (n < 256) .arithmeticError
  pure (BitVec.ofNat 8 n)

/-! ## Bitmaps -/

namespace Bitmap

def E_ALREADY_ENABLED : Error := .abort .bitmap 0

def E_ALREADY_DISABLED : Error := .abort .bitmap 1

/-- `1 << index`, which aborts when the index is not less than the width. -/
def bitmask (index : BitVec 8) : Except Error (BitVec 128) := do
  require (index < 128#8) .arithmeticError
  pure (1#128 <<< index.toNat)

def enable (bitmap : BitVec 128) (index : BitVec 8) : Except Error (BitVec 128) := do
  let bitmask ← bitmask index
  require (bitmap &&& bitmask = 0#128) E_ALREADY_ENABLED
  pure (bitmap ||| bitmask)

def disable (bitmap : BitVec 128) (index : BitVec 8) : Except Error (BitVec 128) := do
  let bitmask ← bitmask index
  require (0#128 < bitmap &&& bitmask) E_ALREADY_DISABLED
  pure (bitmap &&& (bitmask ^^^ BitVec.allOnes 128))

def get (bitmap : BitVec 128) (index : BitVec 8) : Except Error Bool := do
  let bitmask ← bitmask index
  pure (decide (0#128 < bitmap &&& bitmask))

end Bitmap

/-! ## Universal addresses -/

/-- The module only builds them by `left_pad`. -/
structure UniversalAddress where
  universalAddress : List Byte
  length_eq : universalAddress.length = 32
  deriving DecidableEq

namespace UniversalAddress

def E_VECTOR_TOO_LONG : Error := .abort .universalAddress 0

/-- `pad_left_32`, of an input that is not too long. -/
def padLeft32 (input : List Byte) : List Byte := List.replicate (32 - input.length) 0#8 ++ input

theorem length_padLeft32 {input : List Byte} (h : input.length ≤ 32) :
    (padLeft32 input).length = 32 := by
  rw [padLeft32, List.length_append, List.length_replicate]
  omega

def leftPad (s : List Byte) : Except Error UniversalAddress :=
  if h : s.length ≤ 32 then .ok ⟨padLeft32 s, length_padLeft32 h⟩ else .error E_VECTOR_TOO_LONG

def fromBytes (bytes : List Byte) : Except Error UniversalAddress := leftPad bytes

/-- `from_bytes` of the bytes of the address, which are 32. -/
def fromAddress (addr : Address) : UniversalAddress := ⟨beBytes 32 addr, length_beBytes 32 addr⟩

def toAddress (self : UniversalAddress) : Address := beWord 256 self.universalAddress

theorem fromBytes_of_length {bytes : List Byte} (h : bytes.length = 32) :
    fromBytes bytes = .ok ⟨bytes, h⟩ := by
  have hpad : padLeft32 bytes = bytes := by rw [padLeft32, h, Nat.sub_self]; rfl
  unfold fromBytes leftPad
  rw [dif_pos h.le]
  congr

@[simp] theorem toAddress_fromAddress (addr : Address) : (fromAddress addr).toAddress = addr :=
  beWord_beBytes (show 256 = 8 * 32 from rfl) addr

end UniversalAddress

/-! ## The resources -/

structure IntegratorCapability where
  /-- Sequence number of the next message. -/
  sequence : BitVec 64
  deriving DecidableEq

structure AdminConfig where
  adminAddr : Option Address
  pendingAdminAddr : Option Address
  deriving DecidableEq

structure AdaptersStore where
  adapters : List Address
  deriving DecidableEq

structure AdapterToIndexStore where
  adapterToIndex : Table Address (BitVec 8)

/-- `SendAdapterStore` and `RecvAdapterStore`. -/
structure AdapterStore where
  perChainAdapterBitmap : Table ChainId (BitVec 128)

/-- The resources of the module `integrator` that are published under an address. -/
structure Account where
  integratorCapability : Option IntegratorCapability := none
  adminConfig : Option AdminConfig := none
  adaptersStore : Option AdaptersStore := none
  adapterToIndexStore : Option AdapterToIndexStore := none
  adapterStore : Direction → Option AdapterStore := fun _ => none

structure OutboxMessageKey where
  integratorAddr : Address
  sequence : BitVec 64
  deriving DecidableEq

structure OutboxMessage where
  srcAddr : UniversalAddress
  sequence : BitVec 64
  dstChain : ChainId
  dstAddr : UniversalAddress
  payloadHash : List Byte
  /-- The bitmap of the send adapters that have not picked the message up. -/
  outstandingAdapters : BitVec 128
  deriving DecidableEq

structure AttestationInfo where
  /-- Replay protection flag. -/
  executed : Bool := false
  attestedAdapters : BitVec 128 := 0#128
  deriving DecidableEq

/-- The accounts, and the tables of `OutboxState` and `AttestationState`, which `init_module`
publishes. -/
structure State where
  accounts : Address → Account := fun _ => {}
  outboxMessages : Table OutboxMessageKey OutboxMessage := Table.empty
  attestationInfos : Table Digest AttestationInfo := Table.empty

/-- The state after `init_module`. -/
def State.init : State := {}

def State.setAccount (s : State) (addr : Address) (account : Account) : State :=
  { s with accounts := Function.update s.accounts addr account }

end GmpRouter.Aptos
