import GmpRouter.Message
import GmpRouter.Foundations.Bitmap
import GmpRouter.Foundations.Checked

/-!
# Accounts of the SVM endpoint

The state of the program is the set of its accounts. The addresses it derives are modelled
symbolically, by their seeds, in one byte string, and the bump (`Address.pda`): two derivations give
the same address only when they have the same bytes, which is what the collision freeness of the
derivation says. The five kinds of derived accounts have different prefixes, so that their seeds
never agree (`Seeds.bytes_injective`). Every other address is `external`, that of an outbox message
for one: it is a new account whose key signs, which no address derived from this program can do.

Lamports are not part of the state. An instruction that closes an account reports to whom its
balance goes.
-/

namespace GmpRouter.Svm

/-- Addresses of wallets and programs; as universal addresses they are the same bytes. -/
abbrev Pubkey := UniversalAddress

/-- The chain ID of Solana. -/
def CHAIN_ID : ChainId := 1#16

/-! ## Addresses -/

inductive Address
  | pda (seeds : List Byte) (bump : Byte)
  | external (key : Pubkey)
  deriving DecidableEq

def ascii (s : String) : List Byte := s.toList.map fun c => BitVec.ofNat 8 c.toNat

/-- The accounts that the program derives. -/
inductive Seeds
  | integratorConfig (integratorProgramId : Pubkey)
  | adapterInfo (integratorProgramId adapterProgramId : Pubkey)
  | integratorChainConfig (integratorProgramId : Pubkey) (chainId : ChainId)
  | sequenceTracker (integratorProgramId : Pubkey)
  | attestationInfo (messageHash : Digest)
  deriving DecidableEq

/-- The seeds as they are hashed: the prefix and the fields, one after another. -/
def Seeds.bytes : Seeds → List Byte
  | .integratorConfig integrator => ascii "integrator_config" ++ beBytes 32 integrator
  | .adapterInfo integrator adapter =>
    ascii "adapter_info" ++ beBytes 32 integrator ++ beBytes 32 adapter
  | .integratorChainConfig integrator chainId =>
    ascii "integrator_chain_config" ++ beBytes 32 integrator ++ beBytes 2 chainId
  | .sequenceTracker integrator => ascii "sequence_tracker" ++ beBytes 32 integrator
  | .attestationInfo messageHash => ascii "attestation_info" ++ messageHash

/-- The seeds determine the account. -/
theorem Seeds.bytes_injective : Function.Injective Seeds.bytes := by
  intro x y h
  cases x with
  | integratorConfig I =>
    cases y with
    | integratorConfig I' =>
      have h := List.append_cancel_left h
      rw [beBytes_inj (by omega)] at h
      rw [h]
    | _ => simp [bytes, ascii] at h
  | adapterInfo I A =>
    cases y with
    | adapterInfo I' A' =>
      obtain ⟨h, hA⟩ := List.append_inj' h (by simp)
      have hI := List.append_cancel_left h
      rw [beBytes_inj (by omega)] at hI hA
      rw [hI, hA]
    | _ => simp [bytes, ascii] at h
  | integratorChainConfig I c =>
    cases y with
    | integratorChainConfig I' c' =>
      obtain ⟨h, hc⟩ := List.append_inj' h (by simp)
      have hI := List.append_cancel_left h
      rw [beBytes_inj (by omega)] at hI hc
      rw [hI, hc]
    | _ => simp [bytes, ascii] at h
  | sequenceTracker I =>
    cases y with
    | sequenceTracker I' =>
      have h := List.append_cancel_left h
      rw [beBytes_inj (by omega)] at h
      rw [h]
    | _ => simp [bytes, ascii] at h
  | attestationInfo d =>
    cases y with
    | attestationInfo d' => rw [List.append_cancel_left h]
    | _ => simp [bytes, ascii] at h

/-- Who signs an instruction: a key, or an address derived from another program, which only that
program can sign for. -/
inductive Signer
  | key (key : Pubkey)
  | pda (program : Pubkey) (seed : List Byte) (bump : Byte)
  deriving DecidableEq

/-! ## Accounts -/

structure IntegratorConfig where
  bump : Byte
  integratorProgramId : Pubkey
  admin : Option Pubkey
  pendingAdmin : Option Pubkey
  adapterInfos : List Pubkey
  deriving DecidableEq

structure AdapterInfo where
  bump : Byte
  integratorProgramId : Pubkey
  adapterProgramId : Pubkey
  /-- Index of the adapter in the vector `adapterInfos` of the integrator. -/
  index : BitVec 8
  deriving DecidableEq

/-- The default is the content of a new account. -/
structure IntegratorChainConfig where
  bump : Byte := 0#8
  integratorProgramId : Pubkey := 0#256
  chainId : ChainId := 0#16
  sendAdapterBitmap : BitVec 128 := 0#128
  recvAdapterBitmap : BitVec 128 := 0#128
  deriving DecidableEq

structure SequenceTracker where
  bump : Byte
  integratorProgramId : Pubkey
  sequence : BitVec 64
  deriving DecidableEq

/-- The default is the content of a new account. -/
structure AttestationInfo where
  bump : Byte := 0#8
  messageHash : Digest := List.replicate 32 0#8
  srcChain : ChainId := 0#16
  srcAddr : UniversalAddress := 0#256
  sequence : BitVec 64 := 0#64
  dstChain : ChainId := 0#16
  dstAddr : UniversalAddress := 0#256
  payloadHash : Bytes32 := 0#256
  /-- Replay protection flag. -/
  executed : Bool := false
  attestedAdapters : BitVec 128 := 0#128
  deriving DecidableEq

structure OutboxMessage where
  srcAddr : UniversalAddress
  sequence : BitVec 64
  dstChain : ChainId
  dstAddr : UniversalAddress
  payloadHash : Bytes32
  /-- The adapters that have not picked the message up. -/
  outstandingAdapters : BitVec 128
  refundRecipient : Pubkey
  deriving DecidableEq

inductive Account
  | integratorConfig (config : IntegratorConfig)
  | adapterInfo (info : AdapterInfo)
  | integratorChainConfig (config : IntegratorChainConfig)
  | sequenceTracker (tracker : SequenceTracker)
  | attestationInfo (info : AttestationInfo)
  | outboxMessage (message : OutboxMessage)
  deriving DecidableEq

structure State where
  accounts : Address → Option Account := fun _ => none

/-- The state after the deployment of the program. -/
def State.init : State := {}

/-- Write an account, new or not. -/
def State.set (s : State) (address : Address) (account : Account) : State :=
  ⟨Function.update s.accounts address (some account)⟩

def State.close (s : State) (address : Address) : State :=
  ⟨Function.update s.accounts address none⟩

/-! ## Errors and events -/

inductive Error
  -- `EndpointError`
  | callerNotAuthorized
  | bitmapIndexOutOfBounds
  | maxAdaptersReached
  | adapterAlreadyEnabled
  | adapterAlreadyDisabled
  | adminTransferInProgress
  | noAdminTransferInProgress
  | invalidChainId
  | adapterNotEnabled
  | duplicateMessageAttestation
  | messageAlreadyPickedUp
  | alreadyExecuted
  | invalidDestinationChain
  -- the framework
  | accountNotInitialized
  | accountDiscriminatorMismatch
  | accountAlreadyInUse
  | tryingToInitPayerAsProgramAccount
  | constraintSeeds
  | constraintHasOne
  /-- The program panicked. -/
  | panic
  deriving DecidableEq

inductive Event
  | integratorRegistered (integrator admin : Pubkey)
  | adminUpdated (integrator oldAdmin newAdmin : Pubkey)
  | adminUpdateRequested (integrator oldAdmin newAdmin : Pubkey)
  | adminDiscarded (integrator : Pubkey)
  | adapterAdded (integrator adapter : Pubkey) (adaptersNum : BitVec 8)
  | sendAdapterEnabledForChain (integrator : Pubkey) (chain : ChainId) (adapter : Pubkey)
  | recvAdapterEnabledForChain (integrator : Pubkey) (chain : ChainId) (adapter : Pubkey)
  | sendAdapterDisabledForChain (integrator : Pubkey) (chain : ChainId) (adapter : Pubkey)
  | recvAdapterDisabledForChain (integrator : Pubkey) (chain : ChainId) (adapter : Pubkey)
  | messageSent (sender : UniversalAddress) (sequence : BitVec 64) (recipient : UniversalAddress)
      (recipientChain : ChainId) (payloadDigest : Bytes32)
  | messagePickedUp (srcAddr : UniversalAddress) (sequence : BitVec 64) (dstChain : ChainId)
      (dstAddr : UniversalAddress) (payloadHash : Bytes32) (adapter : Pubkey)
      (remainingAdapters : BitVec 128)
  | messageAttestedTo (messageHash : Digest) (message : Message) (attestedBitmap : BitVec 128)
      (attestingAdapter : UniversalAddress)
  | messageReceived (messageHash : Digest) (message : Message)
      (enabledBitmap attestedBitmap : BitVec 128)
  | messageExecuted (messageHash : Digest) (message : Message)
  deriving DecidableEq

/-- The outcome of a successful instruction. -/
structure Output where
  event : Event
  /-- The recipient of the lamports of the account that was closed. -/
  refund : Option Pubkey := none
  deriving DecidableEq

/-! ## Reading accounts -/

/-- A type of account data, told from the others by its discriminator. -/
class AccountType (α : Type) where
  account : α → Account
  data : Account → Option α
  data_eq_some : ∀ {a x}, data a = some x ↔ a = account x

instance : AccountType IntegratorConfig where
  account := .integratorConfig
  data | .integratorConfig x => some x | _ => none
  data_eq_some := by intro a; cases a <;> simp

instance : AccountType AdapterInfo where
  account := .adapterInfo
  data | .adapterInfo x => some x | _ => none
  data_eq_some := by intro a; cases a <;> simp

instance : AccountType IntegratorChainConfig where
  account := .integratorChainConfig
  data | .integratorChainConfig x => some x | _ => none
  data_eq_some := by intro a; cases a <;> simp

instance : AccountType SequenceTracker where
  account := .sequenceTracker
  data | .sequenceTracker x => some x | _ => none
  data_eq_some := by intro a; cases a <;> simp

instance : AccountType AttestationInfo where
  account := .attestationInfo
  data | .attestationInfo x => some x | _ => none
  data_eq_some := by intro a; cases a <;> simp

instance : AccountType OutboxMessage where
  account := .outboxMessage
  data | .outboxMessage x => some x | _ => none
  data_eq_some := by intro a; cases a <;> simp

section Loading

variable {α β : Type} [AccountType α] {s : State} {address : Address}

/-- `Account<α>`: the data of an account, which must exist and be of the type. -/
def load (s : State) (address : Address) : Except Error α := do
  let account ← orFail (s.accounts address) .accountNotInitialized
  orFail (AccountType.data account) .accountDiscriminatorMismatch

/-- `init_if_needed`: the data of the account, or that of a new one. -/
def initIfNeeded (s : State) (address : Address) (new : α) : Except Error α :=
  match s.accounts address with
  | none => pure new
  | some account => orFail (AccountType.data account) .accountDiscriminatorMismatch

/-- `init`: the account must not exist. -/
def init (s : State) (address : Address) : Except Error Unit :=
  require (s.accounts address = none) .accountAlreadyInUse

theorem load_bind_eq_ok {f : α → Except Error β} {b : β} : (load s address >>= f) = .ok b ↔
    ∃ x, s.accounts address = some (AccountType.account x) ∧ f x = .ok b := by
  unfold load
  simp only [bind_eq_ok, orFail_eq_ok]
  constructor
  · rintro ⟨x, ⟨account, ha, hx⟩, hf⟩
    rw [AccountType.data_eq_some] at hx
    exact ⟨x, hx ▸ ha, hf⟩
  · rintro ⟨x, ha, hf⟩
    exact ⟨x, ⟨_, ha, AccountType.data_eq_some.2 rfl⟩, hf⟩

/-- The account has this data, or is new. -/
def LoadsOrNew (s : State) (address : Address) (new x : α) : Prop :=
  s.accounts address = some (AccountType.account x) ∨ s.accounts address = none ∧ x = new

theorem initIfNeeded_bind_eq_ok {new : α} {f : α → Except Error β} {b : β} :
    (initIfNeeded s address new >>= f) = .ok b ↔
      ∃ x, LoadsOrNew s address new x ∧ f x = .ok b := by
  unfold initIfNeeded LoadsOrNew
  cases h : s.accounts address with
  | none => simp
  | some account => simp [AccountType.data_eq_some]

end Loading

/-! ## Bitmaps -/

namespace Bitmap

/-- The bitmap with one bit written. -/
def put (map : BitVec 128) (index : BitVec 8) (value : Bool) : BitVec 128 :=
  if value then map ||| BitVec.twoPow 128 index.toNat
  else map &&& ~~~BitVec.twoPow 128 index.toNat

def set (map : BitVec 128) (index : BitVec 8) (value : Bool) : Except Error (BitVec 128) := do
  require (index < 128#8) .bitmapIndexOutOfBounds
  pure (put map index value)

def get (map : BitVec 128) (index : BitVec 8) : Except Error Bool := do
  require (index < 128#8) .bitmapIndexOutOfBounds
  pure (map.getLsbD index.toNat)

/-- `get(index).unwrap_or(false)`. -/
def getOrFalse (map : BitVec 128) (index : BitVec 8) : Bool :=
  match get map index with
  | .ok b => b
  | .error _ => false

variable {β : Type} {map : BitVec 128} {index : BitVec 8}

theorem indices_put (h : index.toNat < 128) (value : Bool) :
    GmpRouter.Bitmap.indices (put map index value) =
      if value then insert index.toNat (GmpRouter.Bitmap.indices map)
      else (GmpRouter.Bitmap.indices map).erase index.toNat := by
  unfold put
  split
  · exact GmpRouter.Bitmap.indices_or_twoPow map h
  · exact GmpRouter.Bitmap.indices_and_not_twoPow map _

theorem set_bind_eq_ok {value : Bool} {f : BitVec 128 → Except Error β} {b : β} :
    (set map index value >>= f) = .ok b ↔ index.toNat < 128 ∧ f (put map index value) = .ok b := by
  rw [set, bind_assoc, require_bind_eq_ok]
  exact Iff.rfl

theorem get_bind_eq_ok {f : Bool → Except Error β} {b : β} :
    (get map index >>= f) = .ok b ↔
      index.toNat < 128 ∧ f (decide (index.toNat ∈ GmpRouter.Bitmap.indices map)) = .ok b := by
  rw [get, bind_assoc, require_bind_eq_ok, pure_bind]
  simp only [GmpRouter.Bitmap.mem_indices, Bool.decide_eq_true]
  exact Iff.rfl

/-- A bit out of bounds is not set either. -/
@[simp] theorem getOrFalse_eq :
    getOrFalse map index = decide (index.toNat ∈ GmpRouter.Bitmap.indices map) := by
  unfold getOrFalse get require
  by_cases h : index < 128#8
  · simp only [h, if_true, GmpRouter.Bitmap.mem_indices, Bool.decide_eq_true]
    rfl
  · have hge : 128 ≤ index.toNat := not_lt.1 h
    simp only [h, if_false, GmpRouter.Bitmap.mem_indices, BitVec.getLsbD_of_ge _ _ hge]
    rfl

end Bitmap

end GmpRouter.Svm
