import GmpRouter.Message
import GmpRouter.Foundations.Checked

/-!
# Storage of the EVM endpoint

The data of the contracts `Endpoint`, `AdapterRegistry` and `MessageSequence`: their structs, errors
and events, and the storage, one field for each mapping. A mapping is a function, with the value of
an unwritten slot where nothing was stored, and the native balance of the contract is a field beside
the storage.
-/

namespace GmpRouter.Evm

abbrev Address := BitVec 160

/-! ## Universal addresses -/

/-- `UniversalAddressLibrary.fromAddress`: the address, padded to 32 bytes. -/
def fromAddress (addr : Address) : UniversalAddress := addr.setWidth 256

/-! ## Structs -/

/-- `AdapterRegistry.AdapterInfo`; the default, `index` included, is that of an unregistered
adapter. -/
structure AdapterInfo where
  registered : Bool := false
  /-- The index into the integrator's adapters array. -/
  index : BitVec 8 := 0#8
  deriving DecidableEq

/-- `AdapterRegistry.PerSendAdapterInfo`. -/
structure PerSendAdapterInfo where
  addr : Address
  index : BitVec 8
  deriving DecidableEq

/-- `Endpoint.IntegratorConfig`. -/
structure IntegratorConfig where
  isInitialized : Bool := false
  admin : Address := 0#160
  pendingAdmin : Address := 0#160
  deriving DecidableEq

/-- `Endpoint.AttestationInfo`. -/
structure AttestationInfo where
  /-- Replay protection. -/
  executed : Bool := false
  /-- Number of bits set in `attestedAdapters`. -/
  numAttested : BitVec 8 := 0#8
  /-- Bitmap corresponding to the integrator's adapters array. -/
  attestedAdapters : BitVec 128 := 0#128
  deriving DecidableEq

/-- `AdapterInstructions.Instruction`. -/
structure Instruction where
  index : BitVec 8 := 0#8
  payload : List Byte := []
  deriving DecidableEq

/-! ## Errors and events -/

inductive Error
  -- `AdapterRegistry`
  | invalidAdapterZeroAddress
  | adapterAlreadyDisabled (adapter : Address)
  | tooManyAdapters
  | nonRegisteredAdapter (adapter : Address)
  | invalidChain (chain : ChainId)
  | adapterAlreadyRegistered (adapter : Address)
  | adapterAlreadyEnabled (adapter : Address)
  -- `Endpoint`
  | invalidDestinationChain
  | adapterNotEnabled
  | invalidAdminZeroAddress
  | adminTransferInProgress
  | noAdminTransferInProgress
  | integratorAlreadyRegistered
  | integratorNotRegistered
  | callerNotAuthorized
  | unknownMessageAttestation
  | duplicateMessageAttestation
  | alreadyExecuted
  -- `AdapterInstructions` and `BytesParsing`
  | tooManyInstructions
  | payloadTooLong (size : ℕ)
  | invalidInstructionIndex (providedIndex numAdapters : ℕ)
  | lengthMismatch (encodedLength expectedLength : ℕ)
  -- `UniversalAddressLibrary`
  | notAnEvmAddress (addr : Bytes32)
  /-- A checked operation of the language failed. -/
  | panic
  /-- Value was sent to a function that is not payable. -/
  | nonPayable
  /-- The contract cannot pay the value of an external call. -/
  | insufficientBalance
  /-- A called adapter reverted. -/
  | adapterReverted
  deriving DecidableEq

inductive Event
  -- `AdapterRegistry`
  | adapterAdded (integrator adapter : Address) (adaptersNum : BitVec 8)
  | sendAdapterEnabledForChain (integrator : Address) (chain : ChainId) (adapter : Address)
  | recvAdapterEnabledForChain (integrator : Address) (chain : ChainId) (adapter : Address)
  | sendAdapterDisabledForChain (integrator : Address) (chain : ChainId) (adapter : Address)
  | recvAdapterDisabledForChain (integrator : Address) (chain : ChainId) (adapter : Address)
  -- `Endpoint`
  | integratorRegistered (integrator admin : Address)
  | adminUpdated (integrator oldAdmin newAdmin : Address)
  | adminUpdateRequested (integrator oldAdmin newAdmin : Address)
  | messageSent (messageDigest : Digest) (sender : UniversalAddress) (sequence : BitVec 64)
      (recipient : UniversalAddress) (recipientChain : ChainId) (payloadDigest : Bytes32)
  | messageAttestedTo (messageHash : Digest) (message : Message) (attestedBitmap : BitVec 128)
      (attestingAdapter : UniversalAddress)
  | messageReceived (messageHash : Digest) (message : Message)
      (enabledBitmap attestedBitmap : BitVec 128)
  deriving DecidableEq

/-! ## The storage -/

/-- The storage of `AdapterRegistry`. -/
structure Registry where
  /-- `registry.adapterInfos`. -/
  adapterInfos : Address → Address → AdapterInfo := fun _ _ => {}
  /-- `registry.registeredAdapters`. -/
  registeredAdapters : Address → List Address := fun _ => []
  /-- `registry.sendAdapterArray`. -/
  perChainSendAdapterArray : Address → ChainId → List PerSendAdapterInfo := fun _ _ => []
  /-- `registry.recvAdapterBitmap`. -/
  perChainRecvAdapterBitmap : Address → ChainId → BitVec 128 := fun _ _ => 0#128

/-- The state of the contract. -/
structure State extends Registry where
  /-- `endpoint.integratorConfigs`. -/
  integratorConfigs : Address → IntegratorConfig := fun _ => {}
  /-- `endpoint.attestationInfo`. -/
  attestationInfo : Address → Digest → AttestationInfo := fun _ _ => {}
  /-- `MessageSequence.slot`. -/
  messageSequence : Address → BitVec 64 := fun _ => 0#64
  /-- The native balance. -/
  balance : ℕ := 0

/-- The state of a freshly deployed contract. -/
def State.init : State := {}

/-! ## Results of calls -/

/-- `Endpoint.SendMessageArgs`. -/
structure SendMessageArgs where
  dstChain : ChainId
  dstAddr : UniversalAddress
  payloadHash : Bytes32
  refundAddress : Address
  adapterInstructions : List Byte
  deriving DecidableEq

/-- The arguments of `recvMessage` and `execMessage`. -/
structure RecvMessageArgs where
  srcChain : ChainId
  srcAddr : UniversalAddress
  sequence : BitVec 64
  payloadHash : Bytes32
  deriving DecidableEq

/-- What `_sendMessage` holds in memory when it enters its loop over the send adapters. -/
structure Sending where
  args : SendMessageArgs
  sender : UniversalAddress
  sequence : BitVec 64
  adapterInst : List Instruction
  sendAdapters : List PerSendAdapterInfo
  deriving DecidableEq

/-- The value that a call returns. -/
inductive Return
  | unit
  | index (index : BitVec 8)
  | sending (frame : Sending)
  | sequence (sequence : BitVec 64)
  | received (enabledBitmap attestedBitmap : BitVec 128) (numAttested : BitVec 8)
  deriving DecidableEq

/-- The outcome of a successful call: the value it returns and the events it emits. -/
structure Receipt where
  ret : Return := .unit
  events : List Event
  deriving DecidableEq

/-! ## Address conversion -/

/-- `UniversalAddressLibrary.toAddress`. -/
def toAddress (uAddr : UniversalAddress) : Except Error Address := do
  require (uAddr >>> 160 = 0#256) (.notAnEvmAddress uAddr)
  pure (uAddr.setWidth 160)

theorem toAddress_eq_ok {uAddr : UniversalAddress} {addr : Address} :
    toAddress uAddr = .ok addr ↔ uAddr = fromAddress addr := by
  simp only [toAddress, require_bind_eq_ok, pure_eq_ok, fromAddress]
  constructor
  · rintro ⟨h, rfl⟩
    apply BitVec.eq_of_toNat_eq
    have h' := congrArg BitVec.toNat h
    simp only [BitVec.toNat_ushiftRight, BitVec.toNat_ofNat, Nat.zero_mod,
      Nat.shiftRight_eq_div_pow, Nat.div_eq_zero_iff] at h'
    simp only [BitVec.toNat_setWidth]
    omega
  · rintro rfl
    refine ⟨?_, ?_⟩
    · apply BitVec.eq_of_toNat_eq
      have := addr.isLt
      simp only [BitVec.toNat_ushiftRight, BitVec.toNat_setWidth, Nat.shiftRight_eq_div_pow,
        BitVec.toNat_ofNat]
      omega
    · apply BitVec.eq_of_toNat_eq
      have := addr.isLt
      simp only [BitVec.toNat_setWidth]
      omega

theorem fromAddress_injective : Function.Injective fromAddress := by
  intro a b h
  have hb := toAddress_eq_ok.2 h
  rw [toAddress_eq_ok.2 rfl] at hb
  exact Except.ok.inj hb

end GmpRouter.Evm
