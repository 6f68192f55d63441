import GmpRouter.Evm.AdapterRegistry
import GmpRouter.Evm.AdapterInstructions

/-!
# The EVM endpoint

The external functions of the contract `Endpoint` that change its storage. Each takes the state and
the caller and either reverts or returns the new state with a `Receipt`. Of `sendMessage` this
module has the part before the loop that calls the adapters, which ends with the frame that the loop
uses; the loop itself, whose calls leave the contract, is in `GmpRouter.Evm.Execution`.

Each function comes with its specification `f_eq_ok`: the guards under which it returns, the state
it leaves and the receipt.
-/

namespace GmpRouter.Evm

/-- The hash function, and the immutable of the contract. -/
structure Env where
  keccak : List Byte → Digest
  ourChain : ChainId

/-- The caller of a function and the value it sends. -/
structure Msg where
  sender : Address
  value : ℕ := 0
  deriving DecidableEq

/-- The record of a message once the adapter with the index has attested it. -/
def AttestationInfo.attest (info : AttestationInfo) (index : BitVec 8) : AttestationInfo :=
  { info with
    attestedAdapters := info.attestedAdapters ||| AdapterRegistry.bit index
    numAttested := info.numAttested + 1#8 }

/-! ## The message digest -/

/-- The values that the digest packs, by their types. -/
inductive AbiValue
  | uint16 (x : BitVec 16)
  | uint64 (x : BitVec 64)
  | bytes32 (x : BitVec 256)

/-- A value is packed into the bytes of its type, without padding. -/
def AbiValue.packed : AbiValue → List Byte
  | .uint16 x => beBytes 2 x
  | .uint64 x => beBytes 8 x
  | .bytes32 x => beBytes 32 x

/-- `abi.encodePacked`. -/
def abiEncodePacked (values : List AbiValue) : List Byte := values.flatMap AbiValue.packed

namespace Endpoint

variable (E : Env) (s : State)

/-- What `computeMessageDigest` hashes. -/
def digestInput (m : Message) : List Byte :=
  abiEncodePacked [.uint16 m.srcChain, .bytes32 m.srcAddr, .uint64 m.sequence, .uint16 m.dstChain,
    .bytes32 m.dstAddr, .bytes32 m.payloadHash]

theorem digestInput_eq (m : Message) : digestInput m = m.encodePacked := by
  simp [digestInput, abiEncodePacked, AbiValue.packed, Message.encodePacked]

/-- `computeMessageDigest`. -/
def computeMessageDigest (m : Message) : Digest := E.keccak (digestInput m)

theorem computeMessageDigest_eq (m : Message) :
    computeMessageDigest E m = E.keccak m.encodePacked := by
  rw [computeMessageDigest, digestInput_eq]

/-- The message to the integrator on this chain that the arguments of `recvMessage` identify. -/
def inbound (integrator : Address) (args : RecvMessageArgs) : Message :=
  ⟨args.srcChain, args.srcAddr, args.sequence, E.ourChain, fromAddress integrator, args.payloadHash⟩

/-! ## Admin functions -/

/-- The modifier `onlyAdmin`. -/
def onlyAdmin (integrator sender : Address) : Except Error Unit := do
  let config := s.integratorConfigs integrator
  require config.isInitialized .integratorNotRegistered
  require (config.admin = sender) .callerNotAuthorized

/-- What the modifier `onlyAdmin` checks. -/
structure OnlyAdmin (s : State) (integrator sender : Address) : Prop where
  isInitialized : (s.integratorConfigs integrator).isInitialized = true
  admin_eq : (s.integratorConfigs integrator).admin = sender

def register (sender initialAdmin : Address) : Except Error (State × Receipt) := do
  require (initialAdmin ≠ 0#160) .invalidAdminZeroAddress
  let integrator := sender
  require (¬ (s.integratorConfigs integrator).isInitialized) .integratorAlreadyRegistered
  let s' := { s with
    integratorConfigs :=
      Function.update s.integratorConfigs integrator ⟨true, initialAdmin, 0#160⟩ }
  pure (s', { events := [.integratorRegistered integrator initialAdmin] })

def updateAdmin (sender integrator newAdmin : Address) : Except Error (State × Receipt) := do
  onlyAdmin s integrator sender
  -- use `discardAdmin` instead
  require (newAdmin ≠ 0#160) .invalidAdminZeroAddress
  let config := s.integratorConfigs integrator
  require (config.pendingAdmin = 0#160) .adminTransferInProgress
  let s' := { s with
    integratorConfigs :=
      Function.update s.integratorConfigs integrator { config with admin := newAdmin } }
  pure (s', { events := [.adminUpdated integrator sender newAdmin] })

def transferAdmin (sender integrator newAdmin : Address) : Except Error (State × Receipt) := do
  onlyAdmin s integrator sender
  -- use `discardAdmin` instead
  require (newAdmin ≠ 0#160) .invalidAdminZeroAddress
  let config := s.integratorConfigs integrator
  require (config.pendingAdmin = 0#160) .adminTransferInProgress
  let s' := { s with
    integratorConfigs :=
      Function.update s.integratorConfigs integrator { config with pendingAdmin := newAdmin } }
  pure (s', { events := [.adminUpdateRequested integrator sender newAdmin] })

/-- `claimAdmin`, which has no modifier. -/
def claimAdmin (sender integrator : Address) : Except Error (State × Receipt) := do
  let config := s.integratorConfigs integrator
  require (config.pendingAdmin ≠ 0#160) .noAdminTransferInProgress
  let newAdmin := sender
  require (¬ (newAdmin ≠ config.admin ∧ newAdmin ≠ config.pendingAdmin)) .callerNotAuthorized
  let s' := { s with
    integratorConfigs := Function.update s.integratorConfigs integrator
      { config with admin := newAdmin, pendingAdmin := 0#160 } }
  pure (s', { events := [.adminUpdated integrator config.admin newAdmin] })

def discardAdmin (sender integrator : Address) : Except Error (State × Receipt) := do
  onlyAdmin s integrator sender
  let config := s.integratorConfigs integrator
  require (config.pendingAdmin = 0#160) .adminTransferInProgress
  let s' := { s with
    integratorConfigs :=
      Function.update s.integratorConfigs integrator { config with admin := 0#160 } }
  pure (s', { events := [.adminUpdated integrator sender 0#160] })

/-! ## Adapter functions -/

/-- A function of the registry, for the admin only. -/
def registryAsAdmin (sender integrator : Address)
    (f : Registry → Except Error (Registry × Receipt)) : Except Error (State × Receipt) := do
  onlyAdmin s integrator sender
  let (registry, r) ← f s.toRegistry
  pure ({ s with toRegistry := registry }, r)

def addAdapter (sender integrator adapter : Address) : Except Error (State × Receipt) :=
  registryAsAdmin s sender integrator fun reg => AdapterRegistry.addAdapter reg integrator adapter

def enableSendAdapter (sender integrator : Address) (chain : ChainId) (adapter : Address) :
    Except Error (State × Receipt) :=
  registryAsAdmin s sender integrator fun reg =>
    AdapterRegistry.enableSendAdapter reg integrator chain adapter

def enableRecvAdapter (sender integrator : Address) (chain : ChainId) (adapter : Address) :
    Except Error (State × Receipt) :=
  registryAsAdmin s sender integrator fun reg =>
    AdapterRegistry.enableRecvAdapter reg integrator chain adapter

def disableSendAdapter (sender integrator : Address) (chain : ChainId) (adapter : Address) :
    Except Error (State × Receipt) :=
  registryAsAdmin s sender integrator fun reg =>
    AdapterRegistry.disableSendAdapter reg integrator chain adapter

def disableRecvAdapter (sender integrator : Address) (chain : ChainId) (adapter : Address) :
    Except Error (State × Receipt) :=
  registryAsAdmin s sender integrator fun reg =>
    AdapterRegistry.disableRecvAdapter reg integrator chain adapter

/-! ## Message functions -/

/-- `MessageSequence._useMessageSequence`, whose increment is checked. -/
def useMessageSequence (sender : Address) : Except Error (State × BitVec 64) := do
  let currentSequence := s.messageSequence sender
  require (currentSequence ≠ BitVec.allOnes 64) .panic
  pure ({ s with
    messageSequence := Function.update s.messageSequence sender (currentSequence + 1#64) },
    currentSequence)

/-- `_sendMessage`, up to its loop over the send adapters. -/
def sendMessage (sender : Address) (args : SendMessageArgs) (mem : ℕ → Byte) :
    Except Error (State × Receipt) := do
  let adapterInst ← AdapterInstructions.parseInstructions args.adapterInstructions mem
    (s.registeredAdapters sender).length
  let sendAdapters ← AdapterRegistry.getSendAdaptersByChain s.toRegistry sender args.dstChain
  require (sendAdapters.length ≠ 0) .adapterNotEnabled
  let (s', sequence) ← useMessageSequence s sender
  pure (s', ⟨.sending ⟨args, fromAddress sender, sequence, adapterInst, sendAdapters⟩, []⟩)

/-- The event that `_sendMessage` emits after its loop. -/
def messageSent (frame : Sending) : Event :=
  .messageSent
    (computeMessageDigest E ⟨E.ourChain, frame.sender, frame.sequence, frame.args.dstChain,
      frame.args.dstAddr, frame.args.payloadHash⟩)
    frame.sender frame.sequence frame.args.dstAddr frame.args.dstChain frame.args.payloadHash

def attestMessage (sender : Address) (m : Message) : Except Error (State × Receipt) := do
  let integrator ← toAddress m.dstAddr
  -- sanity check that destinationChain is this chain
  require (m.dstChain = E.ourChain) .invalidDestinationChain
  let tsInfo := s.adapterInfos integrator sender
  require tsInfo.registered .adapterNotEnabled
  let enabled ←
    AdapterRegistry.isRecvAdapterEnabledForChainWithCheck s.toRegistry integrator m.srcChain sender
  require enabled .adapterNotEnabled
  let messageDigest := computeMessageDigest E m
  let attestationInfo := s.attestationInfo integrator messageDigest
  let updatedAdapters := attestationInfo.attestedAdapters ||| AdapterRegistry.bit tsInfo.index
  require (updatedAdapters ≠ attestationInfo.attestedAdapters) .duplicateMessageAttestation
  -- it is okay to mark it as attested if it has already been executed
  require (attestationInfo.numAttested ≠ BitVec.allOnes 8) .panic
  let s' := { s with
    attestationInfo := update₂ s.attestationInfo integrator messageDigest
      { attestationInfo with
        attestedAdapters := updatedAdapters
        numAttested := attestationInfo.numAttested + 1#8 } }
  pure (s', { events :=
    [.messageAttestedTo (computeMessageDigest E m) m updatedAdapters (fromAddress sender)] })

def recvMessage (sender : Address) (args : RecvMessageArgs) : Except Error (State × Receipt) := do
  let enabledBitmap ←
    AdapterRegistry.getEnabledRecvAdaptersBitmapForChain s.toRegistry sender args.srcChain
  require (enabledBitmap ≠ 0#128) .adapterNotEnabled
  let m := inbound E sender args
  let messageDigest := computeMessageDigest E m
  let attestationInfo := s.attestationInfo sender messageDigest
  require (¬ (attestationInfo.attestedAdapters = 0#128 ∧ ¬ attestationInfo.executed))
    .unknownMessageAttestation
  require (¬ attestationInfo.executed) .alreadyExecuted
  let s' := { s with
    attestationInfo :=
      update₂ s.attestationInfo sender messageDigest { attestationInfo with executed := true } }
  pure (s',
    ⟨.received enabledBitmap attestationInfo.attestedAdapters attestationInfo.numAttested,
      [.messageReceived messageDigest m enabledBitmap attestationInfo.attestedAdapters]⟩)

def execMessage (sender : Address) (args : RecvMessageArgs) : Except Error (State × Receipt) := do
  let messageDigest := computeMessageDigest E (inbound E sender args)
  let attestationInfo := s.attestationInfo sender messageDigest
  require (¬ attestationInfo.executed) .alreadyExecuted
  let s' := { s with
    attestationInfo :=
      update₂ s.attestationInfo sender messageDigest { attestationInfo with executed := true } }
  pure (s', { events := [] })

/-! ## Specifications -/

variable {E s} {s' : State} {r : Receipt} {sender integrator newAdmin adapter : Address}
  {chain : ChainId}

@[simp] theorem onlyAdmin_eq_ok {u : Unit} : onlyAdmin s integrator sender = .ok u ↔
    OnlyAdmin s integrator sender := by
  simp only [onlyAdmin, require_bind_eq_ok, require_eq_ok]
  constructor
  · rintro ⟨hinitialized, hadmin⟩
    exact ⟨hinitialized, hadmin⟩
  · rintro ⟨hinitialized, hadmin⟩
    exact ⟨hinitialized, hadmin⟩

@[simp] theorem onlyAdmin_bind_eq_ok {α : Type} {f : Unit → Except Error α} {a : α} :
    (onlyAdmin s integrator sender >>= f) = .ok a ↔ OnlyAdmin s integrator sender ∧
      f () = .ok a := by
  simp only [bind_eq_ok, onlyAdmin_eq_ok]
  exact ⟨fun ⟨_, h, h'⟩ => ⟨h, h'⟩, fun ⟨h, h'⟩ => ⟨(), h, h'⟩⟩

theorem register_eq_ok : register s sender newAdmin = .ok (s', r) ↔
    newAdmin ≠ 0#160 ∧ (s.integratorConfigs sender).isInitialized = false ∧
      s' = { s with
        integratorConfigs :=
          Function.update s.integratorConfigs sender ⟨true, newAdmin, 0#160⟩ } ∧
      r = { events := [.integratorRegistered sender newAdmin] } := by
  simp only [register, require_bind_eq_ok, pure_eq_ok, Prod.mk.injEq, Bool.not_eq_true]

theorem updateAdmin_eq_ok : updateAdmin s sender integrator newAdmin = .ok (s', r) ↔
    OnlyAdmin s integrator sender ∧ newAdmin ≠ 0#160 ∧
      (s.integratorConfigs integrator).pendingAdmin = 0#160 ∧
      s' = { s with
        integratorConfigs := Function.update s.integratorConfigs integrator
          { s.integratorConfigs integrator with admin := newAdmin } } ∧
      r = { events := [.adminUpdated integrator sender newAdmin] } := by
  simp only [updateAdmin, onlyAdmin_bind_eq_ok, require_bind_eq_ok, pure_eq_ok, Prod.mk.injEq]

theorem transferAdmin_eq_ok : transferAdmin s sender integrator newAdmin = .ok (s', r) ↔
    OnlyAdmin s integrator sender ∧ newAdmin ≠ 0#160 ∧
      (s.integratorConfigs integrator).pendingAdmin = 0#160 ∧
      s' = { s with
        integratorConfigs := Function.update s.integratorConfigs integrator
          { s.integratorConfigs integrator with pendingAdmin := newAdmin } } ∧
      r = { events := [.adminUpdateRequested integrator sender newAdmin] } := by
  simp only [transferAdmin, onlyAdmin_bind_eq_ok, require_bind_eq_ok, pure_eq_ok, Prod.mk.injEq]

theorem claimAdmin_eq_ok : claimAdmin s sender integrator = .ok (s', r) ↔
    (s.integratorConfigs integrator).pendingAdmin ≠ 0#160 ∧
      (sender = (s.integratorConfigs integrator).admin ∨
        sender = (s.integratorConfigs integrator).pendingAdmin) ∧
      s' = { s with
        integratorConfigs := Function.update s.integratorConfigs integrator
          { s.integratorConfigs integrator with admin := sender, pendingAdmin := 0#160 } } ∧
      r = { events :=
        [.adminUpdated integrator (s.integratorConfigs integrator).admin sender] } := by
  simp only [claimAdmin, require_bind_eq_ok, pure_eq_ok, Prod.mk.injEq, not_and_or, not_ne_iff]

theorem discardAdmin_eq_ok : discardAdmin s sender integrator = .ok (s', r) ↔
    OnlyAdmin s integrator sender ∧ (s.integratorConfigs integrator).pendingAdmin = 0#160 ∧
      s' = { s with
        integratorConfigs := Function.update s.integratorConfigs integrator
          { s.integratorConfigs integrator with admin := 0#160 } } ∧
      r = { events := [.adminUpdated integrator sender 0#160] } := by
  simp only [discardAdmin, onlyAdmin_bind_eq_ok, require_bind_eq_ok, pure_eq_ok, Prod.mk.injEq]

theorem registryAsAdmin_eq_ok {f : Registry → Except Error (Registry × Receipt)} :
    registryAsAdmin s sender integrator f = .ok (s', r) ↔
      OnlyAdmin s integrator sender ∧
        ∃ registry, f s.toRegistry = .ok (registry, r) ∧
          s' = { s with toRegistry := registry } := by
  rw [registryAsAdmin, onlyAdmin_bind_eq_ok]
  simp only [bind_eq_ok, pure_eq_ok, Prod.exists, Prod.mk.injEq]
  constructor
  · rintro ⟨hadmin, reg, _, hf, hs, rfl⟩
    exact ⟨hadmin, reg, hf, hs⟩
  · rintro ⟨hadmin, reg, hf, hs⟩
    exact ⟨hadmin, reg, r, hf, hs, rfl⟩

theorem sendMessage_eq_ok {args : SendMessageArgs} {mem : ℕ → Byte} :
    sendMessage s sender args mem = .ok (s', r) ↔
      ∃ adapterInst, AdapterInstructions.parseInstructions args.adapterInstructions mem
          (s.registeredAdapters sender).length = .ok adapterInst ∧
        args.dstChain ≠ 0#16 ∧ s.perChainSendAdapterArray sender args.dstChain ≠ [] ∧
        s.messageSequence sender ≠ BitVec.allOnes 64 ∧
        s' = { s with
          messageSequence := Function.update s.messageSequence sender
            (s.messageSequence sender + 1#64) } ∧
        r = ⟨.sending ⟨args, fromAddress sender, s.messageSequence sender, adapterInst,
          s.perChainSendAdapterArray sender args.dstChain⟩, []⟩ := by
  simp only [sendMessage, bind_eq_ok, AdapterRegistry.getSendAdaptersByChain, useMessageSequence,
    require_eq_ok, pure_eq_ok, Prod.exists, Prod.mk.injEq, Ne, List.length_eq_zero_iff]
  constructor
  · rintro ⟨inst, hinst, _, ⟨-, hc, rfl⟩, -, hne, _, _, ⟨-, hmax, rfl, rfl⟩, rfl, rfl⟩
    exact ⟨inst, hinst, hc, hne, hmax, rfl, rfl⟩
  · rintro ⟨inst, hinst, hc, hne, hmax, rfl, rfl⟩
    exact ⟨inst, hinst, _, ⟨(), hc, rfl⟩, (), hne, _, _, ⟨(), hmax, rfl, rfl⟩, rfl, rfl⟩

/-- The guards of `attestMessage`: the destination is this chain and an address on it, and the
caller is a registered adapter, enabled for the source chain, that has not attested before. -/
structure Attests (E : Env) (s : State) (sender : Address) (m : Message) (integrator : Address) :
    Prop where
  dstAddr_eq : m.dstAddr = fromAddress integrator
  dstChain_eq : m.dstChain = E.ourChain
  registered : AdapterRegistry.Registered s.toRegistry integrator m.srcChain sender
  enabled : AdapterRegistry.RecvEnabled s.toRegistry integrator m.srcChain sender
  fresh : (s.attestationInfo integrator (computeMessageDigest E m)).attestedAdapters |||
      AdapterRegistry.bit (s.adapterInfos integrator sender).index ≠
    (s.attestationInfo integrator (computeMessageDigest E m)).attestedAdapters
  count : (s.attestationInfo integrator (computeMessageDigest E m)).numAttested ≠ BitVec.allOnes 8

theorem attestMessage_eq_ok {m : Message} : attestMessage E s sender m = .ok (s', r) ↔
    ∃ integrator, Attests E s sender m integrator ∧
      s' = { s with
        attestationInfo := update₂ s.attestationInfo integrator (computeMessageDigest E m)
          ((s.attestationInfo integrator (computeMessageDigest E m)).attest
            (s.adapterInfos integrator sender).index) } ∧
      r = { events := [.messageAttestedTo (computeMessageDigest E m) m
        ((s.attestationInfo integrator (computeMessageDigest E m)).attestedAdapters |||
          AdapterRegistry.bit (s.adapterInfos integrator sender).index)
            (fromAddress sender)] } := by
  simp only [attestMessage, AdapterRegistry.isRecvAdapterEnabledForChainWithCheck, bind_eq_ok,
    toAddress_eq_ok, require_eq_ok, AdapterRegistry.onlyRegisteredAdapter_eq_ok,
    AdapterRegistry.isRecvAdapterEnabledForChain_eq_ok, pure_eq_ok, Prod.mk.injEq]
  constructor
  · rintro ⟨I, hI, -, hd, -, -, _, ⟨-, hreg, -, hen⟩, -, rfl, -, hf, -, hn, hs, hr⟩
    exact ⟨I, ⟨hI, hd, hreg, hen.1 rfl, hf, hn⟩, hs, hr⟩
  · rintro ⟨I, ⟨hI, hd, hreg, hen, hf, hn⟩, hs, hr⟩
    exact ⟨I, hI, (), hd, (), hreg.registered, true,
      ⟨(), hreg, hreg.chain_ne, iff_of_true rfl hen⟩, (), rfl, (), hf, (), hn, hs, hr⟩

theorem recvMessage_eq_ok {args : RecvMessageArgs} :
    recvMessage E s sender args = .ok (s', r) ↔
      let m := inbound E sender args
      let info := s.attestationInfo sender (computeMessageDigest E m)
      args.srcChain ≠ 0#16 ∧ s.perChainRecvAdapterBitmap sender args.srcChain ≠ 0#128 ∧
        info.attestedAdapters ≠ 0#128 ∧ info.executed = false ∧
        s' = { s with
          attestationInfo := update₂ s.attestationInfo sender (computeMessageDigest E m)
            { info with executed := true } } ∧
        r = ⟨.received (s.perChainRecvAdapterBitmap sender args.srcChain) info.attestedAdapters
            info.numAttested,
          [.messageReceived (computeMessageDigest E m) m
            (s.perChainRecvAdapterBitmap sender args.srcChain) info.attestedAdapters]⟩ := by
  simp only [recvMessage, bind_eq_ok, AdapterRegistry.getEnabledRecvAdaptersBitmapForChain_eq_ok,
    require_eq_ok, pure_eq_ok, Prod.mk.injEq, Bool.not_eq_true]
  constructor
  · rintro ⟨_, ⟨hc, rfl⟩, -, hne, -, hatt, -, hex, hs, hr⟩
    exact ⟨hc, hne, fun h => hatt ⟨h, hex⟩, hex, hs, hr⟩
  · rintro ⟨hc, hne, hatt, hex, hs, hr⟩
    exact ⟨_, ⟨hc, rfl⟩, (), hne, (), fun h => hatt h.1, (), hex, hs, hr⟩

theorem execMessage_eq_ok {args : RecvMessageArgs} :
    execMessage E s sender args = .ok (s', r) ↔
      let m := inbound E sender args
      let info := s.attestationInfo sender (computeMessageDigest E m)
      info.executed = false ∧
        s' = { s with
          attestationInfo := update₂ s.attestationInfo sender (computeMessageDigest E m)
            { info with executed := true } } ∧
        r = { events := [] } := by
  simp only [execMessage, require_bind_eq_ok, pure_eq_ok, Prod.mk.injEq, Bool.not_eq_true]

end Endpoint

end GmpRouter.Evm
