import GmpRouter.Aptos.Integrator
import GmpRouter.Foundations.Machine

/-!
# The module `endpoint`

Sending, picking up, attesting, receiving and executing messages. A message is given by its fields,
the addresses and the payload hash as byte strings whose lengths `computeMessageHash` asserts, and
its attestations are in a table under its hash.

`machine` has the fifteen functions of both modules that change the state as its inputs. A function
that aborts has no effect.
-/

namespace GmpRouter.Aptos

namespace Endpoint

def E_INVALID_PAYLOAD_HASH_LENGTH : Error := .abort .endpoint 0

def E_ADAPTER_NOT_ENABLED : Error := .abort .endpoint 1

def E_INVALID_SOURCE_ADDRESS_LENGTH : Error := .abort .endpoint 2

def E_INVALID_DESTINATION_ADDRESS_LENGTH : Error := .abort .endpoint 3

def E_ALREADY_EXECUTED : Error := .abort .endpoint 4

/-! ## The outbox -/

def sendMessage (s : State) (integratorAcct : Address) (dstChain : ChainId)
    (dstAddr : UniversalAddress) (payloadHash : List Byte) : Except Error (BitVec 64 × State) := do
  require (payloadHash.length = 32) E_INVALID_PAYLOAD_HASH_LENGTH
  let outstandingAdapters ← Integrator.getEnabledSendAdapters s integratorAcct dstChain
  require (outstandingAdapters ≠ 0#128) E_ADAPTER_NOT_ENABLED
  let srcAddr := UniversalAddress.fromAddress integratorAcct
  let (sequence, s) ← Integrator.useSequence s integratorAcct
  let outboxMessages ← s.outboxMessages.add ⟨integratorAcct, sequence⟩
    ⟨srcAddr, sequence, dstChain, dstAddr, payloadHash, outstandingAdapters⟩
  pure (sequence, { s with outboxMessages := outboxMessages })

def getOutboxMessage (s : State) (integratorAddr : Address) (sequence : BitVec 64) :
    Except Error OutboxMessage :=
  s.outboxMessages.borrow ⟨integratorAddr, sequence⟩

/-- The message, with the adapters that remain. -/
def pickUpMessage (s : State) (adapterAcct integratorAddr : Address) (sequence : BitVec 64) :
    Except Error (OutboxMessage × State) := do
  let key : OutboxMessageKey := ⟨integratorAddr, sequence⟩
  let message ← s.outboxMessages.borrow key
  let index ← Integrator.getAdapterIndex s integratorAddr adapterAcct
  let newOutstandingAdapters ← Bitmap.disable message.outstandingAdapters index
  let message' := { message with outstandingAdapters := newOutstandingAdapters }
  pure (message', { s with
    outboxMessages := if newOutstandingAdapters = 0#128 then s.outboxMessages.remove key
      else s.outboxMessages.upsert key message' })

/-! ## The inbox -/

/-- `bcs::to_bytes` of an integer of `n` bytes, which is little-endian. -/
def bcsToBytes {w : ℕ} (n : ℕ) (x : BitVec w) : List Byte := leBytes n x

/-- The bytes that `compute_message_hash` hashes; the integers are to be big-endian. -/
def hashInput (srcChain : ChainId) (srcAddr : List Byte) (sequence : BitVec 64)
    (dstChain : ChainId) (dstAddr payloadHash : List Byte) : List Byte :=
  (bcsToBytes 2 srcChain).reverse ++ srcAddr ++ (bcsToBytes 8 sequence).reverse ++
    (bcsToBytes 2 dstChain).reverse ++ dstAddr ++ payloadHash

def computeMessageHash (keccak256 : List Byte → Digest) (srcChain : ChainId) (srcAddr : List Byte)
    (sequence : BitVec 64) (dstChain : ChainId) (dstAddr payloadHash : List Byte) :
    Except Error Digest := do
  require (srcAddr.length = 32) E_INVALID_SOURCE_ADDRESS_LENGTH
  require (dstAddr.length = 32) E_INVALID_DESTINATION_ADDRESS_LENGTH
  require (payloadHash.length = 32) E_INVALID_PAYLOAD_HASH_LENGTH
  pure (keccak256 (hashInput srcChain srcAddr sequence dstChain dstAddr payloadHash))

def attestMessage (keccak256 : List Byte → Digest) (s : State) (adapterAcct : Address)
    (srcChain : ChainId) (srcAddr : List Byte) (sequence : BitVec 64) (dstChain : ChainId)
    (dstAddr payloadHash : List Byte) : Except Error State := do
  let universalAddress ← UniversalAddress.fromBytes dstAddr
  let integratorAddr := universalAddress.toAddress
  let index ← Integrator.getAdapterIndex s integratorAddr adapterAcct
  let enabledRecvAdapters ← Integrator.getEnabledRecvAdapters s integratorAddr srcChain
  let enabled ← Bitmap.get enabledRecvAdapters index
  require (enabled = true) E_ADAPTER_NOT_ENABLED
  let messageHash ←
    computeMessageHash keccak256 srcChain srcAddr sequence dstChain dstAddr payloadHash
  let info := s.attestationInfos.borrowWithDefault messageHash {}
  let attestedAdapters ← Bitmap.enable info.attestedAdapters index
  pure { s with
    attestationInfos :=
      s.attestationInfos.upsert messageHash { info with attestedAdapters := attestedAdapters } }

/-- The enabled adapters and the attestations. -/
def recvMessage (keccak256 : List Byte → Digest) (s : State) (integratorAcct : Address)
    (srcChain : ChainId) (srcAddr : List Byte) (sequence : BitVec 64) (dstChain : ChainId)
    (payloadHash : List Byte) : Except Error ((BitVec 128 × BitVec 128) × State) := do
  let dstAddr := (UniversalAddress.fromAddress integratorAcct).universalAddress
  let messageHash ←
    computeMessageHash keccak256 srcChain srcAddr sequence dstChain dstAddr payloadHash
  let info ← s.attestationInfos.borrow messageHash
  require (info.executed = false) E_ALREADY_EXECUTED
  let enabledRecvAdapters ← Integrator.getEnabledRecvAdapters s integratorAcct srcChain
  pure ((enabledRecvAdapters, info.attestedAdapters), { s with
    attestationInfos := s.attestationInfos.upsert messageHash { info with executed := true } })

def execMessage (keccak256 : List Byte → Digest) (s : State) (integratorAcct : Address)
    (srcChain : ChainId) (srcAddr : List Byte) (sequence : BitVec 64) (dstChain : ChainId)
    (payloadHash : List Byte) : Except Error State := do
  let dstAddr := (UniversalAddress.fromAddress integratorAcct).universalAddress
  let messageHash ←
    computeMessageHash keccak256 srcChain srcAddr sequence dstChain dstAddr payloadHash
  let info := s.attestationInfos.borrowWithDefault messageHash {}
  require (info.executed = false) E_ALREADY_EXECUTED
  pure { s with
    attestationInfos := s.attestationInfos.upsert messageHash { info with executed := true } }

end Endpoint

/-! ## Calls -/

/-- The functions, with the address of the signer first. -/
inductive Call
  | register (integratorAcct adminAddr : Address)
  | updateAdmin (admin integratorAddr newAdmin : Address)
  | transferAdmin (admin integratorAddr newAdmin : Address)
  | claimAdmin (newAdmin integratorAddr : Address)
  | discardAdmin (admin integratorAddr : Address)
  | addAdapter (admin integratorAddr adapterAddr : Address)
  | enableSendAdapter (admin integratorAddr : Address) (chainId : ChainId) (adapterAddr : Address)
  | disableSendAdapter (admin integratorAddr : Address) (chainId : ChainId) (adapterAddr : Address)
  | enableRecvAdapter (admin integratorAddr : Address) (chainId : ChainId) (adapterAddr : Address)
  | disableRecvAdapter (admin integratorAddr : Address) (chainId : ChainId) (adapterAddr : Address)
  | sendMessage (integratorAcct : Address) (dstChain : ChainId) (dstAddr : UniversalAddress)
      (payloadHash : List Byte)
  | pickUpMessage (adapterAcct integratorAddr : Address) (sequence : BitVec 64)
  | attestMessage (adapterAcct : Address) (srcChain : ChainId) (srcAddr : List Byte)
      (sequence : BitVec 64) (dstChain : ChainId) (dstAddr payloadHash : List Byte)
  | recvMessage (integratorAcct : Address) (srcChain : ChainId) (srcAddr : List Byte)
      (sequence : BitVec 64) (dstChain : ChainId) (payloadHash : List Byte)
  | execMessage (integratorAcct : Address) (srcChain : ChainId) (srcAddr : List Byte)
      (sequence : BitVec 64) (dstChain : ChainId) (payloadHash : List Byte)
  deriving DecidableEq

/-- What a call returns. -/
inductive Output
  | unit
  | sequence (sequence : BitVec 64)
  /-- The message that is picked up, with the adapters that remain. -/
  | message (message : OutboxMessage)
  | adapters (enabledRecvAdapters attestedAdapters : BitVec 128)
  deriving DecidableEq

/-- A function without a value. -/
def noOutput (x : Except Error State) : Except Error (State × Output) := do
  let s ← x
  pure (s, .unit)

def process (keccak256 : List Byte → Digest) (s : State) : Call → Except Error (State × Output)
  | .register integratorAcct adminAddr =>
    noOutput (Integrator.newIntegrator s integratorAcct adminAddr)
  | .updateAdmin admin integratorAddr newAdmin =>
    noOutput (Integrator.updateAdmin s admin integratorAddr newAdmin)
  | .transferAdmin admin integratorAddr newAdmin =>
    noOutput (Integrator.transferAdmin s admin integratorAddr newAdmin)
  | .claimAdmin newAdmin integratorAddr =>
    noOutput (Integrator.claimAdmin s newAdmin integratorAddr)
  | .discardAdmin admin integratorAddr =>
    noOutput (Integrator.discardAdmin s admin integratorAddr)
  | .addAdapter admin integratorAddr adapterAddr =>
    noOutput (Integrator.addAdapter s admin integratorAddr adapterAddr)
  | .enableSendAdapter admin integratorAddr chainId adapterAddr =>
    noOutput (Integrator.enableSendAdapter s admin integratorAddr chainId adapterAddr)
  | .disableSendAdapter admin integratorAddr chainId adapterAddr =>
    noOutput (Integrator.disableSendAdapter s admin integratorAddr chainId adapterAddr)
  | .enableRecvAdapter admin integratorAddr chainId adapterAddr =>
    noOutput (Integrator.enableRecvAdapter s admin integratorAddr chainId adapterAddr)
  | .disableRecvAdapter admin integratorAddr chainId adapterAddr =>
    noOutput (Integrator.disableRecvAdapter s admin integratorAddr chainId adapterAddr)
  | .sendMessage integratorAcct dstChain dstAddr payloadHash => do
    let (sequence, s) ← Endpoint.sendMessage s integratorAcct dstChain dstAddr payloadHash
    pure (s, .sequence sequence)
  | .pickUpMessage adapterAcct integratorAddr sequence => do
    let (message, s) ← Endpoint.pickUpMessage s adapterAcct integratorAddr sequence
    pure (s, .message message)
  | .attestMessage adapterAcct srcChain srcAddr sequence dstChain dstAddr payloadHash =>
    noOutput (Endpoint.attestMessage keccak256 s adapterAcct srcChain srcAddr sequence dstChain
      dstAddr payloadHash)
  | .recvMessage integratorAcct srcChain srcAddr sequence dstChain payloadHash => do
    let ((enabledRecvAdapters, attestedAdapters), s) ← Endpoint.recvMessage keccak256 s
      integratorAcct srcChain srcAddr sequence dstChain payloadHash
    pure (s, .adapters enabledRecvAdapters attestedAdapters)
  | .execMessage integratorAcct srcChain srcAddr sequence dstChain payloadHash =>
    noOutput (Endpoint.execMessage keccak256 s integratorAcct srcChain srcAddr sequence dstChain
      payloadHash)

def machine (keccak256 : List Byte → Digest) : Machine State Call Error Output :=
  ⟨process keccak256⟩

end GmpRouter.Aptos
