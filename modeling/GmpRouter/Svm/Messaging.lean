import GmpRouter.Svm.Instructions

/-!
# Messages of the SVM endpoint

Sending a message creates an account for it, which the adapters of the snapshot pick up and the last
of them closes. Attestations of a message are collected in an account whose address is derived from
the hash of the message; receiving or executing the message sets its replay protection flag. Both
`attestMessage` and `execMessage` create that account when it does not exist, which they recognise
by its source chain being 0.

`machine` has the fifteen instructions of the program as its inputs. An instruction that fails is
rolled back, with its transaction.
-/

namespace GmpRouter.Svm

/-! ## The outbox -/

structure SendMessage where
  /-- The signer that pays for the new account. -/
  payer : Pubkey
  integratorProgramPda : Signer
  integratorChainConfig : Address
  sequenceTracker : Address
  /-- A new account, whose key signs. -/
  outboxMessage : Pubkey
  deriving DecidableEq

structure SendMessageArgs where
  integratorProgramId : Pubkey
  integratorProgramPdaBump : Byte
  dstChain : ChainId
  dstAddr : UniversalAddress
  payloadHash : Bytes32
  deriving DecidableEq

def sendMessage (s : State) (ctx : SendMessage) (args : SendMessageArgs) :
    Except Error (State × Output) := do
  let chainConfig : IntegratorChainConfig ← load s ctx.integratorChainConfig
  let tracker : SequenceTracker ← load s ctx.sequenceTracker
  require (ctx.outboxMessage ≠ ctx.payer) .tryingToInitPayerAsProgramAccount
  init s (.external ctx.outboxMessage)
  require (ctx.integratorProgramPda =
    integratorProgramPda args.integratorProgramId args.integratorProgramPdaBump) .constraintSeeds
  require (ctx.integratorChainConfig =
    .pda (Seeds.integratorChainConfig args.integratorProgramId args.dstChain).bytes
      chainConfig.bump)
    .constraintSeeds
  require (ctx.sequenceTracker =
    .pda (Seeds.sequenceTracker args.integratorProgramId).bytes tracker.bump) .constraintSeeds
  require (chainConfig.sendAdapterBitmap ≠ 0#128) .adapterNotEnabled
  let (sequence, tracker') ← tracker.nextSequence
  let message : OutboxMessage := {
    srcAddr := args.integratorProgramId
    sequence := sequence
    dstChain := args.dstChain
    dstAddr := args.dstAddr
    payloadHash := args.payloadHash
    outstandingAdapters := chainConfig.sendAdapterBitmap
    refundRecipient := ctx.payer }
  pure ((s.set ctx.sequenceTracker (.sequenceTracker tracker')).set (.external ctx.outboxMessage)
    (.outboxMessage message),
    -- The event reads the tracker after its use.
    { event := .messageSent args.integratorProgramId tracker'.sequence args.dstAddr args.dstChain
        args.payloadHash })

structure PickUpMessage where
  outboxMessage : Address
  adapterInfo : Address
  adapterPda : Signer
  refundRecipient : Pubkey
  deriving DecidableEq

structure PickUpMessageArgs where
  adapterProgramId : Pubkey
  adapterPdaBump : Byte
  deriving DecidableEq

def pickUpMessage (s : State) (ctx : PickUpMessage) (args : PickUpMessageArgs) :
    Except Error (State × Output) := do
  let message : OutboxMessage ← load s ctx.outboxMessage
  let info : AdapterInfo ← load s ctx.adapterInfo
  require (message.refundRecipient = ctx.refundRecipient) .constraintHasOne
  require (ctx.adapterInfo =
    .pda (Seeds.adapterInfo message.srcAddr args.adapterProgramId).bytes info.bump) .constraintSeeds
  require (ctx.adapterPda = adapterPda args.adapterProgramId args.adapterPdaBump) .constraintSeeds
  require (Bitmap.getOrFalse message.outstandingAdapters info.index = true) .messageAlreadyPickedUp
  let outstandingAdapters ← Bitmap.set message.outstandingAdapters info.index false
  let message' := { message with outstandingAdapters := outstandingAdapters }
  let event := Event.messagePickedUp message'.srcAddr message'.sequence message'.dstChain
    message'.dstAddr message'.payloadHash args.adapterProgramId outstandingAdapters
  -- The last adapter closes the account.
  pure (if outstandingAdapters = 0#128 then s.close ctx.outboxMessage
    else s.set ctx.outboxMessage (.outboxMessage message'),
    { event := event
      refund := if outstandingAdapters = 0#128 then some ctx.refundRecipient else none })

/-! ## The inbox -/

namespace AttestationInfo

/-- The message that the account is about. -/
def message (info : AttestationInfo) : Message :=
  ⟨info.srcChain, info.srcAddr, info.sequence, info.dstChain, info.dstAddr, info.payloadHash⟩

/-- The bytes that `compute_message_hash` collects, slice by slice. -/
def hashInput (m : Message) : List Byte :=
  [toBeBytes 2 m.srcChain, toBeBytes 32 m.srcAddr, toBeBytes 8 m.sequence, toBeBytes 2 m.dstChain,
    toBeBytes 32 m.dstAddr, toBeBytes 32 m.payloadHash].foldl (· ++ ·) []

theorem hashInput_eq (m : Message) : hashInput m = m.encodePacked := by
  simp only [hashInput, List.foldl_cons, List.foldl_nil, List.nil_append, toBeBytes_eq,
    Message.encodePacked]

def computeMessageHash (E : Env) (m : Message) : Digest := E.keccak (hashInput m)

theorem computeMessageHash_eq (E : Env) (m : Message) :
    computeMessageHash E m = E.keccak m.encodePacked := by
  rw [computeMessageHash, hashInput_eq]

def new (E : Env) (bump : Byte) (m : Message) : Except Error AttestationInfo := do
  require (m.srcChain ≠ 0#16 ∧ m.dstChain ≠ 0#16) .invalidChainId
  pure {
    bump := bump
    srcChain := m.srcChain
    srcAddr := m.srcAddr
    sequence := m.sequence
    dstChain := m.dstChain
    dstAddr := m.dstAddr
    payloadHash := m.payloadHash
    messageHash := computeMessageHash E m
    executed := false
    attestedAdapters := 0#128 }

/-- A source chain of 0 marks a new account, which is set up. -/
def orNew (E : Env) (info : AttestationInfo) (bump : Byte) (m : Message) :
    Except Error AttestationInfo :=
  if info.srcChain = 0#16 then new E bump m else pure info

end AttestationInfo

/-- The account of the attestations of a message. -/
def attestationSeeds (E : Env) (m : Message) : Seeds :=
  .attestationInfo (AttestationInfo.computeMessageHash E m)

structure AttestMessage where
  adapterInfo : Address
  adapterPda : Signer
  integratorChainConfig : Address
  attestationInfo : Address
  deriving DecidableEq

structure AttestMessageArgs where
  adapterProgramId : Pubkey
  adapterPdaBump : Byte
  srcChain : ChainId
  srcAddr : UniversalAddress
  sequence : BitVec 64
  dstChain : ChainId
  integratorProgramId : Pubkey
  payloadHash : Bytes32
  deriving DecidableEq

def AttestMessageArgs.message (args : AttestMessageArgs) : Message :=
  ⟨args.srcChain, args.srcAddr, args.sequence, args.dstChain, args.integratorProgramId,
    args.payloadHash⟩

def attestMessage (E : Env) (s : State) (ctx : AttestMessage) (args : AttestMessageArgs) :
    Except Error (State × Output) := do
  let adapter : AdapterInfo ← load s ctx.adapterInfo
  let chainConfig : IntegratorChainConfig ← load s ctx.integratorChainConfig
  require (ctx.attestationInfo = E.pda (attestationSeeds E args.message)) .constraintSeeds
  let info : AttestationInfo ← initIfNeeded s ctx.attestationInfo {}
  require (ctx.adapterInfo =
    .pda (Seeds.adapterInfo args.integratorProgramId args.adapterProgramId).bytes adapter.bump)
    .constraintSeeds
  require (ctx.adapterPda = adapterPda args.adapterProgramId args.adapterPdaBump) .constraintSeeds
  require (ctx.integratorChainConfig =
    .pda (Seeds.integratorChainConfig args.integratorProgramId args.srcChain).bytes
      chainConfig.bump)
    .constraintSeeds
  require (args.dstChain = CHAIN_ID) .invalidDestinationChain
  require (Bitmap.getOrFalse chainConfig.recvAdapterBitmap adapter.index = true) .adapterNotEnabled
  let info ← info.orNew E (E.canonicalBump (attestationSeeds E args.message).bytes) args.message
  require (Bitmap.getOrFalse info.attestedAdapters adapter.index = false)
    .duplicateMessageAttestation
  let attestedAdapters ← Bitmap.set info.attestedAdapters adapter.index true
  pure (s.set ctx.attestationInfo
    (.attestationInfo { info with attestedAdapters := attestedAdapters }),
    { event := .messageAttestedTo info.messageHash args.message attestedAdapters
        args.adapterProgramId })

structure RecvMessage where
  integratorProgramPda : Signer
  integratorChainConfig : Address
  attestationInfo : Address
  deriving DecidableEq

structure ExecMessage where
  integratorProgramPda : Signer
  attestationInfo : Address
  deriving DecidableEq

/-- `RecvMessageArgs` and `ExecMessageArgs`. -/
structure RecvMessageArgs where
  integratorProgramPdaBump : Byte
  srcChain : ChainId
  srcAddr : UniversalAddress
  sequence : BitVec 64
  dstChain : ChainId
  integratorProgramId : Pubkey
  payloadHash : Bytes32
  deriving DecidableEq

def RecvMessageArgs.message (args : RecvMessageArgs) : Message :=
  ⟨args.srcChain, args.srcAddr, args.sequence, args.dstChain, args.integratorProgramId,
    args.payloadHash⟩

def recvMessage (E : Env) (s : State) (ctx : RecvMessage) (args : RecvMessageArgs) :
    Except Error (State × Output) := do
  let chainConfig : IntegratorChainConfig ← load s ctx.integratorChainConfig
  let info : AttestationInfo ← load s ctx.attestationInfo
  require (ctx.integratorProgramPda =
    integratorProgramPda args.integratorProgramId args.integratorProgramPdaBump) .constraintSeeds
  require (ctx.integratorChainConfig =
    .pda (Seeds.integratorChainConfig args.integratorProgramId args.srcChain).bytes
      chainConfig.bump)
    .constraintSeeds
  require (ctx.attestationInfo = .pda (attestationSeeds E args.message).bytes info.bump)
    .constraintSeeds
  require (info.executed = false) .alreadyExecuted
  pure (s.set ctx.attestationInfo (.attestationInfo { info with executed := true }),
    { event := .messageReceived info.messageHash info.message chainConfig.recvAdapterBitmap
        info.attestedAdapters })

def execMessage (E : Env) (s : State) (ctx : ExecMessage) (args : RecvMessageArgs) :
    Except Error (State × Output) := do
  require (ctx.attestationInfo = E.pda (attestationSeeds E args.message)) .constraintSeeds
  let info : AttestationInfo ← initIfNeeded s ctx.attestationInfo {}
  require (ctx.integratorProgramPda =
    integratorProgramPda args.integratorProgramId args.integratorProgramPdaBump) .constraintSeeds
  require (info.executed = false) .alreadyExecuted
  let info ← info.orNew E (E.canonicalBump (attestationSeeds E args.message).bytes) args.message
  pure (s.set ctx.attestationInfo (.attestationInfo { info with executed := true }),
    { event := .messageExecuted info.messageHash args.message })

/-! ## The program -/

inductive Instruction
  | register (ctx : Register) (args : RegisterArgs)
  | addAdapter (ctx : AddAdapter) (args : AddAdapterArgs)
  | enableSendAdapter (ctx : SetAdapter) (args : AdapterInfoArgs)
  | enableRecvAdapter (ctx : SetAdapter) (args : AdapterInfoArgs)
  | disableSendAdapter (ctx : SetAdapter) (args : AdapterInfoArgs)
  | disableRecvAdapter (ctx : SetAdapter) (args : AdapterInfoArgs)
  | updateAdmin (ctx : AdminContext) (args : NewAdminArgs)
  | transferAdmin (ctx : AdminContext) (args : NewAdminArgs)
  | claimAdmin (ctx : ClaimAdmin)
  | discardAdmin (ctx : AdminContext)
  | sendMessage (ctx : SendMessage) (args : SendMessageArgs)
  | pickUpMessage (ctx : PickUpMessage) (args : PickUpMessageArgs)
  | attestMessage (ctx : AttestMessage) (args : AttestMessageArgs)
  | recvMessage (ctx : RecvMessage) (args : RecvMessageArgs)
  | execMessage (ctx : ExecMessage) (args : RecvMessageArgs)
  deriving DecidableEq

def process (E : Env) (s : State) : Instruction → Except Error (State × Output)
  | .register ctx args => register E s ctx args
  | .addAdapter ctx args => addAdapter E s ctx args
  | .enableSendAdapter ctx args => enableSendAdapter E s ctx args
  | .enableRecvAdapter ctx args => enableRecvAdapter E s ctx args
  | .disableSendAdapter ctx args => disableSendAdapter E s ctx args
  | .disableRecvAdapter ctx args => disableRecvAdapter E s ctx args
  | .updateAdmin ctx args => updateAdmin s ctx args
  | .transferAdmin ctx args => transferAdmin s ctx args
  | .claimAdmin ctx => claimAdmin s ctx
  | .discardAdmin ctx => discardAdmin s ctx
  | .sendMessage ctx args => sendMessage s ctx args
  | .pickUpMessage ctx args => pickUpMessage s ctx args
  | .attestMessage ctx args => attestMessage E s ctx args
  | .recvMessage ctx args => recvMessage E s ctx args
  | .execMessage ctx args => execMessage E s ctx args

def machine (E : Env) : Machine State Instruction Error Output := ⟨process E⟩

end GmpRouter.Svm
