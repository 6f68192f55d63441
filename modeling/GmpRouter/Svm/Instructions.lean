import GmpRouter.Svm.Accounts
import GmpRouter.Foundations.Machine

/-!
# Instructions of the SVM endpoint

Each instruction takes the accounts of its context and its arguments. It reads the accounts, checks
the constraints on them, then the access control, and runs. The address of an account is constrained
by its seeds with the bump the account stores or, where the context asks for it, the canonical bump
that the derivation finds (`Env.canonicalBump`). Signatures of addresses derived from an integrator
or an adapter program stand for those programs (`integratorProgramPda`, `adapterPda`).

The two directions of enabling and of disabling an adapter have one handler each.
-/

namespace GmpRouter.Svm

structure Env where
  keccak : List Byte → Digest
  /-- The bump found for the seeds. -/
  canonicalBump : List Byte → Byte

/-- The address derived from the seeds. -/
def Env.pda (E : Env) (seeds : Seeds) : Address := .pda seeds.bytes (E.canonicalBump seeds.bytes)

theorem Env.pda_injective (E : Env) : Function.Injective E.pda := by
  intro x y h
  obtain ⟨h, -⟩ := Address.pda.inj h
  exact Seeds.bytes_injective h

@[simp] theorem Env.pda_inj (E : Env) {x y : Seeds} : E.pda x = E.pda y ↔ x = y :=
  E.pda_injective.eq_iff

@[simp] theorem Env.external_ne_pda (E : Env) {k : Pubkey} {x : Seeds} :
    Address.external k ≠ E.pda x := nofun

@[simp] theorem Env.pda_ne_external (E : Env) {k : Pubkey} {x : Seeds} :
    E.pda x ≠ Address.external k := nofun

/-- The signer of an integrator program. -/
def integratorProgramPda (program : Pubkey) (bump : Byte) : Signer :=
  .pda program (ascii "endpoint_integrator") bump

/-- The signer of an adapter program. -/
def adapterPda (program : Pubkey) (bump : Byte) : Signer := .pda program (ascii "adapter_pda") bump

/-! ## State of the integrators -/

def MAX_ADAPTERS : ℕ := 128

namespace IntegratorConfig

def checkAdmin (config : IntegratorConfig) (signer : Pubkey) : Except Error Unit := do
  require (config.admin = some signer) .callerNotAuthorized
  require (config.pendingAdmin = none) .adminTransferInProgress

def addAdapter (config : IntegratorConfig) (adapter : Pubkey) : Except Error IntegratorConfig := do
  require (config.adapterInfos.length < MAX_ADAPTERS) .maxAdaptersReached
  pure { config with adapterInfos := config.adapterInfos ++ [adapter] }

end IntegratorConfig

namespace IntegratorChainConfig

def bitmap (config : IntegratorChainConfig) : Direction → BitVec 128
  | .send => config.sendAdapterBitmap
  | .recv => config.recvAdapterBitmap

def setBitmap (config : IntegratorChainConfig) (bitmap : BitVec 128) :
    Direction → IntegratorChainConfig
  | .send => { config with sendAdapterBitmap := bitmap }
  | .recv => { config with recvAdapterBitmap := bitmap }

@[simp] theorem setBitmap_self (config : IntegratorChainConfig) (bitmap : BitVec 128)
    (d : Direction) : (config.setBitmap bitmap d).bitmap d = bitmap := by
  cases d <;> rfl

theorem setBitmap_of_ne (config : IntegratorChainConfig) (bitmap : BitVec 128) {d d' : Direction}
    (hd : d' ≠ d) : (config.setBitmap bitmap d).bitmap d' = config.bitmap d' := by
  cases d <;> cases d' <;> first | rfl | exact absurd rfl hd

/-- A chain ID of 0 marks a new account, which is set up. -/
def orNew (E : Env) (config : IntegratorChainConfig) (integrator : Pubkey) (chainId : ChainId) :
    IntegratorChainConfig :=
  if config.chainId = 0#16 then {
    chainId := chainId
    bump := E.canonicalBump (Seeds.integratorChainConfig integrator chainId).bytes
    integratorProgramId := integrator
    sendAdapterBitmap := 0#128
    recvAdapterBitmap := 0#128 }
  else config

end IntegratorChainConfig

/-- The sequence number of the next message, and the tracker after it is used. -/
def SequenceTracker.nextSequence (tracker : SequenceTracker) :
    Except Error (BitVec 64 × SequenceTracker) := do
  require (tracker.sequence ≠ BitVec.allOnes 64) .panic
  pure (tracker.sequence, { tracker with sequence := tracker.sequence + 1#64 })

/-! ## Registration -/

structure Register where
  integratorConfig : Address
  sequenceTracker : Address
  integratorProgramPda : Signer
  deriving DecidableEq

structure RegisterArgs where
  integratorProgramId : Pubkey
  integratorProgramPdaBump : Byte
  admin : Pubkey
  deriving DecidableEq

def register (E : Env) (s : State) (ctx : Register) (args : RegisterArgs) :
    Except Error (State × Output) := do
  require (ctx.integratorConfig = E.pda (.integratorConfig args.integratorProgramId))
    .constraintSeeds
  init s ctx.integratorConfig
  require (ctx.sequenceTracker = E.pda (.sequenceTracker args.integratorProgramId)) .constraintSeeds
  init s ctx.sequenceTracker
  require (ctx.integratorProgramPda =
    integratorProgramPda args.integratorProgramId args.integratorProgramPdaBump) .constraintSeeds
  let config : IntegratorConfig := {
    bump := E.canonicalBump (Seeds.integratorConfig args.integratorProgramId).bytes
    admin := some args.admin
    pendingAdmin := none
    integratorProgramId := args.integratorProgramId
    adapterInfos := [] }
  let tracker : SequenceTracker := {
    bump := E.canonicalBump (Seeds.sequenceTracker args.integratorProgramId).bytes
    integratorProgramId := args.integratorProgramId
    sequence := 0#64 }
  pure ((s.set ctx.integratorConfig (.integratorConfig config)).set ctx.sequenceTracker
    (.sequenceTracker tracker),
    { event := .integratorRegistered args.integratorProgramId args.admin })

/-! ## Adapters -/

structure AddAdapter where
  /-- The signer. -/
  admin : Pubkey
  integratorConfig : Address
  adapterInfo : Address
  deriving DecidableEq

structure AddAdapterArgs where
  integratorProgramId : Pubkey
  adapterProgramId : Pubkey
  deriving DecidableEq

def addAdapter (E : Env) (s : State) (ctx : AddAdapter) (args : AddAdapterArgs) :
    Except Error (State × Output) := do
  let config : IntegratorConfig ← load s ctx.integratorConfig
  require (ctx.adapterInfo = E.pda (.adapterInfo args.integratorProgramId args.adapterProgramId))
    .constraintSeeds
  init s ctx.adapterInfo
  require (ctx.integratorConfig =
    .pda (Seeds.integratorConfig args.integratorProgramId).bytes config.bump) .constraintSeeds
  config.checkAdmin ctx.admin
  let index : BitVec 8 := BitVec.ofNat 8 config.adapterInfos.length
  let config' ← config.addAdapter args.adapterProgramId
  let info : AdapterInfo := {
    bump := E.canonicalBump (Seeds.adapterInfo args.integratorProgramId args.adapterProgramId).bytes
    index := index
    integratorProgramId := args.integratorProgramId
    adapterProgramId := args.adapterProgramId }
  pure ((s.set ctx.integratorConfig (.integratorConfig config')).set ctx.adapterInfo
    (.adapterInfo info),
    { event := .adapterAdded args.integratorProgramId args.adapterProgramId index })

structure AdapterInfoArgs where
  chainId : ChainId
  adapterProgramId : Pubkey
  integratorProgramId : Pubkey
  deriving DecidableEq

/-- The contexts `EnableAdapter` and `DisableAdapter`. -/
structure SetAdapter where
  /-- The signer. -/
  admin : Pubkey
  integratorConfig : Address
  integratorChainConfig : Address
  adapterInfo : Address
  deriving DecidableEq

def enabledEvent : Direction → Pubkey → ChainId → Pubkey → Event
  | .send => .sendAdapterEnabledForChain
  | .recv => .recvAdapterEnabledForChain

def disabledEvent : Direction → Pubkey → ChainId → Pubkey → Event
  | .send => .sendAdapterDisabledForChain
  | .recv => .recvAdapterDisabledForChain

def enableAdapter (direction : Direction) (E : Env) (s : State) (ctx : SetAdapter)
    (args : AdapterInfoArgs) : Except Error (State × Output) := do
  let config : IntegratorConfig ← load s ctx.integratorConfig
  let info : AdapterInfo ← load s ctx.adapterInfo
  require (ctx.integratorChainConfig =
    E.pda (.integratorChainConfig args.integratorProgramId args.chainId)) .constraintSeeds
  let chainConfig : IntegratorChainConfig ← initIfNeeded s ctx.integratorChainConfig {}
  require (ctx.integratorConfig =
    .pda (Seeds.integratorConfig args.integratorProgramId).bytes config.bump) .constraintSeeds
  require (ctx.adapterInfo =
    .pda (Seeds.adapterInfo args.integratorProgramId args.adapterProgramId).bytes info.bump)
    .constraintSeeds
  config.checkAdmin ctx.admin
  require (args.chainId ≠ 0#16) .invalidChainId
  let chainConfig := chainConfig.orNew E args.integratorProgramId args.chainId
  let enabled ← Bitmap.get (chainConfig.bitmap direction) info.index
  require (enabled = false) .adapterAlreadyEnabled
  let bitmap ← Bitmap.set (chainConfig.bitmap direction) info.index true
  pure (s.set ctx.integratorChainConfig
    (.integratorChainConfig (chainConfig.setBitmap bitmap direction)),
    { event := enabledEvent direction args.integratorProgramId args.chainId args.adapterProgramId })

def disableAdapter (direction : Direction) (E : Env) (s : State) (ctx : SetAdapter)
    (args : AdapterInfoArgs) : Except Error (State × Output) := do
  let config : IntegratorConfig ← load s ctx.integratorConfig
  let chainConfig : IntegratorChainConfig ← load s ctx.integratorChainConfig
  let info : AdapterInfo ← load s ctx.adapterInfo
  require (ctx.integratorConfig =
    .pda (Seeds.integratorConfig args.integratorProgramId).bytes config.bump) .constraintSeeds
  require (ctx.integratorChainConfig =
    E.pda (.integratorChainConfig args.integratorProgramId args.chainId)) .constraintSeeds
  require (ctx.adapterInfo =
    .pda (Seeds.adapterInfo args.integratorProgramId args.adapterProgramId).bytes info.bump)
    .constraintSeeds
  config.checkAdmin ctx.admin
  let enabled ← Bitmap.get (chainConfig.bitmap direction) info.index
  require (enabled = true) .adapterAlreadyDisabled
  let bitmap ← Bitmap.set (chainConfig.bitmap direction) info.index false
  pure (s.set ctx.integratorChainConfig
    (.integratorChainConfig (chainConfig.setBitmap bitmap direction)),
    { event :=
      disabledEvent direction args.integratorProgramId args.chainId args.adapterProgramId })

def enableSendAdapter := enableAdapter .send

def enableRecvAdapter := enableAdapter .recv

def disableSendAdapter := disableAdapter .send

def disableRecvAdapter := disableAdapter .recv

/-! ## The admin -/

/-- The contexts `UpdateAdmin`, `TransferAdmin` and `DiscardAdmin`. -/
structure AdminContext where
  /-- The signer. -/
  admin : Pubkey
  integratorConfig : Address
  deriving DecidableEq

/-- `UpdateAdminArgs` and `TransferAdminArgs`. -/
structure NewAdminArgs where
  newAdmin : Pubkey
  integratorProgramId : Pubkey
  deriving DecidableEq

structure ClaimAdmin where
  /-- The signer. -/
  newAdmin : Pubkey
  integratorConfig : Address
  deriving DecidableEq

def updateAdmin (s : State) (ctx : AdminContext) (args : NewAdminArgs) :
    Except Error (State × Output) := do
  let config : IntegratorConfig ← load s ctx.integratorConfig
  require (ctx.integratorConfig =
    .pda (Seeds.integratorConfig args.integratorProgramId).bytes config.bump) .constraintSeeds
  config.checkAdmin ctx.admin
  let config' := { config with admin := some args.newAdmin }
  -- The event reads the admin of the updated account.
  let oldAdmin ← orFail config'.admin .panic
  pure (s.set ctx.integratorConfig (.integratorConfig config'),
    { event := .adminUpdated args.integratorProgramId oldAdmin args.newAdmin })

def transferAdmin (s : State) (ctx : AdminContext) (args : NewAdminArgs) :
    Except Error (State × Output) := do
  let config : IntegratorConfig ← load s ctx.integratorConfig
  require (ctx.integratorConfig =
    .pda (Seeds.integratorConfig args.integratorProgramId).bytes config.bump) .constraintSeeds
  config.checkAdmin ctx.admin
  let config' := { config with pendingAdmin := some args.newAdmin }
  pure (s.set ctx.integratorConfig (.integratorConfig config'),
    { event := .adminUpdateRequested args.integratorProgramId ctx.admin args.newAdmin })

/-- The account is not constrained by seeds. -/
def claimAdmin (s : State) (ctx : ClaimAdmin) : Except Error (State × Output) := do
  let config : IntegratorConfig ← load s ctx.integratorConfig
  require (config.admin ≠ none) .callerNotAuthorized
  require (config.pendingAdmin ≠ none) .noAdminTransferInProgress
  require (config.pendingAdmin = some ctx.newAdmin ∨ config.admin = some ctx.newAdmin)
    .callerNotAuthorized
  let config' := { config with admin := some ctx.newAdmin, pendingAdmin := none }
  let oldAdmin ← orFail config'.admin .panic
  pure (s.set ctx.integratorConfig (.integratorConfig config'),
    { event := .adminUpdated config.integratorProgramId oldAdmin ctx.newAdmin })

/-- The seeds are those of the integrator that the account stores. -/
def discardAdmin (s : State) (ctx : AdminContext) : Except Error (State × Output) := do
  let config : IntegratorConfig ← load s ctx.integratorConfig
  require (ctx.integratorConfig =
    .pda (Seeds.integratorConfig config.integratorProgramId).bytes config.bump) .constraintSeeds
  config.checkAdmin ctx.admin
  let config' := { config with admin := none }
  pure (s.set ctx.integratorConfig (.integratorConfig config'),
    { event := .adminDiscarded config.integratorProgramId })

end GmpRouter.Svm
