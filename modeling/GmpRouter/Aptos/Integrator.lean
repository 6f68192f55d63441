import GmpRouter.Aptos.Storage

/-!
# The module `integrator`

Registration, the admin and the adapters of an integrator. The functions that only the admin may
call begin with the same two assertions (`borrowAdminConfig`), and the four that enable or disable
an adapter differ in the store and in the operation on the bitmap (`setAdapter`).
-/

namespace GmpRouter.Aptos

def MAX_ADAPTERS : ℕ := 128

namespace Integrator

def E_ALREADY_REGISTERED : Error := .abort .integrator 0

def E_INVALID_ADMIN : Error := .abort .integrator 1

def E_NOT_AUTHORIZED : Error := .abort .integrator 2

def E_ADMIN_TRANSFER_IN_PROGRESS : Error := .abort .integrator 3

def E_NO_ADMIN_TRANSFER_IN_PROGRESS : Error := .abort .integrator 4

def E_MAX_ADAPTERS_REACHED : Error := .abort .integrator 5

def newIntegrator (s : State) (integratorAcct adminAddr : Address) : Except Error State := do
  let account := s.accounts integratorAcct
  require (account.integratorCapability.isNone = true) E_ALREADY_REGISTERED
  require (adminAddr ≠ 0#256) E_INVALID_ADMIN
  let integratorCapability ← moveTo account.integratorCapability ⟨0#64⟩
  let adminConfig ← moveTo account.adminConfig ⟨some adminAddr, none⟩
  let adaptersStore ← moveTo account.adaptersStore ⟨[]⟩
  let adapterToIndexStore ← moveTo account.adapterToIndexStore ⟨Table.empty⟩
  let sendAdapterStore ← moveTo (account.adapterStore .send) ⟨Table.empty⟩
  let recvAdapterStore ← moveTo (account.adapterStore .recv) ⟨Table.empty⟩
  pure (s.setAccount integratorAcct {
    integratorCapability := integratorCapability
    adminConfig := adminConfig
    adaptersStore := adaptersStore
    adapterToIndexStore := adapterToIndexStore
    adapterStore := fun
      | .send => sendAdapterStore
      | .recv => recvAdapterStore })

/-! ## Views -/

def getAdapters (s : State) (integratorAddr : Address) : Except Error (List Address) := do
  let store ← orFail (s.accounts integratorAddr).adaptersStore .missingData
  pure store.adapters

def getAdapterIndex (s : State) (integratorAddr adapterAddr : Address) :
    Except Error (BitVec 8) := do
  let store ← orFail (s.accounts integratorAddr).adapterToIndexStore .missingData
  store.adapterToIndex.borrow adapterAddr

/-- `get_enabled_send_adapters` and `get_enabled_recv_adapters`. -/
def getEnabledAdapters (s : State) (direction : Direction) (integratorAddr : Address)
    (chainId : ChainId) : Except Error (BitVec 128) := do
  let store ← orFail ((s.accounts integratorAddr).adapterStore direction) .missingData
  pure (store.perChainAdapterBitmap.borrowWithDefault chainId 0#128)

def getEnabledSendAdapters (s : State) : Address → ChainId → Except Error (BitVec 128) :=
  getEnabledAdapters s .send

def getEnabledRecvAdapters (s : State) : Address → ChainId → Except Error (BitVec 128) :=
  getEnabledAdapters s .recv

/-! ## The admin -/

/-- The caller is the current admin and there is not a pending transfer. -/
def borrowAdminConfig (s : State) (admin integratorAddr : Address) : Except Error AdminConfig := do
  let adminConfig ← orFail (s.accounts integratorAddr).adminConfig .missingData
  require (adminConfig.adminAddr = some admin) E_NOT_AUTHORIZED
  require (adminConfig.pendingAdminAddr.isNone = true) E_ADMIN_TRANSFER_IN_PROGRESS
  pure adminConfig

def setAdminConfig (s : State) (integratorAddr : Address) (adminConfig : AdminConfig) : State :=
  s.setAccount integratorAddr
    { s.accounts integratorAddr with adminConfig := some adminConfig }

def updateAdmin (s : State) (admin integratorAddr newAdmin : Address) : Except Error State := do
  let adminConfig ← borrowAdminConfig s admin integratorAddr
  require (newAdmin ≠ 0#256) E_INVALID_ADMIN
  let adminAddr ← OptionModule.swap adminConfig.adminAddr newAdmin
  pure (setAdminConfig s integratorAddr { adminConfig with adminAddr := adminAddr })

def transferAdmin (s : State) (admin integratorAddr newAdmin : Address) : Except Error State := do
  let adminConfig ← borrowAdminConfig s admin integratorAddr
  require (newAdmin ≠ 0#256) E_INVALID_ADMIN
  let pendingAdminAddr ← OptionModule.fill adminConfig.pendingAdminAddr newAdmin
  pure (setAdminConfig s integratorAddr { adminConfig with pendingAdminAddr := pendingAdminAddr })

def claimAdmin (s : State) (newAdmin integratorAddr : Address) : Except Error State := do
  let adminConfig ← orFail (s.accounts integratorAddr).adminConfig .missingData
  require (adminConfig.pendingAdminAddr.isSome = true) E_NO_ADMIN_TRANSFER_IN_PROGRESS
  require (adminConfig.adminAddr = some newAdmin ∨ adminConfig.pendingAdminAddr = some newAdmin)
    E_NOT_AUTHORIZED
  let adminAddr ← OptionModule.swap adminConfig.adminAddr newAdmin
  let pendingAdminAddr ← OptionModule.extract adminConfig.pendingAdminAddr
  pure (setAdminConfig s integratorAddr ⟨adminAddr, pendingAdminAddr⟩)

def discardAdmin (s : State) (admin integratorAddr : Address) : Except Error State := do
  let adminConfig ← borrowAdminConfig s admin integratorAddr
  let adminAddr ← OptionModule.extract adminConfig.adminAddr
  pure (setAdminConfig s integratorAddr { adminConfig with adminAddr := adminAddr })

/-! ## Adapters -/

def addAdapter (s : State) (admin integratorAddr adapterAddr : Address) : Except Error State := do
  let _ ← borrowAdminConfig s admin integratorAddr
  let store ← orFail (s.accounts integratorAddr).adaptersStore .missingData
  require (adapterAddr ∉ store.adapters) E_ALREADY_REGISTERED
  let len := store.adapters.length
  require (len < MAX_ADAPTERS) E_MAX_ADAPTERS_REACHED
  let indexStore ← orFail (s.accounts integratorAddr).adapterToIndexStore .missingData
  let index ← castU8 len
  let adapterToIndex ← indexStore.adapterToIndex.add adapterAddr index
  pure (s.setAccount integratorAddr { s.accounts integratorAddr with
    adaptersStore := some ⟨store.adapters ++ [adapterAddr]⟩
    adapterToIndexStore := some ⟨adapterToIndex⟩ })

/-- Change the bit of the adapter in the bitmap of the chain, which is 0 when the table has none. -/
def setAdapter (change : BitVec 128 → BitVec 8 → Except Error (BitVec 128)) (direction : Direction)
    (s : State) (admin integratorAddr : Address) (chainId : ChainId) (adapterAddr : Address) :
    Except Error State := do
  let _ ← borrowAdminConfig s admin integratorAddr
  let index ← getAdapterIndex s integratorAddr adapterAddr
  let store ← orFail ((s.accounts integratorAddr).adapterStore direction) .missingData
  let bitmap ← change (store.perChainAdapterBitmap.borrowWithDefault chainId 0#128) index
  pure (s.setAccount integratorAddr { s.accounts integratorAddr with
    adapterStore := Function.update (s.accounts integratorAddr).adapterStore direction
      (some ⟨store.perChainAdapterBitmap.upsert chainId bitmap⟩) })

def enableSendAdapter : State → Address → Address → ChainId → Address → Except Error State :=
  setAdapter Bitmap.enable .send

def disableSendAdapter : State → Address → Address → ChainId → Address → Except Error State :=
  setAdapter Bitmap.disable .send

def enableRecvAdapter : State → Address → Address → ChainId → Address → Except Error State :=
  setAdapter Bitmap.enable .recv

def disableRecvAdapter : State → Address → Address → ChainId → Address → Except Error State :=
  setAdapter Bitmap.disable .recv

/-! ## Sequence numbers -/

/-- The sequence number, and the state with the next one; the addition aborts on overflow. -/
def useSequence (s : State) (integratorAcct : Address) : Except Error (BitVec 64 × State) := do
  let integratorCap ← orFail (s.accounts integratorAcct).integratorCapability .missingData
  require (integratorCap.sequence ≠ BitVec.allOnes 64) .arithmeticError
  pure (integratorCap.sequence, s.setAccount integratorAcct { s.accounts integratorAcct with
    integratorCapability := some ⟨integratorCap.sequence + 1#64⟩ })

end Integrator

end GmpRouter.Aptos
