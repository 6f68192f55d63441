import GmpRouter.Aptos.Simulation
import GmpRouter.Router.Admin

/-!
# Configurations of the Aptos endpoint

The configuration of an integrator is in the resources under its address.
-/

namespace GmpRouter.Aptos

open GmpRouter.Bitmap (indices)

variable {s : State} {a : Router.State}

/-- The bitmap of the chain in a store, 0 when the table has none. -/
def Account.bitmap (account : Account) (direction : Direction) (chain : ChainId) : BitVec 128 :=
  match account.adapterStore direction with
  | some store => store.perChainAdapterBitmap.borrowWithDefault chain 0#128
  | none => 0#128

/-- What the resources of a registered integrator contain. -/
def Account.configuration (account : Account) : Option Router.Configuration :=
  match account.adminConfig, account.adaptersStore with
  | some adminConfig, some adaptersStore => some
    { admin := adminConfig.adminAddr
      pendingAdmin := adminConfig.pendingAdminAddr
      adapters := adaptersStore.adapters
      index := fun A => account.adapterToIndexStore.bind fun store => store.adapterToIndex A
      bitmap := account.bitmap }
  | _, _ => none

def State.configuration (s : State) (I : Address) : Option Router.Configuration :=
  (s.accounts I).configuration

theorem Account.Published.shows {account : Account} {c : Router.Integrator}
    (h : account.Published c) : Router.Shows (some c.settings) account.configuration := by
  have hconfiguration : account.configuration = some
      { admin := c.admin
        pendingAdmin := c.pendingAdmin
        adapters := c.adapters
        index := fun A => account.adapterToIndexStore.bind fun store => store.adapterToIndex A
        bitmap := account.bitmap } := by
    rw [Account.configuration, h.adminConfig, h.adapters]
  rw [hconfiguration]
  refine .some ⟨rfl, rfl, rfl, fun A => ?_, fun direction chain => ?_⟩
  · obtain ⟨table, htable, hindex⟩ := h.index
    rw [htable]
    exact hindex A
  · obtain ⟨table, htable, henabled⟩ := h.enabled direction
    have hbitmap : account.bitmap direction chain = table.borrowWithDefault chain 0#128 := by
      rw [Account.bitmap, htable]
    exact (henabled chain).trans (congrArg indices hbitmap.symm)

theorem Refines.shows (h : Refines s a) (I : Address) :
    Router.Shows (a.settings I) (s.configuration I) := by
  have hI := h.represents.accounts I
  rw [State.configuration, Router.State.settings]
  cases hc : a.integrators I with
  | none =>
    rw [hc] at hI
    have hI : s.accounts I = {} := hI
    rw [hI]
    exact .none
  | some c => exact (h.represents.published hc).shows

end GmpRouter.Aptos
