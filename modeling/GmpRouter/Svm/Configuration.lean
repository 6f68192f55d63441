import GmpRouter.Svm.Simulation
import GmpRouter.Router.Admin

/-!
# Configurations of the SVM endpoint

The configuration of an integrator is spread over its configuration account, an account for each
adapter, and one for each chain, which is empty when it does not exist.
-/

namespace GmpRouter.Svm

open GmpRouter.Bitmap (indices)

variable {E : Env} {s : State} {a : Router.State}

/-- What the accounts of a registered integrator contain. -/
def State.configuration (E : Env) (s : State) (I : Pubkey) : Option Router.Configuration :=
  (s.find (α := IntegratorConfig) (E.pda (.integratorConfig I))).map fun config =>
    { admin := config.admin
      pendingAdmin := config.pendingAdmin
      adapters := config.adapterInfos
      index := fun A =>
        (s.find (α := AdapterInfo) (E.pda (.adapterInfo I A))).map AdapterInfo.index
      bitmap := fun direction chain => (s.chainConfigOf E I chain).bitmap direction }

theorem Refines.shows (h : Refines E s a) (I : Pubkey) :
    Router.Shows (a.settings I) (s.configuration E I) := by
  have hI := h.represents.integrator I
  have hconfig : s.find (E.pda (.integratorConfig I)) = (a.integrators I).map (configOf E I) :=
    hI.config
  rw [State.configuration, hconfig, Router.State.settings]
  cases hc : a.integrators I with
  | none => exact .none
  | some c =>
    refine .some ⟨rfl, rfl, rfl, fun A => ?_, fun direction chain => ?_⟩
    · have hinfo : s.find (E.pda (.adapterInfo I A)) =
          (c.adapters.idxOf? A).map (adapterInfoOf E I A) := by
        have hA := hI.adapterInfo A
        rwa [hc] at hA
      have hindex : (s.find (E.pda (.adapterInfo I A))).map AdapterInfo.index =
          (c.adapters.idxOf? A).map (BitVec.ofNat 8) := by
        rw [hinfo, Option.map_map]
        rfl
      exact hindex
    · exact h.enabled_eq hc direction chain

end GmpRouter.Svm
