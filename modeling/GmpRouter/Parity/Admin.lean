import GmpRouter.Router.AdminLaws
import GmpRouter.Svm.Configuration
import GmpRouter.Aptos.Configuration
import GmpRouter.Aptos.Aborts

/-!
# The admin on SVM and Aptos

Both endpoints are simulated by the router and show its settings, so that the laws of the admin hold
of both.
-/

namespace GmpRouter

/-! ## The laws -/

theorem Svm.adminLaws (E : Svm.Env) :
    Router.AdminLaws (Svm.machine E) .init Svm.Instruction.op (Svm.State.configuration E) := by
  refine .of_simulation (Svm.simulation E) (fun _ _ _ _ _ hlabel => ?_) Svm.refines_init
    (fun _ _ h => h.inv) fun _ _ h => h.shows
  exact hlabel.1

theorem Aptos.adminLaws (keccak256 : List Byte → Digest) :
    Router.AdminLaws (Aptos.machine keccak256) .init (fun _ call => some call.op)
      Aptos.State.configuration := by
  refine .of_simulation (Aptos.simulation keccak256) (fun _ _ _ _ _ hlabel => ?_) Aptos.refines_init
    (fun _ _ h => h.inv) fun _ _ h => h.shows
  exact congrArg some hlabel.1.symm

/-- **The admin on SVM and Aptos.** Both endpoints satisfy the laws of the admin, and no call of the
Aptos endpoint aborts because an option of the admin is not as a swap, a fill or an extraction
expects it. -/
theorem admin_state_machine (E : Svm.Env) (keccak256 : List Byte → Digest) :
    Router.AdminLaws (Svm.machine E) .init Svm.Instruction.op (Svm.State.configuration E) ∧
      Router.AdminLaws (Aptos.machine keccak256) .init (fun _ call => some call.op)
        Aptos.State.configuration ∧
      ∀ l s, (Aptos.machine keccak256).Path .init l s → ∀ call,
        Aptos.process keccak256 s call ≠ .error .optionNotSet ∧
          Aptos.process keccak256 s call ≠ .error .optionIsSet := by
  refine ⟨Svm.adminLaws E, Aptos.adminLaws keccak256, fun l s h call => ?_⟩
  obtain ⟨a, ha⟩ := Aptos.exists_refines h
  have hnotSet : Aptos.Error.Internal .optionNotSet := trivial
  have hisSet : Aptos.Error.Internal .optionIsSet := trivial
  exact ⟨ha.process_ne_error hnotSet call (by simp), ha.process_ne_error hisSet call (by simp)⟩

end GmpRouter
