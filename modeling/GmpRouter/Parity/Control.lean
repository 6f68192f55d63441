import GmpRouter.Router.ControlLaws
import GmpRouter.Svm.Completeness
import GmpRouter.Svm.Configuration
import GmpRouter.Aptos.Configuration

/-!
# The configurations that are reached on SVM and Aptos

On SVM every address can be an admin and no adapter is enabled for chain 0; on Aptos it is the zero
address that is excluded, and no chain.
-/

namespace GmpRouter

open Router (Controls Controllable Limits)

namespace Svm

variable {E : Env} {s t : State} {a : Router.State} {i : Instruction} {o : Output} {op : Router.Op}

def limits : Limits := ⟨fun _ => True, (· ≠ 0#16)⟩

theorem allows_of_process (hstep : process E s i = .ok (t, o)) (hop : i.op s = some op) :
    limits.Allows op := by
  cases i with
  | enableSendAdapter ctx args =>
    obtain rfl := Option.some.inj hop
    obtain ⟨_, _, _, _, -, -, -, -, hchain, -⟩ := enableAdapter_eq_ok.1 hstep
    exact hchain
  | enableRecvAdapter ctx args =>
    obtain rfl := Option.some.inj hop
    obtain ⟨_, _, _, _, -, -, -, -, hchain, -⟩ := enableAdapter_eq_ok.1 hstep
    exact hchain
  | claimAdmin | discardAdmin | pickUpMessage =>
    obtain ⟨_, -, rfl⟩ := Option.map_eq_some_iff.1 hop
    trivial
  | _ =>
    obtain rfl := Option.some.inj hop
    trivial

/-- The instruction that makes an operation about an integrator. -/
theorem exists_calls {I : Pubkey} (hcontrols : Controls limits I op) :
    ∃ i, Calls E s i op ∧ Guards op := by
  obtain ⟨hallows, hadministers⟩ := hcontrols
  cases hadministers with
  | register admin => exact ⟨_, .register I admin 0#8, trivial⟩
  | claimAdmin caller => exact ⟨_, .claimAdmin caller I, trivial⟩
  | configure caller change =>
    cases change with
    | updateAdmin newAdmin => exact ⟨_, .updateAdmin caller I newAdmin, trivial⟩
    | transferAdmin newAdmin => exact ⟨_, .transferAdmin caller I newAdmin, trivial⟩
    | discardAdmin => exact ⟨_, .discardAdmin caller I, trivial⟩
    | addAdapter A => exact ⟨_, .addAdapter caller I A, trivial⟩
    | setAdapter direction on chain A =>
      refine ⟨_, .setAdapter direction on caller I A chain, ?_⟩
      cases on with
      | true => exact hallows
      | false => trivial

theorem controllable (hK : CollisionFree E.keccak) :
    Controllable limits (machine E) .init Instruction.op (State.configuration E) := by
  refine .of_simulation (simulation E) (fun _ _ _ _ _ hlabel => hlabel.1) refines_init
    (fun _ _ h => h.inv) (fun _ _ h => h.shows) ⟨0#256, trivial⟩
    (fun _ _ _ _ _ _ _ hstep hop => allows_of_process hstep hop) ?_
  intro l s a I op r hpath ha hcontrols hstep
  obtain ⟨i, hcall, hguards⟩ := exists_calls (E := E) (s := s) hcontrols
  obtain ⟨⟨t, o⟩, hprocess⟩ := hcall.complete hK hpath ha hguards hstep
  exact ⟨i, _, hprocess, hcall.op_eq ha hprocess⟩

end Svm

namespace Aptos

variable {call : Call} {op : Router.Op}

def limits : Limits := ⟨(· ≠ 0#256), fun _ => True⟩

theorem Call.Guard.allows (h : call.Guard) : limits.Allows call.op := by
  cases call <;> first | exact h | trivial

/-- The call that makes an operation about an integrator. -/
theorem exists_call {I : Address} (hcontrols : Controls limits I op) :
    ∃ call : Call, call.op = op ∧ call.Guard := by
  obtain ⟨hallows, hadministers⟩ := hcontrols
  cases hadministers with
  | register admin => exact ⟨.register I admin, rfl, hallows⟩
  | claimAdmin caller => exact ⟨.claimAdmin caller I, rfl, trivial⟩
  | configure caller change =>
    cases change with
    | updateAdmin newAdmin => exact ⟨.updateAdmin caller I newAdmin, rfl, hallows⟩
    | transferAdmin newAdmin => exact ⟨.transferAdmin caller I newAdmin, rfl, hallows⟩
    | discardAdmin => exact ⟨.discardAdmin caller I, rfl, trivial⟩
    | addAdapter A => exact ⟨.addAdapter caller I A, rfl, trivial⟩
    | setAdapter direction on chain A =>
      cases direction with
      | send =>
        cases on with
        | true => exact ⟨.enableSendAdapter caller I chain A, rfl, trivial⟩
        | false => exact ⟨.disableSendAdapter caller I chain A, rfl, trivial⟩
      | recv =>
        cases on with
        | true => exact ⟨.enableRecvAdapter caller I chain A, rfl, trivial⟩
        | false => exact ⟨.disableRecvAdapter caller I chain A, rfl, trivial⟩

theorem controllable (keccak256 : List Byte → Digest) :
    Controllable limits (machine keccak256) .init (fun _ call => some call.op)
      State.configuration := by
  refine .of_simulation (simulation keccak256) (fun _ _ _ _ _ hlabel => congrArg some hlabel.1.symm)
    refines_init (fun _ _ h => h.inv) (fun _ _ h => h.shows)
    ⟨1#256, (by decide : (1#256 : Address) ≠ 0#256)⟩ ?_ ?_
  · intro s a call t o op ha hstep hop
    obtain rfl := Option.some.inj hop
    exact (ha.step hstep).1.allows
  · intro l s a I op r _ ha hcontrols hstep
    obtain ⟨call, rfl, hguard⟩ := exists_call hcontrols
    obtain ⟨r', hprocess⟩ := (ha.process call).complete hguard hstep
    exact ⟨call, r', hprocess, rfl⟩

end Aptos

/-- **The configurations that are reached.** On SVM and Aptos, from every state that is reached, the
configuration of an integrator can become exactly the well-formed ones that keep its adapters in
place, as long as it has an admin: any further adapters up to 128, any bitmaps of them for any
chains and both directions, any admin, pending admin, or none. Calls about the integrator alone are
enough for each, and leave the configurations of the others. -/
theorem reachable_configurations (E : Svm.Env) (hK : CollisionFree E.keccak)
    (keccak256 : List Byte → Digest) :
    Controllable Svm.limits (Svm.machine E) .init Svm.Instruction.op (Svm.State.configuration E) ∧
      Controllable Aptos.limits (Aptos.machine keccak256) .init (fun _ call => some call.op)
        Aptos.State.configuration :=
  ⟨Svm.controllable hK, Aptos.controllable keccak256⟩

/-- Integrator 10 can be brought from nothing to two adapters that are enabled for all chains but 0,
with no admin left. -/
def sampleConfiguration : Router.Configuration where
  admin := none
  pendingAdmin := none
  adapters := [12#256, 13#256]
  index A := ([12#256, 13#256].idxOf? A).map (BitVec.ofNat 8)
  bitmap _ chain := if chain = 0#16 then 0#128 else 3#128

theorem reachable_configurations_sample :
    ∃ t, (Svm.machine Svm.sampleEnv).Reaches (Router.About Svm.Instruction.op 10#256) .init t ∧
      t.configuration Svm.sampleEnv 10#256 = some sampleConfiguration := by
  have hindices : ∀ chain : ChainId, ∀ i ∈ Bitmap.indices (if chain = 0#16 then 0#128 else 3#128),
      chain ≠ 0#16 ∧ i < 2 := by
    intro chain i hi
    by_cases hchain : chain = 0#16
    · simp [hchain] at hi
    · have hthree : Bitmap.indices 3#128 = {0, 1} := by decide +kernel
      rw [if_neg hchain, hthree, Finset.mem_insert, Finset.mem_singleton] at hi
      exact ⟨hchain, by omega⟩
  have hadmissible : sampleConfiguration.Admissible Svm.limits :=
    { index_eq := fun _ => rfl
      settings :=
        { admin := fun _ _ => trivial
          chain := fun _ chain i hi => (hindices chain i hi).1
          admin_ne_none := fun h => h
          nodup := by decide
          length_le := by decide
          enabled_lt := fun _ chain i hi => (hindices chain i hi).2 } }
  have hinit : Svm.State.init.configuration Svm.sampleEnv 10#256 = none := rfl
  obtain ⟨t, ht, hconf, -⟩ :=
    (reachable_configurations Svm.sampleEnv collisionFree_id id).1.reaches [] _
    .nil 10#256 (some sampleConfiguration) (.inr ⟨_, rfl, hadmissible, by simp [hinit]⟩)
  exact ⟨t, ht, hconf⟩

end GmpRouter
