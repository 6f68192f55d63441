import GmpRouter.Evm.Registry
import Mathlib.Data.List.Perm.Basic

/-!
# The arrays of the enabled send adapters

For each integrator and chain the registry keeps an array of the adapters that are enabled for
sending, with their indices, from which an adapter is removed by moving the last entry to its place.
The array is a set (`SendInv`): its addresses are distinct, and up to the order of the entries a
removal is the erasure of one address (`swapRemove_perm_filter`). An adapter is in the set exactly
when it was enabled last (`send_array`).
-/

namespace GmpRouter.Evm

open AdapterRegistry Endpoint
open Machine (LastOn)

variable {E : Env} {s t : State} {op : Op} {r : Receipt} {I A : Address} {chain : ChainId}

/-! ## Removing an entry -/

section SwapRemove

variable {adapters : List PerSendAdapterInfo} {i : ℕ}

/-- Up to order, the entry at the position is erased. -/
theorem swapRemove_perm_eraseIdx (hi : i < adapters.length) :
    (swapRemove adapters i).Perm (adapters.eraseIdx i) := by
  obtain ⟨init, last, rfl⟩ :=
    List.eq_nil_or_concat' adapters |>.resolve_left (by rintro rfl; simp at hi)
  rw [List.length_append, List.length_singleton] at hi
  rw [swapRemove, List.getLast?_concat]
  dsimp only
  by_cases hlast : i < init.length
  · rw [List.set_append_left _ _ hlast, List.dropLast_concat,
      List.eraseIdx_append_of_lt_length hlast]
    exact (List.set_perm_cons_eraseIdx hlast last).trans (List.perm_append_singleton _ _).symm
  · obtain rfl : i = init.length := by omega
    rw [List.set_append_right _ _ le_rfl, List.eraseIdx_append_of_length_le le_rfl]
    simp

/-- Erasing the first entry of an address from an array of distinct addresses. -/
theorem eraseIdx_eq_filter (hnodup : (adapters.map PerSendAdapterInfo.addr).Nodup)
    (hi : adapters.findIdx? (fun info => info.addr = A) = some i) :
    adapters.eraseIdx i = adapters.filter fun info => info.addr ≠ A := by
  induction adapters generalizing i with
  | nil => simp at hi
  | cons info adapters ih =>
    rw [List.map_cons, List.nodup_cons] at hnodup
    rw [List.findIdx?_cons] at hi
    split at hi
    · next haddr =>
      obtain rfl : 0 = i := by simpa using hi
      have haddr : info.addr = A := by simpa using haddr
      rw [List.eraseIdx_cons_zero, List.filter_cons_of_neg (by simp [haddr]), eq_comm,
        List.filter_eq_self]
      intro other hother
      have hne : other.addr ≠ A := fun h => hnodup.1 (haddr ▸ h ▸ List.mem_map_of_mem hother)
      simpa using hne
    · next haddr =>
      obtain ⟨j, hj, rfl⟩ := Option.map_eq_some_iff.1 hi
      rw [List.eraseIdx_cons_succ, List.filter_cons_of_pos (by simpa using haddr), ih hnodup.2 hj]

theorem swapRemove_perm_filter (hnodup : (adapters.map PerSendAdapterInfo.addr).Nodup)
    (hi : adapters.findIdx? (fun info => info.addr = A) = some i) :
    (swapRemove adapters i).Perm (adapters.filter fun info => info.addr ≠ A) := by
  rw [← eraseIdx_eq_filter hnodup hi]
  exact swapRemove_perm_eraseIdx (List.findIdx?_eq_some_iff_getElem.1 hi).1

end SwapRemove

/-! ## The invariant -/

/-- The adapter is enabled for sending to the chain. -/
def SendEnabled (s : Registry) (integrator : Address) (chain : ChainId)
    (adapter : Address) : Prop :=
  adapter ∈ (s.perChainSendAdapterArray integrator chain).map PerSendAdapterInfo.addr

theorem isSendAdapterEnabledForChain_iff {s : Registry} :
    isSendAdapterEnabledForChain s I chain A = true ↔ SendEnabled s I chain A := by
  simp only [isSendAdapterEnabledForChain, SendEnabled, List.any_eq_true, List.mem_map,
    decide_eq_true_eq]

/-- The arrays have distinct addresses, of registered adapters, with their indices. -/
structure SendInv (s : Registry) : Prop where
  nodup : ∀ I chain, ((s.perChainSendAdapterArray I chain).map PerSendAdapterInfo.addr).Nodup
  adapterInfos_eq : ∀ I chain, ∀ info ∈ s.perChainSendAdapterArray I chain,
    s.adapterInfos I info.addr = ⟨true, info.index⟩

namespace SendInv

variable {s s' : Registry}

theorem init : SendInv State.init.toRegistry where
  nodup _ _ := List.nodup_nil
  adapterInfos_eq _ _ _ h := by simp [State.init] at h

theorem setArray (h : SendInv s) {adapters : List PerSendAdapterInfo}
    (hnodup : (adapters.map PerSendAdapterInfo.addr).Nodup)
    (hinfos : ∀ info ∈ adapters, s.adapterInfos I info.addr = ⟨true, info.index⟩) :
    SendInv { s with
      perChainSendAdapterArray := update₂ s.perChainSendAdapterArray I chain adapters } where
  nodup J chain' := by
    simp only [update₂_apply]
    split
    · exact hnodup
    · exact h.nodup J chain'
  adapterInfos_eq J chain' info hinfo := by
    simp only [update₂_apply] at hinfo
    split at hinfo
    · next heq =>
      rw [heq.1]
      exact hinfos info hinfo
    · exact h.adapterInfos_eq J chain' info hinfo

theorem addAdapter (h : SendInv s) (hrun : AdapterRegistry.addAdapter s I A = .ok (s', r)) :
    SendInv s' := by
  obtain ⟨-, hnew, -, rfl, -⟩ := addAdapter_eq_ok.1 hrun
  refine ⟨h.nodup, fun J chain info hinfo => ?_⟩
  have hold := h.adapterInfos_eq J chain info hinfo
  -- an adapter of the array was registered before
  have hne : ¬ (J = I ∧ info.addr = A) := by
    rintro ⟨rfl, rfl⟩
    simp [hold] at hnew
  simp only [update₂_of_ne hne, hold]

theorem swapRemove_perm (h : SendInv s) {i : ℕ}
    (hi : (s.perChainSendAdapterArray I chain).findIdx? (fun info => info.addr = A) = some i) :
    (swapRemove (s.perChainSendAdapterArray I chain) i).Perm
      ((s.perChainSendAdapterArray I chain).filter fun info => info.addr ≠ A) :=
  swapRemove_perm_filter (h.nodup I chain) hi

theorem run (h : SendInv s) {change : Change} (hrun : change.run s I = .ok (s', r)) :
    SendInv s' := by
  cases change with
  | addAdapter adapter => exact h.addAdapter hrun
  | enableSendAdapter chain adapter =>
    obtain ⟨hreg, hoff, rfl, -⟩ := enableSendAdapter_eq_ok.1 hrun
    rw [← Bool.not_eq_true, isSendAdapterEnabledForChain_iff] at hoff
    refine h.setArray ?_ fun info hinfo => ?_
    · rw [List.map_append, List.map_singleton, List.nodup_append]
      refine ⟨h.nodup I chain, List.nodup_singleton _, fun a ha b hb => ?_⟩
      rw [List.mem_singleton.1 hb]
      rintro rfl
      exact hoff ha
    · rcases List.mem_append.1 hinfo with hinfo | hinfo
      · exact h.adapterInfos_eq I chain info hinfo
      · obtain rfl := List.mem_singleton.1 hinfo
        rw [← hreg.registered]
  | disableSendAdapter chain adapter =>
    obtain ⟨-, i, hi, rfl, -⟩ := disableSendAdapter_eq_ok.1 hrun
    have hperm := h.swapRemove_perm hi
    refine h.setArray ?_ fun info hinfo => ?_
    · exact (hperm.map _).nodup_iff.2 ((h.nodup I chain).sublist (List.filter_sublist.map _))
    · exact h.adapterInfos_eq I chain info (List.mem_of_mem_filter (hperm.mem_iff.1 hinfo))
  | enableRecvAdapter | disableRecvAdapter =>
    obtain rfl := Change.effect_of_run hrun
    exact ⟨h.nodup, h.adapterInfos_eq⟩

theorem invariant (E : Env) : (machine E).Invariant fun s => SendInv s.toRegistry := by
  intro s op r t hstep h
  cases step_effect hstep with
  | configure _ hrun => exact h.run hrun
  | _ => exact h

end SendInv

/-! ## Steps -/

/-- A step does not change the array of an integrator for a chain, or it enables an adapter, which
is appended, or it disables one, which is erased. -/
theorem array_of_step (hs : SendInv s.toRegistry) (hstep : step E s op = .ok (t, r)) (I : Address)
    (chain : ChainId) :
    ((∀ msg A, op ≠ .call msg (.configure I (.enableSendAdapter chain A)) ∧
        op ≠ .call msg (.configure I (.disableSendAdapter chain A))) ∧
      t.perChainSendAdapterArray I chain = s.perChainSendAdapterArray I chain) ∨
    (∃ msg A, op = .call msg (.configure I (.enableSendAdapter chain A)) ∧
      t.perChainSendAdapterArray I chain =
        s.perChainSendAdapterArray I chain ++ [⟨A, (s.adapterInfos I A).index⟩]) ∨
    ∃ msg A, op = .call msg (.configure I (.disableSendAdapter chain A)) ∧
      (t.perChainSendAdapterArray I chain).Perm
        ((s.perChainSendAdapterArray I chain).filter fun info => info.addr ≠ A) := by
  cases step_effect hstep with
  | admin h => exact .inl ⟨fun msg A => by cases h <;> simp, rfl⟩
  | inbox h => exact .inl ⟨fun msg A => by cases h <;> simp, rfl⟩
  | send | forward | sent => exact .inl ⟨fun msg A => by simp, rfl⟩
  | @configure msg J change registry r _ hrun =>
    cases change with
    | addAdapter | enableRecvAdapter | disableRecvAdapter =>
      obtain rfl := Change.effect_of_run hrun
      exact .inl ⟨fun msg A => by simp, rfl⟩
    | enableSendAdapter chain' adapter =>
      obtain ⟨-, -, rfl, -⟩ := enableSendAdapter_eq_ok.1 hrun
      by_cases heq : I = J ∧ chain = chain'
      · obtain ⟨rfl, rfl⟩ := heq
        exact .inr (.inl ⟨msg, adapter, rfl, by simp only [update₂_self]⟩)
      · refine .inl ⟨fun msg A => ?_, by simp only [update₂_of_ne heq]⟩
        simp only [ne_eq, Op.call.injEq, Call.configure.injEq, Change.enableSendAdapter.injEq,
          reduceCtorEq, and_false, not_false_eq_true, and_true]
        grind
    | disableSendAdapter chain' adapter =>
      obtain ⟨-, i, hi, rfl, -⟩ := disableSendAdapter_eq_ok.1 hrun
      by_cases heq : I = J ∧ chain = chain'
      · obtain ⟨rfl, rfl⟩ := heq
        exact .inr (.inr ⟨msg, adapter,
          rfl, by simpa only [update₂_self] using hs.swapRemove_perm hi⟩)
      · refine .inl ⟨fun msg A => ?_, by simp only [update₂_of_ne heq]⟩
        simp only [ne_eq, Op.call.injEq, Call.configure.injEq, Change.disableSendAdapter.injEq,
          reduceCtorEq, and_false, not_false_eq_true, true_and]
        grind

/-- Enabling an adapter switches it on, disabling it switches it off. -/
theorem switch_sendEnabled (E : Env) (I : Address) (chain : ChainId) (A : Address) :
    (machine E).Switch (fun s => SendInv s.toRegistry)
      (fun s => SendEnabled s.toRegistry I chain A)
      (Configures I (.enableSendAdapter chain A)) (Configures I (.disableSendAdapter chain A)) where
  invariant := SendInv.invariant E
  step := by
    intro s op r t hstep hs
    rcases array_of_step hs hstep I chain with ⟨hquiet, harray⟩ | ⟨msg, B, rfl, harray⟩ |
      ⟨msg, B, rfl, hperm⟩
    · have hon : ¬ Configures I (.enableSendAdapter chain A) ⟨s, op, r, t⟩ :=
        fun ⟨msg, hop⟩ => (hquiet msg A).1 hop
      have hoff : ¬ Configures I (.disableSendAdapter chain A) ⟨s, op, r, t⟩ :=
        fun ⟨msg, hop⟩ => (hquiet msg A).2 hop
      simp only [SendEnabled, harray, hon, hoff, false_or, not_false_eq_true, and_true]
    · simp only [SendEnabled, harray, List.map_append, List.mem_append, List.map_singleton,
        List.mem_singleton, Configures, Op.call.injEq, Call.configure.injEq,
        Change.enableSendAdapter.injEq, reduceCtorEq, and_false, exists_false, not_false_eq_true,
        and_true, true_and, exists_and_right, exists_eq', or_comm, eq_comm (a := A)]
    · rw [SendEnabled, (hperm.map _).mem_iff]
      simp only [SendEnabled, List.mem_map, List.mem_filter, decide_eq_true_eq, Configures,
        Op.call.injEq, Call.configure.injEq, Change.disableSendAdapter.injEq, reduceCtorEq,
        and_false,
        exists_false, false_or, true_and, exists_and_right, exists_eq', ne_eq]
      constructor
      · rintro ⟨info, ⟨hinfo, hne⟩, rfl⟩
        exact ⟨⟨info, hinfo, rfl⟩, fun h => hne h.symm⟩
      · rintro ⟨⟨info, hinfo, rfl⟩, hne⟩
        exact ⟨info, ⟨hinfo, fun h => hne h.symm⟩, rfl⟩

/-- **The send array is a set.** In every state reached, for every integrator and chain: the
addresses of the array are distinct, each entry has the index of a registered adapter, and an
adapter is in the array exactly when its last successful enabling or disabling was an enabling.
Enabling appends the adapter; disabling erases exactly it, up to order. The admin can enable exactly
a registered adapter that is absent and disable exactly one that is present, for a chain that is not
zero. No other step changes the array. -/
theorem send_array (E : Env) {log : Log} (h : (machine E).Path .init log s) (I : Address)
    (chain : ChainId) :
    ((s.perChainSendAdapterArray I chain).map PerSendAdapterInfo.addr).Nodup ∧
    (∀ info ∈ s.perChainSendAdapterArray I chain,
      s.adapterInfos I info.addr = ⟨true, info.index⟩) ∧
    (∀ A, (∃ info ∈ s.perChainSendAdapterArray I chain, info.addr = A) ↔
      LastOn (Configures I (.enableSendAdapter chain A))
        (Configures I (.disableSendAdapter chain A)) log) ∧
    (∀ msg A t r, step E s (.call msg (.configure I (.enableSendAdapter chain A))) = .ok (t, r) →
      t.perChainSendAdapterArray I chain =
        s.perChainSendAdapterArray I chain ++ [⟨A, (s.adapterInfos I A).index⟩]) ∧
    (∀ msg A t r, step E s (.call msg (.configure I (.disableSendAdapter chain A))) = .ok (t, r) →
      (t.perChainSendAdapterArray I chain).Perm
        ((s.perChainSendAdapterArray I chain).filter fun info => info.addr ≠ A)) ∧
    (∀ msg A, OnlyAdmin s I msg.sender →
      ((∃ t r, step E s (.call msg (.configure I (.enableSendAdapter chain A))) = .ok (t, r)) ↔
        msg.value = 0 ∧ A ∈ s.registeredAdapters I ∧ chain ≠ 0#16 ∧
          ¬ ∃ info ∈ s.perChainSendAdapterArray I chain, info.addr = A) ∧
      ((∃ t r, step E s (.call msg (.configure I (.disableSendAdapter chain A))) = .ok (t, r)) ↔
        msg.value = 0 ∧ A ∈ s.registeredAdapters I ∧ chain ≠ 0#16 ∧
          ∃ info ∈ s.perChainSendAdapterArray I chain, info.addr = A)) ∧
    ∀ op t r, step E s op = .ok (t, r) →
      (∀ msg A, op ≠ .call msg (.configure I (.enableSendAdapter chain A)) ∧
        op ≠ .call msg (.configure I (.disableSendAdapter chain A))) →
      t.perChainSendAdapterArray I chain = s.perChainSendAdapterArray I chain := by
  have hs := h.invariant (SendInv.invariant E) .init
  have hreg := h.invariant (RegistryInv.invariant E) .init
  have hmem : ∀ A, SendEnabled s.toRegistry I chain A ↔
      ∃ info ∈ s.perChainSendAdapterArray I chain, info.addr = A := fun A => List.mem_map
  refine ⟨hs.nodup I chain, hs.adapterInfos_eq I chain, fun A => ?_, fun msg A t r hstep => ?_,
    fun msg A t r hstep => ?_, fun msg A hadmin => ⟨?_, ?_⟩, fun op t r hstep hquiet => ?_⟩
  · rw [← hmem]
    exact (switch_sendEnabled E I chain A).iff_lastOn h .init List.not_mem_nil
  · obtain ⟨-, -, hrun, -⟩ := enableSendAdapter_eq_ok.1 (run_of_configure hstep)
    simp only [hrun, update₂_self]
  · obtain ⟨-, i, hi, hrun, -⟩ := disableSendAdapter_eq_ok.1 (run_of_configure hstep)
    simpa only [hrun, update₂_self] using hs.swapRemove_perm hi
  · rw [exists_configure_iff, Change.Accepts, ← Bool.not_eq_true, isSendAdapterEnabledForChain_iff,
      hmem, hreg.registered_iff]
    simp only [hadmin, true_and, and_assoc]
  · rw [exists_configure_iff, Change.Accepts, isSendAdapterEnabledForChain_iff, hmem,
      hreg.registered_iff]
    simp only [hadmin, true_and, and_assoc]
  · rcases array_of_step hs hstep I chain with ⟨-, harray⟩ | ⟨msg, A, hop, -⟩ | ⟨msg, A, hop, -⟩
    · exact harray
    · exact absurd hop (hquiet msg A).1
    · exact absurd hop (hquiet msg A).2

/-- The integrator at address 10 adds three adapters, enables them and disables the first. -/
def sendTxs : List Tx :=
  registryTxs ++
    [.mk ⟨11#160, 0⟩ (.configure 10#160 (.addAdapter 14#160)) [],
      .mk ⟨11#160, 0⟩ (.configure 10#160 (.enableSendAdapter 1#16 12#160)) [],
      .mk ⟨11#160, 0⟩ (.configure 10#160 (.enableSendAdapter 1#16 13#160)) [],
      .mk ⟨11#160, 0⟩ (.configure 10#160 (.enableSendAdapter 1#16 14#160)) [],
      .mk ⟨11#160, 0⟩ (.configure 10#160 (.disableSendAdapter 1#16 12#160)) []]

theorem send_array_sample :
    let h := execAll ⟨id, 2#16⟩ State.init sendTxs
    h.1.perChainSendAdapterArray 10#160 1#16 = [⟨14#160, 2#8⟩, ⟨13#160, 1#8⟩] ∧
      LastOn (Configures 10#160 (.enableSendAdapter 1#16 13#160))
        (Configures 10#160 (.disableSendAdapter 1#16 13#160)) h.2 :=
  ⟨by decide +kernel,
    ((send_array ⟨id, 2#16⟩ (execAll_path ⟨id, 2#16⟩ State.init sendTxs) 10#160 1#16).2.2.1
      13#160).1 ⟨⟨13#160, 1#8⟩, by decide +kernel, rfl⟩⟩

end GmpRouter.Evm
