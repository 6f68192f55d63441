import GmpRouter.Evm.Admin
import GmpRouter.Evm.SendArray
import GmpRouter.Foundations.EventLog
import Mathlib.Data.Finset.Dedup

/-!
# The configuration in the events of the EVM endpoint

An observer of the events of an integrator keeps a `Published` configuration: the admin, the pending
admin, the adapters in order, the set of the send adapters and the bitmap of the receive adapters of
every chain. It is at every moment the one that the contract stores, and each event reports a change
of it (`configuration_discoverable`).
-/

namespace GmpRouter.Evm

open Endpoint AdapterRegistry
open GmpRouter.Bitmap (indices)
open Machine (Discovers eventsOf)

/-- What the events of an integrator tell about its configuration. -/
@[ext] structure Published where
  isInitialized : Bool := false
  admin : Address := 0#160
  pendingAdmin : Address := 0#160
  adapters : List Address := []
  sendAdapters : ChainId → Finset Address := fun _ => ∅
  recvBitmap : ChainId → BitVec 128 := fun _ => 0#128

/-- The bit of an adapter is at its place in the list. -/
def Published.bit (p : Published) (adapter : Address) : BitVec 128 :=
  BitVec.twoPow 128 (p.adapters.idxOf adapter)

/-- What an event adds to those before it. -/
def Published.update (I : Address) (p : Published) : Event → Published
  | .integratorRegistered J admin =>
    if J = I then { p with isInitialized := true, admin, pendingAdmin := 0#160 } else p
  | .adminUpdated J _ newAdmin =>
    if J = I then { p with admin := newAdmin, pendingAdmin := 0#160 } else p
  | .adminUpdateRequested J _ newAdmin => if J = I then { p with pendingAdmin := newAdmin } else p
  | .adapterAdded J adapter _ =>
    if J = I then { p with adapters := p.adapters ++ [adapter] } else p
  | .sendAdapterEnabledForChain J chain adapter =>
    if J = I then { p with
      sendAdapters := Function.update p.sendAdapters chain (insert adapter (p.sendAdapters chain)) }
    else p
  | .sendAdapterDisabledForChain J chain adapter =>
    if J = I then { p with
      sendAdapters := Function.update p.sendAdapters chain ((p.sendAdapters chain).erase adapter) }
    else p
  | .recvAdapterEnabledForChain J chain adapter =>
    if J = I then { p with
      recvBitmap := Function.update p.recvBitmap chain (p.recvBitmap chain ||| p.bit adapter) }
    else p
  | .recvAdapterDisabledForChain J chain adapter =>
    if J = I then { p with
      recvBitmap := Function.update p.recvBitmap chain (p.recvBitmap chain &&& ~~~p.bit adapter) }
    else p
  | _ => p

/-- What an event says of the configuration before it. -/
def Published.Fits (I : Address) (p : Published) : Event → Prop
  | .adminUpdated J oldAdmin _ | .adminUpdateRequested J oldAdmin _ => J = I → oldAdmin = p.admin
  | .adapterAdded J adapter adaptersNum =>
    J = I → adapter ∉ p.adapters ∧ adaptersNum.toNat = p.adapters.length + 1
  | .sendAdapterEnabledForChain J chain adapter => J = I → adapter ∉ p.sendAdapters chain
  | .sendAdapterDisabledForChain J chain adapter => J = I → adapter ∈ p.sendAdapters chain
  | .recvAdapterEnabledForChain J chain adapter =>
    J = I → p.adapters.idxOf adapter ∉ indices (p.recvBitmap chain)
  | .recvAdapterDisabledForChain J chain adapter =>
    J = I → p.adapters.idxOf adapter ∈ indices (p.recvBitmap chain)
  | _ => True

/-- What the contract stores. -/
def State.published (s : State) (I : Address) : Published where
  isInitialized := (s.integratorConfigs I).isInitialized
  admin := (s.integratorConfigs I).admin
  pendingAdmin := (s.integratorConfigs I).pendingAdmin
  adapters := s.registeredAdapters I
  sendAdapters chain := ((s.perChainSendAdapterArray I chain).map PerSendAdapterInfo.addr).toFinset
  recvBitmap := s.perChainRecvAdapterBitmap I

variable {E : Env} {s t : State} {op : Op} {r : Receipt} {I J A : Address} {chain : ChainId}

/-! ## Steps -/

/-- The invariants that the events rely on. -/
structure LogInv (s : State) : Prop where
  registry : RegistryInv s
  send : SendInv s.toRegistry

theorem LogInv.invariant (E : Env) : (machine E).Invariant LogInv :=
  fun _ _ _ _ hstep h => ⟨RegistryInv.invariant E hstep h.registry,
    SendInv.invariant E hstep h.send⟩

/-- The index of an adapter is its place in the list. -/
theorem RegistryInv.idxOf_eq (h : RegistryInv s) (hreg : (s.adapterInfos I A).registered = true) :
    (s.registeredAdapters I).idxOf A = (s.adapterInfos I A).index.toNat := by
  obtain ⟨hlt, hget⟩ := List.getElem?_eq_some_iff.1 (h.wellFormed.getElem?_index hreg)
  conv_lhs => rw [← hget]
  exact (h.nodup I).idxOf_getElem _ hlt

/-- A step of the admin of an integrator. -/
theorem discovers_admin {sender : Address} {call : Call} {config : IntegratorConfig} {event : Event}
    (h : AdminStep s sender call J config event) (I : Address) :
    Discovers (Published.update I) (Published.Fits I) (s.published I) [event]
      ({ s with
        integratorConfigs := Function.update s.integratorConfigs J config }.published I) := by
  by_cases hJ : J = I
  · subst hJ
    cases h with
    | register _ _ => exact .single trivial (by simp [Published.update, State.published])
    | updateAdmin ho _ hp | transferAdmin ho _ hp | discardAdmin ho hp =>
      refine .single (fun _ => ho.admin_eq.symm) ?_
      simp [Published.update, State.published, hp]
    | claimAdmin _ _ => exact .single (fun _ => rfl) (by simp [Published.update, State.published])
  · have hsame : s.published I =
        ({ s with
          integratorConfigs := Function.update s.integratorConfigs J config } :
            State).published I := by
      simp only [State.published, Function.update_of_ne (Ne.symm hJ)]
    rw [← hsame]
    cases h with
    | register | updateAdmin | transferAdmin | discardAdmin | claimAdmin =>
      exact .single (by simp [Published.Fits, hJ]) (if_neg hJ)

theorem published_congr (hconfig : t.integratorConfigs I = s.integratorConfigs I)
    (hview : t.toRegistry.view I = s.toRegistry.view I) : t.published I = s.published I := by
  have hadapters := congrArg Registry.View.registeredAdapters hview
  have harray := congrArg Registry.View.perChainSendAdapterArray hview
  have hbitmap := congrArg Registry.View.perChainRecvAdapterBitmap hview
  simp only [Registry.view] at hadapters harray hbitmap
  simp only [State.published, hconfig, hadapters, harray, hbitmap]

/-- A write of the array of one chain. -/
theorem published_setArray (s : State) (I : Address) (chain : ChainId)
    {adapters : List PerSendAdapterInfo} {sendAdapters : Finset Address}
    (h : (adapters.map PerSendAdapterInfo.addr).toFinset = sendAdapters) :
    ({ s with perChainSendAdapterArray := update₂ s.perChainSendAdapterArray I chain adapters } :
        State).published I =
      { s.published I with
        sendAdapters := Function.update (s.published I).sendAdapters chain sendAdapters } := by
  refine Published.ext rfl rfl rfl rfl ?_ rfl
  funext chain'
  by_cases hchain : chain' = chain
  · subst hchain
    simp only [State.published, update₂_self, Function.update_self, h]
  · simp only [State.published, update₂_of_ne (show ¬ (I = I ∧ chain' = chain) by simp [hchain]),
      Function.update_of_ne hchain]

/-- A write of the bitmap of one chain. -/
theorem published_setBitmap (s : State) (I : Address) (chain : ChainId) (bitmap : BitVec 128) :
    ({ s with perChainRecvAdapterBitmap := update₂ s.perChainRecvAdapterBitmap I chain bitmap } :
        State).published I =
      { s.published I with
        recvBitmap := Function.update (s.published I).recvBitmap chain bitmap } := by
  simp only [State.published, update₂_eq_update]

/-- A change of the registry of the integrator. -/
theorem LogInv.discovers_run (hs : LogInv s) {change : Change} {registry : Registry}
    (hrun : change.run s.toRegistry I = .ok (registry, r)) :
    Discovers (Published.update I) (Published.Fits I) (s.published I) r.events
      ({ s with toRegistry := registry }.published I) := by
  cases change with
  | addAdapter B =>
    obtain ⟨-, hnew, hlt, rfl, rfl⟩ := addAdapter_eq_ok.1 hrun
    have hlength := hs.registry.toNat_length I
    rw [BitVec.lt_def, hlength] at hlt
    refine .single (fun _ => ⟨?_, ?_⟩) ?_
    · rw [State.published, hs.registry.mem_iff, hnew]
      exact Bool.false_ne_true
    · rw [BitVec.toNat_add, hlength]
      exact Nat.mod_eq_of_lt (Nat.lt_of_le_of_lt hlt (by decide))
    · simp [Published.update, State.published]
  | enableSendAdapter chain B =>
    obtain ⟨-, hoff, rfl, rfl⟩ := enableSendAdapter_eq_ok.1 hrun
    rw [← Bool.not_eq_true, isSendAdapterEnabledForChain_iff] at hoff
    refine .single (fun _ => mt List.mem_toFinset.1 hoff) ?_
    rw [Published.update, if_pos rfl]
    refine (published_setArray s I chain ?_).symm
    rw [List.map_append, List.toFinset_append, List.map_singleton, Finset.union_comm]
    rfl
  | disableSendAdapter chain B =>
    obtain ⟨-, i, hi, rfl, rfl⟩ := disableSendAdapter_eq_ok.1 hrun
    have hperm := (hs.send.swapRemove_perm hi).map PerSendAdapterInfo.addr
    have hon : SendEnabled s.toRegistry I chain B := by
      obtain ⟨hlt, haddr, -⟩ := List.findIdx?_eq_some_iff_getElem.1 hi
      exact List.mem_map.2 ⟨_, List.getElem_mem hlt, by simpa using haddr⟩
    refine .single (fun _ => List.mem_toFinset.2 hon) ?_
    rw [Published.update, if_pos rfl]
    refine (published_setArray s I chain ?_).symm
    rw [List.toFinset_eq_of_perm _ _ hperm]
    ext A
    simp only [State.published, Finset.mem_erase, List.mem_toFinset, List.mem_map, List.mem_filter,
      decide_eq_true_eq]
    constructor
    · rintro ⟨info, ⟨hinfo, hne⟩, rfl⟩
      exact ⟨hne, info, hinfo, rfl⟩
    · rintro ⟨hne, info, hinfo, rfl⟩
      exact ⟨info, ⟨hinfo, hne⟩, rfl⟩
  | enableRecvAdapter chain B =>
    obtain ⟨hreg, hoff, rfl, rfl⟩ := enableRecvAdapter_eq_ok.1 hrun
    have hindex : (s.published I).adapters.idxOf B = _ := hs.registry.idxOf_eq hreg.registered
    refine .single (fun _ => ?_) ?_
    · rw [hindex]
      exact hoff
    · rw [Published.update, if_pos rfl, Published.bit, hindex, ← bit_eq_twoPow]
      exact (published_setBitmap s I chain _).symm
  | disableRecvAdapter chain B =>
    obtain ⟨hreg, hon, rfl, rfl⟩ := disableRecvAdapter_eq_ok.1 hrun
    have hindex : (s.published I).adapters.idxOf B = _ := hs.registry.idxOf_eq hreg.registered
    refine .single (fun _ => ?_) ?_
    · rw [hindex]
      exact hon
    · rw [Published.update, if_pos rfl, Published.bit, hindex, ← notBit_eq]
      exact (published_setBitmap s I chain _).symm

/-- A change of the registry of another integrator. -/
theorem discovers_run_of_ne {change : Change} {registry : Registry} (hJ : J ≠ I)
    (hrun : change.run s.toRegistry J = .ok (registry, r)) :
    Discovers (Published.update I) (Published.Fits I) (s.published I) r.events
      ({ s with toRegistry := registry }.published I) := by
  rw [published_congr (s := s) (t := { s with toRegistry := registry }) rfl
    (view_run_of_ne hrun (Ne.symm hJ)), Change.receipt_of_run hrun]
  cases change <;> exact .single (fun h => absurd h hJ) (if_neg hJ)

/-- **The events of a step tell how it changes the configuration.** -/
theorem LogInv.discovers_step (hs : LogInv s) (hstep : step E s op = .ok (t, r)) (I : Address) :
    Discovers (Published.update I) (Published.Fits I) (s.published I) r.events (t.published I) := by
  cases step_effect hstep with
  | admin h => exact discovers_admin h I
  | @configure msg J change registry r _ hrun =>
    by_cases hJ : J = I
    · subst hJ
      exact hs.discovers_run hrun
    · exact discovers_run_of_ne hJ hrun
  | inbox h =>
    cases h with
    | attest | recv => exact .single trivial rfl
    | exec => exact .nil
  | send | forward => exact .nil
  | sent => exact .single trivial rfl

/-- **The configuration is discoverable from events.** In every history from deployment, for every
integrator: its events, folded in order, give the admin, the pending admin, the adapters in the
order of their indices, the enabled send adapters and the receive bitmap of every chain that the
contract stores; and each event fits those before it. Every event that names an old admin names the
current one; an added adapter is new, and the number that its event carries is the length of the
list after it; no enabling event is about an enabled adapter, and no disabling event about a
disabled one. -/
theorem configuration_discoverable (E : Env) {log : Log} (h : (machine E).Path .init log s)
    (I : Address) :
    (eventsOf Receipt.events log).foldl (Published.update I) {} = s.published I ∧
    (∀ A i, ((eventsOf Receipt.events log).foldl (Published.update I) {}).adapters[i]? = some A ↔
      (s.adapterInfos I A).registered = true ∧ (s.adapterInfos I A).index.toNat = i) ∧
    ∀ before event after, eventsOf Receipt.events log = before ++ event :: after →
      (before.foldl (Published.update I) {}).Fits I event := by
  have hinit : LogInv .init := ⟨.init, .init⟩
  have hdiscovers : Discovers (Published.update I) (Published.Fits I) (State.init.published I)
      (eventsOf Receipt.events log) (s.published I) :=
    h.discovers (LogInv.invariant E) (fun s op r t hstep hs => hs.discovers_step hstep I) hinit
  have hs := h.invariant (LogInv.invariant E) hinit
  have hempty : State.init.published I = {} := by
    simp [State.published, State.init]
  rw [hempty] at hdiscovers
  refine ⟨hdiscovers.foldl_eq, fun A i => ?_, hdiscovers.coherent⟩
  rw [hdiscovers.foldl_eq]
  exact hs.registry.wellFormed.lookup I A i

/-- The events of the sample integrator give its send adapters. -/
theorem configuration_discoverable_sample :
    let h := execAll ⟨id, 2#16⟩ State.init sendTxs
    (eventsOf Receipt.events h.2).length = 8 ∧
      (eventsOf Receipt.events h.2).foldl (Published.update 10#160) {} = h.1.published 10#160 :=
  ⟨by decide +kernel, (configuration_discoverable ⟨id, 2#16⟩
    (execAll_path ⟨id, 2#16⟩ State.init sendTxs) 10#160).1⟩

end GmpRouter.Evm
