import GmpRouter.Evm.Attestation
import GmpRouter.Router.Invariant

/-!
# The receive path of the EVM endpoint

The adapters of an integrator, the bitmaps of those that are enabled for receiving, and the records
of messages are those of a state of the router (`Receives`), although the endpoint keeps nothing
else of it in the same way. The functions of the receive path then make the steps of the router,
each with the guards of its own: `recvMessage` also fails while no adapter is enabled for the source
chain.

The counter of attestations is the number of set bits (`Counted`), so that its checked increment
never fails.
-/

namespace GmpRouter.Evm

open Endpoint AdapterRegistry
open GmpRouter.Bitmap (indices)

variable {D : Env} {u v : State} {a : Router.State} {I A : Address} {chain : ChainId} {r : Receipt}
  {i : ℕ}

/-! ## The number of attestations -/

/-- Or-ing the bit of a registered adapter in changes the bitmap exactly when it was clear. -/
theorem RegistryInv.or_bit_ne_iff (h : RegistryInv u)
    (hreg : (u.adapterInfos I A).registered = true) {bitmap : BitVec 128} :
    bitmap ||| bit (u.adapterInfos I A).index ≠ bitmap ↔
      (u.adapterInfos I A).index.toNat ∉ indices bitmap := by
  rw [bit_eq_twoPow, Ne, Bitmap.or_twoPow_eq_self_iff (h.wellFormed.index_lt hreg)]

/-- The counter of each record is the number of the adapters that attested. -/
structure Counted (s : State) : Prop where
  registry : RegistryInv s
  toNat_eq : ∀ I digest, (s.attestationInfo I digest).numAttested.toNat =
    (indices (s.attestationInfo I digest).attestedAdapters).card

namespace Counted

theorem init : Counted .init where
  registry := .init
  toNat_eq _ _ := by simp [State.init]

/-- There are at most 128 adapters, fewer than the counter can count. -/
theorem numAttested_ne (h : Counted u) (digest : Digest) :
    (u.attestationInfo I digest).numAttested ≠ BitVec.allOnes 8 := by
  have hle := Bitmap.card_indices_le (u.attestationInfo I digest).attestedAdapters
  intro heq
  have htoNat := h.toNat_eq I digest
  rw [heq, BitVec.toNat_allOnes] at htoNat
  omega

theorem attest (h : Counted u) {m : Message} (hatt : Attests D u A m I) :
    ((u.attestationInfo I (computeMessageDigest D m)).attest
        (u.adapterInfos I A).index).numAttested.toNat =
      (indices ((u.attestationInfo I (computeMessageDigest D m)).attest
        (u.adapterInfos I A).index).attestedAdapters).card := by
  have hreg := hatt.registered.registered
  have hnew := (h.registry.or_bit_ne_iff hreg).1 hatt.fresh
  rw [indices_attest h.registry.wellFormed hreg, Finset.card_insert_of_notMem hnew, ← h.toNat_eq,
    toNat_attest hatt.count]

theorem invariant (D : Env) : (machine D).Invariant Counted := by
  intro s op r t hstep h
  refine ⟨RegistryInv.invariant D hstep h.registry, ?_⟩
  cases step_effect hstep with
  | admin | configure | send | forward | sent => exact h.toNat_eq
  | @inbox msg call I m info r hinbox =>
    intro J digest
    by_cases hrecord : J = I ∧ digest = computeMessageDigest D m
    · obtain ⟨rfl, rfl⟩ := hrecord
      simp only [update₂_self]
      cases hinbox with
      | attest hatt => exact h.attest hatt
      | recv _ hinfo | exec _ hinfo =>
        subst hinfo
        exact h.toNat_eq _ _
    · simp only [update₂_of_ne hrecord]
      exact h.toNat_eq J digest

end Counted

/-! ## The state of the router -/

theorem RegistryInv.ne_zero (h : RegistryInv u) (hreg : (u.adapterInfos I A).registered = true) :
    A ≠ 0#160 := by
  rintro rfl
  exact h.zero_notMem I (h.mem_iff.2 hreg)

/-- The index of an adapter is its position in the list. -/
theorem RegistryInv.idxOf?_eq_some (h : RegistryInv u) :
    ((u.registeredAdapters I).map fromAddress).idxOf? (fromAddress A) = some i ↔
      (u.adapterInfos I A).registered = true ∧ (u.adapterInfos I A).index.toNat = i := by
  rw [← h.wellFormed.lookup, List.idxOf?_eq_some_iff, List.getElem?_eq_some_iff]
  constructor
  · rintro ⟨hlt, hget, -⟩
    rw [List.length_map] at hlt
    rw [List.getElem_map] at hget
    exact ⟨hlt, fromAddress_injective hget⟩
  · rintro ⟨hlt, hget⟩
    refine ⟨by rwa [List.length_map], by rw [List.getElem_map, hget], fun j hj hsame => ?_⟩
    rw [List.getElem_map, ← hget] at hsame
    have heq := ((h.nodup I).getElem_inj_iff).1 (fromAddress_injective hsame)
    omega

/-- What the router knows of a message with this record. -/
def AttestationInfo.known (info : AttestationInfo) : Router.Record :=
  ⟨indices info.attestedAdapters, info.executed⟩

theorem RegistryInv.known_attest (h : RegistryInv u)
    (hreg : (u.adapterInfos I A).registered = true) (info : AttestationInfo) :
    (info.attest (u.adapterInfos I A).index).known =
      { info.known with
        attested := insert (u.adapterInfos I A).index.toNat info.known.attested } := by
  rw [AttestationInfo.known, indices_attest h.wellFormed hreg]
  rfl

/-- The receive path of the endpoint represents that of the router. -/
structure Receives (D : Env) (u : State) (a : Router.State) : Prop where
  adapters : ∀ I, ((a.integrators (fromAddress I)).map Router.Integrator.adapters).getD [] =
    (u.registeredAdapters I).map fromAddress
  enabled : ∀ I chain, ((a.integrators (fromAddress I)).map fun c => c.enabled .recv chain).getD ∅ =
    indices (u.perChainRecvAdapterBitmap I chain)
  inbox : ∀ I m, m.dstAddr = fromAddress I →
    a.inbox (computeMessageDigest D m) = (record D u I m).known

namespace Receives

variable {c c' : Router.Integrator}

theorem adapters_eq (h : Receives D u a) (hc : a.integrators (fromAddress I) = some c) :
    c.adapters = (u.registeredAdapters I).map fromAddress := by
  have hI := h.adapters I
  rwa [hc] at hI

theorem enabled_eq (h : Receives D u a) (hc : a.integrators (fromAddress I) = some c) :
    c.enabled .recv chain = indices (u.perChainRecvAdapterBitmap I chain) := by
  have hI := h.enabled I chain
  rwa [hc] at hI

theorem idxOf?_eq_some (h : Receives D u a) (hu : RegistryInv u)
    (hc : a.integrators (fromAddress I) = some c) : c.adapters.idxOf? (fromAddress A) = some i ↔
      (u.adapterInfos I A).registered = true ∧ (u.adapterInfos I A).index.toNat = i := by
  rw [h.adapters_eq hc, hu.idxOf?_eq_some]

/-- A change of the registry of one integrator. -/
theorem setIntegrator (h : Receives D u a) (registry : Registry)
    (hother : ∀ J, J ≠ I → registry.registeredAdapters J = u.registeredAdapters J ∧
      registry.perChainRecvAdapterBitmap J = u.perChainRecvAdapterBitmap J)
    (hadapters : c'.adapters = (registry.registeredAdapters I).map fromAddress)
    (henabled : ∀ chain, c'.enabled .recv chain =
      indices (registry.perChainRecvAdapterBitmap I chain)) :
    Receives D { u with toRegistry := registry } (a.setIntegrator (fromAddress I) c') where
  adapters J := by
    by_cases hJ : J = I
    · subst hJ
      rw [Router.setIntegrator_self]
      exact hadapters
    · rw [Router.setIntegrator_of_ne (fromAddress_injective.ne hJ), h.adapters, (hother J hJ).1]
  enabled J chain := by
    by_cases hJ : J = I
    · subst hJ
      rw [Router.setIntegrator_self]
      exact henabled chain
    · rw [Router.setIntegrator_of_ne (fromAddress_injective.ne hJ), h.enabled, (hother J hJ).2]
  inbox := h.inbox

/-- A write of the record of one message. -/
theorem setRecord (hk : CollisionFree D.keccak) (h : Receives D u a) {m : Message}
    (hm : m.dstAddr = fromAddress I) {info : AttestationInfo} {known : Router.Record}
    (hknown : known = info.known) (value : ℕ) :
    Receives D { u.credit value with
      attestationInfo := update₂ u.attestationInfo I (computeMessageDigest D m) info }
      (a.setRecord (computeMessageDigest D m) known) where
  adapters := h.adapters
  enabled := h.enabled
  inbox J m' hm' := by
    simp only [record, update₂_apply, computeMessageDigest_inj hk]
    by_cases heq : m' = m
    · subst heq
      obtain rfl : J = I := fromAddress_injective (hm'.symm.trans hm)
      rw [if_pos ⟨rfl, rfl⟩, Router.setRecord_self, hknown]
    · rw [if_neg fun h' => heq h'.2,
        Router.setRecord_of_ne (mt (computeMessageDigest_inj hk).1 heq)]
      exact h.inbox J m' hm'

end Receives

/-! ## Steps -/

/-- The enabled and the attested adapters that `recvMessage` reports. -/
def Receipt.received (r : Receipt) : Option (BitVec 128 × BitVec 128) :=
  match r.ret with
  | .received enabledBitmap attestedBitmap _ => some (enabledBitmap, attestedBitmap)
  | _ => none

/-- The operation succeeds exactly when the router makes the step and the guard holds, and then it
is that step. -/
structure Simulates (D : Env) (u : State) (a : Router.State) (op : Op) (guard : Prop)
    (rop : Router.Op) : Prop where
  sound : ∀ {v r}, step D u op = .ok (v, r) → guard ∧
    ∃ b o, Router.step (computeMessageDigest D) a rop = .ok (b, o) ∧ Receives D v b ∧
      r.received.map (Prod.map indices indices) = o.receivedSets
  complete : ∀ {x}, guard → Router.step (computeMessageDigest D) a rop = .ok x →
    ∃ y, step D u op = .ok y

namespace Receives

variable {c c' : Router.Integrator} {msg : Msg} {caller : UniversalAddress}

/-- A change by the admin, which changes the registry as the router changes the configuration. -/
theorem configure {change : Change} {rchange : Router.Change} {guard : Prop}
    (hauth : OnlyAdmin u I msg.sender) (hvalue : msg.value = 0)
    (hby : Router.ByAdmin a caller (fromAddress I) c)
    (sound : ∀ {registry r}, change.run u.toRegistry I = .ok (registry, r) → guard ∧
      r.received = none ∧ ∃ c', rchange.apply c = .ok c' ∧
        Receives D { u with toRegistry := registry } (a.setIntegrator (fromAddress I) c'))
    (complete : ∀ {c'}, guard → rchange.apply c = .ok c' → change.Accepts u.toRegistry I) :
    Simulates D u a (.call msg (.configure I change)) guard
      (.configure caller (fromAddress I) rchange) where
  sound {v r} hstep := by
    cases step_effect hstep with
    | configure _ hrun =>
      obtain ⟨hguard, hret, c', happly, hv⟩ := sound hrun
      refine ⟨hguard, _, _, Router.configure_eq_ok.2 ⟨c, c', hby, happly, rfl, rfl⟩, hv, ?_⟩
      rw [hret]
      rfl
    | admin h => cases h
    | inbox h => cases h
  complete hguard hstep := by
    obtain ⟨d, c', hd, happly, -, -⟩ := Router.configure_eq_ok.1 hstep
    obtain rfl : c = d := Option.some.inj (hby.integrator_eq.symm.trans hd.integrator_eq)
    obtain ⟨v, r, h⟩ := exists_configure_iff.2 ⟨hvalue, hauth, complete hguard happly⟩
    exact ⟨(v, r), h⟩

theorem addAdapter (h : Receives D u a) (hu : RegistryInv u) (hauth : OnlyAdmin u I msg.sender)
    (hvalue : msg.value = 0) (hby : Router.ByAdmin a caller (fromAddress I) c) :
    Simulates D u a (.call msg (.configure I (.addAdapter A))) (A ≠ 0#160)
      (.configure caller (fromAddress I) (.addAdapter (fromAddress A))) := by
  have hadapters := h.adapters_eq hby.integrator_eq
  have hmem : fromAddress A ∈ c.adapters ↔ (u.adapterInfos I A).registered = true := by
    rw [hadapters, List.mem_map_of_injective fromAddress_injective, hu.mem_iff]
  have hlength : c.adapters.length < 128 ↔
      BitVec.ofNat 8 (u.registeredAdapters I).length < MAX_ADAPTERS := by
    rw [hadapters, List.length_map, BitVec.lt_def, hu.toNat_length]
    rfl
  refine configure hauth hvalue hby (fun hrun => ?_) fun hne happly => ?_
  · obtain ⟨hne, hnew, hlt, rfl, rfl⟩ := addAdapter_eq_ok.1 hrun
    rw [← hlength] at hlt
    refine ⟨hne, rfl, _, Router.addAdapter_eq_ok.2 ⟨by simp [hmem, hnew], hlt, rfl⟩, ?_⟩
    refine h.setIntegrator _ (fun J hJ => ⟨Function.update_of_ne hJ .., rfl⟩) ?_ fun chain => ?_
    · simp only [Function.update_self, List.map_append, hadapters, List.map_cons, List.map_nil]
    · exact h.enabled_eq (c := c) hby.integrator_eq
  · obtain ⟨hnew, hlt, -⟩ := Router.addAdapter_eq_ok.1 happly
    rw [hmem, Bool.not_eq_true] at hnew
    exact ⟨hne, hnew, hlength.1 hlt⟩

/-- A change of the bitmap of one chain. -/
theorem setEnabled (h : Receives D u a) (hc : a.integrators (fromAddress I) = some c)
    {bitmap : BitVec 128} {enabled : Finset ℕ} (hbitmap : indices bitmap = enabled) :
    Receives D { u with
      perChainRecvAdapterBitmap := update₂ u.perChainRecvAdapterBitmap I chain bitmap }
      (a.setIntegrator (fromAddress I)
        { c with enabled := update₂ c.enabled .recv chain enabled }) := by
  refine h.setIntegrator { u.toRegistry with
      perChainRecvAdapterBitmap := update₂ u.perChainRecvAdapterBitmap I chain bitmap }
    (fun J hJ => ⟨rfl, update₂_left hJ⟩) (h.adapters_eq (c := c) hc) fun chain' => ?_
  by_cases hchain : chain' = chain
  · subst hchain
    simp only [update₂_self, hbitmap]
  · simp only [update₂_of_ne (show ¬ (Direction.recv = .recv ∧ chain' = chain) by simp [hchain]),
      update₂_of_ne (show ¬ (I = I ∧ chain' = chain) by simp [hchain])]
    exact h.enabled_eq hc

theorem enableRecvAdapter (h : Receives D u a) (hu : RegistryInv u)
    (hauth : OnlyAdmin u I msg.sender) (hvalue : msg.value = 0)
    (hby : Router.ByAdmin a caller (fromAddress I) c) :
    Simulates D u a (.call msg (.configure I (.enableRecvAdapter chain A))) (chain ≠ 0#16)
      (.configure caller (fromAddress I) (.setAdapter .recv true chain (fromAddress A))) := by
  have henabled : c.enabled .recv chain = indices (u.perChainRecvAdapterBitmap I chain) :=
    h.enabled_eq hby.integrator_eq
  refine configure hauth hvalue hby (fun hrun => ?_) fun hne happly => ?_
  · obtain ⟨hreg, hoff, rfl, rfl⟩ := enableRecvAdapter_eq_ok.1 hrun
    have hindex := (h.idxOf?_eq_some hu hby.integrator_eq).2 ⟨hreg.registered, rfl⟩
    rw [RecvEnabled, ← henabled] at hoff
    refine ⟨hreg.chain_ne, rfl, _, Router.setAdapter_eq_ok.2 ⟨_, hindex, by simp [hoff], rfl⟩, ?_⟩
    refine h.setEnabled hby.integrator_eq ?_
    rw [if_pos rfl, bit_eq_twoPow, henabled]
    exact Bitmap.indices_or_twoPow _ (hu.wellFormed.index_lt hreg.registered)
  · obtain ⟨i, hindex, hoff, -⟩ := Router.setAdapter_eq_ok.1 happly
    obtain ⟨hreg, rfl⟩ := (h.idxOf?_eq_some hu hby.integrator_eq).1 hindex
    rw [henabled] at hoff
    exact ⟨⟨hu.ne_zero hreg, hne, hreg⟩, by simpa [RecvEnabled] using hoff⟩

theorem disableRecvAdapter (h : Receives D u a) (hu : RegistryInv u)
    (hauth : OnlyAdmin u I msg.sender) (hvalue : msg.value = 0)
    (hby : Router.ByAdmin a caller (fromAddress I) c) :
    Simulates D u a (.call msg (.configure I (.disableRecvAdapter chain A))) (chain ≠ 0#16)
      (.configure caller (fromAddress I) (.setAdapter .recv false chain (fromAddress A))) := by
  have henabled : c.enabled .recv chain = indices (u.perChainRecvAdapterBitmap I chain) :=
    h.enabled_eq hby.integrator_eq
  refine configure hauth hvalue hby (fun hrun => ?_) fun hne happly => ?_
  · obtain ⟨hreg, hon, rfl, rfl⟩ := disableRecvAdapter_eq_ok.1 hrun
    have hindex := (h.idxOf?_eq_some hu hby.integrator_eq).2 ⟨hreg.registered, rfl⟩
    rw [RecvEnabled, ← henabled] at hon
    refine ⟨hreg.chain_ne, rfl, _, Router.setAdapter_eq_ok.2 ⟨_, hindex, by simp [hon], rfl⟩, ?_⟩
    refine h.setEnabled hby.integrator_eq ?_
    rw [if_neg Bool.false_ne_true, notBit_eq, henabled]
    exact Bitmap.indices_and_not_twoPow _ _
  · obtain ⟨i, hindex, hon, -⟩ := Router.setAdapter_eq_ok.1 happly
    obtain ⟨hreg, rfl⟩ := (h.idxOf?_eq_some hu hby.integrator_eq).1 hindex
    rw [henabled] at hon
    exact ⟨⟨hu.ne_zero hreg, hne, hreg⟩, by simpa [RecvEnabled] using hon⟩

/-- A registered integrator, if one of its adapters is enabled. -/
theorem exists_integrator (h : Receives D u a)
    (hne : u.perChainRecvAdapterBitmap I chain ≠ 0#128) :
    ∃ c, a.integrators (fromAddress I) = some c := by
  cases hc : a.integrators (fromAddress I) with
  | some c => exact ⟨c, rfl⟩
  | none =>
    have hI := h.enabled I chain
    rw [hc] at hI
    exact absurd (Bitmap.indices_eq_empty.1 hI.symm) hne

theorem attestMessage (hk : CollisionFree D.keccak) (h : Receives D u a) (hu : Counted u)
    {m : Message} (hm : m.dstAddr = fromAddress I) :
    Simulates D u a (.call msg (.attestMessage m))
      (msg.value = 0 ∧ m.srcChain ≠ 0#16 ∧ m.dstChain = D.ourChain)
      (.attest (fromAddress msg.sender) m) where
  sound {v r} hstep := by
    obtain ⟨hvalue, hbody⟩ := body_of_dispatch hstep rfl
    obtain ⟨J, hatt, rfl, rfl⟩ := attestMessage_eq_ok.1 hbody
    obtain rfl : J = I := fromAddress_injective (hatt.dstAddr_eq.symm.trans hm)
    have hreg := hatt.registered.registered
    obtain ⟨c, hc⟩ := h.exists_integrator (Bitmap.ne_zero_iff.2 ⟨_, hatt.enabled⟩)
    have hindex := (h.idxOf?_eq_some hu.registry hc).2 ⟨hreg, rfl⟩
    have hnew := (hu.registry.or_bit_ne_iff hreg).1 hatt.fresh
    have hinbox := h.inbox J m hm
    refine ⟨⟨hvalue, hatt.registered.chain_ne, hatt.dstChain_eq⟩, _, _,
      Router.attest_eq_ok.2 ⟨c, _, hm ▸ hc, hindex, ?_, ?_, rfl, rfl⟩, ?_, rfl⟩
    · rw [h.enabled_eq hc]
      exact hatt.enabled
    · rw [hinbox]
      exact hnew
    · refine h.setRecord hk hm ?_ 0
      rw [hinbox, hu.registry.known_attest hreg]
      rfl
  complete {x} hguard hstep := by
    obtain ⟨c, i, hc, hindex, hon, hnew, -⟩ := Router.attest_eq_ok.1 hstep
    rw [hm] at hc
    obtain ⟨hreg, rfl⟩ := (h.idxOf?_eq_some hu.registry hc).1 hindex
    rw [h.enabled_eq hc] at hon
    rw [h.inbox I m hm] at hnew
    refine ⟨_, dispatch_eq_ok.2 ⟨.inr hguard.1, attestMessage_eq_ok.2 ⟨I, ⟨hm, hguard.2.2,
      ⟨hu.registry.ne_zero hreg, hguard.2.1, hreg⟩, hon, ?_, ?_⟩, rfl, rfl⟩⟩⟩
    · exact (hu.registry.or_bit_ne_iff hreg).2 hnew
    · exact hu.numAttested_ne _

theorem recvMessage (hk : CollisionFree D.keccak) (h : Receives D u a) {args : RecvMessageArgs} :
    Simulates D u a (.call msg (.recvMessage args))
      (args.srcChain ≠ 0#16 ∧ u.perChainRecvAdapterBitmap msg.sender args.srcChain ≠ 0#128)
      (.recv (inbound D msg.sender args)) where
  sound {v r} hstep := by
    obtain ⟨-, hbody⟩ := dispatch_eq_ok.1 hstep
    obtain ⟨hchain, hne, hattested, hexecuted, rfl, rfl⟩ := recvMessage_eq_ok.1 hbody
    obtain ⟨c, hc⟩ := h.exists_integrator hne
    have hinbox := h.inbox msg.sender (inbound D msg.sender args) rfl
    refine ⟨⟨hchain, hne⟩, _, _, Router.recv_eq_ok.2 ⟨c, hc, ?_, ?_, rfl, rfl⟩, ?_, ?_⟩
    · rw [hinbox]
      exact mt Bitmap.indices_eq_empty.1 hattested
    · rw [hinbox]
      exact hexecuted
    · refine h.setRecord hk rfl ?_ msg.value
      rw [hinbox]
      rfl
    · rw [hinbox, Router.Out.receivedSets]
      exact congrArg (fun x => some (x, _)) (h.enabled_eq hc).symm
  complete {x} hguard hstep := by
    obtain ⟨c, hc, hattested, hexecuted, -⟩ := Router.recv_eq_ok.1 hstep
    rw [h.inbox msg.sender (inbound D msg.sender args) rfl] at hattested hexecuted
    exact ⟨_, dispatch_eq_ok.2 ⟨.inl rfl, recvMessage_eq_ok.2 ⟨hguard.1, hguard.2,
      mt Bitmap.indices_eq_empty.2 hattested, hexecuted, rfl, rfl⟩⟩⟩

theorem execMessage (hk : CollisionFree D.keccak) (h : Receives D u a) {args : RecvMessageArgs} :
    Simulates D u a (.call msg (.execMessage args)) (msg.value = 0)
      (.exec (inbound D msg.sender args)) where
  sound {v r} hstep := by
    obtain ⟨hvalue, hbody⟩ := body_of_dispatch hstep rfl
    obtain ⟨hexecuted, rfl, rfl⟩ := execMessage_eq_ok.1 hbody
    have hinbox := h.inbox msg.sender (inbound D msg.sender args) rfl
    refine ⟨hvalue, _, _, Router.exec_eq_ok.2 ⟨?_, rfl, rfl⟩, ?_, rfl⟩
    · rw [hinbox]
      exact hexecuted
    · refine h.setRecord hk rfl ?_ 0
      rw [hinbox]
      rfl
  complete {x} hvalue hstep := by
    obtain ⟨hexecuted, -, -⟩ := Router.exec_eq_ok.1 hstep
    rw [h.inbox msg.sender (inbound D msg.sender args) rfl] at hexecuted
    exact ⟨_, dispatch_eq_ok.2 ⟨.inr hvalue, execMessage_eq_ok.2 ⟨hexecuted, rfl, rfl⟩⟩⟩

end Receives

/-- A message is received exactly when it was attested, is not executed, and an adapter is
enabled. -/
theorem exists_recvMessage_iff {msg : Msg} {args : RecvMessageArgs} :
    (∃ x, step D u (.call msg (.recvMessage args)) = .ok x) ↔
      args.srcChain ≠ 0#16 ∧ u.perChainRecvAdapterBitmap msg.sender args.srcChain ≠ 0#128 ∧
        (record D u msg.sender (inbound D msg.sender args)).attestedAdapters ≠ 0#128 ∧
        (record D u msg.sender (inbound D msg.sender args)).executed = false := by
  constructor
  · rintro ⟨⟨v, r⟩, hstep⟩
    obtain ⟨hsrc, hne, hattested, hexecuted, -⟩ := recvMessage_eq_ok.1 (dispatch_eq_ok.1 hstep).2
    exact ⟨hsrc, hne, hattested, hexecuted⟩
  · rintro ⟨hsrc, hne, hattested, hexecuted⟩
    exact ⟨_, dispatch_eq_ok.2 ⟨.inl rfl,
      recvMessage_eq_ok.2 ⟨hsrc, hne, hattested, hexecuted, rfl, rfl⟩⟩⟩

end GmpRouter.Evm
