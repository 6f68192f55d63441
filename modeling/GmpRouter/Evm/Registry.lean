import GmpRouter.Evm.Effect

/-!
# Invariants of the adapter registry

In every state reached, the mapping `adapterInfos` and the list `registeredAdapters` of an
integrator say the same: the adapter at position `i` of the list is the one that is registered with
index `i` (`Registry.WellFormed`). The list never has more than 128 entries, so that every index has
a bit in the bitmaps, and only grows at its end, so that an index never changes its adapter
(`registeredAdapters_grow`). The bitmaps of an integrator only have bits for adapters of its list
(`RegistryInv`).
-/

namespace GmpRouter.Evm

open AdapterRegistry Endpoint

/-- The registrations and the list of adapters of every integrator agree. -/
structure Registry.WellFormed (s : Registry) : Prop where
  lookup : ∀ integrator adapter i, (s.registeredAdapters integrator)[i]? = some adapter ↔
    (s.adapterInfos integrator adapter).registered = true ∧
      (s.adapterInfos integrator adapter).index.toNat = i
  length_le : ∀ integrator, (s.registeredAdapters integrator).length ≤ 128

namespace Registry.WellFormed

variable {s s' : Registry} {integrator adapter : Address} {r : Receipt}

theorem init : (State.init.toRegistry).WellFormed where
  lookup _ _ _ := by simp [State.init]
  length_le _ := by simp [State.init]

/-- A registered adapter is in the list, at its index. -/
theorem getElem?_index (h : s.WellFormed)
    (hreg : (s.adapterInfos integrator adapter).registered = true) :
    (s.registeredAdapters integrator)[(s.adapterInfos integrator adapter).index.toNat]? =
      some adapter :=
  (h.lookup _ _ _).2 ⟨hreg, rfl⟩

theorem index_lt (h : s.WellFormed)
    (hreg : (s.adapterInfos integrator adapter).registered = true) :
    (s.adapterInfos integrator adapter).index.toNat < 128 := by
  obtain ⟨hlt, -⟩ := List.getElem?_eq_some_iff.1 (h.getElem?_index hreg)
  exact lt_of_lt_of_le hlt (h.length_le integrator)

theorem addAdapter (h : s.WellFormed)
    (hrun : AdapterRegistry.addAdapter s integrator adapter = .ok (s', r)) : s'.WellFormed := by
  obtain ⟨-, hnew, hlt, rfl, -⟩ := addAdapter_eq_ok.1 hrun
  have hle := h.length_le integrator
  have hlt : (s.registeredAdapters integrator).length < 128 := by
    rw [BitVec.lt_def, BitVec.toNat_ofNat, Nat.mod_eq_of_lt (by omega)] at hlt
    simpa [MAX_ADAPTERS] using hlt
  refine ⟨fun I a i => ?_, fun I => ?_⟩
  · by_cases hI : I = integrator
    · subst hI
      have hold := h.lookup I a
      by_cases ha : a = adapter
      · -- the new adapter is at the new position, and at no other
        subst ha
        have hno : ∀ j : ℕ, (s.registeredAdapters I)[j]? ≠ some a := by
          intro j hj
          simp [((hold j).1 hj).1] at hnew
        simp only [Function.update_self, update₂_self, BitVec.toNat_ofNat,
          Nat.mod_eq_of_lt (show (s.registeredAdapters I).length < 2 ^ 8 by omega), true_and]
        rw [List.getElem?_append]
        split
        · exact iff_of_false (hno i) (by omega)
        · rw [List.getElem?_singleton]
          split
          · exact iff_of_true rfl (by omega)
          · exact iff_of_false (by simp) (by omega)
      · -- every other adapter keeps its position
        simp only [Function.update_self, update₂_of_ne (show ¬ (I = I ∧ a = adapter) by simp [ha]),
          ← hold i, List.getElem?_append]
        split
        · rfl
        · rw [List.getElem?_singleton,
            List.getElem?_eq_none (l := s.registeredAdapters I) (by omega)]
          simp [Ne.symm ha]
    · simp only [Function.update_of_ne hI, update₂_of_ne (show ¬ (I = integrator ∧ _) by simp [hI])]
      exact h.lookup I a i
  · by_cases hI : I = integrator
    · subst hI
      simp only [Function.update_self, List.length_append, List.length_singleton]
      omega
    · simp only [Function.update_of_ne hI]
      exact h.length_le I

theorem run (h : s.WellFormed) {change : Change}
    (hrun : change.run s integrator = .ok (s', r)) : s'.WellFormed := by
  cases change with
  | addAdapter adapter => exact h.addAdapter hrun
  | _ =>
    obtain rfl := Change.effect_of_run hrun
    exact ⟨h.lookup, h.length_le⟩

theorem invariant (E : Env) : (machine E).Invariant fun s => s.toRegistry.WellFormed := by
  intro s op r t hstep h
  cases step_effect hstep with
  | configure _ hrun => exact h.run hrun
  | _ => exact h

end Registry.WellFormed

/-- The list of adapters of an integrator only grows at its end. -/
theorem registeredAdapters_grow_of_run {s s' : Registry} {integrator : Address} {change : Change}
    {r : Receipt} (hrun : change.run s integrator = .ok (s', r)) (I : Address) :
    s.registeredAdapters I <+: s'.registeredAdapters I := by
  obtain rfl := Change.effect_of_run hrun
  cases change with
  | addAdapter adapter =>
    by_cases hI : I = integrator
    · subst hI
      simp [Change.effect]
    · simp [Change.effect, Function.update_of_ne hI]
  | _ => exact List.prefix_rfl

theorem registeredAdapters_grow {E : Env} {s t : State} {log : Log}
    (h : (machine E).Path s log t) (I : Address) :
    s.registeredAdapters I <+: t.registeredAdapters I := by
  refine h.rel (I := fun _ => True) (fun _ _ _ _ _ _ => trivial)
    (r := fun s t => s.registeredAdapters I <+: t.registeredAdapters I) (fun _ => List.prefix_rfl)
    (fun _ _ _ => List.IsPrefix.trans) ?_ trivial
  intro s op r t hstep _
  cases step_effect hstep with
  | configure _ hrun => exact registeredAdapters_grow_of_run hrun I
  | _ => exact List.prefix_rfl

/-- A registered adapter stays in the list at the position that its index was. -/
theorem getElem?_index_of_path {E : Env} {s t : State} {log : Log} (h : (machine E).Path s log t)
    (hs : s.toRegistry.WellFormed) {integrator adapter : Address}
    (hreg : (s.adapterInfos integrator adapter).registered = true) :
    (t.registeredAdapters integrator)[(s.adapterInfos integrator adapter).index.toNat]? =
      some adapter := by
  obtain ⟨hlt, hget⟩ := List.getElem?_eq_some_iff.1 (hs.getElem?_index hreg)
  rw [List.prefix_iff_getElem?.1 (registeredAdapters_grow h integrator) _ hlt, hget]

/-! ## Bitmaps -/

/-- An attestation sets the bit of the adapter's index. -/
theorem indices_attest {s : Registry} (hs : s.WellFormed) {integrator adapter : Address}
    (hreg : (s.adapterInfos integrator adapter).registered = true) (info : AttestationInfo) :
    Bitmap.indices (info.attest (s.adapterInfos integrator adapter).index).attestedAdapters =
      insert (s.adapterInfos integrator adapter).index.toNat
        (Bitmap.indices info.attestedAdapters) := by
  rw [AttestationInfo.attest, bit_eq_twoPow]
  exact Bitmap.indices_or_twoPow _ (hs.index_lt hreg)

/-- An attestation counts one more. -/
theorem toNat_attest {info : AttestationInfo} (h : info.numAttested ≠ BitVec.allOnes 8)
    (index : BitVec 8) : (info.attest index).numAttested.toNat = info.numAttested.toNat + 1 := by
  have hne := mt BitVec.eq_of_toNat_eq h
  have hlt := info.numAttested.isLt
  rw [BitVec.toNat_allOnes] at hne
  rw [AttestationInfo.attest, BitVec.toNat_add, BitVec.toNat_ofNat]
  omega

/-- Together with the registrations, the bitmaps of an integrator only have bits for adapters of its
list, which never contains the zero address. -/
structure RegistryInv (s : State) : Prop where
  wellFormed : s.toRegistry.WellFormed
  zero_notMem : ∀ I, 0#160 ∉ s.registeredAdapters I
  recv_lt : ∀ I chain, ∀ i ∈ Bitmap.indices (s.perChainRecvAdapterBitmap I chain),
    i < (s.registeredAdapters I).length
  attested_lt : ∀ I digest, ∀ i ∈ Bitmap.indices (s.attestationInfo I digest).attestedAdapters,
    i < (s.registeredAdapters I).length

namespace RegistryInv

variable {s t : State} {I : Address} {r : Receipt}

theorem init : RegistryInv .init where
  wellFormed := .init
  zero_notMem _ := by simp [State.init]
  recv_lt _ _ _ hi := by simp [State.init] at hi
  attested_lt _ _ _ hi := by simp [State.init] at hi

theorem index_lt (h : RegistryInv s) {adapter : Address}
    (hreg : (s.adapterInfos I adapter).registered = true) :
    (s.adapterInfos I adapter).index.toNat < (s.registeredAdapters I).length :=
  (List.getElem?_eq_some_iff.1 (h.wellFormed.getElem?_index hreg)).1

theorem run (h : RegistryInv s) {change : Change} {registry : Registry}
    (hrun : change.run s.toRegistry I = .ok (registry, r)) :
    RegistryInv { s with toRegistry := registry } where
  wellFormed := h.wellFormed.run hrun
  zero_notMem J := by
    cases change with
    | addAdapter adapter =>
      obtain ⟨hne, -, -, rfl, -⟩ := addAdapter_eq_ok.1 hrun
      by_cases hJ : J = I
      · subst hJ
        simpa using ⟨h.zero_notMem J, hne.symm⟩
      · simpa only [Function.update_of_ne hJ] using h.zero_notMem J
    | _ =>
      obtain rfl := Change.effect_of_run hrun
      exact h.zero_notMem J
  recv_lt J chain' i hi := by
    refine lt_of_lt_of_le ?_ (registeredAdapters_grow_of_run hrun J).length_le
    cases change with
    | enableRecvAdapter chain adapter =>
      obtain ⟨hregistered, -, rfl, -⟩ := enableRecvAdapter_eq_ok.1 hrun
      by_cases hbitmap : J = I ∧ chain' = chain
      · obtain ⟨rfl, rfl⟩ := hbitmap
        have hreg := hregistered.registered
        simp only [update₂_self] at hi
        rw [bit_eq_twoPow, Bitmap.indices_or_twoPow _ (h.wellFormed.index_lt hreg),
          Finset.mem_insert] at hi
        rcases hi with rfl | hi
        · exact h.index_lt hreg
        · exact h.recv_lt J chain' i hi
      · simp only [update₂_of_ne hbitmap] at hi
        exact h.recv_lt J chain' i hi
    | disableRecvAdapter chain adapter =>
      obtain ⟨-, -, rfl, -⟩ := disableRecvAdapter_eq_ok.1 hrun
      by_cases hbitmap : J = I ∧ chain' = chain
      · obtain ⟨rfl, rfl⟩ := hbitmap
        simp only [update₂_self] at hi
        rw [notBit_eq, Bitmap.indices_and_not_twoPow] at hi
        exact h.recv_lt J chain' i (Finset.mem_of_mem_erase hi)
      · simp only [update₂_of_ne hbitmap] at hi
        exact h.recv_lt J chain' i hi
    | _ =>
      obtain rfl := Change.effect_of_run hrun
      exact h.recv_lt J chain' i hi
  attested_lt J digest i hi :=
    lt_of_lt_of_le (h.attested_lt J digest i hi) (registeredAdapters_grow_of_run hrun J).length_le

/-- A write of the record of a message that at most adds the bit of a registered adapter. -/
theorem setRecord (h : RegistryInv s) {digest : Digest} {info : AttestationInfo}
    (hinfo : ∀ i ∈ Bitmap.indices info.attestedAdapters, i < (s.registeredAdapters I).length)
    (value : ℕ) : RegistryInv { s.credit value with
      attestationInfo := update₂ s.attestationInfo I digest info } where
  wellFormed := h.wellFormed
  zero_notMem := h.zero_notMem
  recv_lt := h.recv_lt
  attested_lt J digest' i hi := by
    by_cases hrecord : J = I ∧ digest' = digest
    · obtain ⟨rfl, rfl⟩ := hrecord
      simp only [update₂_self] at hi
      exact hinfo i hi
    · simp only [update₂_of_ne hrecord] at hi
      exact h.attested_lt J digest' i hi

theorem invariant (E : Env) : (machine E).Invariant RegistryInv := by
  intro s op r t hstep h
  cases step_effect hstep with
  | admin => exact ⟨h.wellFormed, h.zero_notMem, h.recv_lt, h.attested_lt⟩
  | configure _ hrun => exact h.run hrun
  | @inbox msg _ I _ _ _ hinbox =>
    refine h.setRecord (fun i hi => ?_) msg.value
    cases hinbox with
    | attest hatt =>
      have hreg := hatt.registered.registered
      rw [indices_attest h.wellFormed hreg, Finset.mem_insert] at hi
      rcases hi with rfl | hi
      · exact h.index_lt hreg
      · exact h.attested_lt I _ i hi
    | recv _ hinfo | exec _ hinfo =>
      rw [hinfo] at hi
      exact h.attested_lt _ _ i hi
  | send | forward => exact ⟨h.wellFormed, h.zero_notMem, h.recv_lt, h.attested_lt⟩
  | sent => exact h

theorem mem_iff (h : RegistryInv s) {adapter : Address} : adapter ∈ s.registeredAdapters I ↔
    (s.adapterInfos I adapter).registered = true := by
  rw [List.mem_iff_getElem?]
  constructor
  · rintro ⟨i, hi⟩
    exact ((h.wellFormed.lookup I adapter i).1 hi).1
  · intro hreg
    exact ⟨_, h.wellFormed.getElem?_index hreg⟩

/-- What the modifier `onlyRegisteredAdapter` checks, of an adapter of the list. -/
theorem registered_iff (h : RegistryInv s) {chain : ChainId} {adapter : Address} :
    Registered s.toRegistry I chain adapter ↔ adapter ∈ s.registeredAdapters I ∧ chain ≠ 0#16 := by
  rw [h.mem_iff]
  refine ⟨fun hreg => ⟨hreg.registered, hreg.chain_ne⟩, fun ⟨hreg, hchain⟩ => ⟨?_, hchain, hreg⟩⟩
  rintro rfl
  exact h.zero_notMem I (h.mem_iff.2 hreg)

theorem nodup (h : RegistryInv s) (I : Address) : (s.registeredAdapters I).Nodup := by
  refine List.nodup_iff_injective_getElem.2 fun i j hij => Fin.ext ?_
  -- both positions are the index of the adapter
  have hi := (h.wellFormed.lookup I _ _).1 (List.getElem?_eq_getElem i.isLt)
  have hj := (h.wellFormed.lookup I _ _).1 (List.getElem?_eq_getElem j.isLt)
  rw [← hi.2, ← hj.2]
  exact congrArg (fun adapter => (s.adapterInfos I adapter).index.toNat) hij

/-- The truncated length is the length. -/
theorem toNat_length (h : RegistryInv s) (I : Address) :
    (BitVec.ofNat 8 (s.registeredAdapters I).length).toNat = (s.registeredAdapters I).length := by
  have hle := h.wellFormed.length_le I
  rw [BitVec.toNat_ofNat]
  exact Nat.mod_eq_of_lt (by omega)

/-- The bit of a registered adapter is at its index. -/
theorem indices_bit (h : RegistryInv s) {adapter : Address}
    (hreg : (s.adapterInfos I adapter).registered = true) :
    Bitmap.indices (bit (s.adapterInfos I adapter).index) =
      {(s.adapterInfos I adapter).index.toNat} := by
  ext i
  have hlt := h.wellFormed.index_lt hreg
  rw [bit_eq_twoPow, Bitmap.mem_indices_twoPow, Finset.mem_singleton]
  exact ⟨fun hi => hi.2.symm, fun hi => ⟨hlt, hi.symm⟩⟩

theorem exists_addAdapter_iff (h : RegistryInv s) {E : Env} {msg : Msg} {adapter : Address}
    (hadmin : OnlyAdmin s I msg.sender) :
    (∃ t r, step E s (.call msg (.configure I (.addAdapter adapter))) = .ok (t, r)) ↔
      msg.value = 0 ∧ adapter ≠ 0#160 ∧ adapter ∉ s.registeredAdapters I ∧
        (s.registeredAdapters I).length < 128 := by
  have hlength := h.toNat_length I
  rw [exists_configure_iff, Change.Accepts, h.mem_iff, Bool.not_eq_true, BitVec.lt_def, hlength]
  simp [hadmin, MAX_ADAPTERS]

end RegistryInv

/-- **The registry of an integrator.** In every state reached its list of adapters has at most 128
entries, all different and none zero; an adapter is registered exactly when it is in the list, at
its index; the truncated length and the bits of the adapters are exact; and the bitmaps only have
bits for adapters of the list. The list only grows at its end. The admin can add an adapter exactly
when it is not zero, not in the list, and the list is not full. -/
theorem registered_adapters (E : Env) {log : Log} {s : State} (h : (machine E).Path .init log s)
    (I : Address) :
    (s.registeredAdapters I).Nodup ∧ 0#160 ∉ s.registeredAdapters I ∧
    (s.registeredAdapters I).length ≤ 128 ∧
    (BitVec.ofNat 8 (s.registeredAdapters I).length).toNat = (s.registeredAdapters I).length ∧
    (∀ adapter, (s.adapterInfos I adapter).registered = true ↔ adapter ∈ s.registeredAdapters I) ∧
    (∀ adapter, (s.adapterInfos I adapter).registered = true →
      (s.registeredAdapters I)[(s.adapterInfos I adapter).index.toNat]? = some adapter ∧
      Bitmap.indices (bit (s.adapterInfos I adapter).index) =
        {(s.adapterInfos I adapter).index.toNat}) ∧
    (∀ chain, ∀ i ∈ Bitmap.indices (s.perChainRecvAdapterBitmap I chain),
      i < (s.registeredAdapters I).length) ∧
    (∀ digest, ∀ i ∈ Bitmap.indices (s.attestationInfo I digest).attestedAdapters,
      i < (s.registeredAdapters I).length) ∧
    (∀ log' t, (machine E).Path s log' t → s.registeredAdapters I <+: t.registeredAdapters I) ∧
    ∀ msg adapter, OnlyAdmin s I msg.sender →
      ((∃ t r, step E s (.call msg (.configure I (.addAdapter adapter))) = .ok (t, r)) ↔
        msg.value = 0 ∧ adapter ≠ 0#160 ∧ adapter ∉ s.registeredAdapters I ∧
          (s.registeredAdapters I).length < 128) := by
  have hs := h.invariant (RegistryInv.invariant E) .init
  exact ⟨hs.nodup I, hs.zero_notMem I, hs.wellFormed.length_le I, hs.toNat_length I,
    fun adapter => hs.mem_iff.symm,
    fun adapter hreg => ⟨hs.wellFormed.getElem?_index hreg, hs.indices_bit hreg⟩,
    hs.recv_lt I, hs.attested_lt I, fun log' t hlater => registeredAdapters_grow hlater I,
    fun msg adapter => hs.exists_addAdapter_iff⟩

/-- The integrator at address 10, whose admin is 11, adds the adapters 12 and 13. -/
def registryTxs : List Tx :=
  [.mk ⟨10#160, 0⟩ (.register 11#160) [],
    .mk ⟨11#160, 0⟩ (.configure 10#160 (.addAdapter 12#160)) [],
    .mk ⟨11#160, 0⟩ (.configure 10#160 (.addAdapter 13#160)) []]

theorem registered_adapters_sample :
    let s := (execAll ⟨id, 2#16⟩ State.init registryTxs).1
    (s.adapterInfos 10#160 13#160).registered = true ∧
      s.registeredAdapters 10#160 = [12#160, 13#160] ∧
      (s.registeredAdapters 10#160)[(s.adapterInfos 10#160 13#160).index.toNat]? = some 13#160 := by
  have hreg : ((execAll ⟨id, 2#16⟩ State.init registryTxs).1.adapterInfos 10#160
      13#160).registered = true := by
    decide +kernel
  exact ⟨hreg, by decide +kernel, ((registered_adapters ⟨id, 2#16⟩
    (execAll_path ⟨id, 2#16⟩ State.init registryTxs) 10#160).2.2.2.2.2.1 _ hreg).1⟩

end GmpRouter.Evm
