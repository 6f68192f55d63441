import GmpRouter.Aptos.Outbox

/-!
# The adapter registry of the Aptos endpoint

A vector, its reverse table and the bitmaps of two stores, of the waiting messages and of the
attestations have to agree (`Account.Registered`, `RegistryInv`). They do in every state that the
endpoint reaches, so that adding an adapter and changing a bit fail at the assertions only.
-/

namespace GmpRouter.Aptos

open GmpRouter.Bitmap (indices)

variable {keccak256 : List Byte → Digest} {s t : State} {l : Log} {a : Router.State}
  {I A admin : Address} {chain : ChainId} {direction : Direction} {o : Output}

/-! ## The invariant -/

/-- All six resources are published, and the vector, the table and the bitmaps agree. -/
structure Account.Registered (x : Account) (adapters : List Address)
    (adapterToIndex : Table Address (BitVec 8)) (bitmaps : Direction → Table ChainId (BitVec 128)) :
    Prop where
  integratorCapability : x.integratorCapability.isSome = true
  adminConfig : x.adminConfig.isSome = true
  adaptersStore : x.adaptersStore = some ⟨adapters⟩
  adapterToIndexStore : x.adapterToIndexStore = some ⟨adapterToIndex⟩
  adapterStore : ∀ direction, x.adapterStore direction = some ⟨bitmaps direction⟩
  nodup : adapters.Nodup
  length_le : adapters.length ≤ 128
  key_iff : ∀ A, (adapterToIndex A).isSome = true ↔ A ∈ adapters
  index : ∀ A index, adapterToIndex A = some index → adapters[index.toNat]? = some A
  bitmap_lt : ∀ direction chain bitmap, bitmaps direction chain = some bitmap →
    ∀ i ∈ indices bitmap, i < adapters.length

/-- The resources are all published or all missing, and the bits of messages and attestations are
those of registered adapters. -/
structure RegistryInv (keccak256 : List Byte → Digest) (s : State) : Prop where
  accounts : ∀ I, s.accounts I = {} ∨
    ∃ adapters adapterToIndex bitmaps, (s.accounts I).Registered adapters adapterToIndex bitmaps
  outbox : ∀ I sequence message, s.outboxMessages ⟨I, sequence⟩ = some message →
    ∃ adapters, Integrator.getAdapters s I = .ok adapters ∧
      ∀ i ∈ indices message.outstandingAdapters, i < adapters.length
  attestations : CollisionFree keccak256 → ∀ m info,
    s.attestationInfos (messageHash keccak256 m) = some info → info.attestedAdapters ≠ 0#128 →
      ∃ adapters, Integrator.getAdapters s m.dstAddr = .ok adapters ∧
        ∀ i ∈ indices info.attestedAdapters, i < adapters.length

theorem Account.Published.registered {x : Account} {c : Router.Integrator} (hx : x.Published c)
    (hc : c.WellFormed) : ∃ adapterToIndex bitmaps,
    x.Registered c.adapters adapterToIndex bitmaps := by
  obtain ⟨table, htable, hindex⟩ := hx.index
  have hstore : ∀ direction, ∃ bitmaps, x.adapterStore direction = some ⟨bitmaps⟩ := by
    intro direction
    obtain ⟨bitmaps, hbitmaps, -⟩ := hx.enabled direction
    exact ⟨bitmaps, hbitmaps⟩
  choose bitmaps hbitmaps using hstore
  refine ⟨table, bitmaps, ?_⟩
  refine ⟨by rw [hx.capability, Option.isSome_some], by rw [hx.adminConfig, Option.isSome_some],
    hx.adapters, htable, hbitmaps, hc.nodup, hc.length_le, fun A => ?_, fun A index hA => ?_,
    fun direction chain bitmap hbitmap i hi => ?_⟩
  · rw [hindex, Option.isSome_map, List.isSome_idxOf?]
  · obtain ⟨hlt, hget, -⟩ :=
      List.idxOf?_eq_some_iff.1 ((hx.exists_index hc htable).2 ⟨index, hA, rfl,
        hx.index_lt hc htable hA⟩)
    rw [List.getElem?_eq_getElem hlt, hget]
  · have henabled := hx.enabled_eq (hbitmaps direction) chain
    rw [Table.borrowWithDefault, hbitmap, Option.getD_some] at henabled
    exact hc.enabled_lt direction chain i (henabled ▸ hi)

theorem Refines.getAdapters_eq {c : Router.Integrator} (h : Refines s a)
    (hc : a.integrators I = some c) : Integrator.getAdapters s I = .ok c.adapters :=
  Integrator.getAdapters_eq_ok.2 (h.represents.published hc).adapters

theorem registryInv_of_path (h : (machine keccak256).Path .init l s) : RegistryInv keccak256 s := by
  obtain ⟨l', a, hpath, ha, -⟩ := (simulation keccak256).path h refines_init
  refine ⟨fun I => ?_, fun I sequence message hm => ?_, fun hK m info hinfo hne => ?_⟩
  · cases hc : a.integrators I with
    | none =>
      have hI := ha.represents.accounts I
      rw [hc] at hI
      exact .inl hI
    | some c =>
      obtain ⟨table, bitmaps, hregistered⟩ :=
        (ha.represents.published hc).registered (ha.inv.integrators I c hc)
      exact .inr ⟨c.adapters, table, bitmaps, hregistered⟩
  · have hout := ha.represents.outbox I sequence
    rw [hm, Option.map_some] at hout
    obtain ⟨-, c, hc, -, hlt⟩ := ha.inv.outbox I sequence _ hout.symm
    exact ⟨c.adapters, ha.getAdapters_eq hc, hlt⟩
  · have hrecord := ha.represents.inbox (messageHash keccak256 m)
    rw [Table.borrowWithDefault, hinfo, Option.getD_some] at hrecord
    have hattested : (a.inbox (messageHash keccak256 m)).attested =
        indices info.attestedAdapters := by
      rw [← hrecord]
      rfl
    have hinj : Function.Injective (messageHash keccak256) := fun _ _ h => hK.eq h
    have hadapters : ∀ i ∈ indices info.attestedAdapters, ∃ c, a.integrators m.dstAddr = some c ∧
        i < c.adapters.length := by
      intro i hi
      obtain ⟨c, adapter, hc, hget, -⟩ := Router.exists_attestedBy hinj hpath (hattested ▸ hi)
      exact ⟨c, hc, (List.getElem?_eq_some_iff.1 hget).1⟩
    obtain ⟨i, hi⟩ := GmpRouter.Bitmap.ne_zero_iff.1 hne
    obtain ⟨c, hc, -⟩ := hadapters i hi
    refine ⟨c.adapters, ha.getAdapters_eq hc, fun j hj => ?_⟩
    obtain ⟨c', hc', hlt⟩ := hadapters j hj
    obtain rfl : c = c' := Option.some.inj (hc.symm.trans hc')
    exact hlt

/-- Adapters are only added at the end. -/
theorem adapters_of_path (h : (machine keccak256).Path .init l s) {l' : Log}
    (h' : (machine keccak256).Path s l' t) {adapters : List Address}
    (hadapters : Integrator.getAdapters s I = .ok adapters) :
    ∃ adapters', Integrator.getAdapters t I = .ok adapters' ∧ adapters <+: adapters' := by
  obtain ⟨a, ha⟩ := exists_refines h
  obtain ⟨l₂, b, hpath, hb, -⟩ := (simulation keccak256).path h' ha
  have hstore := Integrator.getAdapters_eq_ok.1 hadapters
  obtain ⟨c, hc, hx⟩ :=
    ha.represents.exists_integrator (I := I) (by rintro hI; simp [hI] at hstore)
  obtain rfl : c.adapters = adapters := by simpa using hx.adapters.symm.trans hstore
  obtain ⟨c', hc', hprefix, -⟩ := Router.grows_of_path hpath I c hc
  exact ⟨c'.adapters, hb.getAdapters_eq hc', hprefix⟩

/-! ## What can fail -/

theorem addAdapter_isOk_iff (h : Refines s a) :
    (∃ t, Integrator.addAdapter s admin I A = .ok t) ↔
      (s.accounts I).adminConfig = some ⟨some admin, none⟩ ∧
        ∃ adapters, Integrator.getAdapters s I = .ok adapters ∧ A ∉ adapters ∧
          adapters.length < MAX_ADAPTERS := by
  constructor
  · rintro ⟨t, ht⟩
    obtain ⟨hconfig, adapters, -, hadapters, hnew, hlt, -⟩ := Integrator.addAdapter_eq_ok.1 ht
    exact ⟨hconfig, adapters, Integrator.getAdapters_eq_ok.2 hadapters, hnew, hlt⟩
  · rintro ⟨hconfig, adapters, hadapters, hnew, hlt⟩
    have hstore := Integrator.getAdapters_eq_ok.1 hadapters
    obtain ⟨c, hc, hx⟩ :=
      h.represents.exists_integrator (I := I) (by rintro hI; simp [hI] at hstore)
    obtain rfl : c.adapters = adapters := by simpa using hx.adapters.symm.trans hstore
    obtain ⟨table, htable, hindex⟩ := hx.index
    have hnone : table A = none := by
      rw [hindex, List.idxOf?_eq_none_iff.2 hnew, Option.map_none]
    exact ⟨_, Integrator.addAdapter_eq_ok.2 ⟨hconfig, c.adapters, table, hstore, hnew, hlt, htable,
      hnone, rfl⟩⟩

/-- The functions that enable an adapter in a direction, or disable it. -/
def Call.setAdapter : Direction → Bool → Address → Address → ChainId → Address → Call
  | .send, true => .enableSendAdapter
  | .send, false => .disableSendAdapter
  | .recv, true => .enableRecvAdapter
  | .recv, false => .disableRecvAdapter

/-- The storage differs in one bit of the bitmap for the direction and the chain. -/
structure SetsOnlyBit (s t : State) (direction : Direction) (I : Address) (chain : ChainId)
    (bitmap : BitVec 128) (i : ℕ) (on : Bool) : Prop where
  bitmap_eq : ∃ bitmap', Integrator.getEnabledAdapters t direction I chain = .ok bitmap' ∧
    indices bitmap' = if on then insert i (indices bitmap) else (indices bitmap).erase i
  others : ∀ direction' I' chain', ¬ (direction' = direction ∧ I' = I ∧ chain' = chain) →
    Integrator.getEnabledAdapters t direction' I' chain' =
      Integrator.getEnabledAdapters s direction' I' chain'
  accounts : ∀ I', { t.accounts I' with adapterStore := (s.accounts I').adapterStore } =
    s.accounts I'
  outboxMessages : t.outboxMessages = s.outboxMessages
  attestationInfos : t.attestationInfos = s.attestationInfos

theorem adapterStore_setAccount (store : Option AdapterStore) (direction' : Direction)
    (I' : Address) : ((s.setAccount I { s.accounts I with
        adapterStore := Function.update (s.accounts I).adapterStore direction store }).accounts
          I').adapterStore direction' =
      if direction' = direction ∧ I' = I then store
        else (s.accounts I').adapterStore direction' := by
  by_cases hI : I' = I
  · subst hI
    by_cases hd : direction' = direction <;> simp [State.setAccount, hd]
  · simp [State.setAccount, hI]

/-- What is read after a bitmap was written. -/
theorem getEnabledAdapters_setAccount {table : Table ChainId (BitVec 128)}
    (htable : (s.accounts I).adapterStore direction = some ⟨table⟩) (bitmap : BitVec 128)
    (direction' : Direction) (I' : Address) (chain' : ChainId) :
    Integrator.getEnabledAdapters (s.setAccount I { s.accounts I with
      adapterStore := Function.update (s.accounts I).adapterStore direction
        (some ⟨table.upsert chain bitmap⟩) }) direction' I' chain' =
      if direction' = direction ∧ I' = I ∧ chain' = chain then .ok bitmap
      else Integrator.getEnabledAdapters s direction' I' chain' := by
  rw [Integrator.getEnabledAdapters, adapterStore_setAccount]
  by_cases hI : direction' = direction ∧ I' = I
  · obtain ⟨rfl, rfl⟩ := hI
    rw [if_pos ⟨rfl, rfl⟩, Integrator.getEnabledAdapters, htable]
    by_cases hchain : chain' = chain
    · subst hchain
      rw [if_pos ⟨rfl, rfl, rfl⟩]
      exact congrArg Except.ok (Table.borrowWithDefault_upsert_self ..)
    · rw [if_neg fun h => hchain h.2.2]
      exact congrArg Except.ok (Table.borrowWithDefault_upsert_of_ne hchain ..)
  · rw [if_neg hI, if_neg fun h => hI ⟨h.1, h.2.1⟩, Integrator.getEnabledAdapters]

theorem setsOnlyBit_setAccount {table : Table ChainId (BitVec 128)}
    (htable : (s.accounts I).adapterStore direction = some ⟨table⟩) {bitmap bitmap' : BitVec 128}
    {i : ℕ} {on : Bool}
    (hbitmap : indices bitmap' = if on then insert i (indices bitmap) else
      (indices bitmap).erase i) :
    SetsOnlyBit s (s.setAccount I { s.accounts I with
      adapterStore := Function.update (s.accounts I).adapterStore direction
        (some ⟨table.upsert chain bitmap'⟩) }) direction I chain bitmap i on where
  bitmap_eq := by
    refine ⟨bitmap', ?_, hbitmap⟩
    rw [getEnabledAdapters_setAccount htable, if_pos ⟨rfl, rfl, rfl⟩]
  others direction' I' chain' hne := by
    rw [getEnabledAdapters_setAccount htable, if_neg hne]
  accounts I' := by
    by_cases hI : I' = I
    · subst hI
      simp [State.setAccount]
    · simp [State.setAccount, hI]
  outboxMessages := rfl
  attestationInfos := rfl

theorem get_eq_ok_not_iff {bitmap : BitVec 128} {index : BitVec 8} {on : Bool}
    (hlt : index.toNat < 128) :
    Bitmap.get bitmap index = .ok (!on) ↔ decide (index.toNat ∈ indices bitmap) ≠ on := by
  rw [← bind_pure (Bitmap.get bitmap index), Bitmap.get_bind_eq_ok, pure_eq_ok]
  cases on <;> simp [hlt]

/-- A registered adapter is enabled by the admin when its bit is clear and disabled when it is set,
and no other bit changes. -/
theorem setAdapter_isOk_iff {change : BitVec 128 → BitVec 8 → Except Error (BitVec 128)} {on : Bool}
    (hset : Refines.SetsBit change on) {index : BitVec 8} {bitmap : BitVec 128} (h : Refines s a)
    (hconfig : (s.accounts I).adminConfig = some ⟨some admin, none⟩)
    (hindex : Integrator.getAdapterIndex s I A = .ok index)
    (hbitmap : Integrator.getEnabledAdapters s direction I chain = .ok bitmap) :
    ((∃ t, Integrator.setAdapter change direction s admin I chain A = .ok t) ↔
      Bitmap.get bitmap index = .ok !on) ∧
    ∀ t, Integrator.setAdapter change direction s admin I chain A = .ok t →
      SetsOnlyBit s t direction I chain bitmap index.toNat on := by
  obtain ⟨indexTable, hindexTable, hA⟩ := Integrator.getAdapterIndex_eq_ok.1 hindex
  obtain ⟨table, htable, rfl⟩ := Integrator.getEnabledAdapters_eq_ok.1 hbitmap
  have hlt := h.index_lt hindexTable hA
  -- the stores and the index are those that the function reads
  have hread : ∀ t, Integrator.setAdapter change direction s admin I chain A = .ok t →
      ∃ bitmap', change (table.borrowWithDefault chain 0#128) index = .ok bitmap' ∧
        t = s.setAccount I { s.accounts I with
          adapterStore := Function.update (s.accounts I).adapterStore direction
            (some ⟨table.upsert chain bitmap'⟩) } := by
    intro t ht
    obtain ⟨-, indexTable', index', table', bitmap', hindexTable', hA', htable', hchange, rfl⟩ :=
      Integrator.setAdapter_eq_ok.1 ht
    obtain rfl : indexTable = indexTable' := by simpa using hindexTable.symm.trans hindexTable'
    obtain rfl : index = index' := by simpa using hA.symm.trans hA'
    obtain rfl : table = table' := by simpa using htable.symm.trans htable'
    exact ⟨bitmap', hchange, rfl⟩
  refine ⟨⟨?_, fun hget => ?_⟩, fun t ht => ?_⟩
  · rintro ⟨t, ht⟩
    obtain ⟨bitmap', hchange, -⟩ := hread t ht
    exact (get_eq_ok_not_iff hlt).2 ((hset _ _ _).1 hchange).2.1
  · obtain ⟨bitmap', hchange⟩ := hset.exists_eq_ok hlt ((get_eq_ok_not_iff hlt).1 hget)
    exact ⟨_, Integrator.setAdapter_eq_ok.2 ⟨hconfig, indexTable, index, table, bitmap',
      hindexTable, hA, htable, hchange, rfl⟩⟩
  · obtain ⟨bitmap', hchange, rfl⟩ := hread t ht
    exact setsOnlyBit_setAccount htable ((hset _ _ _).1 hchange).2.2

theorem process_setAdapter_eq_ok {on : Bool} :
    process keccak256 s (.setAdapter direction on admin I chain A) = .ok (t, o) ↔
      Integrator.setAdapter (if on then Bitmap.enable else Bitmap.disable) direction s admin I chain
        A = .ok t ∧ o = .unit := by
  rw [← noOutput_eq_ok]
  cases direction <;> cases on <;> exact Iff.rfl

theorem process_setAdapter_isOk_iff {on : Bool} {index : BitVec 8} {bitmap : BitVec 128}
    (h : Refines s a) (hconfig : (s.accounts I).adminConfig = some ⟨some admin, none⟩)
    (hindex : Integrator.getAdapterIndex s I A = .ok index)
    (hbitmap : Integrator.getEnabledAdapters s direction I chain = .ok bitmap) :
    ((∃ r, process keccak256 s (.setAdapter direction on admin I chain A) = .ok r) ↔
      Bitmap.get bitmap index = .ok !on) ∧
    ∀ t o, process keccak256 s (.setAdapter direction on admin I chain A) = .ok (t, o) →
      SetsOnlyBit s t direction I chain bitmap index.toNat on := by
  have hset : Refines.SetsBit (if on then Bitmap.enable else Bitmap.disable) on := by
    cases on with
    | true => exact Refines.enable_setsBit
    | false => exact Refines.disable_setsBit
  obtain ⟨hiff, honly⟩ := setAdapter_isOk_iff hset h hconfig hindex hbitmap
  refine ⟨?_, fun t o ht => honly t (process_setAdapter_eq_ok.1 ht).1⟩
  rw [← hiff]
  constructor
  · rintro ⟨⟨t, o⟩, ht⟩
    exact ⟨t, (process_setAdapter_eq_ok.1 ht).1⟩
  · rintro ⟨t, ht⟩
    exact ⟨(t, .unit), process_setAdapter_eq_ok.2 ⟨ht, rfl⟩⟩

theorem process_addAdapter_isOk_iff (h : Refines s a) :
    (∃ r, process keccak256 s (.addAdapter admin I A) = .ok r) ↔
      (s.accounts I).adminConfig = some ⟨some admin, none⟩ ∧
        ∃ adapters, Integrator.getAdapters s I = .ok adapters ∧ A ∉ adapters ∧
          adapters.length < MAX_ADAPTERS := by
  rw [← addAdapter_isOk_iff h]
  constructor
  · rintro ⟨⟨t, o⟩, ht⟩
    exact ⟨t, (noOutput_eq_ok.1 ht).1⟩
  · rintro ⟨t, ht⟩
    exact ⟨(t, .unit), noOutput_eq_ok.2 ⟨ht, rfl⟩⟩

/-- **The adapter registry.** In every state that the endpoint reaches the resources agree
(`RegistryInv`), and from there on lists of adapters only grow at their ends. An adapter is added
exactly when the assertions pass. No call aborts but at an assertion, at missing data or at the last
sequence number, and no shift by the index of an adapter does. A registered adapter is enabled or
disabled exactly when its bit is clear or set, and no other bit changes. -/
theorem adapter_registry (h : (machine keccak256).Path .init l s) :
    RegistryInv keccak256 s ∧
    (∀ I l' t adapters, (machine keccak256).Path s l' t →
      Integrator.getAdapters s I = .ok adapters →
      ∃ adapters', Integrator.getAdapters t I = .ok adapters' ∧ adapters <+: adapters') ∧
    (∀ admin I A, (∃ r, process keccak256 s (.addAdapter admin I A) = .ok r) ↔
      (s.accounts I).adminConfig = some ⟨some admin, none⟩ ∧
        ∃ adapters, Integrator.getAdapters s I = .ok adapters ∧ A ∉ adapters ∧
          adapters.length < MAX_ADAPTERS) ∧
    (∀ call e, process keccak256 s call = .error e → e.Internal →
      e = .arithmeticError ∧ call.Overflows s) ∧
    (∀ I A index, Integrator.getAdapterIndex s I A = .ok index → ∀ bitmap,
      Bitmap.enable bitmap index ≠ .error .arithmeticError ∧
        Bitmap.disable bitmap index ≠ .error .arithmeticError ∧
        Bitmap.get bitmap index ≠ .error .arithmeticError) ∧
    (∀ direction on admin I chain A index bitmap,
      (s.accounts I).adminConfig = some ⟨some admin, none⟩ →
      Integrator.getAdapterIndex s I A = .ok index →
      Integrator.getEnabledAdapters s direction I chain = .ok bitmap →
        ((∃ r, process keccak256 s (.setAdapter direction on admin I chain A) = .ok r) ↔
          Bitmap.get bitmap index = .ok !on) ∧
        ∀ t o, process keccak256 s (.setAdapter direction on admin I chain A) = .ok (t, o) →
          SetsOnlyBit s t direction I chain bitmap index.toNat on) := by
  obtain ⟨a, ha⟩ := exists_refines h
  refine ⟨registryInv_of_path h, fun I l' t adapters h' => adapters_of_path h h',
    fun admin I A => process_addAdapter_isOk_iff ha, fun call e herror he => ?_,
    fun I A index hindex bitmap => ?_,
    fun direction on admin I chain A index bitmap => process_setAdapter_isOk_iff ha⟩
  · by_contra hoverflow
    exact ha.process_ne_error he call hoverflow herror
  · obtain ⟨table, htable, hA⟩ := Integrator.getAdapterIndex_eq_ok.1 hindex
    have hlt := ha.index_lt htable hA
    have he : Error.Internal .arithmeticError := trivial
    exact ⟨Bitmap.enable_ne_error he hlt, Bitmap.disable_ne_error he hlt, Bitmap.get_ne_error hlt⟩

theorem adapter_registry_sample :
    Integrator.getAdapters ((machine id).run .init sampleSetup).1 10#256 = .ok [12#256, 13#256] ∧
      ∃ adapters', Integrator.getAdapters
        ((machine id).run ((machine id).run .init sampleSetup).1 samplePickUps).1 10#256 =
          .ok adapters' ∧ [12#256, 13#256] <+: adapters' := by
  have hadapters : Integrator.getAdapters ((machine id).run .init sampleSetup).1 10#256 =
      .ok [12#256, 13#256] := by
    decide +kernel
  have hlater := (machine id).run_path ((machine id).run .init sampleSetup).1 samplePickUps
  obtain ⟨-, hgrows, -⟩ := adapter_registry ((machine id).run_path .init sampleSetup)
  exact ⟨hadapters, hgrows _ _ _ _ hlater hadapters⟩

end GmpRouter.Aptos
