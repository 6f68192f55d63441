import GmpRouter.Evm.Registry

/-!
# The bitmaps of the enabled receive adapters

The queries of the registry about the bitmaps. `_getNumEnabledRecvAdaptersForChain` counts the bits
of a bitmap by clearing the lowest one until none is left, and `getRecvAdaptersByChain` fills an
array of that length with the enabled adapters of the list. The bitmap of an integrator and chain is
the set of the indices of the adapters that were enabled last, so that both are exact
(`recv_bitmap`).
-/

namespace GmpRouter.Evm

open Endpoint
open GmpRouter.Bitmap (indices)
open Machine (LastOn)

/-! ## The queries -/

namespace AdapterRegistry

/-- The loop of `_getNumEnabledRecvAdaptersForChain`, whose arithmetic is checked. -/
def countLoop (bitmap : BitVec 128) (result : BitVec 8) : Except Error (BitVec 8) :=
  if bitmap = 0#128 then
    pure result
  else do
    require (1#128 ≤ bitmap) .panic
    require (result ≠ BitVec.allOnes 8) .panic
    countLoop (bitmap &&& (bitmap - 1#128)) (result + 1#8)
termination_by bitmap.toNat
decreasing_by exact Bitmap.toNat_and_sub_one_lt ‹_›

/-- `_getNumEnabledRecvAdaptersForChain`. -/
def getNumEnabledRecvAdaptersForChain (s : Registry) (integrator : Address) (chain : ChainId) :
    Except Error (BitVec 8) := do
  let bitmap ← getEnabledRecvAdaptersBitmapForChain s integrator chain
  countLoop bitmap 0#8

/-- The loop of `getRecvAdaptersByChain` over the adapters of the integrator, with the array to be
filled and the number of the entries that are. -/
def fillLoop (s : Registry) (integrator : Address) (chain : ChainId) :
    List Address → List Address → ℕ → Except Error (List Address)
  | [], result, _ => pure result
  | adapter :: allAdapters, result, len => do
    let enabled ← isRecvAdapterEnabledForChain s integrator chain adapter
    if enabled then
      -- the write is checked against the length of the array
      require (len < result.length) .panic
      fillLoop s integrator chain allAdapters (result.set len adapter) (len + 1)
    else
      fillLoop s integrator chain allAdapters result len

/-- `getRecvAdaptersByChain`. -/
def getRecvAdaptersByChain (s : Registry) (integrator : Address) (chain : ChainId) :
    Except Error (List Address) := do
  let allAdapters := s.registeredAdapters integrator
  let count ← getNumEnabledRecvAdaptersForChain s integrator chain
  fillLoop s integrator chain allAdapters (List.replicate count.toNat 0#160) 0

/-- The loop counts the bits, as long as they are fewer than 256. -/
theorem countLoop_eq {bitmap : BitVec 128} {result : BitVec 8}
    (h : result.toNat + (indices bitmap).card < 256) : ∃ n, countLoop bitmap result = .ok n ∧
      n.toNat = result.toNat + (indices bitmap).card := by
  induction bitmap, result using countLoop.induct with
  | case1 result =>
    rw [countLoop, if_pos rfl]
    exact ⟨result, rfl, by simp⟩
  | case2 bitmap result hne ih =>
    have hcard := Bitmap.card_indices_and_sub_one hne
    have hmax : result ≠ BitVec.allOnes 8 := by
      rintro rfl
      rw [BitVec.toNat_allOnes] at h
      omega
    have hnext : (result + 1#8).toNat = result.toNat + 1 := by
      rw [BitVec.toNat_add, BitVec.toNat_ofNat]
      omega
    have hpos := Bitmap.toNat_ne_zero hne
    obtain ⟨n, hn, hcount⟩ := ih (by omega)
    refine ⟨n, ?_, by omega⟩
    rw [countLoop, if_neg hne, require_bind_eq_ok, require_bind_eq_ok]
    exact ⟨by rw [BitVec.le_def, BitVec.toNat_ofNat]; omega, hmax, hn⟩

theorem getNumEnabledRecvAdaptersForChain_eq {s : Registry} {I : Address} {chain : ChainId}
    (hchain : chain ≠ 0#16) : ∃ n, getNumEnabledRecvAdaptersForChain s I chain = .ok n ∧
      n.toNat = (indices (s.perChainRecvAdapterBitmap I chain)).card := by
  have hle := Bitmap.card_indices_le (s.perChainRecvAdapterBitmap I chain)
  have hstart : (0#8).toNat + (indices (s.perChainRecvAdapterBitmap I chain)).card < 256 := by
    rw [BitVec.toNat_ofNat]
    omega
  obtain ⟨n, hn, hcount⟩ := countLoop_eq hstart
  refine ⟨n, ?_, by simpa using hcount⟩
  rw [getNumEnabledRecvAdaptersForChain, bind_eq_ok]
  exact ⟨_, getEnabledRecvAdaptersBitmapForChain_eq_ok.2 ⟨hchain, rfl⟩, hn⟩

instance (s : Registry) (I : Address) (chain : ChainId) :
    DecidablePred (RecvEnabled s I chain) :=
  fun _ => inferInstanceAs (Decidable (_ ∈ _))

/-- The loop appends the enabled adapters to the part of the array that is filled, if there is space
for them. -/
theorem fillLoop_eq {s : Registry} {I : Address} {chain : ChainId} (hchain : chain ≠ 0#16)
    {allAdapters filled : List Address} {k : ℕ}
    (h : (allAdapters.filter (RecvEnabled s I chain ·)).length = k) :
    fillLoop s I chain allAdapters (filled ++ List.replicate k 0#160) filled.length =
      .ok (filled ++ allAdapters.filter (RecvEnabled s I chain ·)) := by
  induction allAdapters generalizing filled k with
  | nil =>
    obtain rfl : 0 = k := by simpa using h
    simp [fillLoop, pure, Except.pure]
  | cons adapter allAdapters ih =>
    rw [fillLoop, bind_eq_ok]
    refine ⟨decide (RecvEnabled s I chain adapter),
      isRecvAdapterEnabledForChain_eq_ok.2 ⟨hchain, decide_eq_true_iff⟩, ?_⟩
    by_cases hon : RecvEnabled s I chain adapter
    · rw [List.filter_cons_of_pos (by simpa using hon), List.length_cons] at h
      obtain ⟨k, rfl⟩ : ∃ j, k = j + 1 := ⟨_, h.symm⟩
      rw [if_pos (by simpa using hon), require_bind_eq_ok]
      refine ⟨by simp, ?_⟩
      rw [List.set_append_right _ _ le_rfl, Nat.sub_self, List.replicate_succ, List.set_cons_zero,
        List.filter_cons_of_pos (by simpa using hon)]
      simpa using @ih (filled ++ [adapter]) k (Nat.succ_inj.1 h)
    · rw [List.filter_cons_of_neg (by simpa using hon)] at h ⊢
      rw [if_neg (by simpa using hon)]
      exact ih h

end AdapterRegistry

open AdapterRegistry

variable {E : Env} {s t : State} {op : Op} {r : Receipt} {I A : Address} {chain : ChainId}

/-! ## The enabled adapters of the list -/

/-- Different adapters of the list have different indices. -/
theorem RegistryInv.index_inj (h : RegistryInv s) {B : Address}
    (hA : (s.adapterInfos I A).registered = true) (hB : (s.adapterInfos I B).registered = true) :
    (s.adapterInfos I A).index.toNat = (s.adapterInfos I B).index.toNat ↔ A = B := by
  refine ⟨fun hindex => ?_, fun heq => by rw [heq]⟩
  have hget := h.wellFormed.getElem?_index hA
  rw [hindex, h.wellFormed.getElem?_index hB] at hget
  exact (Option.some.inj hget).symm

/-- The enabled adapters are as many as the set bits. -/
theorem RegistryInv.length_filter_recvEnabled (h : RegistryInv s) (I : Address) (chain : ChainId) :
    ((s.registeredAdapters I).filter (RecvEnabled s.toRegistry I chain ·)).length =
      (indices (s.perChainRecvAdapterBitmap I chain)).card := by
  set enabled := (s.registeredAdapters I).filter (RecvEnabled s.toRegistry I chain ·) with henabled
  have hmem : ∀ adapter, adapter ∈ enabled ↔ (s.adapterInfos I adapter).registered = true ∧
      RecvEnabled s.toRegistry I chain adapter := by
    simp only [henabled, List.mem_filter, h.mem_iff, decide_eq_true_eq, implies_true]
  have hnodup : (enabled.map fun adapter => (s.adapterInfos I adapter).index.toNat).Nodup := by
    refine ((h.nodup I).filter _).map_on fun A hA B hB => ?_
    exact (h.index_inj ((hmem A).1 hA).1 ((hmem B).1 hB).1).1
  have hset : (enabled.map fun adapter => (s.adapterInfos I adapter).index.toNat).toFinset =
      indices (s.perChainRecvAdapterBitmap I chain) := by
    ext i
    rw [List.mem_toFinset, List.mem_map]
    constructor
    · rintro ⟨adapter, hadapter, rfl⟩
      exact ((hmem adapter).1 hadapter).2
    · intro hi
      -- the bit is the one of the adapter at its position
      have hget := List.getElem?_eq_getElem (h.recv_lt I chain i hi)
      obtain ⟨hreg, hindex⟩ := (h.wellFormed.lookup I _ i).1 hget
      refine ⟨_, (hmem _).2 ⟨hreg, ?_⟩, hindex⟩
      rw [RecvEnabled, hindex]
      exact hi
  rw [← hset, List.toFinset_card_of_nodup hnodup, List.length_map]

theorem getRecvAdaptersByChain_eq (h : RegistryInv s) (hchain : chain ≠ 0#16) :
    getRecvAdaptersByChain s.toRegistry I chain =
      .ok ((s.registeredAdapters I).filter (RecvEnabled s.toRegistry I chain ·)) := by
  obtain ⟨n, hn, hcount⟩ := getNumEnabledRecvAdaptersForChain_eq (s := s.toRegistry) (I := I) hchain
  rw [getRecvAdaptersByChain, bind_eq_ok]
  refine ⟨n, hn, ?_⟩
  have hlength := h.length_filter_recvEnabled I chain
  rw [← hcount] at hlength
  simpa using @fillLoop_eq _ _ _ hchain _ [] _ hlength

/-! ## Steps -/

/-- An adapter of the list whose bit is set. -/
def ListedRecvEnabled (s : State) (I : Address) (chain : ChainId) (A : Address) : Prop :=
  (s.adapterInfos I A).registered = true ∧ RecvEnabled s.toRegistry I chain A

section Run

variable {registry : Registry} {J B : Address} {chain' : ChainId}

theorem listedRecvEnabled_of_enable (hs : RegistryInv s)
    (hrun : AdapterRegistry.enableRecvAdapter s.toRegistry J chain' B = .ok (registry, r)) :
    ListedRecvEnabled { s with toRegistry := registry } I chain A ↔
      (J = I ∧ chain' = chain ∧ B = A) ∨ ListedRecvEnabled s I chain A := by
  obtain ⟨hreg, -, rfl, -⟩ := enableRecvAdapter_eq_ok.1 hrun
  have hB := hreg.registered
  by_cases heq : I = J ∧ chain = chain'
  · obtain ⟨rfl, rfl⟩ := heq
    simp only [ListedRecvEnabled, RecvEnabled, update₂_self, bit_eq_twoPow,
      Bitmap.indices_or_twoPow _ (hs.wellFormed.index_lt hB), Finset.mem_insert, true_and]
    constructor
    · rintro ⟨hA, hindex | hold⟩
      · exact .inl ((hs.index_inj hA hB).1 hindex).symm
      · exact .inr ⟨hA, hold⟩
    · rintro (rfl | ⟨hA, hold⟩)
      · exact ⟨hB, .inl rfl⟩
      · exact ⟨hA, .inr hold⟩
  · simp only [ListedRecvEnabled, RecvEnabled, update₂_of_ne heq]
    exact (or_iff_right fun h => heq ⟨h.1.symm, h.2.1.symm⟩).symm

theorem listedRecvEnabled_of_disable (hs : RegistryInv s)
    (hrun : AdapterRegistry.disableRecvAdapter s.toRegistry J chain' B = .ok (registry, r)) :
    ListedRecvEnabled { s with toRegistry := registry } I chain A ↔
      ListedRecvEnabled s I chain A ∧ ¬ (J = I ∧ chain' = chain ∧ B = A) := by
  obtain ⟨hreg, -, rfl, -⟩ := disableRecvAdapter_eq_ok.1 hrun
  have hB := hreg.registered
  by_cases heq : I = J ∧ chain = chain'
  · obtain ⟨rfl, rfl⟩ := heq
    simp only [ListedRecvEnabled, RecvEnabled, update₂_self, notBit_eq,
      Bitmap.indices_and_not_twoPow, Finset.mem_erase, true_and]
    constructor
    · rintro ⟨hA, hne, hold⟩
      exact ⟨⟨hA, hold⟩, fun heq => hne (by rw [heq])⟩
    · rintro ⟨⟨hA, hold⟩, hne⟩
      exact ⟨hA, fun hindex => hne ((hs.index_inj hA hB).1 hindex).symm, hold⟩
  · simp only [ListedRecvEnabled, RecvEnabled, update₂_of_ne heq]
    exact (and_iff_left fun h => heq ⟨h.1.symm, h.2.1.symm⟩).symm

/-- The bit of a new adapter is clear. -/
theorem listedRecvEnabled_of_addAdapter (hs : RegistryInv s)
    (hrun : AdapterRegistry.addAdapter s.toRegistry J B = .ok (registry, r)) :
    ListedRecvEnabled { s with toRegistry := registry } I chain A ↔
      ListedRecvEnabled s I chain A := by
  obtain ⟨-, hnew, -, rfl, -⟩ := addAdapter_eq_ok.1 hrun
  by_cases heq : I = J ∧ A = B
  · obtain ⟨rfl, rfl⟩ := heq
    refine iff_of_false ?_ (fun hold => by simp [hold.1] at hnew)
    simp only [ListedRecvEnabled, RecvEnabled, update₂_self, hs.toNat_length, true_and]
    exact fun hi => lt_irrefl _ (hs.recv_lt I chain _ hi)
  · simp only [ListedRecvEnabled, RecvEnabled, update₂_of_ne heq]

end Run

/-- Enabling a registered adapter switches it on, disabling it switches it off. -/
theorem switch_recvEnabled (E : Env) (I : Address) (chain : ChainId) (A : Address) :
    (machine E).Switch RegistryInv (fun s => ListedRecvEnabled s I chain A)
      (Configures I (.enableRecvAdapter chain A)) (Configures I (.disableRecvAdapter chain A)) where
  invariant := RegistryInv.invariant E
  step := by
    intro s op r t hstep hs
    -- a step that is neither function for the adapter has to keep the fact
    have hquiet : (∀ msg, op ≠ .call msg (.configure I (.enableRecvAdapter chain A))) →
        (∀ msg, op ≠ .call msg (.configure I (.disableRecvAdapter chain A))) →
        (ListedRecvEnabled t I chain A ↔ ListedRecvEnabled s I chain A) →
        (ListedRecvEnabled t I chain A ↔
          Configures I (.enableRecvAdapter chain A) ⟨s, op, r, t⟩ ∨ ListedRecvEnabled s I chain A ∧
            ¬ Configures I (.disableRecvAdapter chain A) ⟨s, op, r, t⟩) := by
      intro hon hoff hsame
      rw [hsame, or_iff_right fun ⟨msg, hop⟩ => hon msg hop,
        and_iff_left fun ⟨msg, hop⟩ => hoff msg hop]
    cases step_effect hstep with
    | admin h =>
      exact hquiet (fun msg => by cases h <;> simp) (fun msg => by cases h <;> simp) Iff.rfl
    | inbox h =>
      exact hquiet (fun msg => by cases h <;> simp) (fun msg => by cases h <;> simp) Iff.rfl
    | send | forward | sent => exact hquiet (by simp) (by simp) Iff.rfl
    | @configure msg J change registry r _ hrun =>
      cases change with
      | addAdapter B =>
        exact hquiet (by simp) (by simp) (listedRecvEnabled_of_addAdapter hs hrun)
      | enableSendAdapter | disableSendAdapter =>
        obtain rfl := Change.effect_of_run hrun
        exact hquiet (by simp) (by simp) Iff.rfl
      | enableRecvAdapter chain' B =>
        rw [listedRecvEnabled_of_enable hs hrun]
        simp [Configures]
      | disableRecvAdapter chain' B =>
        rw [listedRecvEnabled_of_disable hs hrun]
        simp [Configures]

/-- The bitmaps after a step that enables an adapter: one bit of one of them is set. -/
theorem bitmap_of_enable (hs : RegistryInv s) {msg : Msg}
    (hstep : step E s (.call msg (.configure I (.enableRecvAdapter chain A))) = .ok (t, r)) :
    indices (t.perChainRecvAdapterBitmap I chain) =
        insert (s.adapterInfos I A).index.toNat (indices (s.perChainRecvAdapterBitmap I chain)) ∧
      ∀ J chain', ¬ (J = I ∧ chain' = chain) →
        t.perChainRecvAdapterBitmap J chain' = s.perChainRecvAdapterBitmap J chain' := by
  obtain ⟨hreg, -, hrun, -⟩ := enableRecvAdapter_eq_ok.1 (run_of_configure hstep)
  have hlt := hs.wellFormed.index_lt hreg.registered
  simp only [hrun, update₂_self, bit_eq_twoPow, Bitmap.indices_or_twoPow _ hlt, true_and]
  exact fun J chain' hne => update₂_of_ne hne

/-- The bitmaps after a step that disables an adapter: one bit of one of them is cleared. -/
theorem bitmap_of_disable {msg : Msg}
    (hstep : step E s (.call msg (.configure I (.disableRecvAdapter chain A))) = .ok (t, r)) :
    indices (t.perChainRecvAdapterBitmap I chain) =
        (indices (s.perChainRecvAdapterBitmap I chain)).erase (s.adapterInfos I A).index.toNat ∧
      ∀ J chain', ¬ (J = I ∧ chain' = chain) →
        t.perChainRecvAdapterBitmap J chain' = s.perChainRecvAdapterBitmap J chain' := by
  obtain ⟨-, -, hrun, -⟩ := disableRecvAdapter_eq_ok.1 (run_of_configure hstep)
  simp only [hrun, update₂_self, notBit_eq, Bitmap.indices_and_not_twoPow, true_and]
  exact fun J chain' hne => update₂_of_ne hne

/-! ## The queries are exact -/

/-- **The queries of the receive bitmaps are exact.** In every state reached, for every integrator
and chain that is not zero: the admin can enable exactly a registered adapter whose bit is clear,
and disable exactly one whose bit is set, the comparison of `_disableRecvAdapter` being a test of
the bit; both change that bit only. The counting loop returns the number of the set bits, and
`getRecvAdaptersByChain` as many adapters: those of the list that were enabled last, in the order of
the list. -/
theorem recv_bitmap (E : Env) {log : Log} (h : (machine E).Path .init log s) (I : Address)
    (chain : ChainId) (hchain : chain ≠ 0#16) :
    (∀ (bitmap : BitVec 128) (index : BitVec 8),
      bitmap ≤ bitmap &&& notBit index ↔ index.toNat ∉ indices bitmap) ∧
    (∀ msg A, OnlyAdmin s I msg.sender →
      ((∃ t r, step E s (.call msg (.configure I (.enableRecvAdapter chain A))) = .ok (t, r)) ↔
        msg.value = 0 ∧ A ∈ s.registeredAdapters I ∧
          (s.adapterInfos I A).index.toNat ∉ indices (s.perChainRecvAdapterBitmap I chain)) ∧
      ((∃ t r, step E s (.call msg (.configure I (.disableRecvAdapter chain A))) = .ok (t, r)) ↔
        msg.value = 0 ∧ A ∈ s.registeredAdapters I ∧
          (s.adapterInfos I A).index.toNat ∈ indices (s.perChainRecvAdapterBitmap I chain))) ∧
    (∀ msg A t r, step E s (.call msg (.configure I (.enableRecvAdapter chain A))) = .ok (t, r) →
      indices (t.perChainRecvAdapterBitmap I chain) =
          insert (s.adapterInfos I A).index.toNat (indices (s.perChainRecvAdapterBitmap I chain)) ∧
        ∀ J chain', ¬ (J = I ∧ chain' = chain) →
          t.perChainRecvAdapterBitmap J chain' = s.perChainRecvAdapterBitmap J chain') ∧
    (∀ msg A t r, step E s (.call msg (.configure I (.disableRecvAdapter chain A))) = .ok (t, r) →
      indices (t.perChainRecvAdapterBitmap I chain) =
          (indices (s.perChainRecvAdapterBitmap I chain)).erase (s.adapterInfos I A).index.toNat ∧
        ∀ J chain', ¬ (J = I ∧ chain' = chain) →
          t.perChainRecvAdapterBitmap J chain' = s.perChainRecvAdapterBitmap J chain') ∧
    ∃ n result, getNumEnabledRecvAdaptersForChain s.toRegistry I chain = .ok n ∧
      n.toNat = (indices (s.perChainRecvAdapterBitmap I chain)).card ∧
      getRecvAdaptersByChain s.toRegistry I chain = .ok result ∧ result.length = n.toNat ∧
      result.Sublist (s.registeredAdapters I) ∧ result.Nodup ∧
      ∀ A, A ∈ result ↔ A ∈ s.registeredAdapters I ∧
        LastOn (Configures I (.enableRecvAdapter chain A))
          (Configures I (.disableRecvAdapter chain A)) log := by
  have hs := h.invariant (RegistryInv.invariant E) .init
  refine ⟨fun bitmap index => ?_, fun msg A hadmin => ⟨?_, ?_⟩,
    fun msg A t r => bitmap_of_enable hs, fun msg A t r => bitmap_of_disable, ?_⟩
  · rw [notBit_eq, Bitmap.le_and_not_twoPow_iff]
  · rw [exists_configure_iff, Change.Accepts, hs.registered_iff, RecvEnabled]
    simp only [hadmin, hchain, ne_eq, not_false_eq_true, and_true, true_and]
  · rw [exists_configure_iff, Change.Accepts, hs.registered_iff, RecvEnabled]
    simp only [hadmin, hchain, ne_eq, not_false_eq_true, and_true, true_and]
  · obtain ⟨n, hn, hcount⟩ :=
      getNumEnabledRecvAdaptersForChain_eq (s := s.toRegistry) (I := I) hchain
    refine ⟨n, _, hn, hcount, getRecvAdaptersByChain_eq hs hchain, ?_, List.filter_sublist,
      (hs.nodup I).filter _, fun A => ?_⟩
    · rw [hs.length_filter_recvEnabled, hcount]
    · rw [← (switch_recvEnabled E I chain A).iff_lastOn h .init fun hold =>
        Bool.false_ne_true hold.1, List.mem_filter, decide_eq_true_eq, ListedRecvEnabled,
        hs.mem_iff]
      tauto

/-- The integrator at address 10 enables two adapters and disables the first. -/
def recvTxs : List Tx :=
  registryTxs ++
    [.mk ⟨11#160, 0⟩ (.configure 10#160 (.enableRecvAdapter 1#16 12#160)) [],
      .mk ⟨11#160, 0⟩ (.configure 10#160 (.enableRecvAdapter 1#16 13#160)) [],
      .mk ⟨11#160, 0⟩ (.configure 10#160 (.disableRecvAdapter 1#16 12#160)) []]

theorem recv_bitmap_sample :
    let s := (execAll ⟨id, 2#16⟩ State.init recvTxs).1
    s.perChainRecvAdapterBitmap 10#160 1#16 = 2#128 ∧
      ∃ n, getNumEnabledRecvAdaptersForChain s.toRegistry 10#160 1#16 = .ok n ∧
        n.toNat = (indices (s.perChainRecvAdapterBitmap 10#160 1#16)).card := by
  refine ⟨by decide +kernel, ?_⟩
  obtain ⟨n, result, hn, hcount, -⟩ := (recv_bitmap ⟨id, 2#16⟩
    (execAll_path ⟨id, 2#16⟩ State.init recvTxs) 10#160 1#16 (by decide)).2.2.2.2
  exact ⟨n, hn, hcount⟩

end GmpRouter.Evm
