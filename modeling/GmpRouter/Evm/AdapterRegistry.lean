import GmpRouter.Evm.Storage
import GmpRouter.Foundations.Bitmap

/-!
# The adapter registry

The internal functions of the contract `AdapterRegistry` that change the storage, with their
specifications: each succeeds exactly when its guards hold, and then writes one field of the state
(two, for `addAdapter`).

The bit of an adapter is `1 << index`, computed in 256 bits and truncated to the 128 bits of a
bitmap, so that an index of 128 or more would give no bit at all (`bit_eq_twoPow`).
-/

namespace GmpRouter.Evm.AdapterRegistry

def MAX_ADAPTERS : BitVec 8 := 128#8

/-- `uint128(1 << index)`. -/
def bit (index : BitVec 8) : BitVec 128 := (1#256 <<< index).setWidth 128

/-- `uint128(~(1 << index))`. -/
def notBit (index : BitVec 8) : BitVec 128 := (~~~(1#256 <<< index)).setWidth 128

theorem bit_eq_twoPow (index : BitVec 8) : bit index = BitVec.twoPow 128 index.toNat := by
  apply BitVec.eq_of_getLsbD_eq
  intro i hi
  rw [BitVec.getLsbD_twoPow, bit, BitVec.getLsbD_setWidth, BitVec.shiftLeft_eq',
    ← BitVec.twoPow_eq, BitVec.getLsbD_twoPow]
  have := index.isLt
  simp only [hi, decide_true, Bool.true_and, show index.toNat < 256 by omega]
  by_cases h : index.toNat = i
  · simp [h, hi]
  · simp [h]

theorem notBit_eq (index : BitVec 8) : notBit index = ~~~BitVec.twoPow 128 index.toNat := by
  rw [← bit_eq_twoPow]
  apply BitVec.eq_of_getLsbD_eq
  intro i hi
  simp only [notBit, bit, BitVec.getLsbD_setWidth, BitVec.getLsbD_not, hi, decide_true,
    Bool.true_and, show i < 256 by omega]

/-! ## Guards and queries -/

/-- The modifier `onlyRegisteredAdapter`. -/
def onlyRegisteredAdapter (s : Registry) (integrator : Address) (chain : ChainId)
    (adapter : Address) : Except Error Unit := do
  require (adapter ≠ 0#160) .invalidAdapterZeroAddress
  require (chain ≠ 0#16) (.invalidChain chain)
  require ((s.adapterInfos integrator adapter).registered) (.nonRegisteredAdapter adapter)

/-- What the modifier `onlyRegisteredAdapter` checks. -/
structure Registered (s : Registry) (integrator : Address) (chain : ChainId) (adapter : Address) :
    Prop where
  adapter_ne : adapter ≠ 0#160
  chain_ne : chain ≠ 0#16
  registered : (s.adapterInfos integrator adapter).registered = true

@[simp] theorem onlyRegisteredAdapter_eq_ok {s : Registry} {integrator : Address} {chain : ChainId}
    {adapter : Address} {u : Unit} : onlyRegisteredAdapter s integrator chain adapter = .ok u ↔
      Registered s integrator chain adapter := by
  simp only [onlyRegisteredAdapter, require_bind_eq_ok, require_eq_ok]
  constructor
  · rintro ⟨hadapter, hchain, hregistered⟩
    exact ⟨hadapter, hchain, hregistered⟩
  · rintro ⟨hadapter, hchain, hregistered⟩
    exact ⟨hadapter, hchain, hregistered⟩

/-- `_isSendAdapterEnabledForChain`: the adapter occurs in the send array. -/
def isSendAdapterEnabledForChain (s : Registry) (integrator : Address) (chain : ChainId)
    (adapter : Address) : Bool :=
  (s.perChainSendAdapterArray integrator chain).any fun info => info.addr = adapter

/-- `_getEnabledRecvAdaptersBitmapForChain`. -/
def getEnabledRecvAdaptersBitmapForChain (s : Registry) (integrator : Address) (chain : ChainId) :
    Except Error (BitVec 128) := do
  require (chain ≠ 0#16) (.invalidChain chain)
  pure (s.perChainRecvAdapterBitmap integrator chain)

/-- `_isRecvAdapterEnabledForChain`. -/
def isRecvAdapterEnabledForChain (s : Registry) (integrator : Address) (chain : ChainId)
    (adapter : Address) : Except Error Bool := do
  let bitmap ← getEnabledRecvAdaptersBitmapForChain s integrator chain
  let index := (s.adapterInfos integrator adapter).index
  pure (0#128 < bitmap &&& bit index)

/-- `_isRecvAdapterEnabledForChainWithCheck`. -/
def isRecvAdapterEnabledForChainWithCheck (s : Registry) (integrator : Address) (chain : ChainId)
    (adapter : Address) : Except Error Bool := do
  onlyRegisteredAdapter s integrator chain adapter
  isRecvAdapterEnabledForChain s integrator chain adapter

/-- `getSendAdaptersByChain`. -/
def getSendAdaptersByChain (s : Registry) (integrator : Address) (chain : ChainId) :
    Except Error (List PerSendAdapterInfo) := do
  require (chain ≠ 0#16) (.invalidChain chain)
  pure (s.perChainSendAdapterArray integrator chain)

theorem getEnabledRecvAdaptersBitmapForChain_eq_ok {s : Registry} {integrator : Address}
    {chain : ChainId} {b : BitVec 128} :
    getEnabledRecvAdaptersBitmapForChain s integrator chain = .ok b ↔
      chain ≠ 0#16 ∧ b = s.perChainRecvAdapterBitmap integrator chain := by
  simp only [getEnabledRecvAdaptersBitmapForChain, require_bind_eq_ok, pure_eq_ok]

/-- The recv bit of the adapter for the chain is set. -/
def RecvEnabled (s : Registry) (integrator : Address) (chain : ChainId)
    (adapter : Address) : Prop :=
  (s.adapterInfos integrator adapter).index.toNat ∈
    Bitmap.indices (s.perChainRecvAdapterBitmap integrator chain)

theorem isRecvAdapterEnabledForChain_eq_ok {s : Registry} {integrator : Address} {chain : ChainId}
    {adapter : Address} {b : Bool} :
      isRecvAdapterEnabledForChain s integrator chain adapter = .ok b ↔
      chain ≠ 0#16 ∧ (b = true ↔ RecvEnabled s integrator chain adapter) := by
  simp only [isRecvAdapterEnabledForChain, bind_eq_ok, getEnabledRecvAdaptersBitmapForChain_eq_ok,
    pure_eq_ok, RecvEnabled, ← Bitmap.zero_lt_and_twoPow_iff, ← bit_eq_twoPow]
  constructor
  · rintro ⟨_, ⟨hc, rfl⟩, rfl⟩
    exact ⟨hc, by simp⟩
  · rintro ⟨hc, hb⟩
    refine ⟨_, ⟨hc, rfl⟩, ?_⟩
    rw [Bool.eq_iff_iff, hb, decide_eq_true_iff]

/-! ## Functions that change the storage -/

/-- `_addAdapter`. -/
def addAdapter (s : Registry) (integrator adapter : Address) :
    Except Error (Registry × Receipt) := do
  require (adapter ≠ 0#160) .invalidAdapterZeroAddress
  require (¬ (s.adapterInfos integrator adapter).registered) (.adapterAlreadyRegistered adapter)
  let registeredAdaptersLength := BitVec.ofNat 8 (s.registeredAdapters integrator).length
  require (¬ MAX_ADAPTERS ≤ registeredAdaptersLength) .tooManyAdapters
  let s' := { s with
    adapterInfos := update₂ s.adapterInfos integrator adapter ⟨true, registeredAdaptersLength⟩
    registeredAdapters :=
      Function.update s.registeredAdapters integrator
        (s.registeredAdapters integrator ++ [adapter]) }
  pure (s', ⟨.index (s'.adapterInfos integrator adapter).index,
    [.adapterAdded integrator adapter (registeredAdaptersLength + 1#8)]⟩)

/-- `_enableSendAdapter`. -/
def enableSendAdapter (s : Registry) (integrator : Address) (chain : ChainId) (adapter : Address) :
    Except Error (Registry × Receipt) := do
  onlyRegisteredAdapter s integrator chain adapter
  require (¬ isSendAdapterEnabledForChain s integrator chain adapter)
    (.adapterAlreadyEnabled adapter)
  let index := (s.adapterInfos integrator adapter).index
  let s' := { s with
    perChainSendAdapterArray := update₂ s.perChainSendAdapterArray integrator chain
      (s.perChainSendAdapterArray integrator chain ++ [⟨adapter, index⟩]) }
  pure (s', { events := [.sendAdapterEnabledForChain integrator chain adapter] })

/-- `_enableRecvAdapter`. -/
def enableRecvAdapter (s : Registry) (integrator : Address) (chain : ChainId) (adapter : Address) :
    Except Error (Registry × Receipt) := do
  onlyRegisteredAdapter s integrator chain adapter
  let enabled ← isRecvAdapterEnabledForChain s integrator chain adapter
  require (¬ enabled) (.adapterAlreadyEnabled adapter)
  let index := (s.adapterInfos integrator adapter).index
  let s' := { s with
    perChainRecvAdapterBitmap := update₂ s.perChainRecvAdapterBitmap integrator chain
      (s.perChainRecvAdapterBitmap integrator chain ||| bit index) }
  pure (s', { events := [.recvAdapterEnabledForChain integrator chain adapter] })

/-- Replace the entry at `i` by the last one and drop the last one. -/
def swapRemove (adapters : List PerSendAdapterInfo) (i : ℕ) : List PerSendAdapterInfo :=
  match adapters.getLast? with
  | none => []
  | some last => (adapters.set i last).dropLast

theorem length_swapRemove (adapters : List PerSendAdapterInfo) (i : ℕ) :
    (swapRemove adapters i).length = adapters.length - 1 := by
  unfold swapRemove
  split
  · next h => simp [List.getLast?_eq_none_iff.1 h]
  · rw [List.length_dropLast, List.length_set]

/-- `_disableSendAdapter`; its loop stops at the first entry with the adapter's address. -/
def disableSendAdapter (s : Registry) (integrator : Address) (chain : ChainId) (adapter : Address) :
    Except Error (Registry × Receipt) := do
  onlyRegisteredAdapter s integrator chain adapter
  let adapters := s.perChainSendAdapterArray integrator chain
  let i ← orFail (adapters.findIdx? fun info => info.addr = adapter)
    (.adapterAlreadyDisabled adapter)
  let s' := { s with
    perChainSendAdapterArray :=
      update₂ s.perChainSendAdapterArray integrator chain (swapRemove adapters i) }
  pure (s', { events := [.sendAdapterDisabledForChain integrator chain adapter] })

/-- `_disableRecvAdapter`. -/
def disableRecvAdapter (s : Registry) (integrator : Address) (chain : ChainId) (adapter : Address) :
    Except Error (Registry × Receipt) := do
  onlyRegisteredAdapter s integrator chain adapter
  let bitmap := s.perChainRecvAdapterBitmap integrator chain
  let updatedEnabledAdapterBitmap := bitmap &&& notBit (s.adapterInfos integrator adapter).index
  -- ensure that this actually changed the bitmap
  require (¬ bitmap ≤ updatedEnabledAdapterBitmap) (.adapterAlreadyDisabled adapter)
  let s' := { s with
    perChainRecvAdapterBitmap :=
      update₂ s.perChainRecvAdapterBitmap integrator chain updatedEnabledAdapterBitmap }
  pure (s', { events := [.recvAdapterDisabledForChain integrator chain adapter] })

/-- A call of one of the functions that change the registry of an integrator. -/
inductive Change
  | addAdapter (adapter : Address)
  | enableSendAdapter (chain : ChainId) (adapter : Address)
  | enableRecvAdapter (chain : ChainId) (adapter : Address)
  | disableSendAdapter (chain : ChainId) (adapter : Address)
  | disableRecvAdapter (chain : ChainId) (adapter : Address)
  deriving DecidableEq

def Change.run (s : Registry) (integrator : Address) : Change → Except Error (Registry × Receipt)
  | .addAdapter adapter => AdapterRegistry.addAdapter s integrator adapter
  | .enableSendAdapter chain adapter => AdapterRegistry.enableSendAdapter s integrator chain adapter
  | .enableRecvAdapter chain adapter => AdapterRegistry.enableRecvAdapter s integrator chain adapter
  | .disableSendAdapter chain adapter =>
    AdapterRegistry.disableSendAdapter s integrator chain adapter
  | .disableRecvAdapter chain adapter =>
    AdapterRegistry.disableRecvAdapter s integrator chain adapter

/-! ## Their specifications -/

variable {s s' : Registry} {integrator adapter : Address} {chain : ChainId} {r : Receipt}

theorem addAdapter_eq_ok : addAdapter s integrator adapter = .ok (s', r) ↔
    adapter ≠ 0#160 ∧ (s.adapterInfos integrator adapter).registered = false ∧
      BitVec.ofNat 8 (s.registeredAdapters integrator).length < MAX_ADAPTERS ∧
      s' = { s with
        adapterInfos := update₂ s.adapterInfos integrator adapter
          ⟨true, BitVec.ofNat 8 (s.registeredAdapters integrator).length⟩
        registeredAdapters := Function.update s.registeredAdapters integrator
          (s.registeredAdapters integrator ++ [adapter]) } ∧
      r = ⟨.index (BitVec.ofNat 8 (s.registeredAdapters integrator).length),
        [.adapterAdded integrator adapter
          (BitVec.ofNat 8 (s.registeredAdapters integrator).length + 1#8)]⟩ := by
  simp only [addAdapter, require_bind_eq_ok, pure_eq_ok, Prod.mk.injEq, Bool.not_eq_true,
    BitVec.not_le, update₂_self]

theorem enableSendAdapter_eq_ok : enableSendAdapter s integrator chain adapter = .ok (s', r) ↔
    Registered s integrator chain adapter ∧
      isSendAdapterEnabledForChain s integrator chain adapter = false ∧
      s' = { s with
        perChainSendAdapterArray := update₂ s.perChainSendAdapterArray integrator chain
          (s.perChainSendAdapterArray integrator chain ++
            [⟨adapter, (s.adapterInfos integrator adapter).index⟩]) } ∧
      r = { events := [.sendAdapterEnabledForChain integrator chain adapter] } := by
  simp only [enableSendAdapter, bind_eq_ok, onlyRegisteredAdapter_eq_ok, exists_const,
    require_eq_ok, pure_eq_ok, Prod.mk.injEq, Bool.not_eq_true]

theorem enableRecvAdapter_eq_ok : enableRecvAdapter s integrator chain adapter = .ok (s', r) ↔
    Registered s integrator chain adapter ∧ ¬ RecvEnabled s integrator chain adapter ∧
      s' = { s with
        perChainRecvAdapterBitmap := update₂ s.perChainRecvAdapterBitmap integrator chain
          (s.perChainRecvAdapterBitmap integrator chain |||
            bit (s.adapterInfos integrator adapter).index) } ∧
      r = { events := [.recvAdapterEnabledForChain integrator chain adapter] } := by
  simp only [enableRecvAdapter, bind_eq_ok, onlyRegisteredAdapter_eq_ok, exists_const,
    isRecvAdapterEnabledForChain_eq_ok, require_eq_ok, pure_eq_ok, Prod.mk.injEq]
  constructor
  · rintro ⟨hreg, b, ⟨-, hb⟩, hne, hs, hr⟩
    exact ⟨hreg, fun h => hne (hb.2 h), hs, hr⟩
  · rintro ⟨hreg, hne, hs, hr⟩
    exact ⟨hreg, false, ⟨hreg.chain_ne, by simpa using hne⟩, Bool.false_ne_true, hs, hr⟩

theorem disableSendAdapter_eq_ok : disableSendAdapter s integrator chain adapter = .ok (s', r) ↔
    Registered s integrator chain adapter ∧
      ∃ i, (s.perChainSendAdapterArray integrator chain).findIdx?
          (fun info => info.addr = adapter) = some i ∧
        s' = { s with
          perChainSendAdapterArray := update₂ s.perChainSendAdapterArray integrator chain
            (swapRemove (s.perChainSendAdapterArray integrator chain) i) } ∧
        r = { events := [.sendAdapterDisabledForChain integrator chain adapter] } := by
  simp only [disableSendAdapter, bind_eq_ok, onlyRegisteredAdapter_eq_ok, exists_const,
    orFail_eq_ok, pure_eq_ok, Prod.mk.injEq]

theorem disableRecvAdapter_eq_ok : disableRecvAdapter s integrator chain adapter = .ok (s', r) ↔
    Registered s integrator chain adapter ∧ RecvEnabled s integrator chain adapter ∧
      s' = { s with
        perChainRecvAdapterBitmap := update₂ s.perChainRecvAdapterBitmap integrator chain
          (s.perChainRecvAdapterBitmap integrator chain &&&
            notBit (s.adapterInfos integrator adapter).index) } ∧
      r = { events := [.recvAdapterDisabledForChain integrator chain adapter] } := by
  simp only [disableRecvAdapter, bind_eq_ok, onlyRegisteredAdapter_eq_ok, exists_const,
    require_eq_ok, pure_eq_ok, Prod.mk.injEq, notBit_eq, Bitmap.le_and_not_twoPow_iff, not_not,
    RecvEnabled]

/-- The guards of the functions that change the registry, as a condition on the state before. -/
def Change.Accepts (s : Registry) (integrator : Address) : Change → Prop
  | .addAdapter adapter =>
    adapter ≠ 0#160 ∧ (s.adapterInfos integrator adapter).registered = false ∧
      BitVec.ofNat 8 (s.registeredAdapters integrator).length < MAX_ADAPTERS
  | .enableSendAdapter chain adapter =>
    Registered s integrator chain adapter ∧
      isSendAdapterEnabledForChain s integrator chain adapter = false
  | .enableRecvAdapter chain adapter =>
    Registered s integrator chain adapter ∧ ¬ RecvEnabled s integrator chain adapter
  | .disableSendAdapter chain adapter =>
    Registered s integrator chain adapter ∧
      isSendAdapterEnabledForChain s integrator chain adapter = true
  | .disableRecvAdapter chain adapter =>
    Registered s integrator chain adapter ∧ RecvEnabled s integrator chain adapter

/-- The registry after a change that succeeds. -/
def Change.effect (s : Registry) (integrator : Address) : Change → Registry
  | .addAdapter adapter => { s with
      adapterInfos := update₂ s.adapterInfos integrator adapter
        ⟨true, BitVec.ofNat 8 (s.registeredAdapters integrator).length⟩
      registeredAdapters := Function.update s.registeredAdapters integrator
        (s.registeredAdapters integrator ++ [adapter]) }
  | .enableSendAdapter chain adapter => { s with
      perChainSendAdapterArray := update₂ s.perChainSendAdapterArray integrator chain
        (s.perChainSendAdapterArray integrator chain ++
          [⟨adapter, (s.adapterInfos integrator adapter).index⟩]) }
  | .enableRecvAdapter chain adapter => { s with
      perChainRecvAdapterBitmap := update₂ s.perChainRecvAdapterBitmap integrator chain
        (s.perChainRecvAdapterBitmap integrator chain |||
          bit (s.adapterInfos integrator adapter).index) }
  | .disableSendAdapter chain adapter => { s with
      perChainSendAdapterArray := update₂ s.perChainSendAdapterArray integrator chain
        (swapRemove (s.perChainSendAdapterArray integrator chain)
          ((s.perChainSendAdapterArray integrator chain).findIdx
            fun info => info.addr = adapter)) }
  | .disableRecvAdapter chain adapter => { s with
      perChainRecvAdapterBitmap := update₂ s.perChainRecvAdapterBitmap integrator chain
        (s.perChainRecvAdapterBitmap integrator chain &&&
          notBit (s.adapterInfos integrator adapter).index) }

/-- What a change returns and emits when it succeeds. -/
def Change.receipt (s : Registry) (integrator : Address) : Change → Receipt
  | .addAdapter adapter =>
    ⟨.index (BitVec.ofNat 8 (s.registeredAdapters integrator).length),
      [.adapterAdded integrator adapter
        (BitVec.ofNat 8 (s.registeredAdapters integrator).length + 1#8)]⟩
  | .enableSendAdapter chain adapter =>
    { events := [.sendAdapterEnabledForChain integrator chain adapter] }
  | .enableRecvAdapter chain adapter =>
    { events := [.recvAdapterEnabledForChain integrator chain adapter] }
  | .disableSendAdapter chain adapter =>
    { events := [.sendAdapterDisabledForChain integrator chain adapter] }
  | .disableRecvAdapter chain adapter =>
    { events := [.recvAdapterDisabledForChain integrator chain adapter] }

theorem isSendAdapterEnabledForChain_iff_findIdx? :
    isSendAdapterEnabledForChain s integrator chain adapter = true ↔
      ∃ i, (s.perChainSendAdapterArray integrator chain).findIdx?
        (fun info => info.addr = adapter) = some i := by
  rw [isSendAdapterEnabledForChain, ← List.findIdx?_isSome, Option.isSome_iff_exists]

/-- A function of the registry succeeds exactly when its guards hold. -/
theorem Change.run_eq_ok {change : Change} : change.run s integrator = .ok (s', r) ↔
    change.Accepts s integrator ∧ s' = change.effect s integrator ∧
      r = change.receipt s integrator := by
  cases change with
  | addAdapter adapter =>
    rw [Change.Accepts, Change.effect, Change.receipt, Change.run, addAdapter_eq_ok]
    simp only [and_assoc]
  | enableSendAdapter chain adapter =>
    rw [Change.Accepts, Change.effect, Change.receipt, Change.run, enableSendAdapter_eq_ok]
    simp only [and_assoc]
  | enableRecvAdapter chain adapter =>
    rw [Change.Accepts, Change.effect, Change.receipt, Change.run, enableRecvAdapter_eq_ok]
    simp only [and_assoc]
  | disableSendAdapter chain adapter =>
    rw [Change.Accepts, isSendAdapterEnabledForChain_iff_findIdx?, Change.run,
      disableSendAdapter_eq_ok]
    constructor
    · rintro ⟨hreg, i, hi, hs, hr⟩
      have hindex := (List.findIdx?_eq_some_iff_findIdx_eq.1 hi).2
      exact ⟨⟨hreg, i, hi⟩, by rw [hs, ← hindex]; rfl, hr⟩
    · rintro ⟨⟨hreg, i, hi⟩, hs, hr⟩
      have hindex := (List.findIdx?_eq_some_iff_findIdx_eq.1 hi).2
      exact ⟨hreg, i, hi, by rw [hs, ← hindex]; rfl, hr⟩
  | disableRecvAdapter chain adapter =>
    rw [Change.Accepts, Change.effect, Change.receipt, Change.run, disableRecvAdapter_eq_ok]
    simp only [and_assoc]

theorem Change.exists_run_iff {change : Change} :
    (∃ s' r, change.run s integrator = .ok (s', r)) ↔ change.Accepts s integrator := by
  simp only [Change.run_eq_ok, exists_and_left, exists_eq, and_true]

theorem Change.effect_of_run {change : Change} (hrun : change.run s integrator = .ok (s', r)) :
    s' = change.effect s integrator :=
  (Change.run_eq_ok.1 hrun).2.1

theorem Change.receipt_of_run {change : Change} (hrun : change.run s integrator = .ok (s', r)) :
    r = change.receipt s integrator :=
  (Change.run_eq_ok.1 hrun).2.2

theorem Change.run_ret_ne_sending {change : Change} (hrun : change.run s integrator = .ok (s', r))
    (frame : Sending) : r.ret ≠ .sending frame := by
  rw [Change.receipt_of_run hrun]
  cases change <;> simp [Change.receipt]

end GmpRouter.Evm.AdapterRegistry
