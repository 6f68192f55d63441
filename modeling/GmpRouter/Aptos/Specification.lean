import GmpRouter.Aptos.Endpoint

/-!
# Specifications of the Aptos functions

When each function returns, and what it returns. The assertions and the borrows that can abort are
the conditions; a swap, a fill or an extraction leaves one where the assertions before it do not
imply that it succeeds, which is only in `claimAdmin`.
-/

namespace GmpRouter.Aptos

open GmpRouter.Bitmap (indices)

variable {α β κ : Type} [DecidableEq κ] {s t : State} {admin I A newAdmin : Address}
  {chain : ChainId} {direction : Direction} {sequence : BitVec 64}

/-! ## Resources, tables and bitmaps -/

theorem moveTo_bind_eq_ok {slot : Option α} {resource : α} {f : Option α → Except Error β} {b : β} :
    (moveTo slot resource >>= f) = .ok b ↔ slot = none ∧ f (some resource) = .ok b := by
  rw [moveTo, bind_assoc, require_bind_eq_ok, Option.isNone_iff_eq_none]
  exact Iff.rfl

omit [DecidableEq κ] in
theorem Table.borrow_bind_eq_ok {table : Table κ α} {key : κ} {f : α → Except Error β} {b : β} :
    (table.borrow key >>= f) = .ok b ↔ ∃ x, table key = some x ∧ f x = .ok b :=
  orFail_bind_eq_ok

theorem Table.add_bind_eq_ok {table : Table κ α} {key : κ} {value : α}
    {f : Table κ α → Except Error β} {b : β} :
    (table.add key value >>= f) = .ok b ↔
      table key = none ∧ f (table.upsert key value) = .ok b := by
  rw [Table.add, bind_assoc, require_bind_eq_ok, Option.isNone_iff_eq_none]
  exact Iff.rfl

theorem castU8_bind_eq_ok {n : ℕ} {f : BitVec 8 → Except Error β} {b : β} :
    (castU8 n >>= f) = .ok b ↔ n < 256 ∧ f (BitVec.ofNat 8 n) = .ok b := by
  rw [castU8, bind_assoc, require_bind_eq_ok]
  exact Iff.rfl

@[simp] theorem Table.upsert_self (table : Table κ α) (key : κ) (value : α) :
    table.upsert key value key = some value := Function.update_self ..

theorem Table.upsert_of_ne {key key' : κ} (h : key' ≠ key) (table : Table κ α) (value : α) :
    table.upsert key value key' = table key' := Function.update_of_ne h ..

@[simp] theorem Table.remove_self (table : Table κ α) (key : κ) : table.remove key key = none :=
  Function.update_self ..

@[simp] theorem Table.borrowWithDefault_upsert_self (table : Table κ α) (key : κ) (value d : α) :
    (table.upsert key value).borrowWithDefault key d = value := by
  rw [Table.borrowWithDefault, Table.upsert_self, Option.getD_some]

theorem Table.borrowWithDefault_upsert_of_ne {key key' : κ} (h : key' ≠ key) (table : Table κ α)
    (value d : α) : (table.upsert key value).borrowWithDefault key' d =
      table.borrowWithDefault key' d := by
  rw [Table.borrowWithDefault, Table.upsert_of_ne h, Table.borrowWithDefault]

namespace Bitmap

variable {bitmap bitmap' : BitVec 128} {index : BitVec 8}

theorem bitmask_bind_eq_ok {f : BitVec 128 → Except Error β} {b : β} :
    (bitmask index >>= f) = .ok b ↔
      index.toNat < 128 ∧ f (BitVec.twoPow 128 index.toNat) = .ok b := by
  rw [bitmask, bind_assoc, require_bind_eq_ok]
  exact Iff.rfl

theorem enable_eq_ok : enable bitmap index = .ok bitmap' ↔
    index.toNat < 128 ∧ index.toNat ∉ indices bitmap ∧
      bitmap' = bitmap ||| BitVec.twoPow 128 index.toNat := by
  simp only [enable, bitmask_bind_eq_ok, require_bind_eq_ok, pure_eq_ok,
    GmpRouter.Bitmap.and_twoPow_eq_zero_iff]

theorem disable_eq_ok : disable bitmap index = .ok bitmap' ↔
    index.toNat < 128 ∧ index.toNat ∈ indices bitmap ∧
      bitmap' = bitmap &&& ~~~BitVec.twoPow 128 index.toNat := by
  simp only [disable, bitmask_bind_eq_ok, require_bind_eq_ok, pure_eq_ok,
    GmpRouter.Bitmap.zero_lt_and_twoPow_iff, BitVec.xor_allOnes]

theorem get_bind_eq_ok {f : Bool → Except Error β} {b : β} :
    (get bitmap index >>= f) = .ok b ↔
      index.toNat < 128 ∧ f (decide (index.toNat ∈ indices bitmap)) = .ok b := by
  simp only [get, bind_assoc, bitmask_bind_eq_ok, pure_bind,
    GmpRouter.Bitmap.zero_lt_and_twoPow_iff]

theorem get_eq_ok_true : get bitmap index = .ok true ↔
    index.toNat < 128 ∧ index.toNat ∈ indices bitmap := by
  rw [← bind_pure (get bitmap index), get_bind_eq_ok, pure_eq_ok, eq_comm (a := true),
    decide_eq_true_eq]

theorem get_eq_ok_false : get bitmap index = .ok false ↔
    index.toNat < 128 ∧ index.toNat ∉ indices bitmap := by
  rw [← bind_pure (get bitmap index), get_bind_eq_ok, pure_eq_ok, eq_comm (a := false),
    decide_eq_false_iff_not]

end Bitmap

/-! ## The module `integrator` -/

namespace Integrator

/-- The account of an integrator after its registration. -/
def newAccount (adminAddr : Address) : Account where
  integratorCapability := some ⟨0#64⟩
  adminConfig := some ⟨some adminAddr, none⟩
  adaptersStore := some ⟨[]⟩
  adapterToIndexStore := some ⟨Table.empty⟩
  adapterStore := fun
    | .send => some ⟨Table.empty⟩
    | .recv => some ⟨Table.empty⟩

theorem newIntegrator_eq_ok : newIntegrator s I admin = .ok t ↔
    (s.accounts I).integratorCapability = none ∧ admin ≠ 0#256 ∧
      (s.accounts I).adminConfig = none ∧ (s.accounts I).adaptersStore = none ∧
      (s.accounts I).adapterToIndexStore = none ∧ (s.accounts I).adapterStore .send = none ∧
      (s.accounts I).adapterStore .recv = none ∧ t = s.setAccount I (newAccount admin) := by
  simp only [newIntegrator, require_bind_eq_ok, moveTo_bind_eq_ok, pure_eq_ok,
    Option.isNone_iff_eq_none]
  constructor
  · rintro ⟨hcapability, hadmin, -, h⟩
    exact ⟨hcapability, hadmin, h⟩
  · rintro ⟨hcapability, hadmin, h⟩
    exact ⟨hcapability, hadmin, hcapability, h⟩

theorem borrowAdminConfig_bind_eq_ok {f : AdminConfig → Except Error β} {b : β} :
    (borrowAdminConfig s admin I >>= f) = .ok b ↔
      (s.accounts I).adminConfig = some ⟨some admin, none⟩ ∧ f ⟨some admin, none⟩ = .ok b := by
  simp only [borrowAdminConfig, bind_assoc, orFail_bind_eq_ok, require_bind_eq_ok, pure_bind,
    Option.isNone_iff_eq_none]
  constructor
  · rintro ⟨⟨adminAddr, pendingAdminAddr⟩, hconfig, rfl, rfl, h⟩
    exact ⟨hconfig, h⟩
  · rintro ⟨hconfig, h⟩
    exact ⟨_, hconfig, rfl, rfl, h⟩

theorem updateAdmin_eq_ok : updateAdmin s admin I newAdmin = .ok t ↔
    (s.accounts I).adminConfig = some ⟨some admin, none⟩ ∧ newAdmin ≠ 0#256 ∧
      t = setAdminConfig s I ⟨some newAdmin, none⟩ := by
  simp only [updateAdmin, borrowAdminConfig_bind_eq_ok, require_bind_eq_ok, OptionModule.swap,
    bind_assoc, Option.isSome_some, true_and, pure_bind, pure_eq_ok]

theorem transferAdmin_eq_ok : transferAdmin s admin I newAdmin = .ok t ↔
    (s.accounts I).adminConfig = some ⟨some admin, none⟩ ∧ newAdmin ≠ 0#256 ∧
      t = setAdminConfig s I ⟨some admin, some newAdmin⟩ := by
  simp only [transferAdmin, borrowAdminConfig_bind_eq_ok, require_bind_eq_ok, OptionModule.fill,
    bind_assoc, Option.isNone_none, true_and, pure_bind, pure_eq_ok]

theorem claimAdmin_eq_ok : claimAdmin s newAdmin I = .ok t ↔
    ∃ config, (s.accounts I).adminConfig = some config ∧ config.pendingAdminAddr.isSome = true ∧
      (config.adminAddr = some newAdmin ∨ config.pendingAdminAddr = some newAdmin) ∧
      config.adminAddr.isSome = true ∧ t = setAdminConfig s I ⟨some newAdmin, none⟩ := by
  simp only [claimAdmin, orFail_bind_eq_ok, require_bind_eq_ok, OptionModule.swap,
    OptionModule.extract, bind_assoc, pure_bind, pure_eq_ok]
  constructor
  · rintro ⟨config, hconfig, hpending, hcaller, hadmin, -, ht⟩
    exact ⟨config, hconfig, hpending, hcaller, hadmin, ht⟩
  · rintro ⟨config, hconfig, hpending, hcaller, hadmin, ht⟩
    exact ⟨config, hconfig, hpending, hcaller, hadmin, hpending, ht⟩

theorem discardAdmin_eq_ok : discardAdmin s admin I = .ok t ↔
    (s.accounts I).adminConfig = some ⟨some admin, none⟩ ∧
      t = setAdminConfig s I ⟨none, none⟩ := by
  simp only [discardAdmin, borrowAdminConfig_bind_eq_ok, OptionModule.extract, bind_assoc,
    require_bind_eq_ok, Option.isSome_some, true_and, pure_bind, pure_eq_ok]

theorem addAdapter_eq_ok : addAdapter s admin I A = .ok t ↔
    (s.accounts I).adminConfig = some ⟨some admin, none⟩ ∧
      ∃ adapters adapterToIndex, (s.accounts I).adaptersStore = some ⟨adapters⟩ ∧
        A ∉ adapters ∧ adapters.length < 128 ∧
        (s.accounts I).adapterToIndexStore = some ⟨adapterToIndex⟩ ∧ adapterToIndex A = none ∧
        t = s.setAccount I { s.accounts I with
          adaptersStore := some ⟨adapters ++ [A]⟩
          adapterToIndexStore :=
            some ⟨adapterToIndex.upsert A (BitVec.ofNat 8 adapters.length)⟩ } := by
  simp only [addAdapter, borrowAdminConfig_bind_eq_ok, orFail_bind_eq_ok, require_bind_eq_ok,
    castU8_bind_eq_ok, Table.add_bind_eq_ok, pure_eq_ok]
  refine and_congr_right fun _ => ?_
  constructor
  · rintro ⟨store, hstore, hnew, hlt, index, hindex, -, hnone, ht⟩
    exact ⟨store.adapters, index.adapterToIndex, hstore, hnew, hlt, hindex, hnone, ht⟩
  · rintro ⟨adapters, index, hstore, hnew, hlt, hindex, hnone, ht⟩
    have hcast : adapters.length < 256 := by omega
    exact ⟨_, hstore, hnew, hlt, _, hindex, hcast, hnone, ht⟩

theorem getAdapters_eq_ok {adapters : List Address} : getAdapters s I = .ok adapters ↔
    (s.accounts I).adaptersStore = some ⟨adapters⟩ := by
  rw [getAdapters, orFail_bind_eq_ok]
  constructor
  · rintro ⟨store, hstore, hadapters⟩
    obtain rfl := pure_eq_ok.1 hadapters
    exact hstore
  · intro hstore
    exact ⟨_, hstore, rfl⟩

theorem getAdapterIndex_eq_ok {index : BitVec 8} : getAdapterIndex s I A = .ok index ↔
    ∃ adapterToIndex, (s.accounts I).adapterToIndexStore = some ⟨adapterToIndex⟩ ∧
      adapterToIndex A = some index := by
  rw [getAdapterIndex, orFail_bind_eq_ok]
  constructor
  · rintro ⟨⟨table⟩, hstore, hindex⟩
    exact ⟨table, hstore, orFail_eq_ok.1 hindex⟩
  · rintro ⟨table, hstore, hindex⟩
    exact ⟨⟨table⟩, hstore, orFail_eq_ok.2 hindex⟩

theorem getEnabledAdapters_eq_ok {direction : Direction} {chain : ChainId} {bitmap : BitVec 128} :
    getEnabledAdapters s direction I chain = .ok bitmap ↔
      ∃ table, (s.accounts I).adapterStore direction = some ⟨table⟩ ∧
        bitmap = table.borrowWithDefault chain 0#128 := by
  rw [getEnabledAdapters, orFail_bind_eq_ok]
  constructor
  · rintro ⟨⟨table⟩, hstore, hbitmap⟩
    exact ⟨table, hstore, pure_eq_ok.1 hbitmap⟩
  · rintro ⟨table, hstore, rfl⟩
    exact ⟨⟨table⟩, hstore, rfl⟩

theorem getAdapterIndex_bind_eq_ok {f : BitVec 8 → Except Error β} {b : β} :
    (getAdapterIndex s I A >>= f) = .ok b ↔ ∃ adapterToIndex index,
      (s.accounts I).adapterToIndexStore = some ⟨adapterToIndex⟩ ∧
      adapterToIndex A = some index ∧ f index = .ok b := by
  simp only [getAdapterIndex, bind_assoc, orFail_bind_eq_ok, Table.borrow_bind_eq_ok]
  constructor
  · rintro ⟨store, hstore, index, hindex, h⟩
    exact ⟨store.adapterToIndex, index, hstore, hindex, h⟩
  · rintro ⟨adapterToIndex, index, hstore, hindex, h⟩
    exact ⟨_, hstore, index, hindex, h⟩

theorem getEnabledAdapters_bind_eq_ok {f : BitVec 128 → Except Error β} {b : β} :
    (getEnabledAdapters s direction I chain >>= f) = .ok b ↔ ∃ table,
      (s.accounts I).adapterStore direction = some ⟨table⟩ ∧
      f (table.borrowWithDefault chain 0#128) = .ok b := by
  simp only [getEnabledAdapters, bind_assoc, orFail_bind_eq_ok, pure_bind]
  constructor
  · rintro ⟨store, hstore, h⟩
    exact ⟨store.perChainAdapterBitmap, hstore, h⟩
  · rintro ⟨table, hstore, h⟩
    exact ⟨_, hstore, h⟩

theorem setAdapter_eq_ok {change : BitVec 128 → BitVec 8 → Except Error (BitVec 128)} :
    setAdapter change direction s admin I chain A = .ok t ↔
      (s.accounts I).adminConfig = some ⟨some admin, none⟩ ∧
        ∃ adapterToIndex index table bitmap,
          (s.accounts I).adapterToIndexStore = some ⟨adapterToIndex⟩ ∧
          adapterToIndex A = some index ∧ (s.accounts I).adapterStore direction = some ⟨table⟩ ∧
          change (table.borrowWithDefault chain 0#128) index = .ok bitmap ∧
          t = s.setAccount I { s.accounts I with
            adapterStore := Function.update (s.accounts I).adapterStore direction
              (some ⟨table.upsert chain bitmap⟩) } := by
  simp only [setAdapter, borrowAdminConfig_bind_eq_ok, getAdapterIndex_bind_eq_ok,
    orFail_bind_eq_ok]
  simp only [bind_eq_ok, pure_eq_ok]
  refine and_congr_right fun _ => ?_
  constructor
  · rintro ⟨adapterToIndex, index, hstore, hindex, store, htable, bitmap, hchange, ht⟩
    exact ⟨adapterToIndex, index, store.perChainAdapterBitmap, bitmap, hstore, hindex,
      htable, hchange, ht⟩
  · rintro ⟨adapterToIndex, index, table, bitmap, hstore, hindex, htable, hchange, ht⟩
    exact ⟨adapterToIndex, index, hstore, hindex, _, htable, bitmap, hchange, ht⟩

theorem useSequence_bind_eq_ok {f : BitVec 64 × State → Except Error β} {b : β} :
    (useSequence s I >>= f) = .ok b ↔ ∃ sequence,
      (s.accounts I).integratorCapability = some ⟨sequence⟩ ∧ sequence ≠ BitVec.allOnes 64 ∧
      f (sequence, s.setAccount I { s.accounts I with
        integratorCapability := some ⟨sequence + 1#64⟩ }) = .ok b := by
  simp only [useSequence, bind_assoc, orFail_bind_eq_ok, require_bind_eq_ok, pure_bind]
  constructor
  · rintro ⟨capability, hcapability, hmax, h⟩
    exact ⟨capability.sequence, hcapability, hmax, h⟩
  · rintro ⟨sequence, hcapability, hmax, h⟩
    exact ⟨_, hcapability, hmax, h⟩

end Integrator

/-! ## The module `endpoint` -/

namespace Endpoint

variable {keccak256 : List Byte → Digest} {srcChain dstChain : ChainId}
  {srcAddr dstAddr payloadHash : List Byte}

theorem sendMessage_eq_ok {dstAddr : UniversalAddress} :
    sendMessage s I dstChain dstAddr payloadHash = .ok (sequence, t) ↔
      payloadHash.length = 32 ∧ ∃ table,
        (s.accounts I).adapterStore .send = some ⟨table⟩ ∧
        table.borrowWithDefault dstChain 0#128 ≠ 0#128 ∧
        (s.accounts I).integratorCapability = some ⟨sequence⟩ ∧ sequence ≠ BitVec.allOnes 64 ∧
        s.outboxMessages ⟨I, sequence⟩ = none ∧
        t = { s.setAccount I { s.accounts I with
            integratorCapability := some ⟨sequence + 1#64⟩ } with
          outboxMessages := s.outboxMessages.upsert ⟨I, sequence⟩
            ⟨UniversalAddress.fromAddress I, sequence, dstChain, dstAddr, payloadHash,
              table.borrowWithDefault dstChain 0#128⟩ } := by
  simp only [sendMessage, Integrator.getEnabledSendAdapters, require_bind_eq_ok,
    Integrator.getEnabledAdapters_bind_eq_ok, Integrator.useSequence_bind_eq_ok,
    Table.add_bind_eq_ok, pure_eq_ok, Prod.mk.injEq]
  refine and_congr_right fun _ => exists_congr fun table => ?_
  constructor
  · rintro ⟨hstore, hne, sequence, hcapability, hmax, hnone, rfl, ht⟩
    exact ⟨hstore, hne, hcapability, hmax, hnone, ht⟩
  · rintro ⟨hstore, hne, hcapability, hmax, hnone, ht⟩
    exact ⟨hstore, hne, sequence, hcapability, hmax, hnone, rfl, ht⟩

theorem pickUpMessage_eq_ok {message' : OutboxMessage} :
    pickUpMessage s A I sequence = .ok (message', t) ↔
      ∃ message adapterToIndex index, s.outboxMessages ⟨I, sequence⟩ = some message ∧
        (s.accounts I).adapterToIndexStore = some ⟨adapterToIndex⟩ ∧
        adapterToIndex A = some index ∧ index.toNat < 128 ∧
        index.toNat ∈ indices message.outstandingAdapters ∧
        message' = { message with
          outstandingAdapters :=
            message.outstandingAdapters &&& ~~~BitVec.twoPow 128 index.toNat } ∧
        t = { s with
          outboxMessages := if message'.outstandingAdapters = 0#128
            then s.outboxMessages.remove ⟨I, sequence⟩
            else s.outboxMessages.upsert ⟨I, sequence⟩ message' } := by
  simp only [pickUpMessage, Table.borrow_bind_eq_ok, Integrator.getAdapterIndex_bind_eq_ok]
  simp only [bind_eq_ok, Bitmap.disable_eq_ok, pure_eq_ok, Prod.mk.injEq]
  constructor
  · rintro ⟨message, hm, table, index, hstore, hindex, _, ⟨hlt, hmem, rfl⟩, rfl, rfl⟩
    exact ⟨message, table, index, hm, hstore, hindex, hlt, hmem, rfl, rfl⟩
  · rintro ⟨message, table, index, hm, hstore, hindex, hlt, hmem, rfl, rfl⟩
    exact ⟨message, hm, table, index, hstore, hindex, _, ⟨hlt, hmem, rfl⟩, rfl, rfl⟩

/-- The message with the fields. -/
def messageOf (srcChain : ChainId) (srcAddr : List Byte) (sequence : BitVec 64) (dstChain : ChainId)
    (dstAddr payloadHash : List Byte) : Message :=
  ⟨srcChain, beWord 256 srcAddr, sequence, dstChain, beWord 256 dstAddr, beWord 256 payloadHash⟩

/-- Byte strings of length 32 are packed as they are. -/
theorem hashInput_eq (hsrc : srcAddr.length = 32) (hdst : dstAddr.length = 32)
    (hpayload : payloadHash.length = 32) :
    hashInput srcChain srcAddr sequence dstChain dstAddr payloadHash =
      (messageOf srcChain srcAddr sequence dstChain dstAddr payloadHash).encodePacked := by
  have hbytes : ∀ bs : List Byte, bs.length = 32 → beBytes 32 (beWord 256 bs) = bs := by
    intro bs h
    have hword : beBytes bs.length (beWord 256 bs) = bs := beBytes_beWord (by rw [h])
    rwa [h] at hword
  simp only [hashInput, bcsToBytes, reverse_leBytes, Message.encodePacked, messageOf, hbytes _ hsrc,
    hbytes _ hdst, hbytes _ hpayload]

theorem computeMessageHash_bind_eq_ok {f : Digest → Except Error β} {b : β} :
    (computeMessageHash keccak256 srcChain srcAddr sequence dstChain dstAddr payloadHash >>= f) =
        .ok b ↔
      srcAddr.length = 32 ∧ dstAddr.length = 32 ∧ payloadHash.length = 32 ∧
        f (keccak256 (messageOf srcChain srcAddr sequence dstChain dstAddr
          payloadHash).encodePacked) = .ok b := by
  simp only [computeMessageHash, bind_assoc, require_bind_eq_ok, pure_bind]
  refine and_congr_right fun h₁ => and_congr_right fun h₂ => and_congr_right fun h₃ => ?_
  rw [hashInput_eq h₁ h₂ h₃]

theorem attestMessage_eq_ok :
    attestMessage keccak256 s A srcChain srcAddr sequence dstChain dstAddr payloadHash = .ok t ↔
      srcAddr.length = 32 ∧ dstAddr.length = 32 ∧ payloadHash.length = 32 ∧
      ∃ m adapterToIndex index table info,
        m = messageOf srcChain srcAddr sequence dstChain dstAddr payloadHash ∧
        (s.accounts m.dstAddr).adapterToIndexStore = some ⟨adapterToIndex⟩ ∧
        adapterToIndex A = some index ∧
        (s.accounts m.dstAddr).adapterStore .recv = some ⟨table⟩ ∧ index.toNat < 128 ∧
        index.toNat ∈ indices (table.borrowWithDefault srcChain 0#128) ∧
        info = s.attestationInfos.borrowWithDefault (keccak256 m.encodePacked) {} ∧
        index.toNat ∉ indices info.attestedAdapters ∧
        t = { s with
          attestationInfos := s.attestationInfos.upsert (keccak256 m.encodePacked) { info with
            attestedAdapters :=
              info.attestedAdapters ||| BitVec.twoPow 128 index.toNat } } := by
  simp only [attestMessage, Integrator.getEnabledRecvAdapters,
    bind_eq_ok (x := UniversalAddress.fromBytes dstAddr), Integrator.getAdapterIndex_bind_eq_ok,
    Integrator.getEnabledAdapters_bind_eq_ok,
    Bitmap.get_bind_eq_ok, require_bind_eq_ok, computeMessageHash_bind_eq_ok, decide_eq_true_eq]
  simp only [bind_eq_ok, Bitmap.enable_eq_ok, pure_eq_ok]
  constructor
  · rintro ⟨universalAddress, haddr, adapterToIndex, index, hstore, hindex, table, htable,
      hlt, hmem, hsrc, hdst, hpayload, _, ⟨-, hnew, rfl⟩, rfl⟩
    rw [UniversalAddress.fromBytes_of_length hdst] at haddr
    cases haddr
    exact ⟨hsrc, hdst, hpayload, _, adapterToIndex, index, table, _, rfl, hstore, hindex,
      htable, hlt, hmem, rfl, hnew, rfl⟩
  · rintro ⟨hsrc, hdst, hpayload, _, adapterToIndex, index, table, _, rfl, hstore, hindex,
      htable, hlt, hmem, rfl, hnew, rfl⟩
    exact ⟨_, UniversalAddress.fromBytes_of_length hdst, adapterToIndex, index, hstore,
      hindex, table, htable, hlt, hmem, hsrc, hdst, hpayload, _, ⟨hlt, hnew, rfl⟩, rfl⟩

/-- The message with the fields, to the integrator. -/
def messageTo (srcChain : ChainId) (srcAddr : List Byte) (sequence : BitVec 64) (dstChain : ChainId)
    (integratorAcct : Address) (payloadHash : List Byte) : Message :=
  ⟨srcChain, beWord 256 srcAddr, sequence, dstChain, integratorAcct, beWord 256 payloadHash⟩

theorem messageOf_fromAddress : messageOf srcChain srcAddr sequence dstChain
    (UniversalAddress.fromAddress I).universalAddress payloadHash =
      messageTo srcChain srcAddr sequence dstChain I payloadHash := by
  have haddr : beWord 256 (UniversalAddress.fromAddress I).universalAddress = I :=
    UniversalAddress.toAddress_fromAddress I
  rw [messageOf, haddr, messageTo]

theorem recvMessage_eq_ok {enabled attested : BitVec 128} :
    recvMessage keccak256 s I srcChain srcAddr sequence dstChain payloadHash =
        .ok ((enabled, attested), t) ↔
      srcAddr.length = 32 ∧ payloadHash.length = 32 ∧
      ∃ m info table, m = messageTo srcChain srcAddr sequence dstChain I payloadHash ∧
        s.attestationInfos (keccak256 m.encodePacked) = some info ∧ info.executed = false ∧
        (s.accounts I).adapterStore .recv = some ⟨table⟩ ∧
        enabled = table.borrowWithDefault srcChain 0#128 ∧ attested = info.attestedAdapters ∧
        t = { s with
          attestationInfos := s.attestationInfos.upsert (keccak256 m.encodePacked)
            { info with executed := true } } := by
  simp only [recvMessage, Integrator.getEnabledRecvAdapters, computeMessageHash_bind_eq_ok,
    Table.borrow_bind_eq_ok, require_bind_eq_ok, Integrator.getEnabledAdapters_bind_eq_ok,
    pure_eq_ok,
    Prod.mk.injEq, messageOf_fromAddress]
  constructor
  · rintro ⟨hsrc, -, hpayload, info, hinfo, hexecuted, table, htable, ⟨henabled, hattested⟩, ht⟩
    exact ⟨hsrc, hpayload, _, info, table, rfl, hinfo, hexecuted, htable, henabled, hattested, ht⟩
  · rintro ⟨hsrc, hpayload, _, info, table, rfl, hinfo, hexecuted, htable, henabled, hattested, ht⟩
    exact ⟨hsrc, (UniversalAddress.fromAddress I).length_eq, hpayload, info, hinfo,
      hexecuted, table, htable, ⟨henabled, hattested⟩, ht⟩

theorem execMessage_eq_ok :
    execMessage keccak256 s I srcChain srcAddr sequence dstChain payloadHash = .ok t ↔
      srcAddr.length = 32 ∧ payloadHash.length = 32 ∧
      ∃ m info, m = messageTo srcChain srcAddr sequence dstChain I payloadHash ∧
        info = s.attestationInfos.borrowWithDefault (keccak256 m.encodePacked) {} ∧
        info.executed = false ∧
        t = { s with
          attestationInfos := s.attestationInfos.upsert (keccak256 m.encodePacked)
            { info with executed := true } } := by
  simp only [execMessage, computeMessageHash_bind_eq_ok, require_bind_eq_ok, pure_eq_ok,
    messageOf_fromAddress]
  constructor
  · rintro ⟨hsrc, -, hpayload, hexecuted, ht⟩
    exact ⟨hsrc, hpayload, _, _, rfl, rfl, hexecuted, ht⟩
  · rintro ⟨hsrc, hpayload, _, _, rfl, rfl, hexecuted, ht⟩
    exact ⟨hsrc, (UniversalAddress.fromAddress I).length_eq, hpayload, hexecuted, ht⟩

end Endpoint

theorem noOutput_eq_ok {x : Except Error State} {o : Output} :
    noOutput x = .ok (t, o) ↔ x = .ok t ∧ o = .unit := by
  simp only [noOutput, bind_eq_ok, pure_eq_ok, Prod.mk.injEq]
  constructor
  · rintro ⟨_, h, rfl, rfl⟩
    exact ⟨h, rfl⟩
  · rintro ⟨h, rfl⟩
    exact ⟨t, h, rfl, rfl⟩

end GmpRouter.Aptos
