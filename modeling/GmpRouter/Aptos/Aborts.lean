import GmpRouter.Aptos.Simulation

/-!
# Aborts of the Aptos endpoint

A call can abort at an assertion of its module, at a resource or a table entry that is missing, and
at the sequence number that would overflow. The other aborts that the code contains are not reached
from deployment: `move_to` and `table::add` find their places empty, the shifts of the bitmaps are
by less than their width, and the options of the admin are as the swaps, fills and extractions
expect (`Refines.process_ne_error`).
-/

namespace GmpRouter.Aptos

variable {α β κ : Type} [DecidableEq κ] {s : State} {a : Router.State} {e : Error}
  {keccak256 : List Byte → Digest} {I A admin newAdmin : Address} {chain : ChainId}
  {direction : Direction}

/-- The errors that are no assertion and do not come from reading a resource or a table. -/
def Error.Internal : Error → Prop
  | .abort .. | .missingData | .tableNotFound => False
  | _ => True

theorem Error.Internal.abort_ne (he : e.Internal) (location : Module) (code : ℕ) :
    .abort location code ≠ e := by
  rintro rfl
  exact he

theorem Error.Internal.missingData_ne (he : e.Internal) : .missingData ≠ e := by
  rintro rfl
  exact he

theorem Error.Internal.tableNotFound_ne (he : e.Internal) : .tableNotFound ≠ e := by
  rintro rfl
  exact he

/-- The call is a send of an integrator that has used all sequence numbers but the last. -/
def Call.Overflows (s : State) : Call → Prop
  | .sendMessage I _ _ _ => (s.accounts I).integratorCapability = some ⟨BitVec.allOnes 64⟩
  | _ => False

/-! ## The library -/

theorem castU8_bind_ne_error {n : ℕ} {f : BitVec 8 → Except Error β} (hn : n < 256)
    (hf : f (BitVec.ofNat 8 n) ≠ .error e) : (castU8 n >>= f) ≠ .error e := by
  rw [castU8, require, if_pos hn]
  exact hf

theorem Table.add_bind_ne_error {table : Table κ α} {key : κ} {value : α}
    {f : Table κ α → Except Error β} (hkey : table key = none)
    (hf : f (table.upsert key value) ≠ .error e) : (table.add key value >>= f) ≠ .error e := by
  rw [Table.add, hkey]
  exact hf

theorem OptionModule.swap_bind_ne_error {o : Option α} {new : α} {f : Option α → Except Error β}
    (ho : o ≠ none) (hf : f (some new) ≠ .error e) : (swap o new >>= f) ≠ .error e := by
  obtain ⟨old, rfl⟩ := Option.ne_none_iff_exists'.1 ho
  exact hf

theorem OptionModule.fill_bind_ne_error {new : α} {f : Option α → Except Error β}
    (hf : f (some new) ≠ .error e) : (fill none new >>= f) ≠ .error e := hf

theorem OptionModule.extract_bind_ne_error {o : Option α} {f : Option α → Except Error β}
    (ho : o ≠ none) (hf : f none ≠ .error e) : (extract o >>= f) ≠ .error e := by
  obtain ⟨old, rfl⟩ := Option.ne_none_iff_exists'.1 ho
  exact hf

namespace Bitmap

variable {bitmap : BitVec 128} {index : BitVec 8}

theorem bitmask_ne_error (hlt : index.toNat < 128) : bitmask index ≠ .error e := by
  have hindex : index < 128#8 := hlt
  rw [bitmask, require, if_pos hindex]
  exact pure_ne_error

theorem enable_ne_error (he : e.Internal) (hlt : index.toNat < 128) :
    enable bitmap index ≠ .error e :=
  bind_ne_error (bitmask_ne_error hlt) fun _ _ =>
    require_bind_ne_error (he.abort_ne _ _) fun _ => pure_ne_error

theorem disable_ne_error (he : e.Internal) (hlt : index.toNat < 128) :
    disable bitmap index ≠ .error e :=
  bind_ne_error (bitmask_ne_error hlt) fun _ _ =>
    require_bind_ne_error (he.abort_ne _ _) fun _ => pure_ne_error

theorem get_ne_error (hlt : index.toNat < 128) : get bitmap index ≠ .error e :=
  bind_ne_error (bitmask_ne_error hlt) fun _ _ => pure_ne_error

end Bitmap

theorem noOutput_ne_error {x : Except Error State} (hx : x ≠ .error e) : noOutput x ≠ .error e :=
  bind_ne_error hx fun _ _ => pure_ne_error

/-! ## The module `integrator` -/

namespace Refines

theorem index_lt (h : Refines s a) {table : Table Address (BitVec 8)} {index : BitVec 8}
    (htable : (s.accounts I).adapterToIndexStore = some ⟨table⟩) (hindex : table A = some index) :
    index.toNat < 128 := by
  obtain ⟨c, hc, hx⟩ :=
    h.represents.exists_integrator (I := I) (by rintro hI; simp [hI] at htable)
  exact hx.index_lt (h.inv.integrators I c hc) htable hindex

theorem newIntegrator_ne_error (h : Refines s a) (he : e.Internal) :
    Integrator.newIntegrator s I admin ≠ .error e := by
  refine require_bind_ne_error (he.abort_ne _ _) fun hnone => ?_
  refine require_bind_ne_error (he.abort_ne _ _) fun _ => ?_
  have hx : s.accounts I = {} := by
    by_contra hne
    obtain ⟨c, hc, hx⟩ := h.represents.exists_integrator hne
    rw [hx.capability] at hnone
    cases hnone
  rw [hx]
  exact pure_ne_error

theorem getAdapterIndex_bind_ne_error (h : Refines s a) (he : e.Internal)
    {f : BitVec 8 → Except Error β} (hf : ∀ index, index.toNat < 128 → f index ≠ .error e) :
    (Integrator.getAdapterIndex s I A >>= f) ≠ .error e := by
  rw [Integrator.getAdapterIndex, bind_assoc]
  refine orFail_bind_ne_error he.missingData_ne fun store hstore => ?_
  exact orFail_bind_ne_error he.tableNotFound_ne fun index hindex =>
    hf index (h.index_lt hstore hindex)

theorem getEnabledAdapters_ne_error (he : e.Internal) :
    Integrator.getEnabledAdapters s direction I chain ≠ .error e :=
  orFail_bind_ne_error he.missingData_ne fun _ _ => pure_ne_error

/-- After its assertions, the options of the admin are some admin and no pending one. -/
theorem borrowAdminConfig_bind_ne_error (he : e.Internal) {f : AdminConfig → Except Error β}
    (hf : f ⟨some admin, none⟩ ≠ .error e) :
    (Integrator.borrowAdminConfig s admin I >>= f) ≠ .error e := by
  rw [Integrator.borrowAdminConfig, bind_assoc]
  refine orFail_bind_ne_error he.missingData_ne fun config _ => ?_
  rw [bind_assoc]
  refine require_bind_ne_error (he.abort_ne _ _) fun hadmin => ?_
  rw [bind_assoc]
  refine require_bind_ne_error (he.abort_ne _ _) fun hpending => ?_
  obtain ⟨adminAddr, pendingAdminAddr⟩ := config
  obtain rfl := hadmin
  obtain rfl := Option.isNone_iff_eq_none.1 hpending
  exact hf

theorem updateAdmin_ne_error (he : e.Internal) :
    Integrator.updateAdmin s admin I newAdmin ≠ .error e :=
  borrowAdminConfig_bind_ne_error he <| require_bind_ne_error (he.abort_ne _ _) fun _ =>
    OptionModule.swap_bind_ne_error (by simp) pure_ne_error

theorem transferAdmin_ne_error (he : e.Internal) :
    Integrator.transferAdmin s admin I newAdmin ≠ .error e :=
  borrowAdminConfig_bind_ne_error he <| require_bind_ne_error (he.abort_ne _ _) fun _ =>
    OptionModule.fill_bind_ne_error pure_ne_error

theorem discardAdmin_ne_error (he : e.Internal) : Integrator.discardAdmin s admin I ≠ .error e :=
  borrowAdminConfig_bind_ne_error he <|
    OptionModule.extract_bind_ne_error (by simp) pure_ne_error

/-- The admin that a claim swaps is set because a pending one is. -/
theorem claimAdmin_ne_error (h : Refines s a) (he : e.Internal) :
    Integrator.claimAdmin s newAdmin I ≠ .error e := by
  refine orFail_bind_ne_error he.missingData_ne fun config hconfig => ?_
  refine require_bind_ne_error (he.abort_ne _ _) fun hpending => ?_
  refine require_bind_ne_error (he.abort_ne _ _) fun _ => ?_
  obtain ⟨c, hc, rfl⟩ := h.represents.adminConfig_eq.1 hconfig
  have hpending := Option.isSome_iff_ne_none.1 hpending
  have hadmin := (h.inv.integrators I c hc).admin_ne_none hpending
  exact OptionModule.swap_bind_ne_error hadmin
    (OptionModule.extract_bind_ne_error hpending pure_ne_error)

/-- A new adapter is not a key of the table. -/
theorem addAdapter_ne_error (h : Refines s a) (he : e.Internal) :
    Integrator.addAdapter s admin I A ≠ .error e := by
  refine borrowAdminConfig_bind_ne_error he ?_
  refine orFail_bind_ne_error he.missingData_ne fun store hstore => ?_
  refine require_bind_ne_error (he.abort_ne _ _) fun hnew => ?_
  refine require_bind_ne_error (he.abort_ne _ _) fun hlt => ?_
  refine orFail_bind_ne_error he.missingData_ne fun indexStore hindexStore => ?_
  refine castU8_bind_ne_error (lt_trans hlt (show MAX_ADAPTERS < 256 by decide)) ?_
  obtain ⟨c, hc, hx⟩ :=
    h.represents.exists_integrator (I := I) (by rintro hI; simp [hI] at hstore)
  obtain rfl : store = ⟨c.adapters⟩ := Option.some.inj (hstore.symm.trans hx.adapters)
  obtain ⟨table, htable, hindex⟩ := hx.index
  obtain rfl : indexStore = ⟨table⟩ := Option.some.inj (hindexStore.symm.trans htable)
  refine Table.add_bind_ne_error ?_ pure_ne_error
  refine (hindex A).trans ?_
  rw [List.idxOf?_eq_none_iff.2 hnew, Option.map_none]

theorem setAdapter_ne_error {change : BitVec 128 → BitVec 8 → Except Error (BitVec 128)}
    (h : Refines s a) (he : e.Internal)
    (hchange : ∀ bitmap index, index.toNat < 128 → change bitmap index ≠ .error e) :
    Integrator.setAdapter change direction s admin I chain A ≠ .error e := by
  refine borrowAdminConfig_bind_ne_error he ?_
  refine h.getAdapterIndex_bind_ne_error he fun index hlt => ?_
  refine orFail_bind_ne_error he.missingData_ne fun store _ => ?_
  exact bind_ne_error (hchange _ _ hlt) fun _ _ => pure_ne_error

/-! ## The module `endpoint` -/

variable {sequence : BitVec 64} {srcChain dstChain : ChainId} {srcAddr payloadHash : List Byte}

theorem computeMessageHash_ne_error {dstAddr : List Byte} (he : e.Internal) :
    Endpoint.computeMessageHash keccak256 srcChain srcAddr sequence dstChain dstAddr payloadHash ≠
      .error e :=
  require_bind_ne_error (he.abort_ne _ _) fun _ => require_bind_ne_error (he.abort_ne _ _) fun _ =>
    require_bind_ne_error (he.abort_ne _ _) fun _ => pure_ne_error

/-- The outbox has no message with the next sequence number. -/
theorem outboxMessages_eq_none (h : Refines s a)
    (hcapability : (s.accounts I).integratorCapability = some ⟨sequence⟩) :
    s.outboxMessages ⟨I, sequence⟩ = none := by
  obtain ⟨c, hc, hx⟩ :=
    h.represents.exists_integrator (I := I) (by rintro hI; simp [hI] at hcapability)
  obtain rfl : sequence = c.nextSequence := by simpa using hcapability.symm.trans hx.capability
  exact h.outboxMessages_nextSequence hc

theorem sendMessage_ne_error {dstAddr : UniversalAddress} (h : Refines s a) (he : e.Internal)
    (hsequence : ¬ (e = .arithmeticError ∧
      (s.accounts I).integratorCapability = some ⟨BitVec.allOnes 64⟩)) :
    Endpoint.sendMessage s I dstChain dstAddr payloadHash ≠ .error e := by
  refine require_bind_ne_error (he.abort_ne _ _) fun _ => ?_
  refine bind_ne_error (getEnabledAdapters_ne_error he) fun _ _ => ?_
  refine require_bind_ne_error (he.abort_ne _ _) fun _ => ?_
  unfold Integrator.useSequence
  rw [bind_assoc]
  refine orFail_bind_ne_error he.missingData_ne fun capability hcapability => ?_
  rw [bind_assoc]
  by_cases hmax : capability.sequence = BitVec.allOnes 64
  · have hcapability' := hcapability.trans (congrArg (some ∘ IntegratorCapability.mk) hmax)
    refine require_bind_ne_error (fun he' => hsequence ⟨he'.symm, hcapability'⟩) fun hne => ?_
    exact absurd hmax hne
  · rw [require, if_pos hmax]
    exact Table.add_bind_ne_error (h.outboxMessages_eq_none hcapability) pure_ne_error

theorem pickUpMessage_ne_error (h : Refines s a) (he : e.Internal) :
    Endpoint.pickUpMessage s A I sequence ≠ .error e := by
  refine orFail_bind_ne_error he.tableNotFound_ne fun message _ => ?_
  refine h.getAdapterIndex_bind_ne_error he fun index hlt => ?_
  exact bind_ne_error (Bitmap.disable_ne_error he hlt) fun _ _ => pure_ne_error

theorem attestMessage_ne_error {dstAddr : List Byte} (h : Refines s a) (he : e.Internal) :
    Endpoint.attestMessage keccak256 s A srcChain srcAddr sequence dstChain dstAddr payloadHash ≠
      .error e := by
  refine bind_ne_error (fun hpad => ?_) fun universalAddress _ => ?_
  · unfold UniversalAddress.fromBytes UniversalAddress.leftPad at hpad
    split at hpad
    · cases hpad
    · exact he.abort_ne _ _ (Except.error.inj hpad)
  refine h.getAdapterIndex_bind_ne_error he fun index hlt => ?_
  refine bind_ne_error (getEnabledAdapters_ne_error he) fun _ _ => ?_
  refine bind_ne_error (Bitmap.get_ne_error hlt) fun _ _ => ?_
  refine require_bind_ne_error (he.abort_ne _ _) fun _ => ?_
  refine bind_ne_error (computeMessageHash_ne_error he) fun _ _ => ?_
  exact bind_ne_error (Bitmap.enable_ne_error he hlt) fun _ _ => pure_ne_error

theorem recvMessage_ne_error (he : e.Internal) :
    Endpoint.recvMessage keccak256 s I srcChain srcAddr sequence dstChain payloadHash ≠
      .error e := by
  refine bind_ne_error (computeMessageHash_ne_error he) fun _ _ => ?_
  refine orFail_bind_ne_error he.tableNotFound_ne fun _ _ => ?_
  refine require_bind_ne_error (he.abort_ne _ _) fun _ => ?_
  exact bind_ne_error (getEnabledAdapters_ne_error he) fun _ _ => pure_ne_error

theorem execMessage_ne_error (he : e.Internal) :
    Endpoint.execMessage keccak256 s I srcChain srcAddr sequence dstChain payloadHash ≠
      .error e := by
  refine bind_ne_error (computeMessageHash_ne_error he) fun _ _ => ?_
  exact require_bind_ne_error (he.abort_ne _ _) fun _ => pure_ne_error

/-! ## Every call -/

/-- **Only assertions, missing data and the overflow of a sequence number abort a call.** -/
theorem process_ne_error (h : Refines s a) (he : e.Internal) (call : Call)
    (hoverflow : ¬ (e = .arithmeticError ∧ Call.Overflows s call)) :
    Aptos.process keccak256 s call ≠ .error e := by
  cases call with
  | register => exact noOutput_ne_error (h.newIntegrator_ne_error he)
  | updateAdmin => exact noOutput_ne_error (updateAdmin_ne_error he)
  | transferAdmin => exact noOutput_ne_error (transferAdmin_ne_error he)
  | claimAdmin => exact noOutput_ne_error (h.claimAdmin_ne_error he)
  | discardAdmin => exact noOutput_ne_error (discardAdmin_ne_error he)
  | addAdapter => exact noOutput_ne_error (h.addAdapter_ne_error he)
  | enableSendAdapter | enableRecvAdapter =>
    exact noOutput_ne_error (h.setAdapter_ne_error he fun _ _ => Bitmap.enable_ne_error he)
  | disableSendAdapter | disableRecvAdapter =>
    exact noOutput_ne_error (h.setAdapter_ne_error he fun _ _ => Bitmap.disable_ne_error he)
  | sendMessage =>
    exact bind_ne_error (h.sendMessage_ne_error he hoverflow) fun _ _ => pure_ne_error
  | pickUpMessage => exact bind_ne_error (h.pickUpMessage_ne_error he) fun _ _ => pure_ne_error
  | attestMessage => exact noOutput_ne_error (h.attestMessage_ne_error he)
  | recvMessage => exact bind_ne_error (recvMessage_ne_error he) fun _ _ => pure_ne_error
  | execMessage => exact noOutput_ne_error (execMessage_ne_error he)

end Refines

end GmpRouter.Aptos
