import GmpRouter.Svm.Outbox

/-!
# The adapter registry of the SVM endpoint

An adapter is in the vector of its integrator exactly when it has an account, and four kinds of
accounts have bitmaps over the indices of the vector (`RegistryInv`). Since every stored index is
less than 128, no instruction leaves the bounds of a bitmap (`process_ne_bitmapIndexOutOfBounds`).
-/

namespace GmpRouter.Svm

open GmpRouter.Bitmap (indices)

variable {E : Env} {s t : State} {l : Log} {a b : Router.State} {o : Output} {I A : Pubkey}
  {x : Address}

/-! ## The invariant -/

/-- What the accounts of a registered integrator say of its adapters. -/
structure RegistryInv (E : Env) (s : State) (I : Pubkey) (config : IntegratorConfig) : Prop where
  nodup : config.adapterInfos.Nodup
  length_le : config.adapterInfos.length ≤ 128
  adapterInfo_iff : ∀ A, (∃ x info, s.accounts x = some (.adapterInfo info) ∧
    info.integratorProgramId = I ∧ info.adapterProgramId = A) ↔ A ∈ config.adapterInfos
  index : ∀ x info, s.accounts x = some (.adapterInfo info) → info.integratorProgramId = I →
    x = E.pda (.adapterInfo I info.adapterProgramId) ∧
      config.adapterInfos[info.index.toNat]? = some info.adapterProgramId
  chainConfig : ∀ x chainConfig, s.accounts x = some (.integratorChainConfig chainConfig) →
    chainConfig.integratorProgramId = I →
      ∀ d, ∀ i ∈ indices (chainConfig.bitmap d), i < config.adapterInfos.length
  outbox : ∀ x message, s.accounts x = some (.outboxMessage message) → message.srcAddr = I →
    ∀ i ∈ indices message.outstandingAdapters, i < config.adapterInfos.length
  attestation : CollisionFree E.keccak → ∀ x info, s.accounts x = some (.attestationInfo info) →
    info.dstAddr = I → ∀ i ∈ indices info.attestedAdapters, i < config.adapterInfos.length

namespace Refines

/-- An account of an adapter is at the address of the adapter, and has its index. -/
theorem adapterInfo_stored (h : Refines E s a) {info : AdapterInfo}
    (hx : s.accounts x = some (.adapterInfo info)) :
    x = E.pda (.adapterInfo info.integratorProgramId info.adapterProgramId) ∧
      ∃ c, a.integrators info.integratorProgramId = some c ∧
        c.adapters.idxOf? info.adapterProgramId = some info.index.toNat := by
  obtain ⟨hpda, -⟩ := (h.canonical _ _ hx).address_eq _ _ rfl
  exact ⟨hpda, h.adapterInfo_at (hpda ▸ hx)⟩

theorem index_lt (h : Refines E s a) {info : AdapterInfo}
    (hx : s.accounts x = some (.adapterInfo info)) : info.index.toNat < 128 := by
  obtain ⟨-, c, hc, hindex⟩ := h.adapterInfo_stored hx
  have hlt := (List.idxOf?_eq_some_iff.1 hindex).1
  have hle := (h.inv.integrators _ c hc).length_le
  omega

/-- The accounts of an integrator agree on its adapters. -/
theorem registryInv (h : Refines E s a) {c : Router.Integrator} (hc : a.integrators I = some c)
    (hattested : CollisionFree E.keccak → ∀ m : Message, m.dstAddr = I →
      ∀ i ∈ indices (s.attestationOf E m).attestedAdapters, i < c.adapters.length) :
    RegistryInv E s I (configOf E I c) where
  nodup := (h.inv.integrators I c hc).nodup
  length_le := (h.inv.integrators I c hc).length_le
  adapterInfo_iff A := by
    constructor
    · rintro ⟨y, info, hy, rfl, rfl⟩
      obtain ⟨-, c', hc', hindex⟩ := h.adapterInfo_stored hy
      obtain rfl : c = c' := Option.some.inj (hc.symm.trans hc')
      have hsome : (c.adapters.idxOf? info.adapterProgramId).isSome = true := by
        rw [hindex, Option.isSome_some]
      exact List.isSome_idxOf?.1 hsome
    · intro hA
      obtain ⟨i, hi⟩ : ∃ i, c.adapters.idxOf? A = some i :=
        Option.isSome_iff_exists.1 (List.isSome_idxOf?.2 hA)
      have hview := (h.represents.integrator I).adapterInfo A
      rw [hc, Option.bind_some, hi, Option.map_some, view_adapterInfo] at hview
      exact ⟨_, _, hview, rfl, rfl⟩
  index y info hy hI := by
    obtain ⟨hpda, c', hc', hindex⟩ := h.adapterInfo_stored hy
    rw [hI] at hpda hc'
    obtain rfl : c = c' := Option.some.inj (hc.symm.trans hc')
    obtain ⟨hlt, hget, -⟩ := List.idxOf?_eq_some_iff.1 hindex
    exact ⟨hpda, (List.getElem?_eq_getElem hlt).trans (congrArg some hget)⟩
  chainConfig y chainConfig hy hI d i hi := by
    obtain ⟨hpda, -⟩ := (h.canonical _ _ hy).address_eq _ _ rfl
    have hconfig := chainConfigOf_eq (hpda ▸ hy)
    rw [hI] at hconfig
    refine (h.inv.integrators I c hc).enabled_lt d chainConfig.chainId i ?_
    rw [h.enabled_eq hc, hconfig]
    exact hi
  outbox y message hy hI i hi := by
    obtain ⟨k, rfl⟩ := (h.canonical _ _ hy).external rfl
    have hout := (h.represents.outbox.exists_iff message.srcAddr message.sequence
      message.outgoing).2 ⟨k, message, view_outbox.2 hy, rfl, rfl, rfl⟩
    obtain ⟨-, c', hc', -, hlt⟩ := h.inv.outbox _ _ _ hout
    rw [hI] at hc'
    obtain rfl : c = c' := Option.some.inj (hc.symm.trans hc')
    exact hlt i hi
  attestation hK y info hy hI i hi := by
    have hvalid : info.Valid E := (h.canonical _ _ hy).valid
    obtain ⟨hpda, -⟩ := (h.canonical _ _ hy).address_eq _ _ rfl
    rw [hvalid.messageHash_eq] at hpda
    have hold : s.attestationOf E info.message = info := attestationOf_eq (hpda ▸ hy)
    have hi' : i ∈ indices (s.attestationOf E info.message).attestedAdapters := by
      rw [hold]
      exact hi
    exact hattested hK info.message hI i hi'

/-- The accounts of adapters never change, and vectors only grow at their ends. -/
theorem adapterInfo_of_path (h : Refines E s a) (hpath : (machine E).Path s l t)
    {info : AdapterInfo} (hx : s.accounts x = some (.adapterInfo info)) :
    t.accounts x = some (.adapterInfo info) := by
  obtain ⟨l', b, hpath', hb, -⟩ := (simulation E).path hpath h
  obtain ⟨hpda, c, hc, hindex⟩ := h.adapterInfo_stored hx
  obtain ⟨c', hc', hprefix, -⟩ := Router.grows_of_path hpath' _ c hc
  have hindex' := (Router.idxOf?_of_isPrefix hprefix (List.idxOf?_eq_some_iff.1 hindex).1).2 hindex
  have hold := (h.represents.integrator info.integratorProgramId).adapterInfo info.adapterProgramId
  have hnew := (hb.represents.integrator info.integratorProgramId).adapterInfo info.adapterProgramId
  rw [hc, Option.bind_some, hindex] at hold
  rw [hc', Option.bind_some, hindex', ← hold] at hnew
  rw [hpda] at hx ⊢
  exact view_adapterInfo.1 (hnew.trans (view_adapterInfo.2 hx))

theorem config_of_path (h : Refines E s a) (hpath : (machine E).Path s l t)
    {config : IntegratorConfig} (hx : s.accounts x = some (.integratorConfig config)) :
    ∃ config', t.accounts x = some (.integratorConfig config') ∧
      config.adapterInfos <+: config'.adapterInfos := by
  obtain ⟨l', b, hpath', hb, -⟩ := (simulation E).path hpath h
  obtain ⟨hpda, c, hc, heq⟩ := h.config_eq hx
  obtain ⟨c', hc', hprefix, -⟩ := Router.grows_of_path hpath' _ c hc
  have hnew := (hb.represents.integrator config.integratorProgramId).config
  rw [hc', Option.map_some, view_config, ← hpda] at hnew
  refine ⟨_, hnew, ?_⟩
  rw [heq]
  exact hprefix

end Refines

theorem registryInv_of_path (h : (machine E).Path .init l s) {config : IntegratorConfig}
    (hx : s.accounts x = some (.integratorConfig config)) :
    RegistryInv E s config.integratorProgramId config := by
  obtain ⟨a, ha⟩ := exists_refines h
  obtain ⟨hpda, c, hc, heq⟩ := ha.config_eq hx
  have hinv := ha.registryInv hc fun hK m hm i hi => ?_
  · rwa [← heq] at hinv
  · obtain ⟨config', adapter, hconfig', hget, -⟩ := attestedBy_of_mem hK h hi
    rw [hm, ← hpda, hx] at hconfig'
    cases hconfig'
    have hlt := (List.getElem?_eq_some_iff.1 hget).1
    rwa [heq] at hlt

/-! ## Indices out of bounds -/

section NeError

variable {α β : Type} [AccountType α] {address : Address} {signer : Pubkey}

theorem load_bind_ne_error {f : α → Except Error β}
    (hf : ∀ x, s.accounts address = some (AccountType.account x) →
      f x ≠ .error .bitmapIndexOutOfBounds) :
    (load s address >>= f) ≠ .error .bitmapIndexOutOfBounds := by
  rw [load, bind_assoc]
  refine orFail_bind_ne_error (by decide) fun account haccount => ?_
  refine orFail_bind_ne_error (by decide) fun x hx => hf x ?_
  rw [haccount, AccountType.data_eq_some.1 hx]

theorem initIfNeeded_bind_ne_error {new : α} {f : α → Except Error β}
    (hf : ∀ x, f x ≠ .error .bitmapIndexOutOfBounds) :
    (initIfNeeded s address new >>= f) ≠ .error .bitmapIndexOutOfBounds := by
  refine bind_ne_error ?_ fun x _ => hf x
  unfold initIfNeeded
  split
  · exact pure_ne_error
  · rw [← bind_pure (orFail _ _)]
    exact orFail_bind_ne_error (by decide) fun _ _ => pure_ne_error

theorem checkAdmin_bind_ne_error {config : IntegratorConfig} {f : Unit → Except Error β}
    (hf : f () ≠ .error .bitmapIndexOutOfBounds) :
    (config.checkAdmin signer >>= f) ≠ .error .bitmapIndexOutOfBounds := by
  rw [IntegratorConfig.checkAdmin, bind_assoc]
  refine require_bind_ne_error (by decide) fun _ => ?_
  exact require_bind_ne_error (by decide) fun _ => hf

theorem Bitmap.get_bind_ne_error {map : BitVec 128} {index : BitVec 8} {f : Bool → Except Error β}
    (hlt : index.toNat < 128) (hf : ∀ b, f b ≠ .error .bitmapIndexOutOfBounds) :
    (Bitmap.get map index >>= f) ≠ .error .bitmapIndexOutOfBounds := by
  have hindex : index < 128#8 := hlt
  rw [Bitmap.get, require, if_pos hindex]
  exact hf _

theorem Bitmap.set_bind_ne_error {map : BitVec 128} {index : BitVec 8} {value : Bool}
    {f : BitVec 128 → Except Error β} (hlt : index.toNat < 128)
    (hf : ∀ map', f map' ≠ .error .bitmapIndexOutOfBounds) :
    (Bitmap.set map index value >>= f) ≠ .error .bitmapIndexOutOfBounds := by
  have hindex : index < 128#8 := hlt
  rw [Bitmap.set, require, if_pos hindex]
  exact hf _

theorem AttestationInfo.orNew_bind_ne_error {info : AttestationInfo} {bump : Byte} {m : Message}
    {f : AttestationInfo → Except Error β}
    (hf : ∀ info', f info' ≠ .error .bitmapIndexOutOfBounds) :
    (info.orNew E bump m >>= f) ≠ .error .bitmapIndexOutOfBounds := by
  refine bind_ne_error ?_ fun x _ => hf x
  unfold AttestationInfo.orNew AttestationInfo.new
  split
  · exact require_bind_ne_error (by decide) fun _ => pure_ne_error
  · exact pure_ne_error

end NeError

theorem enableAdapter_ne_error {d : Direction} {ctx : SetAdapter} {args : AdapterInfoArgs}
    (h : Refines E s a) : enableAdapter d E s ctx args ≠ .error .bitmapIndexOutOfBounds := by
  refine load_bind_ne_error fun config _ => load_bind_ne_error fun info hinfo => ?_
  have hlt := h.index_lt hinfo
  refine require_bind_ne_error (by decide) fun _ => initIfNeeded_bind_ne_error fun chainConfig => ?_
  refine require_bind_ne_error (by decide) fun _ => require_bind_ne_error (by decide) fun _ => ?_
  refine checkAdmin_bind_ne_error (require_bind_ne_error (by decide) fun _ => ?_)
  refine Bitmap.get_bind_ne_error hlt fun _ => require_bind_ne_error (by decide) fun _ => ?_
  exact Bitmap.set_bind_ne_error hlt fun _ => pure_ne_error

theorem disableAdapter_ne_error {d : Direction} {ctx : SetAdapter} {args : AdapterInfoArgs}
    (h : Refines E s a) : disableAdapter d E s ctx args ≠ .error .bitmapIndexOutOfBounds := by
  refine load_bind_ne_error fun config _ => load_bind_ne_error fun chainConfig _ => ?_
  refine load_bind_ne_error fun info hinfo => ?_
  have hlt := h.index_lt hinfo
  refine require_bind_ne_error (by decide) fun _ => require_bind_ne_error (by decide) fun _ => ?_
  refine require_bind_ne_error (by decide) fun _ => checkAdmin_bind_ne_error ?_
  refine Bitmap.get_bind_ne_error hlt fun _ => require_bind_ne_error (by decide) fun _ => ?_
  exact Bitmap.set_bind_ne_error hlt fun _ => pure_ne_error

theorem pickUpMessage_ne_error {ctx : PickUpMessage} {args : PickUpMessageArgs}
    (h : Refines E s a) : pickUpMessage s ctx args ≠ .error .bitmapIndexOutOfBounds := by
  refine load_bind_ne_error fun message _ => load_bind_ne_error fun info hinfo => ?_
  refine require_bind_ne_error (by decide) fun _ => require_bind_ne_error (by decide) fun _ => ?_
  refine require_bind_ne_error (by decide) fun _ => require_bind_ne_error (by decide) fun _ => ?_
  exact Bitmap.set_bind_ne_error (h.index_lt hinfo) fun _ => pure_ne_error

theorem attestMessage_ne_error {ctx : AttestMessage} {args : AttestMessageArgs}
    (h : Refines E s a) : attestMessage E s ctx args ≠ .error .bitmapIndexOutOfBounds := by
  refine load_bind_ne_error fun adapter hadapter => load_bind_ne_error fun chainConfig _ => ?_
  refine require_bind_ne_error (by decide) fun _ => initIfNeeded_bind_ne_error fun info => ?_
  refine require_bind_ne_error (by decide) fun _ => require_bind_ne_error (by decide) fun _ => ?_
  refine require_bind_ne_error (by decide) fun _ => require_bind_ne_error (by decide) fun _ => ?_
  refine require_bind_ne_error (by decide) fun _ =>
    AttestationInfo.orNew_bind_ne_error fun info' => ?_
  refine require_bind_ne_error (by decide) fun _ => ?_
  exact Bitmap.set_bind_ne_error (h.index_lt hadapter) fun _ => pure_ne_error

/-- **No instruction leaves the bounds of a bitmap.** -/
theorem process_ne_bitmapIndexOutOfBounds (h : Refines E s a) (i : Instruction) :
    process E s i ≠ .error .bitmapIndexOutOfBounds := by
  cases i with
  | register ctx args =>
    refine require_bind_ne_error (by decide) fun _ => require_bind_ne_error (by decide) fun _ => ?_
    refine require_bind_ne_error (by decide) fun _ => require_bind_ne_error (by decide) fun _ => ?_
    exact require_bind_ne_error (by decide) fun _ => pure_ne_error
  | addAdapter ctx args =>
    refine load_bind_ne_error fun config _ => require_bind_ne_error (by decide) fun _ => ?_
    refine require_bind_ne_error (by decide) fun _ => require_bind_ne_error (by decide) fun _ => ?_
    refine checkAdmin_bind_ne_error (bind_ne_error ?_ fun _ _ => pure_ne_error)
    exact require_bind_ne_error (by decide) fun _ => pure_ne_error
  | enableSendAdapter | enableRecvAdapter => exact enableAdapter_ne_error h
  | disableSendAdapter | disableRecvAdapter => exact disableAdapter_ne_error h
  | updateAdmin ctx args =>
    refine load_bind_ne_error fun config _ => require_bind_ne_error (by decide) fun _ => ?_
    exact checkAdmin_bind_ne_error (orFail_bind_ne_error (by decide) fun _ _ => pure_ne_error)
  | transferAdmin ctx args =>
    refine load_bind_ne_error fun config _ => require_bind_ne_error (by decide) fun _ => ?_
    exact checkAdmin_bind_ne_error pure_ne_error
  | claimAdmin ctx =>
    refine load_bind_ne_error fun config _ => require_bind_ne_error (by decide) fun _ => ?_
    refine require_bind_ne_error (by decide) fun _ => require_bind_ne_error (by decide) fun _ => ?_
    exact orFail_bind_ne_error (by decide) fun _ _ => pure_ne_error
  | discardAdmin ctx =>
    refine load_bind_ne_error fun config _ => require_bind_ne_error (by decide) fun _ => ?_
    exact checkAdmin_bind_ne_error pure_ne_error
  | sendMessage ctx args =>
    refine load_bind_ne_error fun chainConfig _ => load_bind_ne_error fun tracker _ => ?_
    refine require_bind_ne_error (by decide) fun _ => require_bind_ne_error (by decide) fun _ => ?_
    refine require_bind_ne_error (by decide) fun _ => require_bind_ne_error (by decide) fun _ => ?_
    refine require_bind_ne_error (by decide) fun _ => require_bind_ne_error (by decide) fun _ => ?_
    refine bind_ne_error ?_ fun _ _ => pure_ne_error
    exact require_bind_ne_error (by decide) fun _ => pure_ne_error
  | pickUpMessage => exact pickUpMessage_ne_error h
  | attestMessage => exact attestMessage_ne_error h
  | recvMessage ctx args =>
    refine load_bind_ne_error fun chainConfig _ => load_bind_ne_error fun info _ => ?_
    refine require_bind_ne_error (by decide) fun _ => require_bind_ne_error (by decide) fun _ => ?_
    refine require_bind_ne_error (by decide) fun _ => require_bind_ne_error (by decide) fun _ => ?_
    exact pure_ne_error
  | execMessage ctx args =>
    refine require_bind_ne_error (by decide) fun _ => initIfNeeded_bind_ne_error fun info => ?_
    refine require_bind_ne_error (by decide) fun _ => require_bind_ne_error (by decide) fun _ => ?_
    exact AttestationInfo.orNew_bind_ne_error fun _ => pure_ne_error

/-! ## The registry along runs -/

/-- The length of the vector fits into the byte in which it is stored. -/
theorem index_of_addAdapter {ctx : AddAdapter} {args : AddAdapterArgs}
    (hadd : process E s (.addAdapter ctx args) = .ok (t, o)) :
    ∃ config info, s.accounts ctx.integratorConfig = some (.integratorConfig config) ∧
      t.accounts ctx.adapterInfo = some (.adapterInfo info) ∧
      info.integratorProgramId = args.integratorProgramId ∧
      info.adapterProgramId = args.adapterProgramId ∧
      info.index.toNat = config.adapterInfos.length ∧
      o.event = .adapterAdded args.integratorProgramId args.adapterProgramId info.index := by
  obtain ⟨config, hconfig, -, -, hlt, rfl, rfl⟩ := addAdapter_eq_ok.1 hadd
  refine ⟨config, _, hconfig.1.1, State.set_self .., rfl, rfl, ?_, rfl⟩
  rw [BitVec.toNat_ofNat]
  exact Nat.mod_eq_of_lt (by omega)

/-- **The adapter registry.** After every history from deployment the accounts of every integrator
agree on its adapters. Later the vector of its adapters has only grown at the end, and the accounts
of adapters are the same. No instruction leaves the bounds of a bitmap: every stored index is less
than 128, and the length of the vector is not truncated where it is stored as an index. -/
theorem adapter_infos_registry (h : (machine E).Path .init l s) :
    (∀ x config, s.accounts x = some (.integratorConfig config) →
      RegistryInv E s config.integratorProgramId config) ∧
    (∀ l' t, (machine E).Path s l' t →
      (∀ x config, s.accounts x = some (.integratorConfig config) →
        ∃ config', t.accounts x = some (.integratorConfig config') ∧
          config.adapterInfos <+: config'.adapterInfos) ∧
      ∀ x info, s.accounts x = some (.adapterInfo info) →
        t.accounts x = some (.adapterInfo info)) ∧
    (∀ i, process E s i ≠ .error .bitmapIndexOutOfBounds) ∧
    (∀ x info, s.accounts x = some (.adapterInfo info) →
      ∀ map, Bitmap.get map info.index = .ok (Bitmap.getOrFalse map info.index)) ∧
    ∀ ctx args t o, process E s (.addAdapter ctx args) = .ok (t, o) →
      ∃ config info, s.accounts ctx.integratorConfig = some (.integratorConfig config) ∧
        t.accounts ctx.adapterInfo = some (.adapterInfo info) ∧
        info.integratorProgramId = args.integratorProgramId ∧
        info.adapterProgramId = args.adapterProgramId ∧
        info.index.toNat = config.adapterInfos.length ∧
        o.event = .adapterAdded args.integratorProgramId args.adapterProgramId info.index := by
  obtain ⟨a, ha⟩ := exists_refines h
  refine ⟨fun x config => registryInv_of_path h, fun l' t hpath =>
    ⟨fun x config => ha.config_of_path hpath, fun x info => ha.adapterInfo_of_path hpath⟩,
    process_ne_bitmapIndexOutOfBounds ha, fun x info hx map => ?_,
    fun ctx args t o => index_of_addAdapter⟩
  have hindex : info.index < 128#8 := ha.index_lt hx
  rw [Bitmap.getOrFalse, Bitmap.get, require, if_pos hindex]
  rfl

theorem adapter_infos_registry_sample : ∃ config : IntegratorConfig,
    sampleOutboxState.accounts (samplePda (.integratorConfig 10#256)) =
      some (.integratorConfig config) ∧
    config.adapterInfos = [12#256, 13#256] ∧
      RegistryInv sampleEnv sampleOutboxState 10#256 config := by
  have hregistry := (adapter_infos_registry
    ((machine sampleEnv).run_path .init sampleOutboxSetup)).1
  have hconfig : sampleOutboxState.accounts (samplePda (.integratorConfig 10#256)) =
      some (.integratorConfig ⟨255#8, 10#256, some 11#256, none, [12#256, 13#256]⟩) := by
    decide +kernel
  exact ⟨_, hconfig, rfl, hregistry _ _ hconfig⟩

end GmpRouter.Svm
