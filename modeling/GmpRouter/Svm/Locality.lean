import GmpRouter.Svm.Simulation

/-!
# The accounts that an instruction is passed

An instruction reads and writes the accounts of its context and no others (`process_local`), as the
runtime makes sure. When it succeeds, the constraints have found each of these accounts at the
address derived for one integrator, the one that the instruction concerns, or it is an outbox
message of that integrator (`passed_of_process`). For `claimAdmin` and `pickUpMessage`, whose
accounts are not constrained by the arguments, this rests on the invariant that accounts are stored
at their own addresses.
-/

namespace GmpRouter.Svm

variable {E : Env} {s s' t : State} {i : Instruction} {o : Output}

/-- The addresses of the accounts in the context of the instruction. -/
def Instruction.addresses : Instruction → List Address
  | .register ctx _ => [ctx.integratorConfig, ctx.sequenceTracker]
  | .addAdapter ctx _ => [ctx.integratorConfig, ctx.adapterInfo]
  | .enableSendAdapter ctx _ => [ctx.integratorConfig, ctx.integratorChainConfig, ctx.adapterInfo]
  | .enableRecvAdapter ctx _ => [ctx.integratorConfig, ctx.integratorChainConfig, ctx.adapterInfo]
  | .disableSendAdapter ctx _ => [ctx.integratorConfig, ctx.integratorChainConfig, ctx.adapterInfo]
  | .disableRecvAdapter ctx _ => [ctx.integratorConfig, ctx.integratorChainConfig, ctx.adapterInfo]
  | .updateAdmin ctx _ => [ctx.integratorConfig]
  | .transferAdmin ctx _ => [ctx.integratorConfig]
  | .claimAdmin ctx => [ctx.integratorConfig]
  | .discardAdmin ctx => [ctx.integratorConfig]
  | .sendMessage ctx _ =>
    [ctx.integratorChainConfig, ctx.sequenceTracker, .external ctx.outboxMessage]
  | .pickUpMessage ctx _ => [ctx.outboxMessage, ctx.adapterInfo]
  | .attestMessage ctx _ => [ctx.adapterInfo, ctx.integratorChainConfig, ctx.attestationInfo]
  | .recvMessage ctx _ => [ctx.integratorChainConfig, ctx.attestationInfo]
  | .execMessage ctx _ => [ctx.attestationInfo]

/-! ## Locality -/

/-- The state `t'` has the accounts of `t` at the addresses, and elsewhere those of `s'`. -/
structure Patch (addresses : List Address) (s' t t' : State) : Prop where
  passed : ∀ x ∈ addresses, t'.accounts x = t.accounts x
  other : ∀ x ∉ addresses, t'.accounts x = s'.accounts x

namespace Patch

variable {addresses : List Address} {t' : State} {x : Address}

theorem refl (h : ∀ x ∈ addresses, s'.accounts x = s.accounts x) : Patch addresses s' s s' :=
  ⟨h, fun _ _ => rfl⟩

theorem set (h : Patch addresses s' t t') (hx : x ∈ addresses) (account : Account) :
    Patch addresses s' (t.set x account) (t'.set x account) where
  passed y hy := by
    by_cases hyx : y = x
    · rw [hyx, State.set_self, State.set_self]
    · rw [State.set_of_ne hyx, State.set_of_ne hyx, h.passed y hy]
  other y hy := by
    rw [State.set_of_ne (ne_of_mem_of_not_mem hx hy).symm, h.other y hy]

theorem close (h : Patch addresses s' t t') (hx : x ∈ addresses) :
    Patch addresses s' (t.close x) (t'.close x) where
  passed y hy := by
    by_cases hyx : y = x
    · rw [hyx, State.close_self, State.close_self]
    · rw [State.close_of_ne hyx, State.close_of_ne hyx, h.passed y hy]
  other y hy := by
    rw [State.close_of_ne (ne_of_mem_of_not_mem hx hy).symm, h.other y hy]

end Patch

theorem Derived.congr {x : Address} {seeds : Seeds} {bump : Byte} {account : Account}
    (h : Derived s x seeds bump account) (heq : s'.accounts x = s.accounts x) :
    Derived s' x seeds bump account := ⟨heq.trans h.1, h.2⟩

theorem ByAdmin.congr {x : Address} {I signer : Pubkey} {config : IntegratorConfig}
    (h : ByAdmin s x I signer config) (heq : s'.accounts x = s.accounts x) :
    ByAdmin s' x I signer config := ⟨h.derived.congr heq, h.admin_eq, h.pendingAdmin_eq⟩

theorem LoadsOrNew.congr {α : Type} [AccountType α] {x : Address} {new a : α}
    (h : LoadsOrNew s x new a) (heq : s'.accounts x = s.accounts x) : LoadsOrNew s' x new a := by
  unfold LoadsOrNew at *
  rwa [heq]

/-- The function reads and writes only the accounts at the addresses: in a state that agrees on them
it also succeeds, with the same output, and does the same to them. -/
def Local (addresses : List Address) (f : State → Except Error (State × Output)) : Prop :=
  ∀ ⦃s s' t : State⦄ ⦃o : Output⦄, (∀ x ∈ addresses, s'.accounts x = s.accounts x) →
    f s = .ok (t, o) → ∃ t', f s' = .ok (t', o) ∧ Patch addresses s' t t'

theorem register_local (ctx : Register) (args : RegisterArgs) :
    Local [ctx.integratorConfig, ctx.sequenceTracker] (register E · ctx args) := by
  intro s s' t o h hstep
  obtain ⟨hx, hy⟩ : s'.accounts ctx.integratorConfig = s.accounts ctx.integratorConfig ∧
      s'.accounts ctx.sequenceTracker = s.accounts ctx.sequenceTracker := by simpa using h
  obtain ⟨hconfig, hnone, htracker, hnone', hpda, rfl, rfl⟩ := register_eq_ok.1 hstep
  exact ⟨_, register_eq_ok.2 ⟨hconfig, hx.trans hnone, htracker, hy.trans hnone', hpda, rfl, rfl⟩,
    ((Patch.refl h).set (by simp) _).set (by simp) _⟩

theorem addAdapter_local (ctx : AddAdapter) (args : AddAdapterArgs) :
    Local [ctx.integratorConfig, ctx.adapterInfo] (addAdapter E · ctx args) := by
  intro s s' t o h hstep
  obtain ⟨hx, hy⟩ : s'.accounts ctx.integratorConfig = s.accounts ctx.integratorConfig ∧
      s'.accounts ctx.adapterInfo = s.accounts ctx.adapterInfo := by simpa using h
  obtain ⟨config, hby, hseeds, hnone, hlt, rfl, rfl⟩ := addAdapter_eq_ok.1 hstep
  exact ⟨_, addAdapter_eq_ok.2 ⟨config, hby.congr hx, hseeds, hy.trans hnone, hlt, rfl, rfl⟩,
    ((Patch.refl h).set (by simp) _).set (by simp) _⟩

theorem enableAdapter_local (d : Direction) (ctx : SetAdapter) (args : AdapterInfoArgs) :
    Local [ctx.integratorConfig, ctx.integratorChainConfig, ctx.adapterInfo]
      (enableAdapter d E · ctx args) := by
  intro s s' t o h hstep
  obtain ⟨hx, hy, hz⟩ : s'.accounts ctx.integratorConfig = s.accounts ctx.integratorConfig ∧
      s'.accounts ctx.integratorChainConfig = s.accounts ctx.integratorChainConfig ∧
      s'.accounts ctx.adapterInfo = s.accounts ctx.adapterInfo := by simpa using h
  obtain ⟨config, info, chainConfig, _, hby, hinfo, hseeds, hnew, hne, rfl, hlt, hmem, rfl, rfl⟩ :=
    enableAdapter_eq_ok.1 hstep
  exact ⟨_, enableAdapter_eq_ok.2 ⟨config, info, chainConfig, _, hby.congr hx,
    hinfo.congr hz, hseeds, hnew.congr hy, hne, rfl, hlt, hmem, rfl, rfl⟩,
    (Patch.refl h).set (by simp) _⟩

theorem disableAdapter_local (d : Direction) (ctx : SetAdapter) (args : AdapterInfoArgs) :
    Local [ctx.integratorConfig, ctx.integratorChainConfig, ctx.adapterInfo]
      (disableAdapter d E · ctx args) := by
  intro s s' t o h hstep
  obtain ⟨hx, hy, hz⟩ : s'.accounts ctx.integratorConfig = s.accounts ctx.integratorConfig ∧
      s'.accounts ctx.integratorChainConfig = s.accounts ctx.integratorChainConfig ∧
      s'.accounts ctx.adapterInfo = s.accounts ctx.adapterInfo := by simpa using h
  obtain ⟨config, info, chainConfig, hby, hinfo, hseeds, hload, hlt, hmem, rfl, rfl⟩ :=
    disableAdapter_eq_ok.1 hstep
  exact ⟨_, disableAdapter_eq_ok.2 ⟨config, info, chainConfig, hby.congr hx, hinfo.congr hz, hseeds,
    hy.trans hload, hlt, hmem, rfl, rfl⟩, (Patch.refl h).set (by simp) _⟩

theorem updateAdmin_local (ctx : AdminContext) (args : NewAdminArgs) :
    Local [ctx.integratorConfig] (updateAdmin · ctx args) := by
  intro s s' t o h hstep
  obtain ⟨config, hby, rfl, rfl⟩ := updateAdmin_eq_ok.1 hstep
  have hx := List.mem_singleton_self ctx.integratorConfig
  exact ⟨_, updateAdmin_eq_ok.2 ⟨config, hby.congr (h _ hx), rfl, rfl⟩, (Patch.refl h).set hx _⟩

theorem transferAdmin_local (ctx : AdminContext) (args : NewAdminArgs) :
    Local [ctx.integratorConfig] (transferAdmin · ctx args) := by
  intro s s' t o h hstep
  obtain ⟨config, hby, rfl, rfl⟩ := transferAdmin_eq_ok.1 hstep
  have hx := List.mem_singleton_self ctx.integratorConfig
  exact ⟨_, transferAdmin_eq_ok.2 ⟨config, hby.congr (h _ hx), rfl, rfl⟩, (Patch.refl h).set hx _⟩

theorem claimAdmin_local (ctx : ClaimAdmin) : Local [ctx.integratorConfig] (claimAdmin · ctx) := by
  intro s s' t o h hstep
  obtain ⟨config, hload, hadmin, hpending, hsigner, rfl, rfl⟩ := claimAdmin_eq_ok.1 hstep
  have hx := List.mem_singleton_self ctx.integratorConfig
  exact ⟨_, claimAdmin_eq_ok.2 ⟨config, (h _ hx).trans hload, hadmin, hpending, hsigner, rfl, rfl⟩,
    (Patch.refl h).set hx _⟩

theorem discardAdmin_local (ctx : AdminContext) :
    Local [ctx.integratorConfig] (discardAdmin · ctx) := by
  intro s s' t o h hstep
  obtain ⟨config, hby, rfl, rfl⟩ := discardAdmin_eq_ok.1 hstep
  have hx := List.mem_singleton_self ctx.integratorConfig
  exact ⟨_, discardAdmin_eq_ok.2 ⟨config, hby.congr (h _ hx), rfl, rfl⟩, (Patch.refl h).set hx _⟩

theorem sendMessage_local (ctx : SendMessage) (args : SendMessageArgs) :
    Local [ctx.integratorChainConfig, ctx.sequenceTracker, .external ctx.outboxMessage]
      (sendMessage · ctx args) := by
  intro s s' t o h hstep
  obtain ⟨hx, hy, hz⟩ : s'.accounts ctx.integratorChainConfig =
    s.accounts ctx.integratorChainConfig ∧
      s'.accounts ctx.sequenceTracker = s.accounts ctx.sequenceTracker ∧
      s'.accounts (.external ctx.outboxMessage) = s.accounts (.external ctx.outboxMessage) := by
    simpa using h
  obtain ⟨chainConfig, tracker, hchain, htracker, hpayer, hnone, hpda, hne, hmax, rfl, rfl⟩ :=
    sendMessage_eq_ok.1 hstep
  exact ⟨_, sendMessage_eq_ok.2 ⟨chainConfig, tracker, hchain.congr hx, htracker.congr hy, hpayer,
    hz.trans hnone, hpda, hne, hmax, rfl, rfl⟩, ((Patch.refl h).set (by simp) _).set (by simp) _⟩

theorem pickUpMessage_local (ctx : PickUpMessage) (args : PickUpMessageArgs) :
    Local [ctx.outboxMessage, ctx.adapterInfo] (pickUpMessage · ctx args) := by
  intro s s' t o h hstep
  obtain ⟨hx, hy⟩ : s'.accounts ctx.outboxMessage = s.accounts ctx.outboxMessage ∧
      s'.accounts ctx.adapterInfo = s.accounts ctx.adapterInfo := by simpa using h
  obtain ⟨message, info, hload, hinfo, hrefund, hpda, hmem, rfl, rfl⟩ := pickUpMessage_eq_ok.1 hstep
  refine ⟨_, pickUpMessage_eq_ok.2 ⟨message, info, hx.trans hload, hinfo.congr hy, hrefund,
    hpda, hmem,
    rfl, rfl⟩, ?_⟩
  split
  · exact (Patch.refl h).close (by simp)
  · exact (Patch.refl h).set (by simp) _

theorem attestMessage_local (ctx : AttestMessage) (args : AttestMessageArgs) :
    Local [ctx.adapterInfo, ctx.integratorChainConfig, ctx.attestationInfo]
      (attestMessage E · ctx args) := by
  intro s s' t o h hstep
  obtain ⟨hx, hy, hz⟩ : s'.accounts ctx.adapterInfo = s.accounts ctx.adapterInfo ∧
      s'.accounts ctx.integratorChainConfig = s.accounts ctx.integratorChainConfig ∧
      s'.accounts ctx.attestationInfo = s.accounts ctx.attestationInfo := by simpa using h
  obtain ⟨adapter, chainConfig, info, info', hadapter, hpda, hchain, hseeds, hnew, hdst,
    hmem, hinfo, hmem', rfl, rfl⟩ := attestMessage_eq_ok.1 hstep
  exact ⟨_, attestMessage_eq_ok.2 ⟨adapter, chainConfig, info, info', hadapter.congr hx, hpda,
    hchain.congr hy, hseeds, hnew.congr hz, hdst, hmem, hinfo, hmem', rfl, rfl⟩,
    (Patch.refl h).set (by simp) _⟩

theorem recvMessage_local (ctx : RecvMessage) (args : RecvMessageArgs) :
    Local [ctx.integratorChainConfig, ctx.attestationInfo] (recvMessage E · ctx args) := by
  intro s s' t o h hstep
  obtain ⟨hx, hy⟩ : s'.accounts ctx.integratorChainConfig = s.accounts ctx.integratorChainConfig ∧
      s'.accounts ctx.attestationInfo = s.accounts ctx.attestationInfo := by simpa using h
  obtain ⟨chainConfig, info, hpda, hchain, hinfo, hexecuted, rfl, rfl⟩ := recvMessage_eq_ok.1 hstep
  exact ⟨_, recvMessage_eq_ok.2 ⟨chainConfig, info, hpda, hchain.congr hx, hinfo.congr hy,
    hexecuted,
    rfl, rfl⟩, (Patch.refl h).set (by simp) _⟩

theorem execMessage_local (ctx : ExecMessage) (args : RecvMessageArgs) :
    Local [ctx.attestationInfo] (execMessage E · ctx args) := by
  intro s s' t o h hstep
  obtain ⟨info, info', hseeds, hnew, hpda, hexecuted, hinfo, rfl, rfl⟩ := execMessage_eq_ok.1 hstep
  have hx := List.mem_singleton_self ctx.attestationInfo
  exact ⟨_, execMessage_eq_ok.2 ⟨info, info', hseeds, hnew.congr (h _ hx), hpda, hexecuted,
    hinfo, rfl,
    rfl⟩, (Patch.refl h).set hx _⟩

/-- **An instruction reads and writes only the accounts that it is passed.** -/
theorem process_local (i : Instruction) : Local i.addresses (process E · i) := by
  cases i with
  | register ctx args => exact register_local ctx args
  | addAdapter ctx args => exact addAdapter_local ctx args
  | enableSendAdapter ctx args => exact enableAdapter_local .send ctx args
  | enableRecvAdapter ctx args => exact enableAdapter_local .recv ctx args
  | disableSendAdapter ctx args => exact disableAdapter_local .send ctx args
  | disableRecvAdapter ctx args => exact disableAdapter_local .recv ctx args
  | updateAdmin ctx args => exact updateAdmin_local ctx args
  | transferAdmin ctx args => exact transferAdmin_local ctx args
  | claimAdmin ctx => exact claimAdmin_local ctx
  | discardAdmin ctx => exact discardAdmin_local ctx
  | sendMessage ctx args => exact sendMessage_local ctx args
  | pickUpMessage ctx args => exact pickUpMessage_local ctx args
  | attestMessage ctx args => exact attestMessage_local ctx args
  | recvMessage ctx args => exact recvMessage_local ctx args
  | execMessage ctx args => exact execMessage_local ctx args

/-- An instruction leaves the accounts alone that it is not passed. -/
theorem accounts_of_notMem (hstep : process E s i = .ok (t, o)) {x : Address}
    (hx : x ∉ i.addresses) : t.accounts x = s.accounts x := by
  have hsame : ∀ x ∈ i.addresses, s.accounts x = s.accounts x := fun _ _ => rfl
  obtain ⟨t', hstep', hpatch⟩ := process_local i hsame hstep
  obtain ⟨rfl, -⟩ := Prod.mk.inj (Except.ok.inj (hstep.symm.trans hstep'))
  exact hpatch.other x hx

/-! ## The integrator that an instruction concerns -/

/-- The integrator among the arguments. -/
def Instruction.integratorArg : Instruction → Option Pubkey
  | .register _ args => some args.integratorProgramId
  | .addAdapter _ args => some args.integratorProgramId
  | .enableSendAdapter _ args => some args.integratorProgramId
  | .enableRecvAdapter _ args => some args.integratorProgramId
  | .disableSendAdapter _ args => some args.integratorProgramId
  | .disableRecvAdapter _ args => some args.integratorProgramId
  | .updateAdmin _ args => some args.integratorProgramId
  | .transferAdmin _ args => some args.integratorProgramId
  | .claimAdmin _ => none
  | .discardAdmin _ => none
  | .sendMessage _ args => some args.integratorProgramId
  | .pickUpMessage _ _ => none
  | .attestMessage _ args => some args.integratorProgramId
  | .recvMessage _ args => some args.integratorProgramId
  | .execMessage _ args => some args.integratorProgramId

/-- The address of the `IntegratorConfig` in the context. -/
def Instruction.configAddress : Instruction → Option Address
  | .register ctx _ => some ctx.integratorConfig
  | .addAdapter ctx _ => some ctx.integratorConfig
  | .enableSendAdapter ctx _ => some ctx.integratorConfig
  | .enableRecvAdapter ctx _ => some ctx.integratorConfig
  | .disableSendAdapter ctx _ => some ctx.integratorConfig
  | .disableRecvAdapter ctx _ => some ctx.integratorConfig
  | .updateAdmin ctx _ => some ctx.integratorConfig
  | .transferAdmin ctx _ => some ctx.integratorConfig
  | .claimAdmin ctx => some ctx.integratorConfig
  | .discardAdmin ctx => some ctx.integratorConfig
  | _ => none

/-- The address of the `OutboxMessage` that is picked up. -/
def Instruction.outboxAddress : Instruction → Option Address
  | .pickUpMessage ctx _ => some ctx.outboxMessage
  | _ => none

/-- The integrator is among the arguments of the instruction, or is that of the `IntegratorConfig`
or the `OutboxMessage` that the instruction is passed. -/
def Instruction.Concerns (s : State) (J : Pubkey) (i : Instruction) : Prop :=
  i.integratorArg = some J ∨
    (i.configAddress.bind s.find).map IntegratorConfig.integratorProgramId = some J ∨
    (i.outboxAddress.bind s.find).map OutboxMessage.srcAddr = some J

instance (s : State) (J : Pubkey) (i : Instruction) : Decidable (i.Concerns s J) :=
  inferInstanceAs (Decidable (_ ∨ _ ∨ _))

/-- The integrator that an account belongs to. -/
def Account.integrator : Account → Pubkey
  | .integratorConfig config => config.integratorProgramId
  | .adapterInfo info => info.integratorProgramId
  | .integratorChainConfig config => config.integratorProgramId
  | .sequenceTracker tracker => tracker.integratorProgramId
  | .attestationInfo info => info.dstAddr
  | .outboxMessage message => message.srcAddr

/-- The account belongs to the integrator, if there is one. -/
def OwnedBy (K : Pubkey) (account : Option Account) : Prop := ∀ a ∈ account, a.integrator = K

/-- The message that an instruction attests, receives or executes. -/
def Instruction.message? : Instruction → Option Message
  | .attestMessage _ args => some args.message
  | .recvMessage _ args => some args.message
  | .execMessage _ args => some args.message
  | _ => none

/-- The instruction derives an account of the integrator from the seeds. -/
def Instruction.Derives (E : Env) (K : Pubkey) (i : Instruction) : Seeds → Prop
  | .integratorConfig I => I = K
  | .adapterInfo I _ => I = K
  | .integratorChainConfig I _ => I = K
  | .sequenceTracker I => I = K
  | .attestationInfo d => ∃ m, i.message? = some m ∧ m.dstAddr = K ∧
      AttestationInfo.computeMessageHash E m = d

/-- The address has an account, before the instruction or after it, and is derived for the
integrator or that of a message in its outbox. -/
structure Passed (E : Env) (s t : State) (i : Instruction) (K : Pubkey) (x : Address) : Prop where
  exists_account : s.accounts x ≠ none ∨ t.accounts x ≠ none
  place : (∃ seeds, x = E.pda seeds ∧ i.Derives E K seeds) ∨
    ∃ k, x = .external k ∧ OwnedBy K (s.accounts x) ∧ OwnedBy K (t.accounts x)

namespace Passed

variable {K : Pubkey} {x : Address} {seeds : Seeds}

theorem written (hx : x = E.pda seeds) (hseeds : i.Derives E K seeds) (ht : t.accounts x ≠ none) :
    Passed E s t i K x := ⟨.inr ht, .inl ⟨seeds, hx, hseeds⟩⟩

theorem derived (hs : Canonical E s) {bump : Byte} {account : Account}
    (h : Derived s x seeds bump account) (hseeds : i.Derives E K seeds) : Passed E s t i K x :=
  ⟨.inl (by simp [h.1]), .inl ⟨seeds, h.eq_pda hs, hseeds⟩⟩

end Passed

theorem set_ne_none {x y : Address} {account : Account} (h : y = x ∨ s.accounts y ≠ none) :
    (s.set x account).accounts y ≠ none := by
  by_cases hyx : y = x
  · simp [hyx]
  · rw [State.set_of_ne hyx]
    exact h.resolve_left hyx

/-! ### The accounts of each instruction -/

theorem passed_register {ctx : Register} {args : RegisterArgs}
    (hstep : register E s ctx args = .ok (t, o)) :
      ∀ x ∈ [ctx.integratorConfig, ctx.sequenceTracker],
      Passed E s t (.register ctx args) args.integratorProgramId x := by
  obtain ⟨hx, -, hy, -, -, rfl, -⟩ := register_eq_ok.1 hstep
  exact List.forall_mem_cons.2 ⟨.written hx rfl (set_ne_none (.inr (set_ne_none (.inl rfl)))),
    List.forall_mem_singleton.2 (.written hy rfl (set_ne_none (.inl rfl)))⟩

theorem passed_addAdapter (hs : Canonical E s) {ctx : AddAdapter} {args : AddAdapterArgs}
    (hstep : addAdapter E s ctx args = .ok (t, o)) : ∀ x ∈ [ctx.integratorConfig, ctx.adapterInfo],
      Passed E s t (.addAdapter ctx args) args.integratorProgramId x := by
  obtain ⟨config, hby, hy, -, -, rfl, -⟩ := addAdapter_eq_ok.1 hstep
  exact List.forall_mem_cons.2 ⟨.derived hs hby.derived rfl,
    List.forall_mem_singleton.2 (.written hy rfl (set_ne_none (.inl rfl)))⟩

/-- The three accounts of an instruction that enables or disables an adapter. -/
theorem passed_setAdapter (hs : Canonical E s) {ctx : SetAdapter} {args : AdapterInfoArgs}
    {config : IntegratorConfig} {info : AdapterInfo}
    (hby : ByAdmin s ctx.integratorConfig args.integratorProgramId ctx.admin config)
    (hinfo : Derived s ctx.adapterInfo (.adapterInfo args.integratorProgramId args.adapterProgramId)
      info.bump (.adapterInfo info))
    (hchain : ctx.integratorChainConfig =
      E.pda (.integratorChainConfig args.integratorProgramId args.chainId)) (account : Account) :
    ∀ x ∈ [ctx.integratorConfig, ctx.integratorChainConfig, ctx.adapterInfo],
      Passed E s (s.set ctx.integratorChainConfig account) i args.integratorProgramId x := by
  refine List.forall_mem_cons.2 ⟨.derived hs hby.derived rfl, List.forall_mem_cons.2
    ⟨.written hchain rfl (set_ne_none (.inl rfl)), List.forall_mem_singleton.2 ?_⟩⟩
  exact .derived hs hinfo rfl

theorem passed_enableAdapter (hs : Canonical E s) {d : Direction} {ctx : SetAdapter}
    {args : AdapterInfoArgs} (hstep : enableAdapter d E s ctx args = .ok (t, o)) :
    ∀ x ∈ [ctx.integratorConfig, ctx.integratorChainConfig, ctx.adapterInfo],
      Passed E s t i args.integratorProgramId x := by
  obtain ⟨_, _, _, _, hby, hinfo, hchain, -, -, -, -, -, rfl, -⟩ := enableAdapter_eq_ok.1 hstep
  exact passed_setAdapter hs hby hinfo hchain _

theorem passed_disableAdapter (hs : Canonical E s) {d : Direction} {ctx : SetAdapter}
    {args : AdapterInfoArgs} (hstep : disableAdapter d E s ctx args = .ok (t, o)) :
    ∀ x ∈ [ctx.integratorConfig, ctx.integratorChainConfig, ctx.adapterInfo],
      Passed E s t i args.integratorProgramId x := by
  obtain ⟨_, _, _, hby, hinfo, hchain, -, -, -, rfl, -⟩ := disableAdapter_eq_ok.1 hstep
  exact passed_setAdapter hs hby hinfo hchain _

theorem passed_updateAdmin (hs : Canonical E s) {ctx : AdminContext} {args : NewAdminArgs}
    (hstep : updateAdmin s ctx args = .ok (t, o)) :
    ∀ x ∈ [ctx.integratorConfig], Passed E s t i args.integratorProgramId x := by
  obtain ⟨_, hby, rfl, -⟩ := updateAdmin_eq_ok.1 hstep
  exact List.forall_mem_singleton.2 (.derived hs hby.derived rfl)

theorem passed_transferAdmin (hs : Canonical E s) {ctx : AdminContext} {args : NewAdminArgs}
    (hstep : transferAdmin s ctx args = .ok (t, o)) :
    ∀ x ∈ [ctx.integratorConfig], Passed E s t i args.integratorProgramId x := by
  obtain ⟨_, hby, rfl, -⟩ := transferAdmin_eq_ok.1 hstep
  exact List.forall_mem_singleton.2 (.derived hs hby.derived rfl)

theorem passed_claimAdmin (hs : Canonical E s) {ctx : ClaimAdmin}
    (hstep : claimAdmin s ctx = .ok (t, o)) :
    ∃ config : IntegratorConfig, s.find ctx.integratorConfig = some config ∧
      ∀ x ∈ [ctx.integratorConfig], Passed E s t i config.integratorProgramId x := by
  obtain ⟨config, hload, -⟩ := claimAdmin_eq_ok.1 hstep
  obtain ⟨hpda, -⟩ := (hs _ _ hload).address_eq _ _ rfl
  exact ⟨config, State.find_eq_some.2 hload,
    List.forall_mem_singleton.2 ⟨.inl (by simp [hload]), .inl ⟨_, hpda, rfl⟩⟩⟩

theorem passed_discardAdmin (hs : Canonical E s) {ctx : AdminContext}
    (hstep : discardAdmin s ctx = .ok (t, o)) :
    ∃ config : IntegratorConfig, s.find ctx.integratorConfig = some config ∧
      ∀ x ∈ [ctx.integratorConfig], Passed E s t i config.integratorProgramId x := by
  obtain ⟨config, hby, -⟩ := discardAdmin_eq_ok.1 hstep
  exact ⟨config, State.find_eq_some.2 hby.derived.1,
    List.forall_mem_singleton.2 (.derived hs hby.derived rfl)⟩

theorem passed_sendMessage (hs : Canonical E s) {ctx : SendMessage} {args : SendMessageArgs}
    (hstep : sendMessage s ctx args = .ok (t, o)) :
    ∀ x ∈ [ctx.integratorChainConfig, ctx.sequenceTracker, .external ctx.outboxMessage],
      Passed E s t i args.integratorProgramId x := by
  obtain ⟨_, _, hchain, htracker, -, hnone, -, -, -, rfl, -⟩ := sendMessage_eq_ok.1 hstep
  refine List.forall_mem_cons.2 ⟨.derived hs hchain rfl, List.forall_mem_cons.2
    ⟨.derived hs htracker rfl, List.forall_mem_singleton.2 ⟨.inr (set_ne_none (.inl rfl)),
      .inr ⟨_, rfl, by simp [OwnedBy, hnone], ?_⟩⟩⟩⟩
  rintro a ha
  rw [State.set_self] at ha
  exact Option.some.inj ha ▸ rfl

theorem passed_pickUpMessage (hs : Canonical E s) {ctx : PickUpMessage} {args : PickUpMessageArgs}
    (hstep : pickUpMessage s ctx args = .ok (t, o)) :
    ∃ message : OutboxMessage, s.find ctx.outboxMessage = some message ∧
      ∀ x ∈ [ctx.outboxMessage, ctx.adapterInfo], Passed E s t i message.srcAddr x := by
  obtain ⟨message, info, hload, hinfo, -, -, -, rfl, -⟩ := pickUpMessage_eq_ok.1 hstep
  obtain ⟨k, hk⟩ := (hs _ _ hload).external rfl
  refine ⟨message, State.find_eq_some.2 hload, List.forall_mem_cons.2
    ⟨⟨.inl (by simp [hload]), .inr ⟨k, hk, ?_, ?_⟩⟩,
      List.forall_mem_singleton.2 (.derived hs hinfo rfl)⟩⟩
  · rintro a ha
    exact Option.some.inj (hload.symm.trans ha) ▸ rfl
  · rintro a ha
    split at ha
    · simp at ha
    · rw [State.set_self] at ha
      exact Option.some.inj ha ▸ rfl

theorem passed_attestMessage (hs : Canonical E s) {ctx : AttestMessage} {args : AttestMessageArgs}
    (hstep : attestMessage E s ctx args = .ok (t, o)) :
    ∀ x ∈ [ctx.adapterInfo, ctx.integratorChainConfig, ctx.attestationInfo],
      Passed E s t (.attestMessage ctx args) args.integratorProgramId x := by
  obtain ⟨_, _, _, _, hadapter, -, hchain, hseeds, -, -, -, -, -, rfl, -⟩ :=
    attestMessage_eq_ok.1 hstep
  exact List.forall_mem_cons.2 ⟨.derived hs hadapter rfl, List.forall_mem_cons.2
    ⟨.derived hs hchain rfl,
      List.forall_mem_singleton.2 (.written hseeds ⟨_, rfl, rfl, rfl⟩ (set_ne_none (.inl rfl)))⟩⟩

theorem passed_recvMessage (hs : Canonical E s) {ctx : RecvMessage} {args : RecvMessageArgs}
    (hstep : recvMessage E s ctx args = .ok (t, o)) :
    ∀ x ∈ [ctx.integratorChainConfig, ctx.attestationInfo],
      Passed E s t (.recvMessage ctx args) args.integratorProgramId x := by
  obtain ⟨_, _, -, hchain, hinfo, -⟩ := recvMessage_eq_ok.1 hstep
  exact List.forall_mem_cons.2 ⟨.derived hs hchain rfl,
    List.forall_mem_singleton.2 (.derived hs hinfo ⟨_, rfl, rfl, rfl⟩)⟩

theorem passed_execMessage {ctx : ExecMessage} {args : RecvMessageArgs}
    (hstep : execMessage E s ctx args = .ok (t, o)) :
    ∀ x ∈ [ctx.attestationInfo],
      Passed E s t (.execMessage ctx args) args.integratorProgramId x := by
  obtain ⟨_, _, hseeds, -, -, -, -, rfl, -⟩ := execMessage_eq_ok.1 hstep
  exact List.forall_mem_singleton.2 (.written hseeds ⟨_, rfl, rfl, rfl⟩ (set_ne_none (.inl rfl)))

/-- **A successful instruction concerns one integrator**, to which all the accounts belong that it
is passed. -/
theorem passed_of_process (hs : Canonical E s) (hstep : process E s i = .ok (t, o)) :
    ∃ K, i.Concerns s K ∧ (∀ J, i.integratorArg = some J → J = K) ∧
      ∀ x ∈ i.addresses, Passed E s t i K x := by
  -- the integrator is an argument, unless the instruction takes it from an account
  have harg : ∀ K, i.integratorArg = some K → (∀ x ∈ i.addresses, Passed E s t i K x) →
      ∃ K, i.Concerns s K ∧ (∀ J, i.integratorArg = some J → J = K) ∧
        ∀ x ∈ i.addresses, Passed E s t i K x :=
    fun K hK h => ⟨K, .inl hK, fun J hJ => Option.some.inj (hJ.symm.trans hK), h⟩
  cases i with
  | register ctx args => exact harg _ rfl (passed_register hstep)
  | addAdapter ctx args => exact harg _ rfl (passed_addAdapter hs hstep)
  | enableSendAdapter ctx args | enableRecvAdapter ctx args =>
    exact harg _ rfl (passed_enableAdapter hs hstep)
  | disableSendAdapter ctx args | disableRecvAdapter ctx args =>
    exact harg _ rfl (passed_disableAdapter hs hstep)
  | updateAdmin ctx args => exact harg _ rfl (passed_updateAdmin hs hstep)
  | transferAdmin ctx args => exact harg _ rfl (passed_transferAdmin hs hstep)
  | claimAdmin ctx =>
    obtain ⟨config, hfind, hpassed⟩ := passed_claimAdmin hs hstep
    exact ⟨config.integratorProgramId,
      .inr (.inl (by simp [Instruction.configAddress, hfind])), nofun, hpassed⟩
  | discardAdmin ctx =>
    obtain ⟨config, hfind, hpassed⟩ := passed_discardAdmin hs hstep
    exact ⟨config.integratorProgramId,
      .inr (.inl (by simp [Instruction.configAddress, hfind])), nofun, hpassed⟩
  | sendMessage ctx args => exact harg _ rfl (passed_sendMessage hs hstep)
  | pickUpMessage ctx args =>
    obtain ⟨message, hfind, hpassed⟩ := passed_pickUpMessage hs hstep
    exact ⟨message.srcAddr, .inr (.inr (by simp [Instruction.outboxAddress, hfind])),
      nofun, hpassed⟩
  | attestMessage ctx args => exact harg _ rfl (passed_attestMessage hs hstep)
  | recvMessage ctx args => exact harg _ rfl (passed_recvMessage hs hstep)
  | execMessage ctx args => exact harg _ rfl (passed_execMessage hstep)

end GmpRouter.Svm
