import GmpRouter.Evm.Registry

/-!
# Admin authority on the EVM endpoint

The configuration of an integrator is its admin, its pending admin and its part of the adapter
registry. A step changes it only through one of the admin functions or one of the five functions of
the registry, called by the admin (`configuration_of_step`). From this:

* `admin_authority`: who can change the admin, where every admin comes from, and that a discarded
  admin is final;
* `configuration_frozen_iff`: while a transfer is pending, the configuration is frozen except for
  the five functions of the registry, whose modifier `onlyAdmin` does not look at the pending admin.
-/

namespace GmpRouter.Evm

open Endpoint AdapterRegistry

variable {E : Env} {s t : State} {op : Op} {r : Receipt} {I : Address}

/-! ## The configuration of an integrator -/

/-- The part of the registry that belongs to one integrator. -/
@[ext] structure Registry.View where
  registeredAdapters : List Address
  adapterInfos : Address → AdapterInfo
  perChainSendAdapterArray : ChainId → List PerSendAdapterInfo
  perChainRecvAdapterBitmap : ChainId → BitVec 128

def Registry.view (s : Registry) (integrator : Address) : Registry.View :=
  ⟨s.registeredAdapters integrator, s.adapterInfos integrator,
    s.perChainSendAdapterArray integrator, s.perChainRecvAdapterBitmap integrator⟩

/-- What an admin controls. -/
structure Configuration where
  admin : Address
  pendingAdmin : Address
  registry : Registry.View

def configuration (s : State) (integrator : Address) : Configuration :=
  ⟨(s.integratorConfigs integrator).admin, (s.integratorConfigs integrator).pendingAdmin,
    s.toRegistry.view integrator⟩

/-- A function of the registry changes nothing of other integrators. -/
theorem view_run_of_ne {s s' : Registry} {integrator : Address} {change : Change}
    (hrun : change.run s integrator = .ok (s', r)) (hI : I ≠ integrator) :
    s'.view I = s.view I := by
  obtain rfl := Change.effect_of_run hrun
  cases change with
  | addAdapter adapter =>
    simp only [Change.effect, Registry.view, update₂_left hI, Function.update_of_ne hI]
  | _ => simp only [Change.effect, Registry.view, update₂_left hI]

/-- A successful function of the registry changes it. -/
theorem view_run_ne {s s' : Registry} (hs : s.WellFormed) {change : Change}
    (hrun : change.run s I = .ok (s', r)) : s'.view I ≠ s.view I := by
  cases change with
  | addAdapter adapter =>
    obtain ⟨-, -, -, rfl, -⟩ := addAdapter_eq_ok.1 hrun
    intro h
    simpa [Registry.view] using congrArg Registry.View.registeredAdapters h
  | enableSendAdapter chain adapter =>
    obtain ⟨-, -, rfl, -⟩ := enableSendAdapter_eq_ok.1 hrun
    intro h
    simpa [Registry.view] using congrFun (congrArg Registry.View.perChainSendAdapterArray h) chain
  | enableRecvAdapter chain adapter =>
    obtain ⟨hreg, hno, rfl, -⟩ := enableRecvAdapter_eq_ok.1 hrun
    intro h
    have hbits := congrFun (congrArg Registry.View.perChainRecvAdapterBitmap h) chain
    simp only [Registry.view, update₂_self, bit_eq_twoPow] at hbits
    exact hno ((Bitmap.or_twoPow_eq_self_iff (hs.index_lt hreg.registered)).1 hbits)
  | disableSendAdapter chain adapter =>
    obtain ⟨-, i, hi, rfl, -⟩ := disableSendAdapter_eq_ok.1 hrun
    intro h
    have hlist := congrFun (congrArg Registry.View.perChainSendAdapterArray h) chain
    have hlt := (List.findIdx?_eq_some_iff_getElem.1 hi).1
    have hlen := congrArg List.length hlist
    simp only [Registry.view, update₂_self, length_swapRemove] at hlen
    omega
  | disableRecvAdapter chain adapter =>
    obtain ⟨-, hyes, rfl, -⟩ := disableRecvAdapter_eq_ok.1 hrun
    intro h
    have hbits := congrFun (congrArg Registry.View.perChainRecvAdapterBitmap h) chain
    simp only [Registry.view, update₂_self, notBit_eq] at hbits
    exact Bitmap.le_and_not_twoPow_iff.1 (BitVec.le_of_eq hbits.symm) hyes

/-- A step leaves the configuration of an integrator alone, or is one of its admin functions, or one
of the functions of the registry, called by its admin. -/
theorem configuration_of_step (hstep : step E s op = .ok (t, r)) (I : Address) :
    (t.integratorConfigs I = s.integratorConfigs I ∧ t.toRegistry.view I = s.toRegistry.view I) ∨
    (∃ msg call config event, op = .call msg call ∧ AdminStep s msg.sender call I config event ∧
      t.integratorConfigs I = config ∧ t.toRegistry = s.toRegistry) ∨
    (∃ msg change, op = .call msg (.configure I change) ∧ OnlyAdmin s I msg.sender ∧
      change.run s.toRegistry I = .ok (t.toRegistry, r) ∧
      t.integratorConfigs = s.integratorConfigs) := by
  cases step_effect hstep with
  | @admin msg call integrator config event h =>
    by_cases hI : I = integrator
    · subst hI
      exact .inr (.inl ⟨msg, call, config, event, rfl, h, Function.update_self .., rfl⟩)
    · exact .inl ⟨Function.update_of_ne hI .., rfl⟩
  | @configure msg integrator change registry r h hrun =>
    by_cases hI : I = integrator
    · subst hI
      exact .inr (.inr ⟨msg, change, rfl, h, hrun, rfl⟩)
    · exact .inl ⟨rfl, view_run_of_ne hrun hI⟩
  | inbox | send | forward | sent => exact .inl ⟨rfl, rfl⟩

/-! ## Invariants -/

/-- An integrator that did not register has no configuration. -/
def Unregistered (s : State) (integrator : Address) : Prop :=
  (s.integratorConfigs integrator).isInitialized = false →
    configuration s integrator = configuration State.init integrator

theorem unregistered_invariant (E : Env) (I : Address) :
    (machine E).Invariant fun s => Unregistered s I := by
  intro s op r t hstep h hinit
  rcases configuration_of_step hstep I with ⟨hc, hv⟩ | ⟨msg, call, config, event, -, hadmin,
    hc, hv⟩ | ⟨msg, change, -, hadmin, hrun, hc⟩
  · rw [hc] at hinit
    rw [← h hinit, configuration, configuration, hc, hv]
  · rw [hc] at hinit
    cases hadmin with
    | register => simp at hinit
    | updateAdmin ho | transferAdmin ho | discardAdmin ho => simp [ho.isInitialized] at hinit
    | claimAdmin hp => exact absurd (congrArg Configuration.pendingAdmin (h hinit)) hp
  · rw [hc, hadmin.isInitialized] at hinit
    cases hinit

/-- The caller is not the zero address. -/
def Op.FromNonzero : Op → Prop
  | .call msg _ => msg.sender ≠ 0#160
  | _ => True

instance : DecidablePred Op.FromNonzero
  | .call _ _ => inferInstanceAs (Decidable (_ ≠ _))
  | .forward .. | .sent _ => inferInstanceAs (Decidable True)

/-- A transfer is from an admin. -/
theorem admin_ne_zero_of_step (hstep : step E s op = .ok (t, r)) (hop : op.FromNonzero)
    (h : (s.integratorConfigs I).pendingAdmin ≠ 0#160 → (s.integratorConfigs I).admin ≠ 0#160)
    (hp : (t.integratorConfigs I).pendingAdmin ≠ 0#160) :
    (t.integratorConfigs I).admin ≠ 0#160 := by
  rcases configuration_of_step hstep I with ⟨hc, -⟩ | ⟨msg, call, config, event, rfl,
    hadmin, hc, -⟩ | ⟨msg, change, -, -, -, hc⟩
  · rw [hc] at hp ⊢
    exact h hp
  · rw [hc] at hp ⊢
    cases hadmin with
    | register ha => exact ha
    | updateAdmin _ ha => exact ha
    | transferAdmin ho => exact ho.admin_eq ▸ hop
    | discardAdmin _ hp' => exact absurd hp' hp
    | claimAdmin => exact hop
  · rw [hc] at hp ⊢
    exact h hp

/-- The admin of the integrator was discarded. -/
structure Discarded (s : State) (integrator : Address) : Prop where
  isInitialized : (s.integratorConfigs integrator).isInitialized = true
  admin_eq : (s.integratorConfigs integrator).admin = 0#160
  pendingAdmin_eq : (s.integratorConfigs integrator).pendingAdmin = 0#160

theorem Discarded.of_discardAdmin {msg : Msg}
    (hstep : step E s (.call msg (.discardAdmin I)) = .ok (t, r)) : Discarded t I := by
  obtain ⟨ho, hp, rfl, -⟩ := discardAdmin_eq_ok.1 (body_of_dispatch hstep rfl).2
  exact ⟨by simp [ho.isInitialized], by simp, by simp [hp]⟩

/-- Nobody can change the configuration without an admin. -/
theorem Discarded.of_step (h : Discarded s I) (hstep : step E s op = .ok (t, r))
    (hop : op.FromNonzero) : Discarded t I ∧ configuration t I = configuration s I := by
  have hnone : ∀ {sender : Address}, sender ≠ 0#160 → ¬ OnlyAdmin s I sender :=
    fun hne ho => hne (ho.admin_eq.symm.trans h.admin_eq)
  rcases configuration_of_step hstep I with ⟨hc, hv⟩ | ⟨msg, call, config, event, rfl,
    hadmin, -, -⟩ | ⟨msg, change, rfl, ho, -, -⟩
  · obtain ⟨h₁, h₂, h₃⟩ := h
    refine ⟨⟨hc ▸ h₁, hc ▸ h₂, hc ▸ h₃⟩, ?_⟩
    rw [configuration, configuration, hc, hv]
  · cases hadmin with
    | register _ hinit => simp [h.isInitialized] at hinit
    | updateAdmin ho | transferAdmin ho | discardAdmin ho => exact absurd ho (hnone hop)
    | claimAdmin hp => exact absurd h.pendingAdmin_eq hp
  · exact absurd ho (hnone hop)

/-! ## Who changes the admin -/

/-- The call is a registration of the integrator. -/
def Op.registers (integrator : Address) : Op → Bool
  | .call msg (.register _) => msg.sender = integrator
  | _ => false

theorem latch_isInitialized (E : Env) (I : Address) :
    (machine E).Latch (fun _ => True) (fun s => (s.integratorConfigs I).isInitialized = true)
      (fun c => c.input.registers I = true) where
  invariant _ _ _ _ _ _ := trivial
  step := by
    intro s op r t hstep _
    cases step_effect hstep with
    | @admin msg call integrator config event h =>
      simp only [Function.update_apply]
      split
      · next hI =>
        subst hI
        cases h with
        | register => simp [Op.registers]
        | updateAdmin | transferAdmin | discardAdmin | claimAdmin => simp [Op.registers]
      · next hI =>
        cases h with
        | register => simp [Op.registers, Ne.symm hI]
        | updateAdmin | transferAdmin | discardAdmin | claimAdmin => simp [Op.registers]
    | inbox h => cases h <;> simp [Op.registers, State.credit]
    | configure | send | forward | sent => simp [Op.registers, State.credit]

theorem not_isInitialized_of_registers (hstep : step E s op = .ok (t, r))
    (hop : op.registers I = true) : ¬ (s.integratorConfigs I).isInitialized = true := by
  cases step_effect hstep with
  | admin h =>
    cases h with
    | register _ hinit =>
      obtain rfl : _ = I := by simpa [Op.registers] using hop
      simp [hinit]
    | updateAdmin | transferAdmin | discardAdmin | claimAdmin => simp [Op.registers] at hop
  | inbox h => cases h <;> simp [Op.registers] at hop
  | configure | send | forward | sent => simp [Op.registers] at hop

/-- The step is a call that may change the admin: a registration by the integrator itself, a call by
the admin, or a claim by the admin or the pending admin. -/
def ByAuthority (s : State) (I : Address) (op : Op) : Prop :=
  ∃ msg call, op = .call msg call ∧
    ((∃ initialAdmin, call = .register initialAdmin ∧ msg.sender = I) ∨
      msg.sender = (s.integratorConfigs I).admin ∨
      call = .claimAdmin I ∧ (s.integratorConfigs I).pendingAdmin ≠ 0#160 ∧
        (msg.sender = (s.integratorConfigs I).admin ∨
          msg.sender = (s.integratorConfigs I).pendingAdmin))

theorem byAuthority_of_ne (hstep : step E s op = .ok (t, r))
    (hne : t.integratorConfigs I ≠ s.integratorConfigs I) : ByAuthority s I op := by
  rcases configuration_of_step hstep I with ⟨hc, -⟩ | ⟨msg, call, config, event, rfl,
    hadmin, -, -⟩ | ⟨msg, change, rfl, ho, -, -⟩
  · exact absurd hc hne
  · refine ⟨msg, call, rfl, ?_⟩
    cases hadmin with
    | register => exact .inl ⟨_, rfl, rfl⟩
    | updateAdmin ho | transferAdmin ho | discardAdmin ho => exact .inr (.inl ho.admin_eq.symm)
    | claimAdmin hp hs => exact .inr (.inr ⟨rfl, hp, hs⟩)
  · exact ⟨msg, _, rfl, .inr (.inl ho.admin_eq.symm)⟩

/-- The commit names the admin of the integrator: it is the registration, or a call of `updateAdmin`
or `transferAdmin` by the admin of that moment. -/
def Names (integrator admin : Address) (c : Commit State Op Receipt) : Prop :=
  (∃ msg, c.input = .call msg (.register admin) ∧ msg.sender = integrator) ∨
    ∃ msg, (c.input = .call msg (.updateAdmin integrator admin) ∨
      c.input = .call msg (.transferAdmin integrator admin)) ∧ OnlyAdmin c.pre integrator msg.sender

theorem exists_names {log : Log} (h : (machine E).Path State.init log t) (I : Address) :
    ((t.integratorConfigs I).admin ≠ 0#160 →
      ∃ c ∈ log, Names I (t.integratorConfigs I).admin c) ∧
    ((t.integratorConfigs I).pendingAdmin ≠ 0#160 →
      ∃ c ∈ log, Names I (t.integratorConfigs I).pendingAdmin c) := by
  induction h with
  | nil => exact ⟨fun h => absurd rfl h, fun h => absurd rfl h⟩
  | @snoc l c _ hvalid ih =>
    have hold : ∀ a, (∃ d ∈ l, Names I a d) → ∃ d ∈ l ++ [c], Names I a d :=
      fun a ⟨d, hd, hn⟩ => ⟨d, List.mem_append_left _ hd, hn⟩
    have hnew : ∀ a, Names I a c → ∃ d ∈ l ++ [c], Names I a d :=
      fun a hn => ⟨c, by simp, hn⟩
    rcases configuration_of_step hvalid I with ⟨hc, -⟩ | ⟨msg, call, config, event, hop,
      hadmin, hc, -⟩ | ⟨msg, change, -, -, -, hc⟩
    · rw [hc]
      exact ⟨fun ha => hold _ (ih.1 ha), fun hp => hold _ (ih.2 hp)⟩
    · rw [hc]
      cases hadmin with
      | register => exact ⟨fun _ => hnew _ (.inl ⟨msg, hop, rfl⟩), fun hp => absurd rfl hp⟩
      | updateAdmin ho =>
        exact ⟨fun _ => hnew _ (.inr ⟨msg, .inl hop, ho⟩), fun hp => hold _ (ih.2 hp)⟩
      | transferAdmin ho =>
        exact ⟨fun ha => hold _ (ih.1 ha), fun _ => hnew _ (.inr ⟨msg, .inr hop, ho⟩)⟩
      | discardAdmin => exact ⟨fun ha => absurd rfl ha, fun hp => hold _ (ih.2 hp)⟩
      | claimAdmin _ hs =>
        refine ⟨fun ha => hold _ ?_, fun hp => absurd rfl hp⟩
        rcases hs with hs | hs
        · rw [hs] at ha ⊢
          exact ih.1 ha
        · rw [hs] at ha ⊢
          exact ih.2 ha
    · rw [hc]
      exact ⟨fun ha => hold _ (ih.1 ha), fun hp => hold _ (ih.2 hp)⟩

/-- **Admin authority.** In every history in which the zero address calls nothing, for every
integrator: its admin and pending admin change only by its one registration, by a call of the
current admin, or by a claim of the current or the pending admin; every admin was named at the
registration or by an earlier admin; a pending admin implies an admin, and an unregistered
integrator has no configuration; and after `discardAdmin` the configuration never changes again. -/
theorem admin_authority {log : Log} (h : (machine E).Path State.init log t)
    (hsender : ∀ c ∈ log, c.input.FromNonzero) (I : Address) :
    (∀ c ∈ log, c.post.integratorConfigs I ≠ c.pre.integratorConfigs I →
      ByAuthority c.pre I c.input) ∧
    log.countP (fun c => c.input.registers I) ≤ 1 ∧
    ((t.integratorConfigs I).admin ≠ 0#160 →
      ∃ c ∈ log, Names I (t.integratorConfigs I).admin c) ∧
    ((t.integratorConfigs I).pendingAdmin ≠ 0#160 → (t.integratorConfigs I).admin ≠ 0#160) ∧
    ((t.integratorConfigs I).isInitialized = false →
      configuration t I = configuration State.init I) ∧
    ∀ msg r u, step E t (.call msg (.discardAdmin I)) = .ok (u, r) →
      ∀ log' v, (machine E).Path u log' v → (∀ c ∈ log', c.input.FromNonzero) →
        configuration v I = configuration u I := by
  refine ⟨fun c hc => byAuthority_of_ne (h.valid hc), ?_, (exists_names h I).1, ?_,
    h.invariant (unregistered_invariant E I) (fun _ => rfl), ?_⟩
  · simpa using (latch_isInitialized E I).countP_le_one
      (fun s op r t hstep _ => not_isInitialized_of_registers hstep) h trivial
  · exact h.invariant_on
      (I := fun s => (s.integratorConfigs I).pendingAdmin ≠ 0#160 →
        (s.integratorConfigs I).admin ≠ 0#160)
      (fun s op r t hstep hop ih => admin_ne_zero_of_step hstep hop ih) hsender
      (fun hp => absurd rfl hp)
  · intro msg r u hdiscard log' v hlater hsender'
    exact (hlater.invariant_on
      (I := fun s => Discarded s I ∧ configuration s I = configuration u I)
      (fun s op r t hstep hop ⟨hd, hc⟩ => (hd.of_step hstep hop).imp_right (·.trans hc)) hsender'
      ⟨.of_discardAdmin hdiscard, rfl⟩).2

/-- An integrator registers an admin, who hands over to another one, who discards itself. -/
def discardTxs : List Tx :=
  [.mk ⟨10#160, 0⟩ (.register 11#160) [],
    .mk ⟨11#160, 0⟩ (.transferAdmin 10#160 13#160) [],
    .mk ⟨13#160, 0⟩ (.claimAdmin 10#160) [],
    .mk ⟨13#160, 0⟩ (.configure 10#160 (.addAdapter 12#160)) [],
    .mk ⟨13#160, 0⟩ (.discardAdmin 10#160) []]

theorem admin_authority_sample :
    let h := execAll ⟨id, 2#16⟩ State.init discardTxs
    h.2.length = 5 ∧ h.2.countP (fun c => c.input.registers 10#160) ≤ 1 :=
  ⟨by decide +kernel, (admin_authority (execAll_path ⟨id, 2#16⟩ State.init discardTxs)
    (by decide +kernel) 10#160).2.1⟩

/-! ## A pending transfer -/

/-- The call is one of the five functions of the registry, made by the admin of the integrator, and
passes the guards of that function. -/
def Op.Reconfigures (s : State) (integrator : Address) (op : Op) : Prop :=
  ∃ msg change, op = .call msg (.configure integrator change) ∧ msg.value = 0 ∧
    OnlyAdmin s integrator msg.sender ∧ change.Accepts s.toRegistry integrator

/-- While a transfer is pending, a step other than a claim keeps the configuration unless it is a
function of the registry. -/
theorem configuration_eq_of_step (hinit : Unregistered s I)
    (hp : (s.integratorConfigs I).pendingAdmin ≠ 0#160) (hstep : step E s op = .ok (t, r))
    (hclaim : ∀ msg, op ≠ .call msg (.claimAdmin I)) (hquiet : ¬ op.Reconfigures s I) :
    configuration t I = configuration s I := by
  rcases configuration_of_step hstep I with ⟨hc, hv⟩ | ⟨msg, call, config, event, hop,
    hadmin, -, -⟩ | ⟨msg, change, rfl, -, -, -⟩
  · rw [configuration, configuration, hc, hv]
  · cases hadmin with
    | register _ hi => exact absurd (congrArg Configuration.pendingAdmin (hinit hi)) hp
    | updateAdmin _ _ hp' | transferAdmin _ _ hp' | discardAdmin _ hp' => exact absurd hp' hp
    | claimAdmin => exact absurd hop (hclaim msg)
  · exact absurd ⟨msg, change, rfl, exists_configure_iff.1 ⟨t, r, hstep⟩⟩ hquiet

/-- An integrator whose admin has started a transfer. -/
def pendingTxs : List Tx :=
  [.mk ⟨10#160, 0⟩ (.register 11#160) [], .mk ⟨11#160, 0⟩ (.transferAdmin 10#160 13#160) []]

/-- The outgoing admin can still add an adapter. -/
theorem configuration_not_frozen :
    ¬ ∀ (E : Env) (log : Log) (s : State) (I : Address), (machine E).Path State.init log s →
      (s.integratorConfigs I).pendingAdmin ≠ 0#160 →
      ∀ op, ¬ (∃ msg t r, op = .call msg (.claimAdmin I) ∧ step E s op = .ok (t, r)) →
        configuration ((machine E).next s op) I = configuration s I := by
  intro hfrozen
  have hsame := hfrozen _ _ _ 10#160 (execAll_path ⟨id, 2#16⟩ State.init pendingTxs)
    (by decide +kernel) (.call ⟨11#160, 0⟩ (.configure 10#160 (.addAdapter 12#160)))
    (by rintro ⟨_, _, _, hop, -⟩; cases hop)
  have hlist := congrArg (fun config => config.registry.registeredAdapters) hsame
  revert hlist
  decide +kernel

/-- **The configuration during an admin transfer.** In every state with a pending admin, a step
other than a successful claim leaves the configuration unchanged if and only if it is not one of the
five functions of the registry, called by the admin and passing its own guards; and in every history
without claims and such calls the configuration never changes. -/
theorem configuration_frozen_iff {log : Log} (h : (machine E).Path State.init log s)
    (hp : (s.integratorConfigs I).pendingAdmin ≠ 0#160) :
    (∀ op, ¬ (∃ msg t r, op = .call msg (.claimAdmin I) ∧ step E s op = .ok (t, r)) →
      (configuration ((machine E).next s op) I = configuration s I ↔ ¬ op.Reconfigures s I)) ∧
    ∀ log' t, (machine E).Path s log' t →
      (∀ c ∈ log', ∀ msg, c.input ≠ .call msg (.claimAdmin I)) →
      (∀ c ∈ log', ¬ c.input.Reconfigures c.pre I) →
      configuration t I = configuration s I := by
  have hinit := h.invariant (unregistered_invariant E I) fun _ => rfl
  have hwf := h.invariant (Registry.WellFormed.invariant E) .init
  refine ⟨fun op hclaim => ⟨?_, fun hquiet => ?_⟩, fun log' t hlater hclaim hquiet => ?_⟩
  · rintro hsame ⟨msg, change, rfl, hguards⟩
    obtain ⟨t, r, hstep⟩ := exists_configure_iff.2 hguards
    rw [Machine.next_of_ok hstep] at hsame
    exact view_run_ne hwf (run_of_configure hstep) (congrArg Configuration.registry hsame)
  · rcases (machine E).next_cases s op with ⟨r, hstep⟩ | hsame
    · exact configuration_eq_of_step hinit hp hstep
        (fun msg hop => hclaim ⟨msg, _, r, hop, hstep⟩) hquiet
    · rw [hsame]
  · induction hlater with
    | nil => rfl
    | @snoc l c hl hvalid ih =>
      have hpre := ih (fun d hd => hclaim d (List.mem_append_left _ hd))
        (fun d hd => hquiet d (List.mem_append_left _ hd))
      rw [← hpre]
      refine configuration_eq_of_step (hl.invariant (unregistered_invariant E I) hinit) ?_ hvalid
        (hclaim c (by simp)) (hquiet c (by simp))
      exact fun hp' => hp ((congrArg Configuration.pendingAdmin hpre).symm.trans hp')

theorem configuration_frozen_sample :
    let s := (execAll ⟨id, 2#16⟩ State.init pendingTxs).1
    let op : Op := .call ⟨11#160, 0⟩ (.discardAdmin 10#160)
    configuration ((machine ⟨id, 2#16⟩).next s op) 10#160 = configuration s 10#160 :=
  ((configuration_frozen_iff (execAll_path ⟨id, 2#16⟩ State.init pendingTxs)
    (by decide +kernel)).1 (.call ⟨11#160, 0⟩ (.discardAdmin 10#160))
      (by rintro ⟨_, _, _, hop, -⟩; cases hop)).2 (by rintro ⟨_, _, hop, -⟩; cases hop)

end GmpRouter.Evm
