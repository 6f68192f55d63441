import GmpRouter.Svm.Configuration
import GmpRouter.Svm.Outbox

/-!
# The log of the admin on SVM

The events of an integrator about its admin determine the admin and the pending admin that its
configuration account stores (`logged_of_path`). They should also form a chain, each event that
names an old admin naming the one before it; but `updateAdmin` and `claimAdmin` read the admin for
the event from the account that they have already updated, so that this holds only while no admin is
replaced (`adminLogChains_iff`).
-/

namespace GmpRouter.Svm

variable {E : Env} {s t : State} {l : Log} {a : Router.State} {o : Output} {i : Instruction}
  {I A : Pubkey}

/-! ## Logs -/

/-- The admin and the pending admin of an integrator. -/
structure AdminStatus where
  admin : Option Pubkey
  pendingAdmin : Option Pubkey
  deriving DecidableEq

def IntegratorConfig.adminStatus (config : IntegratorConfig) : AdminStatus :=
  ⟨config.admin, config.pendingAdmin⟩

/-- What the configuration account stores. -/
def State.adminStatus (E : Env) (s : State) (I : Pubkey) : Option AdminStatus :=
  (s.find (E.pda (.integratorConfig I))).map IntegratorConfig.adminStatus

/-- What an event makes of the status that the events before it establish. -/
def Event.updateStatus (I : Pubkey) (status : Option AdminStatus) : Event → Option AdminStatus
  | .integratorRegistered J admin => if J = I then some ⟨some admin, none⟩ else status
  | .adminUpdated J _ newAdmin =>
    if J = I then status.map fun _ => ⟨some newAdmin, none⟩ else status
  | .adminUpdateRequested J _ newAdmin =>
    if J = I then status.map fun x => { x with pendingAdmin := some newAdmin } else status
  | .adminDiscarded J => if J = I then status.map fun x => { x with admin := none } else status
  | _ => status

/-- What the events of a history establish. -/
def logged (I : Pubkey) (l : Log) : Option AdminStatus :=
  l.foldl (fun status c => c.output.event.updateStatus I status) none

/-- The old admin that the event names. -/
def Event.oldAdmin (I : Pubkey) : Event → Option Pubkey
  | .adminUpdated J oldAdmin _ => if J = I then some oldAdmin else none
  | .adminUpdateRequested J oldAdmin _ => if J = I then some oldAdmin else none
  | _ => none

/-- The events of an integrator about its admin are a chain: each that names an old admin names the
one that the events before it establish, and after every part of the history they establish what the
configuration account stores. -/
structure AdminLogChains (E : Env) (I : Pubkey) (l : Log) : Prop where
  oldAdmin_eq : ∀ l₁ c l₂, l = l₁ ++ c :: l₂ → ∀ A, c.output.event.oldAdmin I = some A →
    ∃ status, logged I l₁ = some status ∧ status.admin = some A
  logged_eq : ∀ l₁ l₂, l = l₁ ++ l₂ → ∀ s, (machine E).Path .init l₁ s →
    logged I l₁ = s.adminStatus E I

/-- The instruction replaces the admin of the integrator by another one. -/
def Instruction.replacesAdmin (s : State) (I : Pubkey) : Instruction → Bool
  | .updateAdmin ctx args => args.integratorProgramId = I ∧ args.newAdmin ≠ ctx.admin
  | .claimAdmin ctx =>
    match s.find (α := IntegratorConfig) ctx.integratorConfig with
    | some config => config.integratorProgramId = I ∧ config.admin ≠ some ctx.newAdmin
    | none => false
  | _ => false

/-! ## Single instructions -/

/-- The integrator that the router has shows the status. -/
theorem Refines.adminStatus_eq (h : Refines E s a) (I : Pubkey) :
    s.adminStatus E I = (a.integrators I).map fun c => ⟨c.admin, c.pendingAdmin⟩ := by
  have hconfig : s.find (E.pda (.integratorConfig I)) = (a.integrators I).map (configOf E I) :=
    (h.represents.integrator I).config
  rw [State.adminStatus, hconfig, Option.map_map]
  rfl

/-- A change by the admin of an integrator, whose effect on the status is `f`. -/
theorem Refines.adminStatus_of_configure (ha : Refines E s a) {b : Router.State}
    (hb : Refines E t b) {signer J : Pubkey} {change : Router.Change} {out : Router.Out}
    {f : AdminStatus → AdminStatus}
    (h : Router.step (AttestationInfo.computeMessageHash E) a (.configure signer J change) =
      .ok (b, out))
    (hf : ∀ c c' : Router.Integrator, c.pendingAdmin = none → change.apply c = .ok c' →
      (⟨c'.admin, c'.pendingAdmin⟩ : AdminStatus) = f ⟨c.admin, c.pendingAdmin⟩) (I : Pubkey) :
    t.adminStatus E I = if J = I then (s.adminStatus E I).map f else s.adminStatus E I := by
  obtain ⟨c, c', hby, happly, rfl, -⟩ := Router.configure_eq_ok.1 h
  rw [ha.adminStatus_eq, hb.adminStatus_eq]
  split
  · next hI =>
    subst hI
    rw [Router.setIntegrator_self, hby.integrator_eq, Option.map_some, Option.map_some,
      Option.map_some, hf c c' hby.pendingAdmin_eq happly]
  · next hI => rw [Router.setIntegrator_of_ne (Ne.symm hI)]

/-- An operation that is none on the settings of an integrator. -/
theorem Refines.adminStatus_of_frame (ha : Refines E s a) {b : Router.State} (hb : Refines E t b)
    {op : Router.Op} {out : Router.Out}
    (h : Router.step (AttestationInfo.computeMessageHash E) a op = .ok (b, out))
    (hop : ¬ Router.Administers I op) : t.adminStatus E I = s.adminStatus E I := by
  have hsettings := congrArg
    (Option.map fun x : Router.Settings => AdminStatus.mk x.admin x.pendingAdmin)
    (Router.settings_of_step h hop)
  rw [ha.adminStatus_eq, hb.adminStatus_eq]
  rwa [Router.State.settings, Router.State.settings, Option.map_map, Option.map_map] at hsettings

/-- The instruction is one about the admin. -/
def Instruction.isAdmin : Instruction → Bool
  | .register .. | .updateAdmin .. | .transferAdmin .. | .claimAdmin .. | .discardAdmin .. => true
  | _ => false

/-- The step and its event are not about the admin of the integrator. -/
structure Silent (E : Env) (I : Pubkey) (s t : State) (e : Event) : Prop where
  adminStatus_eq : t.adminStatus E I = s.adminStatus E I
  updateStatus_eq : ∀ status, e.updateStatus I status = status
  oldAdmin_eq : e.oldAdmin I = none

theorem Refines.adminStatus_of_setAdapter (ha : Refines E s a) {b : Router.State}
    (hb : Refines E t b) {signer J : Pubkey} {d : Direction} {on : Bool} {c : ChainId}
    {out : Router.Out}
    (h : Router.step (AttestationInfo.computeMessageHash E) a
      (.configure signer J (.setAdapter d on c A)) = .ok (b, out)) :
    t.adminStatus E I = s.adminStatus E I := by
  refine (ha.adminStatus_of_configure (f := id) hb h (fun c c' _ happly => ?_) I).trans (by simp)
  obtain ⟨index, -, -, rfl⟩ := Router.setAdapter_eq_ok.1 happly
  rfl

theorem Refines.silent (h : Refines E s a) (hi : i.isAdmin = false)
    (hstep : process E s i = .ok (t, o)) : Silent E I s t o.event := by
  obtain ⟨op, hop, b, hrouter, hb⟩ := h.step hstep
  cases i with
  | register | updateAdmin | transferAdmin | claimAdmin | discardAdmin => cases hi
  | addAdapter ctx args =>
    obtain ⟨config, -, -, -, -, -, rfl⟩ := addAdapter_eq_ok.1 hstep
    cases hop
    refine ⟨(h.adminStatus_of_configure (f := id) hb hrouter (fun c c' _ happly => ?_) I).trans
      (by simp), fun _ => rfl, rfl⟩
    obtain ⟨-, -, rfl⟩ := Router.addAdapter_eq_ok.1 happly
    rfl
  | enableSendAdapter ctx args | enableRecvAdapter ctx args =>
    obtain ⟨_, _, _, _, -, -, -, -, -, -, -, -, -, rfl⟩ := enableAdapter_eq_ok.1 hstep
    cases hop
    exact ⟨h.adminStatus_of_setAdapter hb hrouter, fun _ => rfl, rfl⟩
  | disableSendAdapter ctx args | disableRecvAdapter ctx args =>
    obtain ⟨_, _, _, -, -, -, -, -, -, -, rfl⟩ := disableAdapter_eq_ok.1 hstep
    cases hop
    exact ⟨h.adminStatus_of_setAdapter hb hrouter, fun _ => rfl, rfl⟩
  | sendMessage ctx args =>
    obtain ⟨_, _, -, -, -, -, -, -, -, -, rfl⟩ := sendMessage_eq_ok.1 hstep
    cases hop
    exact ⟨h.adminStatus_of_frame hb hrouter (by rintro ⟨⟩), fun _ => rfl, rfl⟩
  | pickUpMessage ctx args =>
    obtain ⟨message, _, hload, -, -, -, -, -, rfl⟩ := pickUpMessage_eq_ok.1 hstep
    rw [Instruction.op, State.find_eq_some.2 hload] at hop
    cases hop
    exact ⟨h.adminStatus_of_frame hb hrouter (by rintro ⟨⟩), fun _ => rfl, rfl⟩
  | attestMessage ctx args =>
    obtain ⟨_, _, _, _, -, -, -, -, -, -, -, -, -, -, rfl⟩ := attestMessage_eq_ok.1 hstep
    cases hop
    exact ⟨h.adminStatus_of_frame hb hrouter (by rintro ⟨⟩), fun _ => rfl, rfl⟩
  | recvMessage ctx args =>
    obtain ⟨_, _, -, -, -, -, -, rfl⟩ := recvMessage_eq_ok.1 hstep
    cases hop
    exact ⟨h.adminStatus_of_frame hb hrouter (by rintro ⟨⟩), fun _ => rfl, rfl⟩
  | execMessage ctx args =>
    obtain ⟨_, _, -, -, -, -, -, -, rfl⟩ := execMessage_eq_ok.1 hstep
    cases hop
    exact ⟨h.adminStatus_of_frame hb hrouter (by rintro ⟨⟩), fun _ => rfl, rfl⟩

/-- A successful instruction of the admin finds the signer in the account. -/
theorem ByAdmin.adminStatus_eq {x : Address} {J signer : Pubkey} {config : IntegratorConfig}
    (hby : ByAdmin s x J signer config) (h : Refines E s a) :
    s.adminStatus E J = some ⟨some signer, none⟩ := by
  have hconfig : s.find (E.pda (.integratorConfig J)) = some config :=
    State.find_eq_some.2 (hby.derived.eq_pda h.canonical ▸ hby.derived.1)
  rw [State.adminStatus, hconfig, Option.map_some, IntegratorConfig.adminStatus, hby.admin_eq,
    hby.pendingAdmin_eq]

/-- The event of an instruction tells how the status changes. -/
theorem Refines.adminStatus_of_step (h : Refines E s a) (hstep : process E s i = .ok (t, o))
    (I : Pubkey) : t.adminStatus E I = o.event.updateStatus I (s.adminStatus E I) := by
  obtain ⟨op, hop, b, hrouter, hb⟩ := h.step hstep
  cases i with
  | register ctx args =>
    obtain ⟨-, -, -, -, -, -, rfl⟩ := register_eq_ok.1 hstep
    cases hop
    obtain ⟨hnone, rfl, -⟩ := Router.register_eq_ok.1 hrouter
    rw [h.adminStatus_eq, hb.adminStatus_eq, Event.updateStatus]
    split
    · next hI =>
      subst hI
      rw [Router.setIntegrator_self]
      rfl
    · next hI => rw [Router.setIntegrator_of_ne (Ne.symm hI)]
  | updateAdmin ctx args =>
    obtain ⟨config, -, -, rfl⟩ := updateAdmin_eq_ok.1 hstep
    cases hop
    refine h.adminStatus_of_configure hb hrouter (fun c c' hpending happly => ?_) I
    obtain rfl := pure_eq_ok.1 happly
    rw [hpending]
  | transferAdmin ctx args =>
    obtain ⟨config, -, -, rfl⟩ := transferAdmin_eq_ok.1 hstep
    cases hop
    refine h.adminStatus_of_configure hb hrouter (fun c c' _ happly => ?_) I
    obtain rfl := pure_eq_ok.1 happly
    rfl
  | discardAdmin ctx =>
    obtain ⟨config, hby, -, rfl⟩ := discardAdmin_eq_ok.1 hstep
    rw [Instruction.op, State.find_eq_some.2 hby.derived.1] at hop
    cases hop
    refine h.adminStatus_of_configure hb hrouter (fun c c' _ happly => ?_) I
    obtain rfl := pure_eq_ok.1 happly
    rfl
  | claimAdmin ctx =>
    obtain ⟨config, hconfig, -, -, -, -, rfl⟩ := claimAdmin_eq_ok.1 hstep
    rw [Instruction.op, State.find_eq_some.2 hconfig] at hop
    cases hop
    obtain ⟨c, hc, -, -, rfl, -⟩ := Router.claimAdmin_eq_ok.1 hrouter
    rw [h.adminStatus_eq, hb.adminStatus_eq, Event.updateStatus]
    split
    · next hI =>
      subst hI
      rw [Router.setIntegrator_self, hc]
      rfl
    · next hI => rw [Router.setIntegrator_of_ne (Ne.symm hI)]
  | _ =>
    have hsilent : Silent E I s t o.event := h.silent rfl hstep
    rw [hsilent.adminStatus_eq, hsilent.updateStatus_eq]

/-- An event names the old admin unless its instruction replaces the admin. -/
theorem Refines.oldAdmin_iff (h : Refines E s a) (hstep : process E s i = .ok (t, o)) (I : Pubkey) :
    (∀ A, o.event.oldAdmin I = some A →
      ∃ status, s.adminStatus E I = some status ∧ status.admin = some A) ↔
    i.replacesAdmin s I = false := by
  cases i with
  | register ctx args =>
    obtain ⟨-, -, -, -, -, -, rfl⟩ := register_eq_ok.1 hstep
    simp [Event.oldAdmin, Instruction.replacesAdmin]
  | updateAdmin ctx args =>
    obtain ⟨config, hby, -, rfl⟩ := updateAdmin_eq_ok.1 hstep
    have hstatus := hby.adminStatus_eq h
    by_cases hI : args.integratorProgramId = I
    · subst hI
      simp [Event.oldAdmin, Instruction.replacesAdmin, hstatus]
      exact eq_comm
    · simp [Event.oldAdmin, Instruction.replacesAdmin, hI]
  | transferAdmin ctx args =>
    obtain ⟨config, hby, -, rfl⟩ := transferAdmin_eq_ok.1 hstep
    have hstatus := hby.adminStatus_eq h
    by_cases hI : args.integratorProgramId = I
    · subst hI
      simp [Event.oldAdmin, Instruction.replacesAdmin, hstatus]
    · simp [Event.oldAdmin, Instruction.replacesAdmin, hI]
  | discardAdmin ctx =>
    obtain ⟨config, hby, -, rfl⟩ := discardAdmin_eq_ok.1 hstep
    simp [Event.oldAdmin, Instruction.replacesAdmin]
  | claimAdmin ctx =>
    obtain ⟨config, hconfig, -, -, -, -, rfl⟩ := claimAdmin_eq_ok.1 hstep
    have hfind : s.find ctx.integratorConfig = some config := State.find_eq_some.2 hconfig
    have hstatus : s.adminStatus E config.integratorProgramId = some config.adminStatus := by
      rw [State.adminStatus, ← (h.config_eq hconfig).1, hfind, Option.map_some]
    by_cases hI : config.integratorProgramId = I
    · subst hI
      simp [Event.oldAdmin, Instruction.replacesAdmin, hstatus, hfind, IntegratorConfig.adminStatus]
    · simp [Event.oldAdmin, Instruction.replacesAdmin, hfind, hI]
  | _ =>
    have hsilent : Silent E I s t o.event := h.silent rfl hstep
    simp [hsilent.oldAdmin_eq, Instruction.replacesAdmin]

/-! ## Histories -/

/-- **The events establish what the configuration account stores.** -/
theorem logged_of_path (h : (machine E).Path .init l s) : logged I l = s.adminStatus E I := by
  exact h.foldl_eq (refines_invariant E) (fun s => s.adminStatus E I)
    (fun status o => o.event.updateStatus I status)
    (fun s i o t hstep ⟨a, ha⟩ => ha.adminStatus_of_step hstep I) ⟨{}, refines_init⟩

/-- **The events of an integrator about its admin are a chain in the histories in which its admin is
never replaced, and in no others.** -/
theorem adminLogChains_iff (h : (machine E).Path .init l t) (I : Pubkey) :
    AdminLogChains E I l ↔ ∀ c ∈ l, c.input.replacesAdmin c.pre I = false := by
  have hsplit : ∀ l₁ c l₂, l = l₁ ++ c :: l₂ → ((∀ A, c.output.event.oldAdmin I = some A →
      ∃ status, logged I l₁ = some status ∧ status.admin = some A) ↔
        c.input.replacesAdmin c.pre I = false) := by
    intro l₁ c l₂ hl
    obtain ⟨hbefore, hvalid, -⟩ := Machine.Path.of_append_cons (hl ▸ h)
    obtain ⟨a, ha⟩ := exists_refines hbefore
    rw [logged_of_path hbefore]
    exact ha.oldAdmin_iff hvalid I
  constructor
  · intro hchain c hc
    obtain ⟨l₁, l₂, hl⟩ := List.append_of_mem hc
    exact (hsplit l₁ c l₂ hl).1 (hchain.oldAdmin_eq l₁ c l₂ hl)
  · intro hkeeps
    refine ⟨fun l₁ c l₂ hl => (hsplit l₁ c l₂ hl).2 (hkeeps c ?_), fun l₁ l₂ _ s => logged_of_path⟩
    rw [hl]
    exact List.mem_append_right _ (List.mem_cons_self ..)

/-! ## Two runs -/

/-- The integrator 10 registers with admin 11. -/
def sampleRegister : Instruction :=
  .register ⟨samplePda (.integratorConfig 10#256), samplePda (.sequenceTracker 10#256),
    integratorProgramPda 10#256 1#8⟩ ⟨10#256, 1#8, 11#256⟩

/-- The admin 11 makes 13 the admin. The event names 13 as the old admin as well. -/
def sampleUpdate : Instruction :=
  .updateAdmin ⟨11#256, samplePda (.integratorConfig 10#256)⟩ ⟨13#256, 10#256⟩

def sampleReplace : Log := ((machine sampleEnv).run .init [sampleRegister, sampleUpdate]).2

theorem adminUpdated_not_chains : ¬ AdminLogChains sampleEnv 10#256 sampleReplace := by
  intro h
  obtain ⟨c, d, hl⟩ : ∃ c d, sampleReplace = [c, d] := List.length_eq_two.1 (by decide +kernel)
  have hold : sampleReplace.map (fun c => c.output.event.oldAdmin 10#256) =
      [none, some 13#256] := by
    decide +kernel
  have hbefore : logged 10#256 (sampleReplace.take 1) = some ⟨some 11#256, none⟩ := by
    decide +kernel
  rw [hl] at hold hbefore
  obtain ⟨-, hold⟩ := List.cons.inj hold
  obtain ⟨status, hlogged, hadmin⟩ := h.oldAdmin_eq [c] d [] hl 13#256 (List.cons.inj hold).1
  obtain rfl := Option.some.inj (hbefore.symm.trans hlogged)
  cases hadmin

/-- The admin 11 transfers its role to 13 and takes it back. -/
def sampleCancel : List Instruction :=
  [sampleRegister, .transferAdmin ⟨11#256, samplePda (.integratorConfig 10#256)⟩ ⟨13#256, 10#256⟩,
    .claimAdmin ⟨11#256, samplePda (.integratorConfig 10#256)⟩]

theorem adminLogChains_iff_sample :
    ((machine sampleEnv).run .init sampleCancel).2.length = 3 ∧
      AdminLogChains sampleEnv 10#256 ((machine sampleEnv).run .init sampleCancel).2 :=
  ⟨by decide +kernel, (adminLogChains_iff ((machine sampleEnv).run_path .init sampleCancel)
    10#256).2 (by decide +kernel)⟩

end GmpRouter.Svm
