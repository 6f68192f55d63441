import GmpRouter.Svm.AdminLog
import GmpRouter.Foundations.EventLog

/-!
# The adapters in the events of the SVM endpoint

The events of an integrator about its adapters determine the vector of the adapters, their indices
and the bitmaps of every chain (`adapterStatus_of_path`). Each event of a new adapter also carries a
number, `adapters_num`, which should be that of the adapters after the addition, as it is on EVM;
but `addAdapter` reports the length of the vector before it, so that this holds only while no
adapter is added (`adapterLogExact_iff`).
-/

namespace GmpRouter.Svm

open GmpRouter.Bitmap (indices)

variable {E : Env} {s t : State} {l : Log} {a b : Router.State} {o : Output} {i : Instruction}
  {I A : Pubkey}

/-! ## What the events tell -/

/-- The adapters of an integrator, and the indices of those that are enabled. -/
@[ext] structure AdapterStatus where
  adapters : List Pubkey := []
  enabled : Direction → ChainId → Finset ℕ := fun _ _ => ∅

/-- What the accounts of the integrator store. -/
def State.adapterStatus (E : Env) (s : State) (I : Pubkey) : AdapterStatus where
  adapters := ((s.find (E.pda (.integratorConfig I))).map IntegratorConfig.adapterInfos).getD []
  enabled d chain := indices ((s.chainConfigOf E I chain).bitmap d)

/-- The adapter is enabled or disabled; its index is its place in the list. -/
def AdapterStatus.setAdapter (x : AdapterStatus) (d : Direction) (on : Bool) (chain : ChainId)
    (A : Pubkey) : AdapterStatus :=
  match x.adapters.idxOf? A with
  | none => x
  | some i => { x with
      enabled := update₂ x.enabled d chain
        (if on then insert i (x.enabled d chain) else (x.enabled d chain).erase i) }

/-- What an event adds to those before it. -/
def AdapterStatus.update (I : Pubkey) (x : AdapterStatus) : Event → AdapterStatus
  | .adapterAdded J A _ => if J = I then { x with adapters := x.adapters ++ [A] } else x
  | .sendAdapterEnabledForChain J chain A => if J = I then x.setAdapter .send true chain A else x
  | .recvAdapterEnabledForChain J chain A => if J = I then x.setAdapter .recv true chain A else x
  | .sendAdapterDisabledForChain J chain A => if J = I then x.setAdapter .send false chain A else x
  | .recvAdapterDisabledForChain J chain A => if J = I then x.setAdapter .recv false chain A else x
  | _ => x

/-- The number that the event of a new adapter carries is that of the adapters after it. -/
def AdapterStatus.Counts (I : Pubkey) (x : AdapterStatus) : Event → Prop
  | .adapterAdded J _ adaptersNum => J = I → adaptersNum.toNat = x.adapters.length + 1
  | _ => True

/-- The events of a history. -/
def events (l : Log) : List Event := l.map fun c => c.output.event

/-- What the events of a history tell of the adapters of an integrator. -/
def loggedAdapters (I : Pubkey) (l : Log) : AdapterStatus :=
  (events l).foldl (AdapterStatus.update I) {}

/-- The event is one of a new adapter of the integrator, with this number. -/
def Event.Adds (I : Pubkey) (adaptersNum : BitVec 8) (event : Event) : Prop :=
  ∃ A, event = .adapterAdded I A adaptersNum

/-- After every part of the history its events tell what the accounts store; each event of a new
adapter carries the number of the adapters after it, so that the last one carries the length of the
vector. -/
structure AdapterLogExact (E : Env) (I : Pubkey) (l : Log) : Prop where
  stored_eq : ∀ l₁ l₂, l = l₁ ++ l₂ → ∀ s, (machine E).Path .init l₁ s →
    loggedAdapters I l₁ = s.adapterStatus E I ∧
      ∀ A, s.find (E.pda (.adapterInfo I A)) =
        ((loggedAdapters I l₁).adapters.idxOf? A).map (adapterInfoOf E I A)
  counts : Coherent (AdapterStatus.update I) (AdapterStatus.Counts I) {} (events l)
  last_eq : ∀ l₁ l₂, l = l₁ ++ l₂ → ∀ before event after n, events l₁ = before ++ event :: after →
    event.Adds I n → (∀ event' ∈ after, ∀ n', ¬ event'.Adds I n') →
      n.toNat = (loggedAdapters I l₁).adapters.length

/-- The instruction adds an adapter of the integrator. -/
def Instruction.addsAdapter (I : Pubkey) : Instruction → Bool
  | .addAdapter _ args => args.integratorProgramId = I
  | _ => false

def Instruction.isAddAdapter : Instruction → Bool
  | .addAdapter .. => true
  | _ => false

theorem Instruction.isAddAdapter_eq_false :
    i.isAddAdapter = false ↔ ∀ I, i.addsAdapter I = false := by
  cases i with
  | addAdapter ctx args => simp [isAddAdapter, addsAdapter]
  | _ => simp [isAddAdapter, addsAdapter]

/-! ## The router -/

/-- The part of the router's state that the accounts show. -/
def routerStatus (a : Router.State) (I : Pubkey) : AdapterStatus :=
  (a.integrators I).elim {} fun c => ⟨c.adapters, c.enabled⟩

theorem Refines.adapterStatus_eq (h : Refines E s a) (I : Pubkey) :
    s.adapterStatus E I = routerStatus a I := by
  have hI := h.represents.integrator I
  have hconfig : s.find (E.pda (.integratorConfig I)) = (a.integrators I).map (configOf E I) :=
    hI.config
  rw [State.adapterStatus, hconfig, Option.map_map, routerStatus]
  cases hc : a.integrators I with
  | none =>
    rw [hc] at hI
    refine AdapterStatus.ext rfl ?_
    funext d chain
    have hnone : (s.view E).chainConfig I chain = none :=
      by_contra fun hne => hI.chainConfig chain hne rfl
    have hbitmap : (s.chainConfigOf E I chain).bitmap d = 0#128 := by
      rw [chainConfigOf_bitmap, View.bitmap, hnone]
    exact GmpRouter.Bitmap.indices_eq_empty.2 hbitmap
  | some c =>
    refine AdapterStatus.ext rfl ?_
    funext d chain
    exact (h.enabled_eq hc d chain).symm

theorem routerStatus_setIntegrator (J : Pubkey) (c : Router.Integrator) (I : Pubkey) :
    routerStatus (a.setIntegrator J c) I =
      if J = I then ⟨c.adapters, c.enabled⟩ else routerStatus a I := by
  unfold routerStatus
  split
  · next hJ =>
    subst hJ
    rw [Router.setIntegrator_self]
    rfl
  · next hJ => rw [Router.setIntegrator_of_ne (Ne.symm hJ)]

theorem routerStatus_setIntegrator_of_eq {J : Pubkey} {c : Router.Integrator}
    (hc : ⟨c.adapters, c.enabled⟩ = routerStatus a J) (I : Pubkey) :
    routerStatus (a.setIntegrator J c) I = routerStatus a I := by
  rw [routerStatus_setIntegrator, hc]
  split
  · next hJ => rw [hJ]
  · rfl

/-- A change by the admin of an integrator, whose effect on the adapters is `f`. -/
theorem routerStatus_of_configure {signer J : Pubkey} {change : Router.Change} {out : Router.Out}
    {f : AdapterStatus → AdapterStatus}
    (h : Router.step (AttestationInfo.computeMessageHash E) a (.configure signer J change) =
      .ok (b, out))
    (hf : ∀ c c' : Router.Integrator, change.apply c = .ok c' →
      (⟨c'.adapters, c'.enabled⟩ : AdapterStatus) = f ⟨c.adapters, c.enabled⟩) (I : Pubkey) :
    routerStatus b I = if J = I then f (routerStatus a I) else routerStatus a I := by
  obtain ⟨c, c', hby, happly, rfl, -⟩ := Router.configure_eq_ok.1 h
  rw [routerStatus_setIntegrator]
  split
  · next hJ =>
    subst hJ
    rw [routerStatus, hby.integrator_eq, hf c c' happly]
    rfl
  · rfl

/-- An operation that is none on the settings of an integrator. -/
theorem routerStatus_of_frame {op : Router.Op} {out : Router.Out}
    (h : Router.step (AttestationInfo.computeMessageHash E) a op = .ok (b, out))
    (hop : ¬ Router.Administers I op) : routerStatus b I = routerStatus a I := by
  have hsettings : b.settings I = a.settings I := Router.settings_of_step h hop
  have hstatus : ∀ a : Router.State, routerStatus a I =
      (a.settings I).elim {} fun x => ⟨x.adapters, x.enabled⟩ := by
    intro a
    rw [routerStatus, Router.State.settings]
    cases a.integrators I <;> rfl
  rw [hstatus, hstatus, hsettings]

/-- What an operation adds to the adapters. -/
def AdapterStatus.apply (I : Pubkey) (x : AdapterStatus) : Router.Op → AdapterStatus
  | .configure _ J (.addAdapter A) =>
    if J = I then { x with adapters := x.adapters ++ [A] } else x
  | .configure _ J (.setAdapter d on chain A) => if J = I then x.setAdapter d on chain A else x
  | _ => x

theorem routerStatus_of_step {op : Router.Op} {out : Router.Out}
    (h : Router.step (AttestationInfo.computeMessageHash E) a op = .ok (b, out)) (I : Pubkey) :
    routerStatus b I = (routerStatus a I).apply I op := by
  cases op with
  | register J admin =>
    obtain ⟨hnone, rfl, -⟩ := Router.register_eq_ok.1 h
    exact routerStatus_setIntegrator_of_eq (by rw [routerStatus, hnone]; rfl) I
  | claimAdmin caller J =>
    obtain ⟨c, hc, -, -, rfl, -⟩ := Router.claimAdmin_eq_ok.1 h
    exact routerStatus_setIntegrator_of_eq (by rw [routerStatus, hc]; rfl) I
  | configure caller J change =>
    cases change with
    | updateAdmin | transferAdmin | discardAdmin =>
      refine (routerStatus_of_configure (f := id) h (fun c c' happly => ?_) I).trans (ite_self _)
      obtain rfl := pure_eq_ok.1 happly
      rfl
    | addAdapter A =>
      refine routerStatus_of_configure (f := fun x => { x with adapters := x.adapters ++ [A] }) h
        (fun c c' happly => ?_) I
      obtain ⟨-, -, rfl⟩ := Router.addAdapter_eq_ok.1 happly
      rfl
    | setAdapter d on chain A =>
      refine routerStatus_of_configure (f := fun x => x.setAdapter d on chain A) h
        (fun c c' happly => ?_) I
      obtain ⟨i, hi, -, rfl⟩ := Router.setAdapter_eq_ok.1 happly
      simp only [AdapterStatus.setAdapter, hi]
  | send | pickUp | attest | recv | exec => exact routerStatus_of_frame h (by rintro ⟨⟩)

/-! ## Instructions -/

/-- The event of an instruction tells what its operation does to the adapters, and carries no number
unless the instruction adds one. -/
structure Event.Reports (event : Event) (i : Instruction) (op : Router.Op) : Prop where
  update_eq : ∀ I (x : AdapterStatus), x.update I event = x.apply I op
  counts : i.isAddAdapter = false → ∀ I (x : AdapterStatus), x.Counts I event

theorem reports_of_process {op : Router.Op} (hstep : process E s i = .ok (t, o))
    (hop : i.op s = some op) : o.event.Reports i op := by
  cases i with
  | register ctx args =>
    obtain ⟨-, -, -, -, -, -, rfl⟩ := register_eq_ok.1 hstep
    cases hop
    exact ⟨fun _ _ => rfl, fun _ _ _ => trivial⟩
  | addAdapter ctx args =>
    obtain ⟨config, -, -, -, -, -, rfl⟩ := addAdapter_eq_ok.1 hstep
    cases hop
    exact ⟨fun _ _ => rfl, fun hadds => by cases hadds⟩
  | enableSendAdapter ctx args | enableRecvAdapter ctx args =>
    obtain ⟨_, _, _, _, -, -, -, -, -, -, -, -, -, rfl⟩ := enableAdapter_eq_ok.1 hstep
    cases hop
    exact ⟨fun _ _ => rfl, fun _ _ _ => trivial⟩
  | disableSendAdapter ctx args | disableRecvAdapter ctx args =>
    obtain ⟨_, _, _, -, -, -, -, -, -, -, rfl⟩ := disableAdapter_eq_ok.1 hstep
    cases hop
    exact ⟨fun _ _ => rfl, fun _ _ _ => trivial⟩
  | updateAdmin ctx args =>
    obtain ⟨config, -, -, rfl⟩ := updateAdmin_eq_ok.1 hstep
    cases hop
    exact ⟨fun _ _ => rfl, fun _ _ _ => trivial⟩
  | transferAdmin ctx args =>
    obtain ⟨config, -, -, rfl⟩ := transferAdmin_eq_ok.1 hstep
    cases hop
    exact ⟨fun _ _ => rfl, fun _ _ _ => trivial⟩
  | discardAdmin ctx =>
    obtain ⟨config, -, -, rfl⟩ := discardAdmin_eq_ok.1 hstep
    obtain ⟨config, -, rfl⟩ := Option.map_eq_some_iff.1 hop
    exact ⟨fun _ _ => rfl, fun _ _ _ => trivial⟩
  | claimAdmin ctx =>
    obtain ⟨config, -, -, -, -, -, rfl⟩ := claimAdmin_eq_ok.1 hstep
    obtain ⟨config, -, rfl⟩ := Option.map_eq_some_iff.1 hop
    exact ⟨fun _ _ => rfl, fun _ _ _ => trivial⟩
  | sendMessage ctx args =>
    obtain ⟨_, _, -, -, -, -, -, -, -, -, rfl⟩ := sendMessage_eq_ok.1 hstep
    cases hop
    exact ⟨fun _ _ => rfl, fun _ _ _ => trivial⟩
  | pickUpMessage ctx args =>
    obtain ⟨_, _, -, -, -, -, -, -, rfl⟩ := pickUpMessage_eq_ok.1 hstep
    obtain ⟨message, -, rfl⟩ := Option.map_eq_some_iff.1 hop
    exact ⟨fun _ _ => rfl, fun _ _ _ => trivial⟩
  | attestMessage ctx args =>
    obtain ⟨_, _, _, _, -, -, -, -, -, -, -, -, -, -, rfl⟩ := attestMessage_eq_ok.1 hstep
    cases hop
    exact ⟨fun _ _ => rfl, fun _ _ _ => trivial⟩
  | recvMessage ctx args =>
    obtain ⟨_, _, -, -, -, -, -, rfl⟩ := recvMessage_eq_ok.1 hstep
    cases hop
    exact ⟨fun _ _ => rfl, fun _ _ _ => trivial⟩
  | execMessage ctx args =>
    obtain ⟨_, _, -, -, -, -, -, -, rfl⟩ := execMessage_eq_ok.1 hstep
    cases hop
    exact ⟨fun _ _ => rfl, fun _ _ _ => trivial⟩

namespace Refines

/-- The event of an instruction tells how the adapters change. -/
theorem adapterStatus_of_step (h : Refines E s a) (hstep : process E s i = .ok (t, o))
    (I : Pubkey) : t.adapterStatus E I = (s.adapterStatus E I).update I o.event := by
  obtain ⟨op, hop, b, hrouter, hb⟩ := h.step hstep
  rw [h.adapterStatus_eq, hb.adapterStatus_eq, (reports_of_process hstep hop).update_eq]
  exact routerStatus_of_step hrouter I

/-- The event of a new adapter carries the length of the vector before it grows. -/
theorem counts_of_addAdapter (h : Refines E s a) {ctx : AddAdapter} {args : AddAdapterArgs}
    (hstep : process E s (.addAdapter ctx args) = .ok (t, o)) (I : Pubkey) :
    (s.adapterStatus E I).Counts I o.event ↔ args.integratorProgramId ≠ I := by
  obtain ⟨config, hby, -, -, hlt, -, rfl⟩ := addAdapter_eq_ok.1 hstep
  by_cases hJ : args.integratorProgramId = I
  · subst hJ
    have hconfig : s.find (E.pda (.integratorConfig args.integratorProgramId)) = some config :=
      State.find_eq_some.2 (hby.derived.eq_pda h.canonical ▸ hby.derived.1)
    have hadapters : (s.adapterStatus E args.integratorProgramId).adapters =
        config.adapterInfos := by
      rw [State.adapterStatus, hconfig]
      rfl
    simp only [AdapterStatus.Counts, hadapters, forall_const, ne_eq, not_true_eq_false, iff_false,
      BitVec.toNat_ofNat]
    omega
  · simp [AdapterStatus.Counts, hJ]

/-- The events count the adapters, except those of new adapters. -/
theorem counts_of_step (h : Refines E s a) (hstep : process E s i = .ok (t, o)) (I : Pubkey) :
    (s.adapterStatus E I).Counts I o.event ↔ i.addsAdapter I = false := by
  obtain ⟨op, hop, -⟩ := h.step hstep
  cases hi : i.isAddAdapter with
  | false =>
    exact iff_of_true ((reports_of_process hstep hop).counts hi I _)
      (Instruction.isAddAdapter_eq_false.1 hi I)
  | true =>
    cases i with
    | addAdapter ctx args =>
      exact (h.counts_of_addAdapter hstep I).trans (by simp [Instruction.addsAdapter])
    | _ => cases hi

end Refines

/-! ## Histories -/

/-- **The events tell what the accounts store.** -/
theorem adapterStatus_of_path (h : (machine E).Path .init l s) (I : Pubkey) :
    loggedAdapters I l = s.adapterStatus E I := by
  have hinit : State.init.adapterStatus E I = {} := refines_init.adapterStatus_eq I
  rw [loggedAdapters, events, List.foldl_map, ← hinit]
  exact h.foldl_eq (refines_invariant E) (fun s => s.adapterStatus E I)
    (fun x o => x.update I o.event)
    (fun s i o t hstep ⟨a, ha⟩ => ha.adapterStatus_of_step hstep I) ⟨{}, refines_init⟩

/-- The index that the account of an adapter stores is its place in the list. -/
theorem adapterInfo_of_path (h : (machine E).Path .init l s) (I A : Pubkey) :
    s.find (E.pda (.adapterInfo I A)) =
      ((loggedAdapters I l).adapters.idxOf? A).map (adapterInfoOf E I A) := by
  obtain ⟨a, ha⟩ := exists_refines h
  have hA : s.find (E.pda (.adapterInfo I A)) = (a.integrators I).bind fun c =>
      (c.adapters.idxOf? A).map (adapterInfoOf E I A) := (ha.represents.integrator I).adapterInfo A
  rw [hA, adapterStatus_of_path h, ha.adapterStatus_eq, routerStatus]
  cases a.integrators I <;> rfl

theorem update_adapters {x : AdapterStatus} {event : Event} (h : ∀ n, ¬ event.Adds I n) :
    (x.update I event).adapters = x.adapters := by
  have hset : ∀ d on chain A, (x.setAdapter d on chain A).adapters = x.adapters := by
    intro d on chain A
    unfold AdapterStatus.setAdapter
    split <;> rfl
  cases event with
  | adapterAdded J A n =>
    have hJ : J ≠ I := by
      rintro rfl
      exact h n ⟨A, rfl⟩
    simp only [AdapterStatus.update, hJ, if_false]
  | sendAdapterEnabledForChain | recvAdapterEnabledForChain | sendAdapterDisabledForChain
  | recvAdapterDisabledForChain =>
    simp only [AdapterStatus.update]
    split
    · exact hset ..
    · rfl
  | _ => rfl

/-- When the events count the adapters, the last one that adds an adapter carries their number. -/
theorem toNat_of_last {es before after : List Event} {event : Event} {n : BitVec 8}
    (hcounts : Coherent (AdapterStatus.update I) (AdapterStatus.Counts I) {} es)
    (hes : es = before ++ event :: after) (hevent : event.Adds I n)
    (hlast : ∀ event' ∈ after, ∀ n', ¬ event'.Adds I n') :
    n.toNat = (es.foldl (AdapterStatus.update I) {}).adapters.length := by
  have hquiet : ∀ x : AdapterStatus,
      (after.foldl (AdapterStatus.update I) x).adapters = x.adapters := by
    clear hes
    induction after with
    | nil => exact fun x => rfl
    | cons e after ih =>
      intro x
      rw [List.foldl_cons, ih fun e' he' => hlast e' (List.mem_cons_of_mem _ he'),
        update_adapters (hlast e List.mem_cons_self)]
  have hcount := hcounts before event after hes
  obtain ⟨A, rfl⟩ := hevent
  rw [hes, List.foldl_append, List.foldl_cons, hquiet, hcount rfl]
  simp [AdapterStatus.update]

/-- An event of a history counts the adapters unless its instruction adds one. -/
theorem counts_iff (h : (machine E).Path .init l t) {l₁ l₂ : Log}
    {c : Commit State Instruction Output} (hl : l = l₁ ++ c :: l₂) :
    (loggedAdapters I l₁).Counts I c.output.event ↔ c.input.addsAdapter I = false := by
  obtain ⟨hbefore, hvalid, -⟩ := Machine.Path.of_append_cons (hl ▸ h)
  obtain ⟨a, ha⟩ := exists_refines hbefore
  rw [adapterStatus_of_path hbefore]
  exact ha.counts_of_step hvalid I

/-- The events of an integrator tell all about its adapters in the histories in which it gets none,
and in no others. -/
theorem adapterLogExact_iff_of_integrator (h : (machine E).Path .init l t) (I : Pubkey) :
    AdapterLogExact E I l ↔ ∀ c ∈ l, c.input.addsAdapter I = false := by
  constructor
  · intro hexact c hc
    obtain ⟨l₁, l₂, hl⟩ := List.append_of_mem hc
    refine (counts_iff h hl).1 (hexact.counts (events l₁) c.output.event (events l₂) ?_)
    rw [hl, events, List.map_append, List.map_cons]
    rfl
  · intro hnone
    have hcounts : Coherent (AdapterStatus.update I) (AdapterStatus.Counts I) {} (events l) := by
      intro before event after hevents
      obtain ⟨l₁, l₃, hl, rfl, hl₃⟩ := List.map_eq_append_iff.1 hevents
      obtain ⟨c, l₂, rfl, rfl, rfl⟩ := List.map_eq_cons_iff.1 hl₃
      exact (counts_iff h hl).2 (hnone c (hl ▸ by simp))
    refine ⟨fun l₁ l₂ _ s hs => ⟨adapterStatus_of_path hs I, adapterInfo_of_path hs I⟩, hcounts,
      fun l₁ l₂ hl before event after n hevents hevent hlast => ?_⟩
    rw [hl, events, List.map_append] at hcounts
    exact toNat_of_last (coherent_append.1 hcounts).1 hevents hevent hlast

/-- **The adapters are discoverable from events** in the histories in which no adapter is added, and
in no others. The vector of the adapters, their indices and the bitmaps are in every history; the
number that an event of a new adapter carries is that of the adapters before it. -/
theorem adapterLogExact_iff (h : (machine E).Path .init l t) :
    ((∀ I, AdapterLogExact E I l) ↔ ∀ c ∈ l, c.input.isAddAdapter = false) ∧
    ∀ I, loggedAdapters I l = t.adapterStatus E I ∧
      (∀ A, t.find (E.pda (.adapterInfo I A)) =
        ((loggedAdapters I l).adapters.idxOf? A).map (adapterInfoOf E I A)) ∧
      (AdapterLogExact E I l ↔ ∀ c ∈ l, c.input.addsAdapter I = false) := by
  refine ⟨?_, fun I => ⟨adapterStatus_of_path h I, adapterInfo_of_path h I,
    adapterLogExact_iff_of_integrator h I⟩⟩
  simp only [adapterLogExact_iff_of_integrator h, Instruction.isAddAdapter_eq_false]
  exact ⟨fun hnone c hc I => hnone I c hc, fun hnone I c hc => hnone c hc I⟩

theorem adapterLogExact_iff_sample :
    ((machine sampleEnv).run .init [sampleRegister]).2.length = 1 ∧
      ∀ I, AdapterLogExact sampleEnv I ((machine sampleEnv).run .init [sampleRegister]).2 :=
  ⟨by decide +kernel, (adapterLogExact_iff
    ((machine sampleEnv).run_path .init [sampleRegister])).1.2 (by decide +kernel)⟩

/-- The integrator 10 registers and gets adapter 12. -/
def sampleAdd : Log := ((machine sampleEnv).run .init (sampleOutboxSetup.take 2)).2

/-- The event says that there is no adapter. -/
theorem adaptersNum_not_exact : ¬ AdapterLogExact sampleEnv 10#256 sampleAdd := by
  intro h
  have hevents : events sampleAdd = [.integratorRegistered 10#256 11#256] ++
      Event.adapterAdded 10#256 12#256 0#8 :: [] := by
    decide +kernel
  have hadapters : (loggedAdapters 10#256 sampleAdd).adapters = [12#256] := by decide +kernel
  have hnum := h.last_eq sampleAdd [] (List.append_nil _).symm _ _ _ 0#8 hevents ⟨_, rfl⟩ (by simp)
  rw [hadapters] at hnum
  cases hnum

end GmpRouter.Svm
