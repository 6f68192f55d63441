import GmpRouter.Svm.Refinement
import GmpRouter.Foundations.Simulation

/-!
# Every successful SVM instruction is a step of the router

The step of an instruction is named by its arguments and, for the three instructions whose
integrator or message is found in an account, by the contents of that account (`Instruction.op`).
What its event reports is the output of the step (`Event.out`); the event of a sent message has the
number that follows that of the message.
-/

namespace GmpRouter.Svm

open GmpRouter.Bitmap (indices)

variable {E : Env} {s t : State} {a : Router.State} {o : Output}

/-- The step of the router that the instruction is, in a state. -/
def Instruction.op (s : State) : Instruction → Option Router.Op
  | .register _ args => some (.register args.integratorProgramId args.admin)
  | .addAdapter ctx args =>
    some (.configure ctx.admin args.integratorProgramId (.addAdapter args.adapterProgramId))
  | .enableSendAdapter ctx args =>
    some (.configure ctx.admin args.integratorProgramId
      (.setAdapter .send true args.chainId args.adapterProgramId))
  | .enableRecvAdapter ctx args =>
    some (.configure ctx.admin args.integratorProgramId
      (.setAdapter .recv true args.chainId args.adapterProgramId))
  | .disableSendAdapter ctx args =>
    some (.configure ctx.admin args.integratorProgramId
      (.setAdapter .send false args.chainId args.adapterProgramId))
  | .disableRecvAdapter ctx args =>
    some (.configure ctx.admin args.integratorProgramId
      (.setAdapter .recv false args.chainId args.adapterProgramId))
  | .updateAdmin ctx args =>
    some (.configure ctx.admin args.integratorProgramId (.updateAdmin args.newAdmin))
  | .transferAdmin ctx args =>
    some (.configure ctx.admin args.integratorProgramId (.transferAdmin args.newAdmin))
  | .claimAdmin ctx => (s.find (α := IntegratorConfig) ctx.integratorConfig).map fun config =>
    .claimAdmin ctx.newAdmin config.integratorProgramId
  | .discardAdmin ctx => (s.find (α := IntegratorConfig) ctx.integratorConfig).map fun config =>
    .configure ctx.admin config.integratorProgramId .discardAdmin
  | .sendMessage _ args =>
    some (.send args.integratorProgramId args.dstChain args.dstAddr args.payloadHash)
  | .pickUpMessage ctx args => (s.find (α := OutboxMessage) ctx.outboxMessage).map fun message =>
    .pickUp args.adapterProgramId message.srcAddr message.sequence
  | .attestMessage _ args => some (.attest args.adapterProgramId args.message)
  | .recvMessage _ args => some (.recv args.message)
  | .execMessage _ args => some (.exec args.message)

/-- What the event reports. -/
def Event.out : Event → Router.Out
  | .messageSent _ sequence _ _ _ => .sequence (sequence - 1#64)
  | .messagePickedUp _ _ dstChain dstAddr payloadHash _ remainingAdapters =>
    .pickedUp ⟨dstChain, dstAddr, payloadHash, indices remainingAdapters⟩
  | .messageReceived _ _ enabledBitmap attestedBitmap =>
    .received (indices enabledBitmap) (indices attestedBitmap)
  | _ => .unit

/-- The router makes the step, with the output of the instruction, to a state that the new accounts
hold. -/
def Refined (E : Env) (a : Router.State) (op : Router.Op) (t : State) (o : Output) : Prop :=
  ∃ b, Router.step (AttestationInfo.computeMessageHash E) a op = .ok (b, o.event.out) ∧
    Refines E t b

namespace Refines

variable {I A signer : Pubkey} {x : Address} {config : IntegratorConfig} {c : Router.Integrator}

/-! ## Reading the accounts -/

theorem byAdmin (h : Refines E s a) (hby : ByAdmin s x I signer config) :
    x = E.pda (.integratorConfig I) ∧
      ∃ c, Router.ByAdmin a signer I c ∧ config = configOf E I c := by
  have hx := hby.derived.eq_pda h.canonical
  have hview : (s.view E).config I = some config := view_config.2 (hx ▸ hby.derived.1)
  rw [(h.represents.integrator I).config, Option.map_eq_some_iff] at hview
  obtain ⟨c, hc, rfl⟩ := hview
  exact ⟨hx, c, ⟨hc, hby.admin_eq, hby.pendingAdmin_eq⟩, rfl⟩

theorem config_eq (h : Refines E s a)
    (hx : s.accounts x = some (.integratorConfig config)) :
    x = E.pda (.integratorConfig config.integratorProgramId) ∧
      ∃ c, a.integrators config.integratorProgramId = some c ∧
        config = configOf E config.integratorProgramId c := by
  obtain ⟨hpda, -⟩ := (h.canonical _ _ hx).address_eq _ _ rfl
  have hview : (s.view E).config config.integratorProgramId = some config :=
    view_config.2 (hpda ▸ hx)
  rw [(h.represents.integrator _).config, Option.map_eq_some_iff] at hview
  obtain ⟨c, hc, heq⟩ := hview
  exact ⟨hpda, c, hc, heq.symm⟩

theorem adapterInfo_at (h : Refines E s a) {info : AdapterInfo}
    (hinfo : s.accounts (E.pda (.adapterInfo I A)) = some (.adapterInfo info)) :
    ∃ c, a.integrators I = some c ∧ c.adapters.idxOf? A = some info.index.toNat := by
  have hview : (s.view E).adapterInfo I A = some info := view_adapterInfo.2 hinfo
  rw [(h.represents.integrator I).adapterInfo, Option.bind_eq_some_iff] at hview
  obtain ⟨c, hc, hview⟩ := hview
  obtain ⟨i, hi, rfl⟩ := Option.map_eq_some_iff.1 hview
  have hlt := (List.idxOf?_eq_some_iff.1 hi).1
  have hle := (h.inv.integrators I c hc).length_le
  have hmod : (BitVec.ofNat 8 i).toNat = i := by
    rw [BitVec.toNat_ofNat]
    omega
  exact ⟨c, hc, by rw [adapterInfoOf, hmod, hi]⟩

theorem adapterInfo_eq (h : Refines E s a) {info : AdapterInfo}
    (hinfo : Derived s x (.adapterInfo I A) info.bump (.adapterInfo info)) :
    ∃ c, a.integrators I = some c ∧ c.adapters.idxOf? A = some info.index.toNat :=
  h.adapterInfo_at (hinfo.eq_pda h.canonical ▸ hinfo.1)

theorem enabled_eq (h : Refines E s a) (hc : a.integrators I = some c) (d : Direction)
    (chain : ChainId) : c.enabled d chain = indices ((s.chainConfigOf E I chain).bitmap d) := by
  rw [(h.represents.integrator I).enabled c hc, chainConfigOf_bitmap]

theorem chainConfig_eq (h : Refines E s a) {chain : ChainId} {config : IntegratorChainConfig}
    (hconfig : Derived s x (.integratorChainConfig I chain) config.bump
      (.integratorChainConfig config)) :
    ∃ c, a.integrators I = some c ∧ ∀ d, c.enabled d chain = indices (config.bitmap d) := by
  have hx := hconfig.eq_pda h.canonical
  have haccount := hx ▸ hconfig.1
  have hview : (s.view E).chainConfig I chain = some config := view_chainConfig.2 haccount
  have hne : a.integrators I ≠ none :=
    (h.represents.integrator I).chainConfig chain (by simp [hview])
  obtain ⟨c, hc⟩ := Option.ne_none_iff_exists'.1 hne
  exact ⟨c, hc, fun d => by rw [h.enabled_eq hc, chainConfigOf_eq haccount]⟩

theorem inbox_eq (h : Refines E s a) (m : Message) :
    a.inbox (AttestationInfo.computeMessageHash E m) =
      ⟨indices (s.attestationOf E m).attestedAdapters, (s.attestationOf E m).executed⟩ := by
  rw [h.represents.inbox, view_record]

/-! ## The instructions -/

theorem refined (h : Refines E s a) {op : Router.Op} {b : Router.State}
    (hstep : Router.step (AttestationInfo.computeMessageHash E) a op = .ok (b, o.event.out))
    (hcanonical : Canonical E t) (hrepresents : Represents E (t.view E) b) : Refined E a op t o :=
  ⟨b, hstep, hcanonical, hrepresents, Router.inv_invariant hstep h.inv⟩

/-- The instructions that only write the admin state of an integrator. -/
theorem setAdmin (h : Refines E s a) {op : Router.Op} (c' : Router.Integrator)
    {config' : IntegratorConfig} (hc : a.integrators I = some c)
    (hx : x = E.pda (.integratorConfig I))
    (hconfig : s.accounts x = some (.integratorConfig config))
    (hconfig' : config' = configOf E I c')
    (hid : config'.integratorProgramId = config.integratorProgramId)
    (hbump : config'.bump = config.bump) (hadapters : c'.adapters = c.adapters)
    (henabled : c'.enabled = c.enabled) (hsequence : c'.nextSequence = c.nextSequence)
    (hstep : Router.step (AttestationInfo.computeMessageHash E) a op =
      .ok (a.setIntegrator I c', o.event.out)) :
    Refined E a op (s.set x (.integratorConfig config')) o := by
  refine h.refined hstep (h.canonical.setConfig hconfig hid hbump) ?_
  rw [hx, view_set_config, hconfig']
  exact h.represents.setAdmin hc hadapters henabled hsequence

theorem register {ctx : Register} {args : RegisterArgs} (h : Refines E s a)
    (hstep : register E s ctx args = .ok (t, o)) :
    Refined E a (.register args.integratorProgramId args.admin) t o := by
  obtain ⟨hx, hnone, hy, -, -, rfl, rfl⟩ := register_eq_ok.1 hstep
  have hI : a.integrators args.integratorProgramId = none := by
    have hview := (h.represents.integrator args.integratorProgramId).config
    have hfind : (s.view E).config args.integratorProgramId = none := by
      simp [State.view, State.find, ← hx, hnone]
    rw [hfind] at hview
    exact Option.map_eq_none_iff.1 hview.symm
  refine h.refined (Router.register_eq_ok.2 ⟨hI, rfl, rfl⟩) ?_ ?_
  · rw [hx, hy]
    refine (h.canonical.set ?_).set ?_
    · exact .of_seeds rfl trivial
    · exact .of_seeds rfl trivial
  · rw [hx, hy, view_set_tracker, view_set_config]
    exact h.represents.register hI args.admin

theorem addAdapter {ctx : AddAdapter} {args : AddAdapterArgs} (h : Refines E s a)
    (hstep : addAdapter E s ctx args = .ok (t, o)) :
    Refined E a (.configure ctx.admin args.integratorProgramId (.addAdapter args.adapterProgramId))
      t o := by
  obtain ⟨config, hby, hy, hnone, hlt, rfl, rfl⟩ := addAdapter_eq_ok.1 hstep
  obtain ⟨hx, c, hc, rfl⟩ := h.byAdmin hby
  have hA : args.adapterProgramId ∉ c.adapters := by
    have hview := (h.represents.integrator args.integratorProgramId).adapterInfo
      args.adapterProgramId
    have hfind : (s.view E).adapterInfo args.integratorProgramId args.adapterProgramId = none := by
      simp [State.view, State.find, ← hy, hnone]
    rw [hfind, hc.integrator_eq] at hview
    exact List.idxOf?_eq_none_iff.1 (Option.map_eq_none_iff.1 hview.symm)
  refine h.refined (Router.configure_eq_ok.2
    ⟨c, _, hc, Router.addAdapter_eq_ok.2 ⟨hA, hlt, rfl⟩, rfl, rfl⟩) ?_ ?_
  · rw [hy]
    refine Canonical.set ?_ ?_
    · exact h.canonical.setConfig hby.derived.1 rfl rfl
    · exact .of_seeds rfl trivial
  · rw [hx, hy, view_set_adapterInfo, view_set_config]
    exact h.represents.addAdapter hc.integrator_eq hA rfl

/-- Both handlers write the bit of the adapter in the bitmap of the direction. -/
theorem setAdapter {chain : ChainId} {d : Direction} {on : Bool} {info : AdapterInfo}
    {y z : Address} (h : Refines E s a) (hby : ByAdmin s x I signer config)
    (hinfo : Derived s y (.adapterInfo I A) info.bump (.adapterInfo info))
    (hz : z = E.pda (.integratorChainConfig I chain)) (hchain : chain ≠ 0#16)
    (hmem : decide (info.index.toNat ∈ indices ((s.chainConfigOf E I chain).bitmap d)) ≠ on)
    (hout : o.event.out = .unit) :
    Refined E a (.configure signer I (.setAdapter d on chain A))
      (s.set z (.integratorChainConfig ((s.chainConfigOf E I chain).setBitmap
        (Bitmap.put ((s.chainConfigOf E I chain).bitmap d) info.index on) d))) o := by
  obtain ⟨-, c, hc, -⟩ := h.byAdmin hby
  obtain ⟨c', hc', hindex⟩ := h.adapterInfo_eq hinfo
  obtain rfl : c = c' := Option.some.inj (hc.integrator_eq.symm.trans hc')
  have hlt : info.index.toNat < 128 :=
    lt_of_lt_of_le (List.idxOf?_eq_some_iff.1 hindex).1 (h.inv.integrators I c hc').length_le
  rw [← h.enabled_eq hc'] at hmem
  subst hz
  refine h.refined (Router.configure_eq_ok.2
    ⟨c, _, hc, Router.setAdapter_eq_ok.2 ⟨_, hindex, hmem, rfl⟩, rfl, hout⟩) ?_ ?_
  · exact h.canonical.setChainConfig hchain _ _
  · rw [view_set_chainConfig]
    refine h.represents.setAdapter hc' ?_ ?_ rfl
    · rw [IntegratorChainConfig.setBitmap_self, Bitmap.indices_put hlt, h.enabled_eq hc']
    · intro d' hd
      rw [IntegratorChainConfig.setBitmap_of_ne _ _ hd, chainConfigOf_bitmap]

theorem enableAdapter {d : Direction} {ctx : SetAdapter} {args : AdapterInfoArgs}
    (h : Refines E s a) (hstep : enableAdapter d E s ctx args = .ok (t, o)) :
    Refined E a (.configure ctx.admin args.integratorProgramId
      (.setAdapter d true args.chainId args.adapterProgramId)) t o := by
  obtain ⟨config, info, chainConfig, _, hby, hinfo, hz, hnew, hchain, rfl, -, hmem, rfl, rfl⟩ :=
    enableAdapter_eq_ok.1 hstep
  rw [hz] at hnew
  rw [hnew.orNew_chainConfig h.canonical] at hmem ⊢
  exact h.setAdapter hby hinfo hz hchain (by simpa using hmem) (by cases d <;> rfl)

theorem disableAdapter {d : Direction} {ctx : SetAdapter} {args : AdapterInfoArgs}
    (h : Refines E s a) (hstep : disableAdapter d E s ctx args = .ok (t, o)) :
    Refined E a (.configure ctx.admin args.integratorProgramId
      (.setAdapter d false args.chainId args.adapterProgramId)) t o := by
  obtain ⟨config, info, chainConfig, hby, hinfo, hz, hload, -, hmem, rfl, rfl⟩ :=
    disableAdapter_eq_ok.1 hstep
  rw [hz] at hload
  have hchainConfig := chainConfigOf_eq hload
  have hchain : args.chainId ≠ 0#16 := by
    rw [← (chainConfigOf_seeds h.canonical args.integratorProgramId args.chainId).2.1, hchainConfig]
    exact (h.canonical _ _ hload).valid
  rw [← hchainConfig] at hmem ⊢
  exact h.setAdapter hby hinfo hz hchain (by simpa using hmem) (by cases d <;> rfl)

theorem updateAdmin {ctx : AdminContext} {args : NewAdminArgs} (h : Refines E s a)
    (hstep : updateAdmin s ctx args = .ok (t, o)) :
    Refined E a (.configure ctx.admin args.integratorProgramId (.updateAdmin args.newAdmin))
      t o := by
  obtain ⟨config, hby, rfl, rfl⟩ := updateAdmin_eq_ok.1 hstep
  obtain ⟨hx, c, hc, rfl⟩ := h.byAdmin hby
  exact h.setAdmin { c with admin := some args.newAdmin } hc.integrator_eq hx hby.derived.1
    rfl rfl rfl rfl rfl rfl (Router.configure_eq_ok.2 ⟨c, _, hc, rfl, rfl, rfl⟩)

theorem transferAdmin {ctx : AdminContext} {args : NewAdminArgs} (h : Refines E s a)
    (hstep : transferAdmin s ctx args = .ok (t, o)) :
    Refined E a (.configure ctx.admin args.integratorProgramId (.transferAdmin args.newAdmin))
      t o := by
  obtain ⟨config, hby, rfl, rfl⟩ := transferAdmin_eq_ok.1 hstep
  obtain ⟨hx, c, hc, rfl⟩ := h.byAdmin hby
  exact h.setAdmin { c with pendingAdmin := some args.newAdmin } hc.integrator_eq hx
    hby.derived.1 rfl rfl rfl rfl rfl rfl (Router.configure_eq_ok.2 ⟨c, _, hc, rfl, rfl, rfl⟩)

theorem discardAdmin {ctx : AdminContext} (h : Refines E s a)
    (hstep : discardAdmin s ctx = .ok (t, o)) :
    ∃ op, (Instruction.discardAdmin ctx).op s = some op ∧ Refined E a op t o := by
  obtain ⟨config, hby, rfl, rfl⟩ := discardAdmin_eq_ok.1 hstep
  obtain ⟨hx, c, hc, heq⟩ := h.byAdmin hby
  have hfind : s.find ctx.integratorConfig = some config := State.find_eq_some.2 hby.derived.1
  refine ⟨_, by rw [Instruction.op, hfind, Option.map_some], ?_⟩
  exact h.setAdmin { c with admin := none } hc.integrator_eq hx hby.derived.1 (by rw [heq]; rfl)
    rfl rfl rfl rfl rfl (Router.configure_eq_ok.2 ⟨c, _, hc, rfl, rfl, rfl⟩)

theorem claimAdmin {ctx : ClaimAdmin} (h : Refines E s a)
    (hstep : claimAdmin s ctx = .ok (t, o)) :
    ∃ op, (Instruction.claimAdmin ctx).op s = some op ∧ Refined E a op t o := by
  obtain ⟨config, hload, -, hpending, hsigner, rfl, rfl⟩ := claimAdmin_eq_ok.1 hstep
  obtain ⟨hx, c, hc, heq⟩ := h.config_eq hload
  have hfind : s.find ctx.integratorConfig = some config := State.find_eq_some.2 hload
  refine ⟨_, by rw [Instruction.op, hfind, Option.map_some], ?_⟩
  have hadmin : config.admin = c.admin := congrArg IntegratorConfig.admin heq
  have hpendingAdmin : config.pendingAdmin = c.pendingAdmin :=
    congrArg IntegratorConfig.pendingAdmin heq
  rw [hpendingAdmin] at hpending
  rw [hpendingAdmin, hadmin] at hsigner
  exact h.setAdmin { c with admin := some ctx.newAdmin, pendingAdmin := none } hc hx hload
    (by rw [heq]; rfl) rfl rfl rfl rfl rfl
    (Router.claimAdmin_eq_ok.2 ⟨c, hc, hpending, hsigner.symm, rfl, rfl⟩)

theorem tracker_eq (h : Refines E s a) {tracker : SequenceTracker}
    (htracker : Derived s x (.sequenceTracker I) tracker.bump (.sequenceTracker tracker)) :
    ∃ c, a.integrators I = some c ∧ tracker = trackerOf E I c := by
  have hx := htracker.eq_pda h.canonical
  have hview : (s.view E).tracker I = some tracker := view_tracker.2 (hx ▸ htracker.1)
  rw [(h.represents.integrator I).tracker, Option.map_eq_some_iff] at hview
  obtain ⟨c, hc, heq⟩ := hview
  exact ⟨c, hc, heq.symm⟩

/-- No account holds the next message of an integrator. -/
theorem outbox_nextSequence (h : Refines E s a) (hc : a.integrators I = some c) {k : Pubkey}
    {message : OutboxMessage} (hk : (s.view E).outbox k = some message) :
    ¬ (message.srcAddr = I ∧ message.sequence = c.nextSequence) := by
  rintro ⟨hI, hsequence⟩
  have houtbox := (h.represents.outbox.exists_iff _ _ _).2 ⟨k, message, hk, hI, hsequence, rfl⟩
  obtain ⟨-, c', hc', hlt, -⟩ := h.inv.outbox _ _ _ houtbox
  obtain rfl : c = c' := Option.some.inj (hc.symm.trans hc')
  exact absurd hlt (BitVec.lt_irrefl _)

theorem sendMessage {ctx : SendMessage} {args : SendMessageArgs} (h : Refines E s a)
    (hstep : sendMessage s ctx args = .ok (t, o)) :
    Refined E a (.send args.integratorProgramId args.dstChain args.dstAddr args.payloadHash)
      t o := by
  obtain ⟨chainConfig, tracker, hchain, htracker, -, hnone, -, hne, hmax, rfl, rfl⟩ :=
    sendMessage_eq_ok.1 hstep
  obtain ⟨c, hc, henabled⟩ := h.chainConfig_eq hchain
  have hy := htracker.eq_pda h.canonical
  obtain ⟨c', hc', rfl⟩ := h.tracker_eq htracker
  obtain rfl : c = c' := Option.some.inj (hc.symm.trans hc')
  have hfree : (s.view E).outbox ctx.outboxMessage = none := by simp [State.view, State.find, hnone]
  have hsend := henabled .send
  refine h.refined (Router.send_eq_ok.2 ⟨c, hc, ?_, hmax, rfl, ?_⟩) ?_ ?_
  · rw [hsend]
    exact mt GmpRouter.Bitmap.indices_eq_empty.1 hne
  · rw [Event.out, trackerOf, BitVec.add_sub_cancel]
  · rw [hy]
    refine (h.canonical.set ?_).set ?_
    · exact .of_seeds rfl trivial
    · exact ⟨by rintro seeds bump ⟨⟩, fun _ => ⟨_, rfl⟩, hne⟩
  · rw [hy, view_set_outbox, view_set_tracker, hsend]
    refine (h.represents.useSequence hc rfl).setOutbox (some ⟨args.integratorProgramId,
      c.nextSequence, args.dstChain, args.dstAddr, args.payloadHash, chainConfig.sendAdapterBitmap,
      ctx.payer⟩) ?_ ?_ ?_
    · rintro _ ⟨⟩
      exact ⟨rfl, rfl⟩
    · intro message hmessage
      simp [hfree] at hmessage
    · exact fun k' _ message hk' => h.outbox_nextSequence hc hk'

theorem pickUpMessage {ctx : PickUpMessage} {args : PickUpMessageArgs} (h : Refines E s a)
    (hstep : pickUpMessage s ctx args = .ok (t, o)) :
    ∃ op, (Instruction.pickUpMessage ctx args).op s = some op ∧ Refined E a op t o := by
  obtain ⟨message, info, hload, hinfo, -, -, hmem, rfl, rfl⟩ := pickUpMessage_eq_ok.1 hstep
  have hstored := h.canonical _ _ hload
  obtain ⟨k, hk⟩ := hstored.external rfl
  rw [hk] at hload
  have hfind : s.find ctx.outboxMessage = some message := State.find_eq_some.2 (hk ▸ hload)
  have hview : (s.view E).outbox k = some message := view_outbox.2 hload
  obtain ⟨c, hc, hindex⟩ := h.adapterInfo_eq hinfo
  have houtbox := (h.represents.outbox.exists_iff _ _ _).2 ⟨k, message, hview, rfl, rfl, rfl⟩
  have hrest : indices (message.pickUp info.index).outstandingAdapters =
      message.outgoing.outstanding.erase info.index.toNat :=
    Bitmap.indices_put (GmpRouter.Bitmap.lt_of_mem_indices hmem) false
  have hempty : (message.pickUp info.index).outstandingAdapters = 0#128 ↔
      message.outgoing.outstanding.erase info.index.toNat = ∅ := by
    rw [← hrest, GmpRouter.Bitmap.indices_eq_empty]
  have hold : ∀ message', (s.view E).outbox k = some message' →
      message'.srcAddr = message.srcAddr ∧ message'.sequence = message.sequence := by
    intro message' h'
    obtain rfl := Option.some.inj (hview.symm.trans h')
    exact ⟨rfl, rfl⟩
  have hfree : ∀ k', k' ≠ k → ∀ message', (s.view E).outbox k' = some message' →
      ¬ (message'.srcAddr = message.srcAddr ∧ message'.sequence = message.sequence) :=
    fun k' hk' message' h' heq =>
      hk' (h.represents.outbox.unique _ _ _ _ h' hview heq.1 heq.2)
  refine ⟨_, by rw [Instruction.op, hfind, Option.map_some], ?_⟩
  refine h.refined (Router.pickUp_eq_ok.2 ⟨c, _, _, hc, houtbox, hindex, hmem, rfl, ?_⟩) ?_ ?_
  · rw [Event.out, hrest]
    rfl
  · split
    · exact h.canonical.close _
    · next hne => exact h.canonical.set (hstored.congr rfl hne)
  · rw [hk]
    split
    · next hzero =>
      rw [view_close_outbox, if_pos (hempty.1 hzero)]
      exact h.represents.setOutbox none (by rintro _ ⟨⟩) hold hfree
    · next hne =>
      rw [view_set_outbox, if_neg (mt hempty.2 hne), ← hrest]
      refine h.represents.setOutbox (some (message.pickUp info.index)) ?_ hold hfree
      rintro _ ⟨⟩
      exact ⟨rfl, rfl⟩

theorem attestMessage {ctx : AttestMessage} {args : AttestMessageArgs} (h : Refines E s a)
    (hstep : attestMessage E s ctx args = .ok (t, o)) :
    Refined E a (.attest args.adapterProgramId args.message) t o := by
  obtain ⟨adapter, chainConfig, info, info', hadapter, -, hchain, hz, hnew, hdst, hmem,
    hinfo', hmem',
    rfl, rfl⟩ := attestMessage_eq_ok.1 hstep
  rw [hz] at hnew
  obtain ⟨rfl, -, hsrc, hdst'⟩ := hnew.orNew_attestation h.canonical hinfo'
  obtain ⟨c, hc, hindex⟩ := h.adapterInfo_eq hadapter
  obtain ⟨c', hc', henabled⟩ := h.chainConfig_eq hchain
  obtain rfl : c = c' := Option.some.inj (hc.symm.trans hc')
  have hlt := GmpRouter.Bitmap.lt_of_mem_indices hmem
  have hput : indices (Bitmap.put (s.attestationOf E args.message).attestedAdapters
      adapter.index true) =
      insert adapter.index.toNat (indices (s.attestationOf E args.message).attestedAdapters) :=
    Bitmap.indices_put hlt true
  have hinbox := h.inbox_eq args.message
  have hne : Bitmap.put (s.attestationOf E args.message).attestedAdapters adapter.index true ≠
      0#128 := by
    refine mt GmpRouter.Bitmap.indices_eq_empty.2 ?_
    rw [hput]
    exact Finset.insert_ne_empty _ _
  refine h.refined (Router.attest_eq_ok.2 ⟨c, _, hc, hindex, ?_, ?_, rfl, rfl⟩) ?_ ?_
  · rw [AttestMessageArgs.message, henabled .recv]
    exact hmem
  · rw [hinbox]
    exact hmem'
  · rw [hz]
    exact h.canonical.setAttestation rfl rfl rfl hsrc hdst' (.inr hne)
  · rw [hz, attestationSeeds, view_set_attestation]
    refine h.represents.setRecord ?_
    rw [hinbox, hput]

/-- Receiving and executing a message both mark its record. -/
theorem setExecuted (h : Refines E s a) {m : Message} {op : Router.Op}
    (hsrc : (s.attestationOf E m).srcChain ≠ 0#16) (hdst : (s.attestationOf E m).dstChain ≠ 0#16)
    (hstep : Router.step (AttestationInfo.computeMessageHash E) a op =
      .ok (a.setRecord (AttestationInfo.computeMessageHash E m)
        { a.inbox (AttestationInfo.computeMessageHash E m) with executed := true }, o.event.out)) :
    Refined E a op (s.set (E.pda (attestationSeeds E m))
      (.attestationInfo { s.attestationOf E m with executed := true })) o := by
  refine h.refined hstep ?_ ?_
  · exact h.canonical.setAttestation rfl rfl rfl hsrc hdst (.inl rfl)
  · rw [attestationSeeds, view_set_attestation]
    refine h.represents.setRecord ?_
    rw [h.inbox_eq]

theorem recvMessage {ctx : RecvMessage} {args : RecvMessageArgs} (h : Refines E s a)
    (hstep : recvMessage E s ctx args = .ok (t, o)) : Refined E a (.recv args.message) t o := by
  obtain ⟨chainConfig, info, -, hchain, hinfo, hexecuted, rfl, rfl⟩ := recvMessage_eq_ok.1 hstep
  have hz := hinfo.eq_pda h.canonical
  have haccount := hinfo.1
  rw [hz] at haccount
  obtain ⟨c, hc, henabled⟩ := h.chainConfig_eq hchain
  have hvalid : info.Valid E := (h.canonical _ _ haccount).valid
  have hold := attestationOf_eq haccount
  have hinbox := h.inbox_eq args.message
  rw [hold] at hinbox
  have hattested : info.attestedAdapters ≠ 0#128 := hvalid.live.resolve_left (by simp [hexecuted])
  have hstep' : Router.step (AttestationInfo.computeMessageHash E) a (.recv args.message) =
      .ok (a.setRecord (AttestationInfo.computeMessageHash E args.message)
          { a.inbox (AttestationInfo.computeMessageHash E args.message) with executed := true },
        Event.out (.messageReceived info.messageHash info.message chainConfig.recvAdapterBitmap
          info.attestedAdapters)) := by
    refine Router.recv_eq_ok.2 ⟨c, hc, ?_, ?_, rfl, ?_⟩
    · rw [hinbox]
      exact mt GmpRouter.Bitmap.indices_eq_empty.1 hattested
    · rw [hinbox]
      exact hexecuted
    · rw [hinbox]
      exact congrArg (Router.Out.received · _) (henabled .recv).symm
  have hrefined := h.setExecuted (o := ⟨_, none⟩) (hold ▸ hvalid.srcChain_ne)
    (hold ▸ hvalid.dstChain_ne) hstep'
  rw [hold] at hrefined
  rwa [hz]

theorem execMessage {ctx : ExecMessage} {args : RecvMessageArgs} (h : Refines E s a)
    (hstep : execMessage E s ctx args = .ok (t, o)) : Refined E a (.exec args.message) t o := by
  obtain ⟨info, info', hz, hnew, -, hexecuted, hinfo', rfl, rfl⟩ := execMessage_eq_ok.1 hstep
  rw [hz] at hnew
  obtain ⟨rfl, hexecuted', hsrc, hdst⟩ := hnew.orNew_attestation h.canonical hinfo'
  rw [hz]
  refine h.setExecuted hsrc hdst (Router.exec_eq_ok.2 ⟨?_, rfl, rfl⟩)
  rw [h.inbox_eq]
  exact hexecuted'.symm.trans hexecuted

/-- **Every successful instruction is a step of the router.** -/
theorem step {i : Instruction} (h : Refines E s a)
    (hstep : process E s i = .ok (t, o)) : ∃ op, i.op s = some op ∧ Refined E a op t o := by
  cases i with
  | register => exact ⟨_, rfl, h.register hstep⟩
  | addAdapter => exact ⟨_, rfl, h.addAdapter hstep⟩
  | enableSendAdapter => exact ⟨_, rfl, h.enableAdapter hstep⟩
  | enableRecvAdapter => exact ⟨_, rfl, h.enableAdapter hstep⟩
  | disableSendAdapter => exact ⟨_, rfl, h.disableAdapter hstep⟩
  | disableRecvAdapter => exact ⟨_, rfl, h.disableAdapter hstep⟩
  | updateAdmin => exact ⟨_, rfl, h.updateAdmin hstep⟩
  | transferAdmin => exact ⟨_, rfl, h.transferAdmin hstep⟩
  | claimAdmin => exact h.claimAdmin hstep
  | discardAdmin => exact h.discardAdmin hstep
  | sendMessage => exact ⟨_, rfl, h.sendMessage hstep⟩
  | pickUpMessage => exact h.pickUpMessage hstep
  | attestMessage => exact ⟨_, rfl, h.attestMessage hstep⟩
  | recvMessage => exact ⟨_, rfl, h.recvMessage hstep⟩
  | execMessage => exact ⟨_, rfl, h.execMessage hstep⟩

end Refines

/-- The program is simulated by the router. -/
theorem simulation (E : Env) :
    Machine.Simulation (machine E) (Router.machine (AttestationInfo.computeMessageHash E))
      (Refines E) (fun s i o op out => i.op s = some op ∧ out = o.event.out) where
  step s a i t o h hstep := by
    obtain ⟨op, hop, b, hstep', hpost⟩ := h.step hstep
    exact ⟨op, b, _, ⟨hop, rfl⟩, hstep', hpost⟩

/-- Commits of the program and of the router that correspond. -/
abbrev Matches (E : Env) (c : Commit State Instruction Output)
    (d : Commit Router.State Router.Op Router.Out) : Prop :=
  Machine.Matches (machine E) (Router.machine (AttestationInfo.computeMessageHash E)) (Refines E)
    (fun s i o op out => i.op s = some op ∧ out = o.event.out) c d

abbrev Log := List (Commit State Instruction Output)

/-- A history of the program is one of the router. -/
theorem exists_path {l : Log} (h : (machine E).Path .init l t) :
    ∃ l' b, (Router.machine (AttestationInfo.computeMessageHash E)).Path {} l' b ∧ Refines E t b ∧
      List.Forall₂ (Matches E) l l' :=
  (simulation E).path h refines_init

/-- Every state that the program reaches holds a state of the router. -/
theorem exists_refines {l : Log} (h : (machine E).Path .init l t) : ∃ a, Refines E t a := by
  obtain ⟨-, b, -, hb, -⟩ := exists_path h
  exact ⟨b, hb⟩

theorem refines_invariant (E : Env) : (machine E).Invariant fun s => ∃ a, Refines E s a := by
  rintro s i o t hstep ⟨a, ha⟩
  obtain ⟨-, -, b, -, hb⟩ := ha.step hstep
  exact ⟨b, hb⟩

end GmpRouter.Svm
