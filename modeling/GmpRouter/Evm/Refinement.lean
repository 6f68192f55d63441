import GmpRouter.Evm.Admin
import GmpRouter.Evm.Receive
import GmpRouter.Evm.SendArray

/-!
# The EVM endpoint and the state of the router

The storage of an integrator says what the router knows of it (`State.Describes`), with the zero
address for a missing admin and the array of a chain for the set of its send adapters. Of the outbox
the endpoint stores nothing, since it calls the adapters while it sends.

A call that does not send is a step of the router (`Refines.call`), if it is not made by the zero
address and not a function of the registry during an admin transfer (`Commit.Regular`), which the
router does not allow.
-/

namespace GmpRouter.Evm

open Endpoint AdapterRegistry
open GmpRouter.Bitmap (indices)

variable {D : Env} {s t : State} {a b : Router.State} {I A : Address} {chain : ChainId} {op : Op}
  {r : Receipt} {c c' : Router.Integrator} {msg : Msg}

/-! ## The relation -/

/-- The zero address is no admin. -/
def adminOf (addr : Address) : Option UniversalAddress :=
  if addr = 0#160 then none else some (fromAddress addr)

theorem adminOf_zero : adminOf 0#160 = none := if_pos rfl

theorem adminOf_of_ne (h : A ≠ 0#160) : adminOf A = some (fromAddress A) := if_neg h

theorem adminOf_eq_none : adminOf A = none ↔ A = 0#160 := by
  unfold adminOf
  split <;> simp_all

/-- The indices of the adapters of an array. -/
def sendIndices (adapters : List PerSendAdapterInfo) : Finset ℕ :=
  (adapters.map fun info => info.index.toNat).toFinset

theorem sendIndices_append (adapters : List PerSendAdapterInfo) (info : PerSendAdapterInfo) :
    sendIndices (adapters ++ [info]) = insert info.index.toNat (sendIndices adapters) := by
  ext i
  simp [sendIndices]

theorem sendIndices_perm {adapters adapters' : List PerSendAdapterInfo}
    (h : adapters.Perm adapters') :
    sendIndices adapters = sendIndices adapters' := List.toFinset_eq_of_perm _ _ (h.map _)

/-- The storage of a registered integrator, and what the router knows of it. -/
structure State.Describes (s : State) (I : Address) (c : Router.Integrator) : Prop where
  isInitialized : (s.integratorConfigs I).isInitialized = true
  admin : c.admin = adminOf (s.integratorConfigs I).admin
  pendingAdmin : c.pendingAdmin = adminOf (s.integratorConfigs I).pendingAdmin
  adapters : c.adapters = (s.registeredAdapters I).map fromAddress
  sendEnabled : ∀ chain, c.enabled .send chain = sendIndices (s.perChainSendAdapterArray I chain)
  recvEnabled : ∀ chain, c.enabled .recv chain = indices (s.perChainRecvAdapterBitmap I chain)
  nextSequence : c.nextSequence = s.messageSequence I

/-- The storage of an integrator that is not registered. -/
structure State.Blank (s : State) (I : Address) : Prop where
  isInitialized : (s.integratorConfigs I).isInitialized = false
  configuration : configuration s I = configuration .init I
  messageSequence : s.messageSequence I = 0#64

def State.Shows (s : State) (I : Address) : Option Router.Integrator → Prop
  | none => s.Blank I
  | some c => s.Describes I c

/-- The storage represents a state of the router, whatever the outbox of that contains. -/
structure Represents (D : Env) (s : State) (a : Router.State) : Prop where
  integrators : ∀ I, s.Shows I (a.integrators (fromAddress I))
  addressed : ∀ U c, a.integrators U = some c → ∃ I, U = fromAddress I
  inbox : ∀ I m, m.dstAddr = fromAddress I →
    a.inbox (computeMessageDigest D m) = (record D s I m).known

/-- The states satisfy their invariants. -/
structure Refines (D : Env) (s : State) (a : Router.State) : Prop where
  represents : Represents D s a
  counted : Counted s
  sendInv : SendInv s.toRegistry
  inv : Router.Inv a

theorem blank_init (I : Address) : State.init.Blank I := ⟨rfl, rfl, rfl⟩

theorem refines_init : Refines D .init {} where
  represents := {
    integrators := blank_init
    addressed := fun _ _ h => by cases h
    inbox := fun _ _ _ => congrArg (Router.Record.mk · false) GmpRouter.Bitmap.indices_zero.symm }
  counted := .init
  sendInv := .init
  inv := Router.inv_init

/-! ## Reading the storage -/

namespace State

theorem Describes.congr (h : s.Describes I c)
    (hconfig : t.integratorConfigs I = s.integratorConfigs I)
    (hview : t.toRegistry.view I = s.toRegistry.view I)
    (hsequence : t.messageSequence I = s.messageSequence I) : t.Describes I c where
  isInitialized := hconfig ▸ h.isInitialized
  admin := hconfig ▸ h.admin
  pendingAdmin := hconfig ▸ h.pendingAdmin
  adapters := by
    rw [h.adapters]
    exact congrArg (List.map fromAddress) (congrArg Registry.View.registeredAdapters hview).symm
  sendEnabled chain := by
    rw [h.sendEnabled]
    exact congrArg sendIndices
      (congrFun (congrArg Registry.View.perChainSendAdapterArray hview) chain).symm
  recvEnabled chain := by
    rw [h.recvEnabled]
    exact congrArg indices (congrFun (congrArg Registry.View.perChainRecvAdapterBitmap hview)
      chain).symm
  nextSequence := hsequence ▸ h.nextSequence

theorem Shows.congr {x : Option Router.Integrator} (h : s.Shows I x)
    (hconfig : t.integratorConfigs I = s.integratorConfigs I)
    (hview : t.toRegistry.view I = s.toRegistry.view I)
    (hsequence : t.messageSequence I = s.messageSequence I) : t.Shows I x := by
  cases x with
  | none =>
    refine ⟨hconfig ▸ h.isInitialized, ?_, hsequence ▸ h.messageSequence⟩
    rw [← h.configuration, Evm.configuration, Evm.configuration, hconfig, hview]
  | some c => exact Describes.congr h hconfig hview hsequence

end State

namespace Represents

theorem describes (h : Represents D s a) (hc : a.integrators (fromAddress I) = some c) :
    s.Describes I c := by
  have hI := h.integrators I
  rwa [hc] at hI

theorem blank (h : Represents D s a) (hnone : a.integrators (fromAddress I) = none) :
    s.Blank I := by
  have hI := h.integrators I
  rwa [hnone] at hI

/-- Registered on the endpoint is registered for the router. -/
theorem exists_integrator (h : Represents D s a)
    (hinit : (s.integratorConfigs I).isInitialized = true) :
    ∃ c, a.integrators (fromAddress I) = some c ∧ s.Describes I c := by
  cases hc : a.integrators (fromAddress I) with
  | none =>
    have hblank := (h.blank hc).isInitialized
    rw [hinit] at hblank
    cases hblank
  | some c => exact ⟨c, rfl, h.describes hc⟩

/-- The router has the receive path as it was described on its own. -/
theorem receives (h : Represents D s a) : Receives D s a where
  adapters I := by
    cases hc : a.integrators (fromAddress I) with
    | none =>
      have hlist := congrArg (fun config => config.registry.registeredAdapters)
        (h.blank hc).configuration
      exact (congrArg (List.map fromAddress) hlist).symm
    | some c => exact (h.describes hc).adapters
  enabled I chain := by
    cases hc : a.integrators (fromAddress I) with
    | none =>
      have hbitmap := congrFun
        (congrArg (fun config => config.registry.perChainRecvAdapterBitmap)
          (h.blank hc).configuration) chain
      exact GmpRouter.Bitmap.indices_zero.symm.trans (congrArg indices hbitmap).symm
    | some c => exact (h.describes hc).recvEnabled chain
  inbox := h.inbox

/-- A change of one integrator. -/
theorem setIntegrator (h : Represents D s a) (hI : t.Describes I c')
    (hother : ∀ J, J ≠ I → t.integratorConfigs J = s.integratorConfigs J ∧
      t.toRegistry.view J = s.toRegistry.view J ∧ t.messageSequence J = s.messageSequence J)
    (hinbox : t.attestationInfo = s.attestationInfo) :
    Represents D t (a.setIntegrator (fromAddress I) c') where
  integrators J := by
    by_cases hJ : J = I
    · subst hJ
      rw [Router.setIntegrator_self]
      exact hI
    · obtain ⟨hconfig, hview, hsequence⟩ := hother J hJ
      rw [Router.setIntegrator_of_ne (fromAddress_injective.ne hJ)]
      exact (h.integrators J).congr hconfig hview hsequence
  addressed U c hc := by
    by_cases hU : U = fromAddress I
    · exact ⟨I, hU⟩
    · rw [Router.setIntegrator_of_ne hU] at hc
      exact h.addressed U c hc
  inbox J m hm := by
    rw [record, hinbox]
    exact h.inbox J m hm

/-- A change that leaves the integrators alone. -/
theorem of_integrators (h : Represents D s a) (hconfig : t.integratorConfigs = s.integratorConfigs)
    (hregistry : t.toRegistry = s.toRegistry) (hsequence : t.messageSequence = s.messageSequence)
    (hb : b.integrators = a.integrators)
    (hinbox : ∀ I m, m.dstAddr = fromAddress I →
      b.inbox (computeMessageDigest D m) = (record D t I m).known) : Represents D t b where
  integrators I := by
    rw [hb]
    exact (h.integrators I).congr (congrFun hconfig I) (congrArg (Registry.view · I) hregistry)
      (congrFun hsequence I)
  addressed U c hc := h.addressed U c (hb ▸ hc)
  inbox := hinbox

end Represents

/-- The invariants hold after a step. -/
theorem Refines.of_step (h : Refines D s a) (hstep : step D s op = .ok (t, r)) {rop : Router.Op}
    {o : Router.Out} (hrouter : Router.step (computeMessageDigest D) a rop = .ok (b, o))
    (ht : Represents D t b) : Refines D t b where
  represents := ht
  counted := Counted.invariant D hstep h.counted
  sendInv := SendInv.invariant D hstep h.sendInv
  inv := Router.inv_invariant hrouter h.inv

/-! ## Operations -/

/-- The change of the configuration that a function of the registry makes. -/
def AdapterRegistry.Change.operation : Change → Router.Change
  | .addAdapter adapter => .addAdapter (fromAddress adapter)
  | .enableSendAdapter chain adapter => .setAdapter .send true chain (fromAddress adapter)
  | .enableRecvAdapter chain adapter => .setAdapter .recv true chain (fromAddress adapter)
  | .disableSendAdapter chain adapter => .setAdapter .send false chain (fromAddress adapter)
  | .disableRecvAdapter chain adapter => .setAdapter .recv false chain (fromAddress adapter)

/-- The operation of the router that a call is. -/
def Call.operation (D : Env) (sender : Address) : Call → Router.Op
  | .register initialAdmin => .register (fromAddress sender) (fromAddress initialAdmin)
  | .updateAdmin integrator newAdmin =>
    .configure (fromAddress sender) (fromAddress integrator) (.updateAdmin (fromAddress newAdmin))
  | .transferAdmin integrator newAdmin =>
    .configure (fromAddress sender) (fromAddress integrator) (.transferAdmin (fromAddress newAdmin))
  | .claimAdmin integrator => .claimAdmin (fromAddress sender) (fromAddress integrator)
  | .discardAdmin integrator =>
    .configure (fromAddress sender) (fromAddress integrator) .discardAdmin
  | .configure integrator change =>
    .configure (fromAddress sender) (fromAddress integrator) change.operation
  | .sendMessage args _ => .send (fromAddress sender) args.dstChain args.dstAddr args.payloadHash
  | .attestMessage m => .attest (fromAddress sender) m
  | .recvMessage args => .recv (inbound D sender args)
  | .execMessage args => .exec (inbound D sender args)

/-- The call of an adapter picks the message up, and the end of `sendMessage` is nothing to the
router. -/
def Op.operation (D : Env) : Op → Option Router.Op
  | .call msg function => some (function.operation D msg.sender)
  | .forward adapter frame _ _ => some (.pickUp (fromAddress adapter) frame.sender frame.sequence)
  | .sent _ => none

/-- A function of the registry is called during an admin transfer. -/
def Op.duringTransfer (s : State) : Op → Bool
  | .call _ (.configure integrator _) => (s.integratorConfigs integrator).pendingAdmin ≠ 0#160
  | _ => false

/-- The router allows the operation to the caller. -/
def Op.Regular (s : State) (op : Op) : Prop := op.FromNonzero ∧ op.duringTransfer s = false

instance (s : State) : DecidablePred (Op.Regular s) := fun _ => inferInstanceAs (Decidable (_ ∧ _))

/-- The sequence number that the beginning of `sendMessage` uses. -/
def Receipt.sentSequence (r : Receipt) : Option (BitVec 64) :=
  match r.ret with
  | .sending frame => some frame.sequence
  | _ => none

theorem sentSequence_of_ne (h : ∀ frame, r.ret ≠ .sending frame) : r.sentSequence = none := by
  unfold Receipt.sentSequence
  split
  · next frame hret => exact absurd hret (h frame)
  · rfl

/-- The outputs say the same. -/
structure Reports (r : Receipt) (o : Router.Out) : Prop where
  received : r.received.map (Prod.map indices indices) = o.receivedSets
  sentSequence : r.sentSequence = o.sentSequence

/-- The router makes the step, without its outbox. -/
def Performs (D : Env) (a : Router.State) (rop : Router.Op) (t : State) (r : Receipt) : Prop :=
  ∃ b o, Router.step (computeMessageDigest D) a rop = .ok (b, o) ∧ Represents D t b ∧
    b.outbox = a.outbox ∧ Reports r o

namespace Refines

/-! ## The functions of the admin -/

/-- The admin of the endpoint is the admin of the router. -/
theorem byAdmin (h : Refines D s a) (hauth : OnlyAdmin s I msg.sender)
    (hsender : msg.sender ≠ 0#160) (hpending : (s.integratorConfigs I).pendingAdmin = 0#160) :
    ∃ c, Router.ByAdmin a (fromAddress msg.sender) (fromAddress I) c ∧ s.Describes I c := by
  obtain ⟨c, hc, hI⟩ := h.represents.exists_integrator hauth.isInitialized
  refine ⟨c, ⟨hc, ?_, ?_⟩, hI⟩
  · rw [hI.admin, hauth.admin_eq, adminOf_of_ne hsender]
  · rw [hI.pendingAdmin, hpending, adminOf_zero]

/-- A change of the admins. -/
theorem setConfig (h : Refines D s a) (hI : s.Describes I c) {config : IntegratorConfig}
    (hinit : config.isInitialized = true) (hadmin : c'.admin = adminOf config.admin)
    (hpending : c'.pendingAdmin = adminOf config.pendingAdmin)
    (hadapters : c'.adapters = c.adapters)
    (henabled : c'.enabled = c.enabled) (hsequence : c'.nextSequence = c.nextSequence) :
    Represents D { s with integratorConfigs := Function.update s.integratorConfigs I config }
      (a.setIntegrator (fromAddress I) c') := by
  refine h.represents.setIntegrator ?_ (fun J hJ => ⟨Function.update_of_ne hJ .., rfl, rfl⟩) rfl
  exact {
    isInitialized := by simpa using hinit
    admin := by simpa using hadmin
    pendingAdmin := by simpa using hpending
    adapters := hadapters.trans hI.adapters
    sendEnabled := fun chain => henabled ▸ hI.sendEnabled chain
    recvEnabled := fun chain => henabled ▸ hI.recvEnabled chain
    nextSequence := hsequence.trans hI.nextSequence }

theorem adminStep (h : Refines D s a) (hsender : msg.sender ≠ 0#160) {call : Call}
    {config : IntegratorConfig} {event : Event}
    (hstep : AdminStep s msg.sender call I config event) :
    Performs D a (call.operation D msg.sender)
      { s with integratorConfigs := Function.update s.integratorConfigs I config }
      { events := [event] } := by
  cases hstep with
  | @register initialAdmin hadmin hinit =>
    have hnone : a.integrators (fromAddress msg.sender) = none := by
      by_contra hne
      obtain ⟨c, hc⟩ := Option.ne_none_iff_exists'.1 hne
      have htrue := (h.represents.describes hc).isInitialized
      rw [hinit] at htrue
      cases htrue
    refine ⟨_, _, Router.register_eq_ok.2 ⟨hnone, rfl, rfl⟩, ?_, rfl, ⟨rfl, rfl⟩⟩
    have hblank := h.represents.blank hnone
    have hview : s.toRegistry.view msg.sender = State.init.toRegistry.view msg.sender :=
      congrArg Configuration.registry hblank.configuration
    refine h.represents.setIntegrator ?_ (fun J hJ => ⟨Function.update_of_ne hJ .., rfl, rfl⟩) rfl
    exact {
      isInitialized := by simp
      admin := by simp [adminOf_of_ne hadmin]
      pendingAdmin := by simp [adminOf_zero]
      adapters := (congrArg (fun view : Registry.View => view.registeredAdapters.map fromAddress)
        hview).symm
      sendEnabled := fun chain =>
        (congrArg (fun view : Registry.View => sendIndices (view.perChainSendAdapterArray chain))
          hview).symm
      recvEnabled := fun chain => GmpRouter.Bitmap.indices_zero.symm.trans
        (congrArg (fun view : Registry.View => indices (view.perChainRecvAdapterBitmap chain))
          hview).symm
      nextSequence := hblank.messageSequence.symm }
  | updateAdmin hauth hne hpending =>
    obtain ⟨c, hby, hI⟩ := h.byAdmin hauth hsender hpending
    refine ⟨_, _, Router.configure_eq_ok.2 ⟨c, _, hby, rfl, rfl, rfl⟩, ?_, rfl, ⟨rfl, rfl⟩⟩
    exact h.setConfig hI hI.isInitialized (adminOf_of_ne hne).symm hI.pendingAdmin rfl rfl rfl
  | transferAdmin hauth hne hpending =>
    obtain ⟨c, hby, hI⟩ := h.byAdmin hauth hsender hpending
    refine ⟨_, _, Router.configure_eq_ok.2 ⟨c, _, hby, rfl, rfl, rfl⟩, ?_, rfl, ⟨rfl, rfl⟩⟩
    exact h.setConfig hI hI.isInitialized hI.admin (adminOf_of_ne hne).symm rfl rfl rfl
  | claimAdmin hpending hcaller =>
    cases hc : a.integrators (fromAddress I) with
    | none =>
      exact absurd (congrArg Configuration.pendingAdmin
        (h.represents.blank hc).configuration) hpending
    | some c =>
      have hI := h.represents.describes hc
      refine ⟨_, _, Router.claimAdmin_eq_ok.2 ⟨c, hc, ?_, ?_, rfl, rfl⟩, ?_, rfl, ⟨rfl, rfl⟩⟩
      · rw [hI.pendingAdmin]
        exact mt adminOf_eq_none.1 hpending
      · rw [hI.admin, hI.pendingAdmin]
        exact hcaller.imp (fun heq => by rw [← heq, adminOf_of_ne hsender])
          fun heq => by rw [← heq, adminOf_of_ne hsender]
      · exact h.setConfig hI hI.isInitialized (adminOf_of_ne hsender).symm adminOf_zero.symm
          rfl rfl rfl
  | discardAdmin hauth hpending =>
    obtain ⟨c, hby, hI⟩ := h.byAdmin hauth hsender hpending
    refine ⟨_, _, Router.configure_eq_ok.2 ⟨c, _, hby, rfl, rfl, rfl⟩, ?_, rfl, ⟨rfl, rfl⟩⟩
    exact h.setConfig hI hI.isInitialized adminOf_zero.symm hI.pendingAdmin rfl rfl rfl

/-! ## The functions of the registry -/

theorem receives (h : Refines D s a) : Receives D s a := h.represents.receives

/-- A function of the registry that makes a change of the router, once the receive path is known. -/
theorem of_simulates (h : Refines D s a) (hI : s.Describes I c)
    (hby : Router.ByAdmin a (fromAddress msg.sender) (fromAddress I) c) {change : Change}
    {guard : Prop}
    (hsim : Simulates D s a (.call msg (.configure I change)) guard
      (.configure (fromAddress msg.sender) (fromAddress I) change.operation))
    (hstep : step D s (.call msg (.configure I change)) = .ok (t, r))
    (hsend : ∀ c', change.operation.apply c = .ok c' → c'.admin = c.admin ∧
      c'.pendingAdmin = c.pendingAdmin ∧
      ∀ chain, c'.enabled .send chain = sendIndices (t.perChainSendAdapterArray I chain)) :
    Performs D a (.configure (fromAddress msg.sender) (fromAddress I) change.operation) t r := by
  obtain ⟨-, b, o, hrouter, hreceives, hreceived⟩ := hsim.sound hstep
  obtain ⟨d, c', hby', happly, rfl, rfl⟩ := Router.configure_eq_ok.1 hrouter
  obtain rfl : c = d := Option.some.inj (hby.integrator_eq.symm.trans hby'.integrator_eq)
  obtain ⟨hadmin, hpending, henabled⟩ := hsend c' happly
  refine ⟨_, _, hrouter, h.represents.setIntegrator ?_ (fun J hJ => ?_) ?_, rfl, hreceived, ?_⟩
  · have hconfig : t.integratorConfigs = s.integratorConfigs ∧
        t.messageSequence = s.messageSequence := by
      cases step_effect hstep with
      | configure => exact ⟨rfl, rfl⟩
      | admin hadmin => cases hadmin
      | inbox hinbox => cases hinbox
    exact {
      isInitialized := hconfig.1 ▸ hI.isInitialized
      admin := by rw [hconfig.1, hadmin, hI.admin]
      pendingAdmin := by rw [hconfig.1, hpending, hI.pendingAdmin]
      adapters := hreceives.adapters_eq (Router.setIntegrator_self ..)
      sendEnabled := henabled
      recvEnabled := fun chain => hreceives.enabled_eq (Router.setIntegrator_self ..)
      nextSequence := by rw [hconfig.2, Router.Change.nextSequence_eq happly, hI.nextSequence] }
  · cases step_effect hstep with
    | configure _ hrun => exact ⟨rfl, view_run_of_ne hrun hJ, rfl⟩
    | admin hadmin => cases hadmin
    | inbox hinbox => cases hinbox
  · cases step_effect hstep with
    | configure => rfl
    | admin hadmin => cases hadmin
    | inbox hinbox => cases hinbox
  · cases step_effect hstep with
    | configure _ hrun => exact sentSequence_of_ne (Change.run_ret_ne_sending hrun)
    | admin hadmin => cases hadmin
    | inbox hinbox => cases hinbox

/-- Registered adapters have different indices. -/
theorem eq_iff_index (h : Refines D s a) (hreg : (s.adapterInfos I A).registered = true)
    {A' : Address} (hreg' : (s.adapterInfos I A').registered = true) :
    A' = A ↔ (s.adapterInfos I A).index.toNat = (s.adapterInfos I A').index.toNat := by
  constructor
  · rintro rfl
    rfl
  · intro hindex
    have hget := h.counted.registry.wellFormed.getElem?_index hreg
    rw [hindex, h.counted.registry.wellFormed.getElem?_index hreg'] at hget
    exact Option.some.inj hget

/-- An adapter that is registered is enabled for sending exactly when its index is in the set. -/
theorem mem_sendIndices (h : Refines D s a) (hreg : (s.adapterInfos I A).registered = true) :
    (s.adapterInfos I A).index.toNat ∈ sendIndices (s.perChainSendAdapterArray I chain) ↔
      SendEnabled s.toRegistry I chain A := by
  simp only [sendIndices, List.mem_toFinset, SendEnabled, List.mem_map]
  refine exists_congr fun info => and_congr_right fun hinfo => ?_
  have hregistered := h.sendInv.adapterInfos_eq I chain info hinfo
  have hiff := h.eq_iff_index hreg
      (show (s.adapterInfos I info.addr).registered = true by rw [hregistered])
  rw [hiff, hregistered, eq_comm]

/-- Without the adapter, the set is without its index. -/
theorem sendIndices_erase (h : Refines D s a) (hreg : (s.adapterInfos I A).registered = true) :
    (sendIndices (s.perChainSendAdapterArray I chain)).erase (s.adapterInfos I A).index.toNat =
      sendIndices ((s.perChainSendAdapterArray I chain).filter fun info => info.addr ≠ A) := by
  ext i
  simp only [sendIndices, Finset.mem_erase, List.mem_toFinset, List.mem_map, List.mem_filter,
    decide_eq_true_eq]
  have hiff : ∀ info ∈ s.perChainSendAdapterArray I chain,
      info.addr = A ↔ (s.adapterInfos I A).index.toNat = info.index.toNat := by
    intro info hinfo
    have hregistered := h.sendInv.adapterInfos_eq I chain info hinfo
    have hiff := h.eq_iff_index hreg
      (show (s.adapterInfos I info.addr).registered = true by rw [hregistered])
    rwa [hregistered] at hiff
  constructor
  · rintro ⟨hne, info, hinfo, rfl⟩
    exact ⟨info, ⟨hinfo, fun haddr => hne ((hiff info hinfo).1 haddr).symm⟩, rfl⟩
  · rintro ⟨info, ⟨hinfo, haddr⟩, rfl⟩
    exact ⟨fun hindex => haddr ((hiff info hinfo).2 hindex.symm), info, hinfo, rfl⟩

/-- A change of the set of send adapters does not concern the receive path. -/
theorem receives_setSend (h : Refines D s a) (hc : a.integrators (fromAddress I) = some c)
    {array : List PerSendAdapterInfo} {enabled : Finset ℕ} :
    Receives D { s with
      perChainSendAdapterArray := update₂ s.perChainSendAdapterArray I chain array }
      (a.setIntegrator (fromAddress I)
        { c with enabled := update₂ c.enabled .send chain enabled }) :=
  h.receives.setIntegrator { s.toRegistry with
      perChainSendAdapterArray := update₂ s.perChainSendAdapterArray I chain array }
    (fun _ _ => ⟨rfl, rfl⟩) (h.receives.adapters_eq (c := c) hc) fun _ =>
    h.receives.enabled_eq (c := c) hc

theorem enableSendAdapter (h : Refines D s a) (hI : s.Describes I c)
    (hby : Router.ByAdmin a (fromAddress msg.sender) (fromAddress I) c)
    (hauth : OnlyAdmin s I msg.sender) (hvalue : msg.value = 0) :
    Simulates D s a (.call msg (.configure I (.enableSendAdapter chain A))) (chain ≠ 0#16)
      (.configure (fromAddress msg.sender) (fromAddress I)
        (.setAdapter .send true chain (fromAddress A))) := by
  refine Receives.configure hauth hvalue hby (fun hrun => ?_) fun hne happly => ?_
  · obtain ⟨hreg, hoff, rfl, rfl⟩ := enableSendAdapter_eq_ok.1 hrun
    have hindex := (h.receives.idxOf?_eq_some h.counted.registry hby.integrator_eq).2
      ⟨hreg.registered, rfl⟩
    rw [← Bool.not_eq_true, isSendAdapterEnabledForChain_iff, ← h.mem_sendIndices hreg.registered,
      ← hI.sendEnabled] at hoff
    exact ⟨hreg.chain_ne, rfl, _, Router.setAdapter_eq_ok.2 ⟨_, hindex, by simp [hoff], rfl⟩,
      h.receives_setSend hby.integrator_eq⟩
  · obtain ⟨i, hindex, hoff, -⟩ := Router.setAdapter_eq_ok.1 happly
    obtain ⟨hreg, rfl⟩ := (h.receives.idxOf?_eq_some h.counted.registry hby.integrator_eq).1 hindex
    rw [hI.sendEnabled, Ne, decide_eq_true_eq, h.mem_sendIndices hreg] at hoff
    refine ⟨⟨h.counted.registry.ne_zero hreg, hne, hreg⟩, ?_⟩
    rwa [← Bool.not_eq_true, isSendAdapterEnabledForChain_iff]

theorem disableSendAdapter (h : Refines D s a) (hI : s.Describes I c)
    (hby : Router.ByAdmin a (fromAddress msg.sender) (fromAddress I) c)
    (hauth : OnlyAdmin s I msg.sender) (hvalue : msg.value = 0) :
    Simulates D s a (.call msg (.configure I (.disableSendAdapter chain A))) (chain ≠ 0#16)
      (.configure (fromAddress msg.sender) (fromAddress I)
        (.setAdapter .send false chain (fromAddress A))) := by
  have henabled : ∀ {i}, (s.perChainSendAdapterArray I chain).findIdx? (fun info => info.addr = A) =
      some i → SendEnabled s.toRegistry I chain A := by
    intro i hi
    obtain ⟨hlt, haddr, -⟩ := List.findIdx?_eq_some_iff_getElem.1 hi
    exact List.mem_map.2 ⟨_, List.getElem_mem hlt, of_decide_eq_true haddr⟩
  refine Receives.configure hauth hvalue hby (fun hrun => ?_) fun hne happly => ?_
  · obtain ⟨hreg, i, hi, rfl, rfl⟩ := disableSendAdapter_eq_ok.1 hrun
    have hindex := (h.receives.idxOf?_eq_some h.counted.registry hby.integrator_eq).2
      ⟨hreg.registered, rfl⟩
    have hon := henabled hi
    rw [← h.mem_sendIndices hreg.registered, ← hI.sendEnabled] at hon
    exact ⟨hreg.chain_ne, rfl, _, Router.setAdapter_eq_ok.2 ⟨_, hindex, by simp [hon], rfl⟩,
      h.receives_setSend hby.integrator_eq⟩
  · obtain ⟨i, hindex, hon, -⟩ := Router.setAdapter_eq_ok.1 happly
    obtain ⟨hreg, rfl⟩ := (h.receives.idxOf?_eq_some h.counted.registry hby.integrator_eq).1 hindex
    rw [hI.sendEnabled, Ne, decide_eq_false_iff_not, not_not, h.mem_sendIndices hreg] at hon
    refine ⟨⟨h.counted.registry.ne_zero hreg, hne, hreg⟩, ?_⟩
    rwa [isSendAdapterEnabledForChain_iff]

/-- A write of the array of one chain, which the set of the router follows. -/
theorem sendEnabled_set (hI : s.Describes I c) {array : List PerSendAdapterInfo}
    {enabled : Finset ℕ} (henabled : enabled = sendIndices array) (chain' : ChainId) :
    update₂ c.enabled .send chain enabled .send chain' =
      sendIndices (update₂ s.perChainSendAdapterArray I chain array I chain') := by
  by_cases hchain : chain' = chain
  · subst hchain
    rw [update₂_self, update₂_self, henabled]
  · rw [update₂_of_ne (fun hsame => hchain hsame.2), update₂_of_ne (fun hsame => hchain hsame.2)]
    exact hI.sendEnabled chain'

theorem configure (h : Refines D s a) {change : Change} (hsender : msg.sender ≠ 0#160)
    (hpending : (s.integratorConfigs I).pendingAdmin = 0#160)
    (hstep : step D s (.call msg (.configure I change)) = .ok (t, r)) :
    Performs D a (.configure (fromAddress msg.sender) (fromAddress I) change.operation) t r := by
  obtain ⟨hvalue, hauth, -⟩ := exists_configure_iff.1 ⟨t, r, hstep⟩
  obtain ⟨c, hby, hI⟩ := h.byAdmin hauth hsender hpending
  have hrun := run_of_configure hstep
  cases change with
  | addAdapter A =>
    refine h.of_simulates hI hby (h.receives.addAdapter h.counted.registry hauth hvalue hby) hstep
      fun c' happly => ?_
    obtain ⟨-, -, rfl⟩ := Router.addAdapter_eq_ok.1 happly
    obtain ⟨-, -, -, ht, -⟩ := addAdapter_eq_ok.1 hrun
    exact ⟨rfl, rfl, fun chain => by rw [ht]; exact hI.sendEnabled chain⟩
  | enableRecvAdapter chain A =>
    refine h.of_simulates hI hby
      (h.receives.enableRecvAdapter h.counted.registry hauth hvalue hby) hstep fun c' happly => ?_
    obtain ⟨i, -, -, rfl⟩ := Router.setAdapter_eq_ok.1 happly
    obtain ⟨-, -, ht, -⟩ := enableRecvAdapter_eq_ok.1 hrun
    exact ⟨rfl, rfl, fun chain => by rw [ht]; exact hI.sendEnabled chain⟩
  | disableRecvAdapter chain A =>
    refine h.of_simulates hI hby
      (h.receives.disableRecvAdapter h.counted.registry hauth hvalue hby) hstep fun c' happly => ?_
    obtain ⟨i, -, -, rfl⟩ := Router.setAdapter_eq_ok.1 happly
    obtain ⟨-, -, ht, -⟩ := disableRecvAdapter_eq_ok.1 hrun
    exact ⟨rfl, rfl, fun chain => by rw [ht]; exact hI.sendEnabled chain⟩
  | enableSendAdapter chain A =>
    refine h.of_simulates hI hby (h.enableSendAdapter hI hby hauth hvalue) hstep fun c' happly => ?_
    obtain ⟨i, hindex, -, rfl⟩ := Router.setAdapter_eq_ok.1 happly
    obtain ⟨-, -, ht, -⟩ := enableSendAdapter_eq_ok.1 hrun
    obtain ⟨-, rfl⟩ := (h.receives.idxOf?_eq_some h.counted.registry hby.integrator_eq).1 hindex
    refine ⟨rfl, rfl, fun chain' => ?_⟩
    rw [ht]
    refine sendEnabled_set hI ?_ chain'
    rw [if_pos rfl, sendIndices_append, hI.sendEnabled]
  | disableSendAdapter chain A =>
    refine h.of_simulates hI hby (h.disableSendAdapter hI hby hauth hvalue) hstep
      fun c' happly => ?_
    obtain ⟨i, hindex, -, rfl⟩ := Router.setAdapter_eq_ok.1 happly
    obtain ⟨hreg, j, hj, ht, -⟩ := disableSendAdapter_eq_ok.1 hrun
    obtain ⟨-, rfl⟩ := (h.receives.idxOf?_eq_some h.counted.registry hby.integrator_eq).1 hindex
    refine ⟨rfl, rfl, fun chain' => ?_⟩
    rw [ht]
    refine sendEnabled_set hI ?_ chain'
    rw [if_neg Bool.false_ne_true, sendIndices_perm (h.sendInv.swapRemove_perm hj), hI.sendEnabled,
      h.sendIndices_erase hreg.registered]

/-! ## The other calls -/

/-- A function of the receive path leaves the integrators and the outbox alone. -/
theorem of_receives (h : Refines D s a) {guard : Prop} {rop : Router.Op}
    (hsim : Simulates D s a op guard rop) (hstep : step D s op = .ok (t, r))
    (hconfig : t.integratorConfigs = s.integratorConfigs) (hregistry : t.toRegistry = s.toRegistry)
    (hsequence : t.messageSequence = s.messageSequence)
    (hsend : r.sentSequence = none)
    (hrouter : ∀ b o, Router.step (computeMessageDigest D) a rop = .ok (b, o) →
      b.integrators = a.integrators ∧ b.outbox = a.outbox ∧ o.sentSequence = none) :
    Performs D a rop t r := by
  obtain ⟨-, b, o, hb, hreceives, hreceived⟩ := hsim.sound hstep
  obtain ⟨hintegrators, houtbox, hnone⟩ := hrouter b o hb
  exact ⟨b, o, hb, h.represents.of_integrators hconfig hregistry hsequence hintegrators
    hreceives.inbox, houtbox, hreceived, hsend.trans hnone.symm⟩

/-- **A call that does not send is a step of the router.** -/
theorem call (hk : CollisionFree D.keccak) (h : Refines D s a) {f : Call}
    (hstep : step D s (.call msg f) = .ok (t, r)) (hregular : Op.Regular s (.call msg f))
    (hsend : ∀ frame, r.ret ≠ .sending frame) : Performs D a (f.operation D msg.sender) t r := by
  obtain ⟨hsender, htransfer⟩ := hregular
  cases step_effect hstep with
  | admin hadmin => exact h.adminStep hsender hadmin
  | configure => exact h.configure hsender (by simpa [Op.duringTransfer] using htransfer) hstep
  | inbox hinbox =>
    cases hinbox with
    | attest hattests =>
      refine h.of_receives (h.receives.attestMessage hk h.counted hattests.dstAddr_eq) hstep rfl
        rfl rfl rfl fun b o hb => ?_
      obtain ⟨c, i, -, -, -, -, rfl, rfl⟩ := Router.attest_eq_ok.1 hb
      exact ⟨rfl, rfl, rfl⟩
    | recv hm =>
      subst hm
      refine h.of_receives (h.receives.recvMessage hk) hstep rfl rfl rfl rfl fun b o hb => ?_
      obtain ⟨c, -, -, -, rfl, rfl⟩ := Router.recv_eq_ok.1 hb
      exact ⟨rfl, rfl, rfl⟩
    | exec hm =>
      subst hm
      refine h.of_receives (h.receives.execMessage hk) hstep rfl rfl rfl rfl fun b o hb => ?_
      obtain ⟨-, rfl, rfl⟩ := Router.exec_eq_ok.1 hb
      exact ⟨rfl, rfl, rfl⟩
  | send => exact absurd rfl (hsend _)

end Refines

end GmpRouter.Evm
