import GmpRouter.Evm.Execution

/-!
# What a step of the EVM endpoint does

The inversion of the step function. An atomic step either writes the configuration of one
integrator, changes the adapter registry of one integrator, writes one attestation record, uses a
sequence number, or only moves value (`Effect`, `step_effect`). The invariants of the development
are proved from this classification, none of them by unfolding the functions of the contract again.
-/

namespace GmpRouter.Evm

open Endpoint

/-- The functions that write the configuration `integratorConfigs[integrator]`, with the
configuration they write and the event they emit. -/
inductive AdminStep (s : State) (sender : Address) :
    Call → Address → IntegratorConfig → Event → Prop
  | register {initialAdmin : Address} : initialAdmin ≠ 0#160 →
      (s.integratorConfigs sender).isInitialized = false →
      AdminStep s sender (.register initialAdmin) sender ⟨true, initialAdmin, 0#160⟩
        (.integratorRegistered sender initialAdmin)
  | updateAdmin {integrator newAdmin : Address} : OnlyAdmin s integrator sender →
      newAdmin ≠ 0#160 → (s.integratorConfigs integrator).pendingAdmin = 0#160 →
      AdminStep s sender (.updateAdmin integrator newAdmin) integrator
        { s.integratorConfigs integrator with admin := newAdmin }
        (.adminUpdated integrator sender newAdmin)
  | transferAdmin {integrator newAdmin : Address} : OnlyAdmin s integrator sender →
      newAdmin ≠ 0#160 → (s.integratorConfigs integrator).pendingAdmin = 0#160 →
      AdminStep s sender (.transferAdmin integrator newAdmin) integrator
        { s.integratorConfigs integrator with pendingAdmin := newAdmin }
        (.adminUpdateRequested integrator sender newAdmin)
  | claimAdmin {integrator : Address} : (s.integratorConfigs integrator).pendingAdmin ≠ 0#160 →
      (sender = (s.integratorConfigs integrator).admin ∨
        sender = (s.integratorConfigs integrator).pendingAdmin) →
      AdminStep s sender (.claimAdmin integrator) integrator
        { s.integratorConfigs integrator with admin := sender, pendingAdmin := 0#160 }
        (.adminUpdated integrator (s.integratorConfigs integrator).admin sender)
  | discardAdmin {integrator : Address} : OnlyAdmin s integrator sender →
      (s.integratorConfigs integrator).pendingAdmin = 0#160 →
      AdminStep s sender (.discardAdmin integrator) integrator
        { s.integratorConfigs integrator with admin := 0#160 }
        (.adminUpdated integrator sender 0#160)

/-- The functions that write the attestation record of a message to an integrator, with the record
they write. -/
inductive InboxStep (E : Env) (s : State) (sender : Address) :
    Call → Address → Message → AttestationInfo → Receipt → Prop
  | attest {m : Message} {integrator : Address} : Attests E s sender m integrator →
      InboxStep E s sender (.attestMessage m) integrator m
        ((s.attestationInfo integrator (computeMessageDigest E m)).attest
          (s.adapterInfos integrator sender).index)
        { events := [.messageAttestedTo (computeMessageDigest E m) m
          ((s.attestationInfo integrator (computeMessageDigest E m)).attestedAdapters |||
            AdapterRegistry.bit (s.adapterInfos integrator sender).index) (fromAddress sender)] }
  | recv {args : RecvMessageArgs} {m : Message} {info : AttestationInfo} :
      m = inbound E sender args → info = s.attestationInfo sender (computeMessageDigest E m) →
      args.srcChain ≠ 0#16 → s.perChainRecvAdapterBitmap sender args.srcChain ≠ 0#128 →
      info.attestedAdapters ≠ 0#128 → info.executed = false →
      InboxStep E s sender (.recvMessage args) sender m { info with executed := true }
        ⟨.received (s.perChainRecvAdapterBitmap sender args.srcChain) info.attestedAdapters
          info.numAttested,
          [.messageReceived (computeMessageDigest E m) m
            (s.perChainRecvAdapterBitmap sender args.srcChain) info.attestedAdapters]⟩
  | exec {args : RecvMessageArgs} {m : Message} {info : AttestationInfo} :
      m = inbound E sender args → info = s.attestationInfo sender (computeMessageDigest E m) →
      info.executed = false →
      InboxStep E s sender (.execMessage args) sender m { info with executed := true }
        { events := [] }

/-- What a successful step does. -/
inductive Effect (E : Env) (s : State) : Op → State → Receipt → Prop
  | admin {msg : Msg} {call : Call} {integrator : Address} {config : IntegratorConfig}
      {event : Event} : AdminStep s msg.sender call integrator config event →
      Effect E s (.call msg call)
        { s with
          integratorConfigs := Function.update s.integratorConfigs integrator config }
        { events := [event] }
  | configure {msg : Msg} {integrator : Address} {change : AdapterRegistry.Change}
      {registry : Registry} {r : Receipt} : OnlyAdmin s integrator msg.sender →
      change.run s.toRegistry integrator = .ok (registry, r) →
      Effect E s (.call msg (.configure integrator change)) { s with toRegistry := registry } r
  | inbox {msg : Msg} {call : Call} {integrator : Address} {m : Message} {info : AttestationInfo}
      {r : Receipt} : InboxStep E s msg.sender call integrator m info r →
      Effect E s (.call msg call)
        { s.credit msg.value with
          attestationInfo :=
            update₂ s.attestationInfo integrator (computeMessageDigest E m) info }
        r
  | send {msg : Msg} {args : SendMessageArgs} {mem : ℕ → Byte} {adapterInst : List Instruction} :
      AdapterInstructions.parseInstructions args.adapterInstructions mem
        (s.registeredAdapters msg.sender).length = .ok adapterInst →
      args.dstChain ≠ 0#16 → s.perChainSendAdapterArray msg.sender args.dstChain ≠ [] →
      s.messageSequence msg.sender ≠ BitVec.allOnes 64 →
      Effect E s (.call msg (.sendMessage args mem))
        { s.credit msg.value with
          messageSequence := Function.update s.messageSequence msg.sender
            (s.messageSequence msg.sender + 1#64) }
        ⟨.sending ⟨args, fromAddress msg.sender, s.messageSequence msg.sender, adapterInst,
          s.perChainSendAdapterArray msg.sender args.dstChain⟩, []⟩
  | forward {adapter : Address} {frame : Sending} {payload : List Byte} {deliveryPrice : ℕ} :
      deliveryPrice ≤ s.balance →
      Effect E s (.forward adapter frame payload deliveryPrice)
        { s with balance := s.balance - deliveryPrice } { events := [] }
  | sent {frame : Sending} :
      Effect E s (.sent frame) s ⟨.sequence frame.sequence, [messageSent E frame]⟩

theorem credit_zero (s : State) : s.credit 0 = s := rfl

/-- A call of a function that is not payable is its body. -/
theorem body_of_dispatch {E : Env} {s t : State} {msg : Msg} {call : Call} {r : Receipt}
    (h : dispatch E s msg call = .ok (t, r)) (hpay : call.payable = false) :
    msg.value = 0 ∧ call.body E s msg.sender = .ok (t, r) := by
  obtain ⟨hvalue, hbody⟩ := dispatch_eq_ok.1 h
  have hzero : msg.value = 0 := by simpa [hpay] using hvalue
  rw [hzero, credit_zero] at hbody
  exact ⟨hzero, hbody⟩

/-- **The inversion of the step function.** -/
theorem step_effect {E : Env} {s t : State} {op : Op} {r : Receipt} (h : step E s op = .ok (t, r)) :
    Effect E s op t r := by
  cases op with
  | forward adapter frame payload deliveryPrice =>
    obtain ⟨hle, h⟩ := require_bind_eq_ok.1 h
    obtain ⟨rfl, rfl⟩ := Prod.mk.inj (pure_eq_ok.1 h)
    exact .forward hle
  | sent frame =>
    obtain ⟨rfl, rfl⟩ := Prod.mk.inj (pure_eq_ok.1 h)
    exact .sent
  | call msg call =>
    cases call with
    | register initialAdmin =>
      obtain ⟨ha, hi, rfl, rfl⟩ := register_eq_ok.1 (body_of_dispatch h rfl).2
      exact .admin (.register ha hi)
    | updateAdmin integrator newAdmin =>
      obtain ⟨ho, ha, hp, rfl, rfl⟩ := updateAdmin_eq_ok.1 (body_of_dispatch h rfl).2
      exact .admin (.updateAdmin ho ha hp)
    | transferAdmin integrator newAdmin =>
      obtain ⟨ho, ha, hp, rfl, rfl⟩ := transferAdmin_eq_ok.1 (body_of_dispatch h rfl).2
      exact .admin (.transferAdmin ho ha hp)
    | claimAdmin integrator =>
      obtain ⟨hp, hs, rfl, rfl⟩ := claimAdmin_eq_ok.1 (body_of_dispatch h rfl).2
      exact .admin (.claimAdmin hp hs)
    | discardAdmin integrator =>
      obtain ⟨ho, hp, rfl, rfl⟩ := discardAdmin_eq_ok.1 (body_of_dispatch h rfl).2
      exact .admin (.discardAdmin ho hp)
    | configure integrator change =>
      have hbody := (body_of_dispatch h rfl).2
      rw [body_configure] at hbody
      obtain ⟨ho, registry, hrun, rfl⟩ := registryAsAdmin_eq_ok.1 hbody
      exact .configure ho hrun
    | sendMessage args mem =>
      obtain ⟨inst, hinst, hc, hne, hmax, rfl, rfl⟩ := sendMessage_eq_ok.1 (dispatch_eq_ok.1 h).2
      exact .send hinst hc hne hmax
    | attestMessage m =>
      obtain ⟨hvalue, hbody⟩ := body_of_dispatch h rfl
      obtain ⟨integrator, hatt, rfl, rfl⟩ := attestMessage_eq_ok.1 hbody
      simpa [hvalue, credit_zero] using Effect.inbox (E := E) (.attest hatt)
    | recvMessage args =>
      obtain ⟨hc, hne, hatt, hex, rfl, rfl⟩ := recvMessage_eq_ok.1 (dispatch_eq_ok.1 h).2
      exact .inbox (.recv rfl rfl hc hne hatt hex)
    | execMessage args =>
      obtain ⟨hvalue, hbody⟩ := body_of_dispatch h rfl
      obtain ⟨hex, rfl, rfl⟩ := execMessage_eq_ok.1 hbody
      simpa [hvalue, credit_zero] using Effect.inbox (E := E) (.exec rfl rfl hex)

/-! ## Functions of the registry -/

section Configure

variable {E : Env} {s t : State} {r : Receipt} {I : Address}

theorem exists_configure_iff {msg : Msg} {change : AdapterRegistry.Change} :
    (∃ t r, step E s (.call msg (.configure I change)) = .ok (t, r)) ↔
      msg.value = 0 ∧ OnlyAdmin s I msg.sender ∧ change.Accepts s.toRegistry I := by
  simp only [step, dispatch_eq_ok, body_configure, registryAsAdmin_eq_ok, Call.payable,
    Bool.false_eq_true, false_or, ← AdapterRegistry.Change.exists_run_iff]
  constructor
  · rintro ⟨_, _, hvalue, ho, registry, hrun, -⟩
    exact ⟨hvalue, ⟨ho.1, ho.2⟩, registry, _, hrun⟩
  · rintro ⟨hvalue, ho, registry, r, hrun⟩
    exact ⟨_, r, hvalue, ⟨ho.1, ho.2⟩, registry, hrun, rfl⟩

theorem run_of_configure {msg : Msg} {change : AdapterRegistry.Change}
    (hstep : step E s (.call msg (.configure I change)) = .ok (t, r)) :
    change.run s.toRegistry I = .ok (t.toRegistry, r) := by
  cases step_effect hstep with
  | configure _ hrun => exact hrun
  | admin h => cases h
  | inbox h => cases h

/-- The commit is a call of the function of the registry for the integrator. -/
def Configures (integrator : Address) (change : AdapterRegistry.Change)
    (c : Commit State Op Receipt) : Prop :=
  ∃ msg, c.input = .call msg (.configure integrator change)

end Configure

end GmpRouter.Evm
