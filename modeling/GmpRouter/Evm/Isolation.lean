import GmpRouter.Evm.Admin
import GmpRouter.Evm.Attestation
import GmpRouter.Evm.Sequences
import GmpRouter.Foundations.Partition

/-!
# The isolation of integrators on EVM

A part of a transaction reads and writes the entries of one integrator in the mappings of the
contract, apart from the balance. Hence what an execution does to these entries, and what the parts
of it return and emit that are about the integrator, is determined by these parts alone, whatever
adapters and other integrators do in between (`parts_independent`).
-/

namespace GmpRouter.Evm

open Endpoint AdapterRegistry

variable {D : Env} {s t u v : State} {op : Op} {r r' : Receipt} {I J : Address} {msg : Msg}
  {call : Call}

/-! ## The parts -/

/-- The integrator whose entries the call is about. -/
def Call.integrator (sender : Address) : Call → UniversalAddress
  | .updateAdmin I _ | .transferAdmin I _ | .claimAdmin I | .discardAdmin I | .configure I _ =>
    fromAddress I
  | .attestMessage m => m.dstAddr
  | .register .. | .sendMessage .. | .recvMessage .. | .execMessage .. => fromAddress sender

def Op.integrator : Op → UniversalAddress
  | .call msg call => call.integrator msg.sender
  | .forward _ frame _ _ | .sent frame => frame.sender

/-- The entries of the integrator are the same in both states. -/
structure SameEntries (I : Address) (s u : State) : Prop where
  config : u.integratorConfigs I = s.integratorConfigs I
  view : u.toRegistry.view I = s.toRegistry.view I
  messageSequence : u.messageSequence I = s.messageSequence I
  attestationInfo : u.attestationInfo I = s.attestationInfo I

/-- The entries of the integrator with the universal address. -/
def SameFor (uAddr : UniversalAddress) (s u : State) : Prop :=
  ∀ I, fromAddress I = uAddr → SameEntries I s u

theorem sameFor_equivalence (uAddr : UniversalAddress) : Equivalence (SameFor uAddr) where
  refl _ _ _ := ⟨rfl, rfl, rfl, rfl⟩
  symm h I hI := by
    obtain ⟨hconfig, hview, hsequence, hinfo⟩ := h I hI
    exact ⟨hconfig.symm, hview.symm, hsequence.symm, hinfo.symm⟩
  trans h h' I hI := by
    obtain ⟨hconfig, hview, hsequence, hinfo⟩ := h I hI
    obtain ⟨hconfig', hview', hsequence', hinfo'⟩ := h' I hI
    exact ⟨hconfig'.trans hconfig, hview'.trans hview, hsequence'.trans hsequence,
      hinfo'.trans hinfo⟩

/-! ## What a step does to its part -/

section Registry

variable {registry registry' : Registry} {change : Change} {w : Registry}

/-- A function of the registry does the same to the same entries. -/
theorem AdapterRegistry.Change.run_own (hrun : change.run w I = .ok (registry, r))
    (hrun' : change.run u.toRegistry I = .ok (registry', r'))
    (hview : u.toRegistry.view I = w.view I) :
    r' = r ∧ registry'.view I = registry.view I := by
  obtain ⟨hadapters, hinfos, hsend, hrecv⟩ := Registry.View.mk.inj hview
  obtain ⟨-, rfl, rfl⟩ := Change.run_eq_ok.1 hrun
  obtain ⟨-, rfl, rfl⟩ := Change.run_eq_ok.1 hrun'
  cases change with
  | addAdapter A =>
    simp only [Change.effect, Change.receipt, Registry.view, update₂_eq_update,
      Function.update_self, hadapters, hinfos, hsend, hrecv, and_self]
  | _ =>
    simp only [Change.effect, Change.receipt, Registry.view, update₂_eq_update, hadapters, hinfos,
      hsend, hrecv, and_self]

end Registry

/-- The integrator that an admin function is about. -/
theorem AdminStep.integrator_eq {sender : Address} {config : IntegratorConfig} {event : Event}
    (h : AdminStep s sender call I config event) : call.integrator sender = fromAddress I := by
  cases h <;> rfl

theorem AdminStep.own {sender : Address} {config config' : IntegratorConfig} {event event' : Event}
    (h : AdminStep s sender call I config event) (h' : AdminStep u sender call I config' event')
    (hconfig : u.integratorConfigs I = s.integratorConfigs I) :
    config' = config ∧ event' = event := by
  cases h <;> cases h' <;> simp only [hconfig, and_self]

theorem InboxStep.integrator_eq {sender : Address} {m : Message} {info : AttestationInfo}
    (h : InboxStep D s sender call I m info r) : call.integrator sender = fromAddress I := by
  cases h with
  | attest hatt => exact hatt.dstAddr_eq
  | recv | exec => rfl

theorem InboxStep.own {sender : Address} {m m' : Message} {info info' : AttestationInfo}
    (h : InboxStep D s sender call I m info r) (h' : InboxStep D u sender call I m' info' r')
    (hsame : SameEntries I s u) : m' = m ∧ info' = info ∧ r' = r := by
  obtain ⟨-, hinfos, -, hrecv⟩ := Registry.View.mk.inj hsame.view
  cases h with
  | attest hatt =>
    cases h' with
    | attest hatt' => simp only [hsame.attestationInfo, hinfos, and_self]
  | recv hm hinfo =>
    cases h' with
    | recv hm' hinfo' =>
      subst hm hm' hinfo hinfo'
      simp only [hsame.attestationInfo, hrecv, and_self]
  | exec hm hinfo =>
    cases h' with
    | exec hm' hinfo' =>
      subst hm hm' hinfo hinfo'
      simp only [hsame.attestationInfo, and_self]

/-- A step changes no entries of other integrators. -/
theorem sameEntries_of_step (hstep : step D s op = .ok (t, r))
    (hI : fromAddress I ≠ op.integrator) : SameEntries I s t := by
  cases step_effect hstep with
  | admin h =>
    have hne : I ≠ _ := fun heq => hI ((congrArg fromAddress heq).trans h.integrator_eq.symm)
    exact ⟨Function.update_of_ne hne .., rfl, rfl, rfl⟩
  | configure _ hrun =>
    exact ⟨rfl, view_run_of_ne hrun fun heq => hI (congrArg fromAddress heq), rfl, rfl⟩
  | inbox h =>
    have hne : I ≠ _ := fun heq => hI ((congrArg fromAddress heq).trans h.integrator_eq.symm)
    exact ⟨rfl, rfl, rfl, update₂_left hne⟩
  | send => exact ⟨rfl, rfl,
    Function.update_of_ne (fun heq => hI (congrArg fromAddress heq)) .., rfl⟩
  | forward | sent => exact ⟨rfl, rfl, rfl, rfl⟩

/-- Steps that succeed do the same to the same entries. -/
theorem own_of_step (hstep : step D s op = .ok (t, r)) (hstep' : step D u op = .ok (v, r'))
    (hsame : SameFor op.integrator s u) : r' = r ∧ SameFor op.integrator t v := by
  cases step_effect hstep with
  | @admin msg call I config event h =>
    cases step_effect hstep' with
    | @admin _ _ I' config' event' h' =>
      obtain rfl : I' = I := fromAddress_injective (h'.integrator_eq.symm.trans h.integrator_eq)
      obtain ⟨hconfig, hview, hsequence, hinfo⟩ := hsame I' h.integrator_eq.symm
      obtain ⟨rfl, rfl⟩ := h.own h' hconfig
      refine ⟨rfl, fun J hJ => ?_⟩
      obtain rfl : J = I' := fromAddress_injective (hJ.trans h.integrator_eq)
      exact ⟨by simp only [Function.update_self], hview, hsequence, hinfo⟩
    | configure => cases h
    | inbox h' => cases h <;> cases h'
    | send => cases h
  | @configure msg I change registry r _ hrun =>
    cases step_effect hstep' with
    | admin h' => cases h'
    | @configure _ _ _ registry' r' _ hrun' =>
      obtain ⟨hconfig, hview, hsequence, hinfo⟩ := hsame I rfl
      obtain ⟨rfl, hview'⟩ := Change.run_own hrun hrun' hview
      refine ⟨rfl, fun J hJ => ?_⟩
      obtain rfl : J = I := fromAddress_injective hJ
      exact ⟨hconfig, hview', hsequence, hinfo⟩
    | inbox h' => cases h'
  | @inbox msg call I m info r h =>
    cases step_effect hstep' with
    | admin h' => cases h <;> cases h'
    | configure => cases h
    | @inbox _ _ I' m' info' r' h' =>
      obtain rfl : I' = I := fromAddress_injective (h'.integrator_eq.symm.trans h.integrator_eq)
      have hI := hsame I' h.integrator_eq.symm
      obtain ⟨rfl, rfl, rfl⟩ := h.own h' hI
      refine ⟨rfl, fun J hJ => ?_⟩
      obtain rfl : J = I' := fromAddress_injective (hJ.trans h.integrator_eq)
      refine ⟨hI.config, hI.view, hI.messageSequence, ?_⟩
      simp only [update₂_eq_update, hI.attestationInfo]
    | send => cases h
  | @send msg args mem adapterInst hparse _ _ _ =>
    cases step_effect hstep' with
    | admin h' => cases h'
    | inbox h' => cases h'
    | @send _ _ _ adapterInst' hparse' _ _ _ =>
      obtain ⟨hconfig, hview, hsequence, hinfo⟩ := hsame msg.sender rfl
      obtain ⟨hadapters, -, hsend, -⟩ := Registry.View.mk.inj hview
      rw [hadapters] at hparse'
      obtain rfl := Except.ok.inj (hparse'.symm.trans hparse)
      refine ⟨by rw [hsend, hsequence], fun J hJ => ?_⟩
      obtain rfl : J = msg.sender := fromAddress_injective hJ
      exact ⟨hconfig, hview, by simp only [Function.update_self, hsequence], hinfo⟩
  | forward =>
    cases step_effect hstep' with
    | forward =>
      refine ⟨rfl, fun J hJ => ?_⟩
      obtain ⟨hconfig, hview, hsequence, hinfo⟩ := hsame J hJ
      exact ⟨hconfig, hview, hsequence, hinfo⟩
  | sent =>
    cases step_effect hstep' with
    | sent => exact ⟨rfl, hsame⟩

/-! ## Executions -/

theorem partition (D : Env) : (machine D).Partition Op.integrator SameFor where
  equivalence := sameFor_equivalence
  others _ _ _ _ hstep _ hne _ hI := sameEntries_of_step hstep (hI ▸ hne)
  own _ _ _ _ _ _ _ hstep hstep' hsame := own_of_step hstep hstep' hsame

/-- The parts of an execution that are about the integrator. -/
def partsOf (I : Address) (log : Log) : Log := log.filter (·.input.integrator = fromAddress I)

/-- **Integrators do not interfere on EVM.** Take any two executions, whatever adapters do that are
called in them, with the same parts about an integrator, in the same order. Then these parts return
and emit the same in both, and both end with the same configuration, adapters, counter and
attestation records of the integrator. -/
theorem parts_independent (D : Env) (txs txs' : List Tx) (I : Address)
    (hparts : (partsOf I (execAll D .init txs).2).map Commit.input =
      (partsOf I (execAll D .init txs').2).map Commit.input) :
    SameEntries I (execAll D .init txs).1 (execAll D .init txs').1 ∧
      (partsOf I (execAll D .init txs).2).map Commit.output =
        (partsOf I (execAll D .init txs').2).map Commit.output := by
  obtain ⟨hsame, houtputs⟩ :=
    (partition D).path (execAll_path D .init txs) (execAll_path D .init txs')
    ((sameFor_equivalence (fromAddress I)).refl _) hparts
  exact ⟨hsame I rfl, houtputs⟩

/-- Integrator 20 registers, and adds and enables the adapter of integrator 10, before integrator 10
registers. -/
def otherTxs : List Tx :=
  [.mk ⟨20#160, 0⟩ (.register 21#160) [],
    .mk ⟨21#160, 0⟩ (.configure 20#160 (.addAdapter 12#160)) [],
    .mk ⟨21#160, 0⟩ (.configure 20#160 (.enableRecvAdapter 1#16 12#160)) []]

theorem parts_independent_sample :
    (partsOf 10#160 (execAll sampleEnv .init (otherTxs ++ sampleTxs.take 3)).2).length = 3 ∧
      SameEntries 10#160 (execAll sampleEnv .init (sampleTxs.take 3)).1
        (execAll sampleEnv .init (otherTxs ++ sampleTxs.take 3)).1 :=
  ⟨by decide +kernel,
    (parts_independent sampleEnv (sampleTxs.take 3) (otherTxs ++ sampleTxs.take 3) 10#160 rfl).1⟩

end GmpRouter.Evm
