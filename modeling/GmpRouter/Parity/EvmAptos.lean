import GmpRouter.Evm.Simulation
import GmpRouter.Parity.EvmSvm

/-!
# The EVM endpoint and the Aptos endpoint

The EVM endpoint pushes a message to the adapters when it is sent; on Aptos the adapters pull it
from the outbox. Each committed part of an execution of the first is a call of the second
(`Evm.Op.onAptos`): a call of an adapter is one of `pick_up_message`. These calls, in this order,
all succeed, and lead to the same configurations, sequence numbers and attestations, with an empty
outbox (`evm_replayed_on_aptos`).
-/

namespace GmpRouter

open Evm (fromAddress fromAddress_injective adminOf sendIndices)
open GmpRouter.Bitmap (indices indices_injective)

variable {D : Evm.Env} {s t : Evm.State} {u : Aptos.State} {a b : Router.State} {I : Evm.Address}
  {op : Evm.Op} {r : Evm.Receipt}

/-! ## The calls -/

/-- The call of the Aptos endpoint for a call of the EVM endpoint. -/
def Evm.Call.onAptos (D : Evm.Env) (sender : Evm.Address) : Evm.Call → Aptos.Call
  | .register initialAdmin => .register (fromAddress sender) (fromAddress initialAdmin)
  | .updateAdmin integrator newAdmin =>
    .updateAdmin (fromAddress sender) (fromAddress integrator) (fromAddress newAdmin)
  | .transferAdmin integrator newAdmin =>
    .transferAdmin (fromAddress sender) (fromAddress integrator) (fromAddress newAdmin)
  | .claimAdmin integrator => .claimAdmin (fromAddress sender) (fromAddress integrator)
  | .discardAdmin integrator => .discardAdmin (fromAddress sender) (fromAddress integrator)
  | .configure integrator (.addAdapter adapter) =>
    .addAdapter (fromAddress sender) (fromAddress integrator) (fromAddress adapter)
  | .configure integrator (.enableSendAdapter chain adapter) =>
    .enableSendAdapter (fromAddress sender) (fromAddress integrator) chain (fromAddress adapter)
  | .configure integrator (.enableRecvAdapter chain adapter) =>
    .enableRecvAdapter (fromAddress sender) (fromAddress integrator) chain (fromAddress adapter)
  | .configure integrator (.disableSendAdapter chain adapter) =>
    .disableSendAdapter (fromAddress sender) (fromAddress integrator) chain (fromAddress adapter)
  | .configure integrator (.disableRecvAdapter chain adapter) =>
    .disableRecvAdapter (fromAddress sender) (fromAddress integrator) chain (fromAddress adapter)
  | .sendMessage args _ =>
    .sendMessage (fromAddress sender) args.dstChain
      (Aptos.UniversalAddress.fromAddress args.dstAddr) (beBytes 32 args.payloadHash)
  | .attestMessage m =>
    .attestMessage (fromAddress sender) m.srcChain (beBytes 32 m.srcAddr) m.sequence m.dstChain
      (beBytes 32 m.dstAddr) (beBytes 32 m.payloadHash)
  | .recvMessage args =>
    .recvMessage (fromAddress sender) args.srcChain (beBytes 32 args.srcAddr) args.sequence
      D.ourChain (beBytes 32 args.payloadHash)
  | .execMessage args =>
    .execMessage (fromAddress sender) args.srcChain (beBytes 32 args.srcAddr) args.sequence
      D.ourChain (beBytes 32 args.payloadHash)

/-- The adapter that is called picks the message up. -/
def Evm.Op.onAptos (D : Evm.Env) : Evm.Op → Option Aptos.Call
  | .call msg function => some (function.onAptos D msg.sender)
  | .forward adapter frame _ _ =>
    some (.pickUpMessage (fromAddress adapter) frame.sender frame.sequence)
  | .sent _ => none

theorem beWord_beBytes_32 (x : BitVec 256) : beWord 256 (beBytes 32 x) = x :=
  beWord_beBytes (show 256 = 8 * 32 from rfl) x

/-- The calls on both endpoints are the same operation. -/
theorem Evm.Op.map_op_onAptos (op : Evm.Op) :
    (op.onAptos D).map Aptos.Call.op = op.operation D := by
  cases op with
  | call msg function =>
    cases function with
    | configure I change => cases change <;> rfl
    | sendMessage | attestMessage | recvMessage | execMessage =>
      simp [onAptos, Call.onAptos, operation, Call.operation, Aptos.Call.op,
        Aptos.Endpoint.messageOf, Aptos.Endpoint.messageTo, Evm.Endpoint.inbound, beWord_beBytes_32]
    | _ => rfl
  | _ => rfl

/-- What the EVM endpoint accepts passes the guards of the Aptos endpoint. -/
theorem Evm.guard_onAptos (hstep : Evm.step D s op = .ok (t, r)) {call : Aptos.Call}
    (hcall : op.onAptos D = some call) : call.Guard := by
  have hne : ∀ {A : Evm.Address}, A ≠ 0#160 → fromAddress A ≠ 0#256 :=
    fun hA => mt (fun heq => fromAddress_injective (heq.trans rfl)) hA
  have hlength : ∀ x : BitVec 256, (beBytes 32 x).length = 32 := length_beBytes 32
  cases Evm.step_effect hstep with
  | admin hadmin =>
    obtain rfl := Option.some.inj hcall
    cases hadmin with
    | register hA => exact hne hA
    | updateAdmin _ hA => exact hne hA
    | transferAdmin _ hA => exact hne hA
    | claimAdmin | discardAdmin => trivial
  | @configure msg I change =>
    obtain rfl := Option.some.inj hcall
    cases change <;> trivial
  | inbox hinbox =>
    obtain rfl := Option.some.inj hcall
    cases hinbox with
    | attest => exact ⟨hlength _, hlength _, hlength _⟩
    | recv | exec => exact ⟨hlength _, hlength _⟩
  | send =>
    obtain rfl := Option.some.inj hcall
    exact hlength _
  | forward =>
    obtain rfl := Option.some.inj hcall
    trivial
  | sent => cases hcall

/-! ## The data -/

/-- The configuration is that of the integrator on the EVM endpoint: a bitmap for the array of each
chain, and no admin for the zero address. -/
structure Evm.State.ShownAs (s : Evm.State) (I : Evm.Address) (y : Router.Configuration) :
    Prop where
  admin : y.admin = adminOf (s.integratorConfigs I).admin
  pendingAdmin : y.pendingAdmin = adminOf (s.integratorConfigs I).pendingAdmin
  adapters : y.adapters = (s.registeredAdapters I).map fromAddress
  index : ∀ A, y.index (fromAddress A) = s.adapterIndex I A
  send : ∀ chain, indices (y.bitmap .send chain) = sendIndices (s.perChainSendAdapterArray I chain)
  recv : ∀ chain, y.bitmap .recv chain = s.perChainRecvAdapterBitmap I chain

/-- **Between transactions, both endpoints keep the same data**, and the Aptos endpoint nothing
else. -/
structure EvmAptos.Related (D : Evm.Env) (s : Evm.State) (u : Aptos.State) : Prop where
  registered : ∀ U, (∃ y, u.configuration U = some y) ↔
    ∃ I, fromAddress I = U ∧ (s.integratorConfigs I).isInitialized = true
  configuration : ∀ I y, u.configuration (fromAddress I) = some y → s.ShownAs I y
  nextSequence : ∀ I n, u.nextSequence (fromAddress I) = some n → n = s.messageSequence I
  attestation : ∀ I m, m.dstAddr = fromAddress I →
    u.attestation (Evm.Endpoint.computeMessageDigest D m) =
      ((Evm.record D s I m).attestedAdapters, (Evm.record D s I m).executed)
  outbox : ∀ key, u.outboxMessages key = none

namespace EvmAptos

/-- The integrator is shown as it is described. -/
theorem shownAs_of_describes (hs : Evm.RegistryInv s) {c : Router.Integrator} (hI : s.Describes I c)
    {y : Router.Configuration} (hy : Router.ShownBy c.settings y) : s.ShownAs I y where
  admin := hy.admin_eq.trans hI.admin
  pendingAdmin := hy.pendingAdmin_eq.trans hI.pendingAdmin
  adapters := hy.adapters_eq.trans hI.adapters
  index A := by
    rw [hy.index_eq, hs.adapterIndex_eq, ← hI.adapters]
    rfl
  send chain := (hy.enabled_eq .send chain).symm.trans (hI.sendEnabled chain)
  recv chain := by
    apply indices_injective
    rw [← hy.enabled_eq, ← hI.recvEnabled]
    rfl

/-- Storages that represent one state of the router, without waiting messages, are related. -/
theorem related_of_represents (hs : Evm.RegistryInv s) (ha : Evm.Represents D s a)
    (hu : Aptos.Refines u a) (houtbox : ∀ I sequence, a.outbox I sequence = none) :
    Related D s u where
  registered U := by
    constructor
    · rintro ⟨y, hy⟩
      obtain ⟨x, hx, -⟩ := Router.Shows.of_right (hy ▸ hu.shows U)
      obtain ⟨c, hc, -⟩ := Router.settings_eq_some hx
      obtain ⟨I, rfl⟩ := ha.addressed U c hc
      exact ⟨I, rfl, (ha.describes hc).isInitialized⟩
    · rintro ⟨I, rfl, hinit⟩
      obtain ⟨c, hc, -⟩ := ha.exists_integrator hinit
      have hsettings : a.settings (fromAddress I) = some c.settings := by
        rw [Router.State.settings, hc, Option.map_some]
      obtain ⟨y, hy, -⟩ := Router.Shows.of_left (hsettings ▸ hu.shows (fromAddress I))
      exact ⟨y, hy⟩
  configuration I y hy := by
    obtain ⟨x, hx, hshown⟩ := Router.Shows.of_right (hy ▸ hu.shows (fromAddress I))
    obtain ⟨c, hc, rfl⟩ := Router.settings_eq_some hx
    exact shownAs_of_describes hs (ha.describes hc) hshown
  nextSequence I n hn := by
    rw [hu.nextSequence_eq, Option.map_eq_some_iff] at hn
    obtain ⟨c, hc, rfl⟩ := hn
    exact (ha.describes hc).nextSequence
  attestation I m hm := by
    apply recordOf_injective
    rw [← hu.inbox_attestation, ha.inbox I m hm]
    rfl
  outbox key := by
    have hnone := hu.represents.outbox key.integratorAddr key.sequence
    rw [houtbox, Option.map_eq_none_iff] at hnone
    exact hnone

theorem computeMessageDigest_eq_messageHash (D : Evm.Env) :
    Evm.Endpoint.computeMessageDigest D = Aptos.messageHash D.keccak :=
  funext (Evm.Endpoint.computeMessageDigest_eq D)

/-! ## The replay -/

/-- The call follows the step of the router that the commit is. -/
theorem follows_of_corresponds {c : Commit Evm.State Evm.Op Evm.Receipt}
    {d : Commit Router.State Router.Op Router.Out} {call : Aptos.Call}
    (hc : (Evm.machine D).Valid c)
    (hd : (Router.machine (Evm.Endpoint.computeMessageDigest D)).Valid d)
    (hcd : Evm.Corresponds D c d)
    (hcall : c.input.onAptos D = some call) :
    Machine.Follows (Aptos.machine D.keccak) (fun a u => Aptos.Refines u a)
      (fun out o => out = Aptos.Output.out o) d call := by
  intro u hu
  have hop : call.op = d.input := by
    have hmap := c.input.map_op_onAptos (D := D)
    rw [hcall, hcd.operation] at hmap
    exact Option.some.inj hmap
  have hrouter : Router.step (Aptos.messageHash D.keccak) d.pre call.op =
      .ok (d.post, d.output) := by
    rw [← computeMessageDigest_eq_messageHash, hop]
    exact hd
  obtain ⟨⟨v, o⟩, hprocess⟩ := (hu.process call).complete (Evm.guard_onAptos hc hcall) hrouter
  obtain ⟨-, b, hstep, hv⟩ := hu.step hprocess
  rw [hrouter] at hstep
  obtain ⟨rfl, hout⟩ := Prod.mk.inj (Except.ok.inj hstep)
  exact ⟨v, o, hprocess, hv, hout⟩

/-- The calls for the commits of a log. -/
def aptosCalls (D : Evm.Env) (log : Evm.Log) : List Aptos.Call :=
  log.filterMap fun c => c.input.onAptos D

theorem performs_iff {c : Commit Evm.State Evm.Op Evm.Receipt} :
    Evm.performs D c = (c.input.onAptos D).isSome := by
  rw [Evm.performs, ← Evm.Op.map_op_onAptos, Option.isSome_map]

/-- What the calls return is what the commits return. -/
theorem forall₂_follows {log : Evm.Log} {l : List (Commit Router.State Router.Op Router.Out)}
    (hlog : ∀ c ∈ log, (Evm.machine D).Valid c)
    (hl : ∀ d ∈ l, (Router.machine (Evm.Endpoint.computeMessageDigest D)).Valid d)
    (h : List.Forall₂ (Evm.Corresponds D) (log.filter (Evm.performs D)) l) :
    List.Forall₂ (Machine.Follows (Aptos.machine D.keccak) (fun a u => Aptos.Refines u a)
      (fun out o => out = Aptos.Output.out o)) l (aptosCalls D log) := by
  induction log generalizing l with
  | nil =>
    cases h
    exact .nil
  | cons c log ih =>
    have hrest := fun d hd => hlog d (List.mem_cons_of_mem c hd)
    cases hcall : c.input.onAptos D with
    | none =>
      rw [List.filter_cons, performs_iff, hcall] at h
      rw [aptosCalls, List.filterMap_cons, hcall]
      exact ih hrest hl h
    | some call =>
      rw [List.filter_cons, performs_iff, hcall] at h
      rw [aptosCalls, List.filterMap_cons, hcall]
      obtain ⟨d, l, hcd, hmatches, rfl⟩ := List.forall₂_cons_left_iff.1 h
      exact .cons (follows_of_corresponds (hlog c (List.mem_cons_self ..))
        (hl d (List.mem_cons_self ..))
        hcd hcall) (ih hrest (fun d hd => hl d (List.mem_cons_of_mem _ hd)) hmatches)

/-- A commit and the call for it report the same bitmaps and the same sequence number. -/
structure SameReports (r : Evm.Receipt) (o : Aptos.Output) : Prop where
  received : r.received = o.received
  sentSequence : r.sentSequence = o.out.sentSequence

theorem sameReports {o : Aptos.Output} {out : Router.Out} (h : Evm.Reports r out)
    (hout : out = o.out) : SameReports r o where
  received := by
    apply Option.map_injective (indices_injective.prodMap indices_injective)
    rw [h.received, hout]
    cases o <;> rfl
  sentSequence := by rw [h.sentSequence, hout]

end EvmAptos

open EvmAptos

/-- **A push is a pull.** Every execution of the EVM endpoint in which the zero address calls
nothing and no function of the registry is called during an admin transfer is one of the Aptos
endpoint: the calls for its commits, where each adapter that is called picks the message up, all
succeed from the initial state, one after another, report the same sequence numbers and the same
bitmaps, and lead to related states, with an empty outbox. -/
theorem evm_replayed_on_aptos (hk : CollisionFree D.keccak) (txs : List Evm.Tx)
    (hregular : ∀ c ∈ (Evm.execAll D .init txs).2, c.input.Regular c.pre) :
    let h := Evm.execAll D .init txs
    let h' := (Aptos.machine D.keccak).run .init (aptosCalls D h.2)
    h'.2.map Commit.input = aptosCalls D h.2 ∧ Related D h.1 h'.1 ∧
      List.Forall₂ (fun c c' => SameReports c.output c'.output)
        (h.2.filter (Evm.performs D)) h'.2 := by
  intro h h'
  obtain ⟨b, ⟨l, hpath, hmatches⟩, hb, houtbox⟩ :=
    Evm.execAll_runsAs hk txs hregular Evm.refines_init
  have hfollows := forall₂_follows (fun c hc => (Evm.execAll_path D .init txs).valid hc)
    (fun d hd => hpath.valid hd) hmatches
  obtain ⟨hu, hinputs, houtputs⟩ := hpath.run_of_follows Aptos.refines_init hfollows
  refine ⟨hinputs, related_of_represents hb.counted.registry hb.represents hu
    (fun I sequence => by rw [houtbox]), ?_⟩
  exact Machine.forall₂_trans (fun c d c' hcd hout => sameReports hcd.reports hout)
    hmatches houtputs

/-- The sample runs of both endpoints: a send that is nested in the call of an adapter. -/
theorem evm_replayed_on_aptos_sample :
    let h := Evm.execAll ⟨id, 2#16⟩ .init Evm.reentrantTxs
    let h' := (Aptos.machine id).run .init (aptosCalls ⟨id, 2#16⟩ h.2)
    h'.2.length = 8 ∧ Related ⟨id, 2#16⟩ h.1 h'.1 := by
  intro h h'
  obtain ⟨hinputs, hrelated, -⟩ := evm_replayed_on_aptos (D := ⟨id, 2#16⟩) collisionFree_id
    Evm.reentrantTxs (by decide +kernel)
  have hlength : (aptosCalls ⟨id, 2#16⟩ h.2).length = 8 := by decide +kernel
  rw [← hlength, ← hinputs, List.length_map]
  exact ⟨rfl, hrelated⟩

end GmpRouter
