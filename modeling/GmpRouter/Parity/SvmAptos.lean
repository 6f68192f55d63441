import GmpRouter.Svm.Configuration
import GmpRouter.Svm.Completeness
import GmpRouter.Aptos.Configuration

/-!
# The SVM program and the Aptos module are one machine

The two endpoints keep the same data, the one in accounts and the other in resources and tables.
Their data are the same (`Related`) exactly when they represent the same state of the router
(`related_iff`). As both are simulated by the router and make each of its steps that their guards
allow, they are bisimilar (`bisimulation`): calls of one operation succeed on both or on neither,
report the same bitmaps, and leave the data the same.
-/

namespace GmpRouter

open GmpRouter.Bitmap (indices indices_injective)

variable {E : Svm.Env} {s t : Svm.State} {u v : Aptos.State} {a b : Router.State}
  {I : Svm.Pubkey} {sequence : BitVec 64}

/-! ## The data -/

/-- A message of the outbox, with the bitmap of the adapters that have not picked it up. -/
structure Waiting where
  dstChain : ChainId
  dstAddr : UniversalAddress
  payloadHash : Bytes32
  outstandingAdapters : BitVec 128
  deriving DecidableEq

def Svm.OutboxMessage.waiting (message : Svm.OutboxMessage) : Waiting :=
  ⟨message.dstChain, message.dstAddr, message.payloadHash, message.outstandingAdapters⟩

def Aptos.OutboxMessage.waiting (message : Aptos.OutboxMessage) : Waiting :=
  ⟨message.dstChain, message.dstAddr.toAddress, beWord 256 message.payloadHash,
    message.outstandingAdapters⟩

/-- The message waits in the outbox of the integrator, under the sequence number. -/
def Svm.State.Waits (s : Svm.State) (I : UniversalAddress) (sequence : BitVec 64) (w : Waiting) :
    Prop :=
  ∃ k message, s.accounts (.external k) = some (.outboxMessage message) ∧ message.srcAddr = I ∧
    message.sequence = sequence ∧ message.waiting = w

def Aptos.State.Waits (u : Aptos.State) (I : Address) (sequence : BitVec 64) (w : Waiting) : Prop :=
  ∃ message, u.outboxMessages ⟨I, sequence⟩ = some message ∧ message.waiting = w

/-- The next sequence number of a registered integrator. -/
def Svm.State.nextSequence (E : Svm.Env) (s : Svm.State) (I : UniversalAddress) :
    Option (BitVec 64) :=
  (s.find (α := Svm.SequenceTracker) (E.pda (.sequenceTracker I))).map Svm.SequenceTracker.sequence

def Aptos.State.nextSequence (u : Aptos.State) (I : Address) : Option (BitVec 64) :=
  (u.accounts I).integratorCapability.map Aptos.IntegratorCapability.sequence

/-- The bitmap of the attestations of a message, and whether it is executed. -/
def Svm.State.attestation (E : Svm.Env) (s : Svm.State) (digest : Digest) : BitVec 128 × Bool :=
  match s.find (α := Svm.AttestationInfo) (E.pda (.attestationInfo digest)) with
  | some info => (info.attestedAdapters, info.executed)
  | none => (0#128, false)

def Aptos.State.attestation (u : Aptos.State) (digest : Digest) : BitVec 128 × Bool :=
  let info := u.attestationInfos.borrowWithDefault digest {}
  (info.attestedAdapters, info.executed)

/-- **Both endpoints keep the same data.** -/
structure SvmAptos.Related (E : Svm.Env) (s : Svm.State) (u : Aptos.State) : Prop where
  configuration : ∀ I : UniversalAddress, s.configuration E I = u.configuration I
  nextSequence : ∀ I : UniversalAddress, s.nextSequence E I = u.nextSequence I
  outbox : ∀ (I : UniversalAddress) sequence w, s.Waits I sequence w ↔ u.Waits I sequence w
  inbox : ∀ digest, s.attestation E digest = u.attestation digest

/-! ## The data and the state of the router -/

def Waiting.outgoing (w : Waiting) : Router.Outgoing :=
  ⟨w.dstChain, w.dstAddr, w.payloadHash, indices w.outstandingAdapters⟩

theorem Waiting.outgoing_injective : Function.Injective Waiting.outgoing := by
  rintro ⟨dstChain, dstAddr, payloadHash, outstandingAdapters⟩ ⟨_, _, _, outstandingAdapters'⟩ h
  obtain ⟨rfl, rfl, rfl, houtstanding⟩ := Router.Outgoing.mk.inj h
  obtain rfl := indices_injective houtstanding
  rfl

/-- What the router knows of a message with these attestations. -/
def recordOf (x : BitVec 128 × Bool) : Router.Record := ⟨indices x.1, x.2⟩

theorem recordOf_injective : Function.Injective recordOf := by
  rintro ⟨attested, executed⟩ ⟨attested', executed'⟩ h
  obtain ⟨hattested, rfl⟩ := Router.Record.mk.inj h
  obtain rfl := indices_injective hattested
  rfl

/-- An integrator of the router is its settings and its next sequence number. -/
theorem Router.integrator_eq {x y : Option Router.Integrator}
    (hsettings : x.map Router.Integrator.settings = y.map Router.Integrator.settings)
    (hsequence : x.map Router.Integrator.nextSequence = y.map Router.Integrator.nextSequence) :
    x = y := by
  cases x with
  | none => exact (Option.map_eq_none_iff.1 hsettings.symm).symm
  | some c =>
    cases y with
    | none => cases hsettings
    | some d =>
      obtain ⟨hadmin, hpending, hadapters, henabled⟩ :=
        Router.Settings.mk.inj (Option.some.inj hsettings)
      have hsequence : c.nextSequence = d.nextSequence := Option.some.inj hsequence
      cases c
      cases d
      simp_all

namespace Svm.Refines

theorem nextSequence_eq (h : Svm.Refines E s a) (I : UniversalAddress) :
    s.nextSequence E I = (a.integrators I).map Router.Integrator.nextSequence := by
  have htracker : s.find (E.pda (.sequenceTracker I)) = (a.integrators I).map (trackerOf E I) :=
    (h.represents.integrator I).tracker
  rw [State.nextSequence, htracker, Option.map_map]
  rfl

theorem outbox_eq_some (h : Svm.Refines E s a) {outgoing : Router.Outgoing} :
    a.outbox I sequence = some outgoing ↔ ∃ w, s.Waits I sequence w ∧ w.outgoing = outgoing := by
  rw [h.represents.outbox.exists_iff]
  constructor
  · rintro ⟨k, message, hk, hI, hsequence, rfl⟩
    exact ⟨_, ⟨k, message, view_outbox.1 hk, hI, hsequence, rfl⟩, rfl⟩
  · rintro ⟨-, ⟨k, message, hk, hI, hsequence, rfl⟩, rfl⟩
    exact ⟨k, message, view_outbox.2 hk, hI, hsequence, rfl⟩

theorem inbox_attestation (h : Svm.Refines E s a) (digest : Digest) :
    a.inbox digest = recordOf (s.attestation E digest) := by
  rw [h.represents.inbox, View.record, State.attestation]
  cases hinfo : s.find (α := AttestationInfo) (E.pda (.attestationInfo digest)) with
  | none =>
    have hview : (s.view E).attestation digest = none := hinfo
    rw [hview]
    exact congrArg (Router.Record.mk · false) GmpRouter.Bitmap.indices_zero.symm
  | some info =>
    have hview : (s.view E).attestation digest = some info := hinfo
    rw [hview]
    rfl

end Svm.Refines

namespace Aptos.Refines

theorem nextSequence_eq (h : Aptos.Refines u b) (I : Address) :
    u.nextSequence I = (b.integrators I).map Router.Integrator.nextSequence := by
  rw [State.nextSequence]
  cases hc : b.integrators I with
  | none =>
    have hI := h.represents.accounts I
    rw [hc] at hI
    have hI : u.accounts I = {} := hI
    rw [hI]
    rfl
  | some c =>
    rw [(h.represents.published hc).capability]
    rfl

theorem outbox_eq_some (h : Aptos.Refines u b) {outgoing : Router.Outgoing} :
    b.outbox I sequence = some outgoing ↔ ∃ w, u.Waits I sequence w ∧ w.outgoing = outgoing := by
  rw [← h.represents.outbox, Option.map_eq_some_iff]
  constructor
  · rintro ⟨message, hm, rfl⟩
    exact ⟨_, ⟨message, hm, rfl⟩, rfl⟩
  · rintro ⟨-, ⟨message, hm, rfl⟩, rfl⟩
    exact ⟨message, hm, rfl⟩

theorem inbox_attestation (h : Aptos.Refines u b) (digest : Digest) :
    b.inbox digest = recordOf (u.attestation digest) := (h.represents.inbox digest).symm

end Aptos.Refines

namespace SvmAptos

/-- **The data are the same exactly when they represent the same state of the router.** -/
theorem related_iff (h : Svm.Refines E s a) (h' : Aptos.Refines u b) : Related E s u ↔ a = b := by
  constructor
  · intro hrelated
    have hintegrators : a.integrators = b.integrators := by
      funext I
      refine Router.integrator_eq ?_ ?_
      · exact ((h.shows I).eq_iff (h'.shows I)).1 (hrelated.configuration I)
      · rw [← h.nextSequence_eq, ← h'.nextSequence_eq, hrelated.nextSequence]
    have houtbox : a.outbox = b.outbox := by
      funext I sequence
      ext outgoing
      rw [h.outbox_eq_some, h'.outbox_eq_some]
      simp only [hrelated.outbox]
    have hinbox : a.inbox = b.inbox := by
      funext digest
      rw [h.inbox_attestation, h'.inbox_attestation, hrelated.inbox]
    cases a
    cases b
    simp_all
  · rintro rfl
    have hwaits : ∀ {P Q : Waiting → Prop} (w : Waiting),
        (∀ outgoing, (∃ w, P w ∧ w.outgoing = outgoing) ↔ ∃ w, Q w ∧ w.outgoing = outgoing) →
          (P w ↔ Q w) := by
      intro P Q w hPQ
      have hw := hPQ w.outgoing
      simpa only [Waiting.outgoing_injective.eq_iff, exists_eq_right] using hw
    constructor
    · exact fun I => ((h.shows I).eq_iff (h'.shows I)).2 rfl
    · exact fun I => (h.nextSequence_eq I).trans (h'.nextSequence_eq I).symm
    · exact fun I sequence w => hwaits w fun _ => h.outbox_eq_some.symm.trans h'.outbox_eq_some
    · exact fun digest => recordOf_injective
        ((h.inbox_attestation digest).symm.trans (h'.inbox_attestation digest))

theorem related_init : Related E .init .init :=
  (related_iff Svm.refines_init Aptos.refines_init).2 rfl

end SvmAptos

/-! ## Outputs -/

/-- The enabled and the attested adapters that a received message reports. -/
def Svm.Event.received : Svm.Event → Option (BitVec 128 × BitVec 128)
  | .messageReceived _ _ enabledBitmap attestedBitmap => some (enabledBitmap, attestedBitmap)
  | _ => none

/-- The adapters that remain, as a message that is picked up reports. -/
def Svm.Event.remaining : Svm.Event → Option (BitVec 128)
  | .messagePickedUp _ _ _ _ _ _ remainingAdapters => some remainingAdapters
  | _ => none

def Aptos.Output.received : Aptos.Output → Option (BitVec 128 × BitVec 128)
  | .adapters enabledRecvAdapters attestedAdapters => some (enabledRecvAdapters, attestedAdapters)
  | _ => none

def Aptos.Output.remaining : Aptos.Output → Option (BitVec 128)
  | .message m => some m.outstandingAdapters
  | _ => none

theorem Svm.Event.receivedSets_out (e : Svm.Event) :
    e.out.receivedSets = e.received.map (Prod.map indices indices) := by
  cases e <;> rfl

namespace SvmAptos

/-- Both calls report the same bitmaps. -/
structure SameBitmaps (o : Svm.Output) (p : Aptos.Output) : Prop where
  received : o.event.received = p.received
  remaining : o.event.remaining = p.remaining

theorem sameBitmaps_of_out {o : Svm.Output} {p : Aptos.Output} (h : o.event.out = p.out) :
    SameBitmaps o p := by
  have hreceived' : p.received.map (Prod.map indices indices) = p.out.receivedSets := by
    cases p <;> rfl
  have hremaining : ∀ e : Svm.Event, e.remaining.map indices = e.out.remainingSet := by
    intro e
    cases e <;> rfl
  have hremaining' : p.remaining.map indices = p.out.remainingSet := by
    cases p <;> rfl
  constructor
  · apply Option.map_injective (indices_injective.prodMap indices_injective)
    rw [← Svm.Event.receivedSets_out, hreceived', h]
  · apply Option.map_injective indices_injective
    rw [hremaining, hremaining', h]

/-! ## The bisimulation -/

/-- The instruction and the call are of one operation, with corresponding signers; the admins and
chain IDs that they set are not 0, hashes and addresses have 32 bytes, and what is attested is for
this chain. -/
structure Corresponds (E : Svm.Env) (s : Svm.State) (i : Svm.Instruction) (call : Aptos.Call) :
    Prop where
  calls : Svm.Calls E s i call.op
  guards : Svm.Guards call.op
  guard : call.Guard

/-- Related states of histories of the two endpoints. -/
structure Reached (E : Svm.Env) (s : Svm.State) (u : Aptos.State) : Prop where
  svm : ∃ l, (Svm.machine E).Path .init l s
  aptos : ∃ l, (Aptos.machine E.keccak).Path .init l u
  related : Related E s u

theorem Reached.exists_refines (h : Reached E s u) :
    ∃ a, Svm.Refines E s a ∧ Aptos.Refines u a := by
  obtain ⟨l, hs⟩ := h.svm
  obtain ⟨l', hu⟩ := h.aptos
  obtain ⟨a, ha⟩ := Svm.exists_refines hs
  obtain ⟨b, hb⟩ := Aptos.exists_refines hu
  obtain rfl := (related_iff ha hb).1 h.related
  exact ⟨a, ha, hb⟩

theorem computeMessageHash_eq_messageHash (E : Svm.Env) :
    Svm.AttestationInfo.computeMessageHash E = Aptos.messageHash E.keccak :=
  funext (Svm.AttestationInfo.computeMessageHash_eq E)

variable {i : Svm.Instruction} {call : Aptos.Call} {o : Svm.Output} {p : Aptos.Output}

/-- Corresponding calls that succeed lead to related states. -/
theorem Reached.step (h : Reached E s u) (hcall : Corresponds E s i call)
    (hsvm : Svm.process E s i = .ok (t, o)) (haptos : Aptos.process E.keccak u call = .ok (v, p)) :
    Reached E t v ∧ SameBitmaps o p := by
  obtain ⟨a, ha, hb⟩ := h.exists_refines
  obtain ⟨op, hop, c, hstep, hc⟩ := ha.step hsvm
  obtain rfl : op = call.op := Option.some.inj (hop.symm.trans (hcall.calls.op_eq ha hsvm))
  obtain ⟨-, d, hstep', hd⟩ := hb.step haptos
  rw [computeMessageHash_eq_messageHash, hstep'] at hstep
  obtain ⟨rfl, hout⟩ := Prod.mk.inj (Except.ok.inj hstep)
  obtain ⟨l, hs⟩ := h.svm
  obtain ⟨l', hu⟩ := h.aptos
  exact ⟨⟨⟨_, hs.append (.single hsvm)⟩, ⟨_, hu.append (.single haptos)⟩,
    (related_iff hc hd).2 rfl⟩, sameBitmaps_of_out hout.symm⟩

theorem bisimulation (hK : CollisionFree E.keccak) :
    Machine.Bisimulation (Svm.machine E) (Aptos.machine E.keccak) (Reached E)
      (fun s _ i call => Corresponds E s i call) SameBitmaps where
  forth s u i call t o h hcall hsvm := by
    obtain ⟨a, ha, hb⟩ := h.exists_refines
    obtain ⟨op, hop, c, hstep, -⟩ := ha.step hsvm
    obtain rfl : op = call.op := Option.some.inj (hop.symm.trans (hcall.calls.op_eq ha hsvm))
    rw [computeMessageHash_eq_messageHash] at hstep
    obtain ⟨⟨v, p⟩, haptos⟩ := (hb.process call).complete hcall.guard hstep
    exact ⟨v, p, haptos, h.step hcall hsvm haptos⟩
  back s u i call v p h hcall haptos := by
    obtain ⟨a, ha, hb⟩ := h.exists_refines
    obtain ⟨l, hs⟩ := h.svm
    obtain ⟨-, d, hstep, -⟩ := hb.step haptos
    rw [← computeMessageHash_eq_messageHash] at hstep
    obtain ⟨⟨t, o⟩, hsvm⟩ := hcall.calls.complete hK hs ha hcall.guards hstep
    exact ⟨t, o, hsvm, h.step hcall hsvm haptos⟩

end SvmAptos

open SvmAptos

/-- **The SVM program and the Aptos module are one machine.** From related states of their
histories, after every sequence of corresponding calls, of which a failed one changes nothing, the
states are related; the next corresponding calls both succeed or both fail, and when they succeed
the states stay related and the calls report the same bitmaps. -/
theorem svm_aptos_same_machine (hK : CollisionFree E.keccak) {l : Svm.Log} {l' : Aptos.Log}
    (hs : (Svm.machine E).Path .init l s) (hu : (Aptos.machine E.keccak).Path .init l' u)
    (hrelated : Related E s u)
    (hruns : Machine.Runs (Svm.machine E) (Aptos.machine E.keccak)
      (fun s _ i call => Corresponds E s i call) s u t v) :
    Related E t v ∧ ∀ i call, Corresponds E t i call →
      ((∃ r, Svm.process E t i = .ok r) ↔ ∃ r, Aptos.process E.keccak v call = .ok r) ∧
      ∀ t' o v' p, Svm.process E t i = .ok (t', o) →
        Aptos.process E.keccak v call = .ok (v', p) → Related E t' v' ∧ SameBitmaps o p := by
  have hreached := (bisimulation hK).runs hruns ⟨⟨l, hs⟩, ⟨l', hu⟩, hrelated⟩
  refine ⟨hreached.related, fun i call hcall => ⟨(bisimulation hK).isOk_iff hreached hcall, ?_⟩⟩
  intro t' o v' p hsvm haptos
  obtain ⟨hreached', hbitmaps⟩ := hreached.step hcall hsvm haptos
  exact ⟨hreached'.related, hbitmaps⟩

/-! ## A run -/

/-- The calls of the Aptos module for the sample run of the SVM program. -/
def sampleCalls : List Aptos.Call :=
  [.register 10#256 11#256, .addAdapter 11#256 10#256 12#256,
    .enableRecvAdapter 11#256 10#256 2#16 12#256,
    .attestMessage 12#256 2#16 (beBytes 32 77#256) 5#64 Svm.CHAIN_ID (beBytes 32 10#256)
      (beBytes 32 6#256),
    .recvMessage 10#256 2#16 (beBytes 32 77#256) 5#64 Svm.CHAIN_ID (beBytes 32 6#256),
    .execMessage 10#256 2#16 (beBytes 32 77#256) 5#64 Svm.CHAIN_ID (beBytes 32 6#256)]

theorem sampleCalls_correspond :
    List.Forall₂ (fun i call => ∀ s (_ : Aptos.State), Corresponds Svm.sampleEnv s i call)
      Svm.sampleInstructions sampleCalls := by
  have hmessage : Aptos.Endpoint.messageOf 2#16 (beBytes 32 77#256) 5#64 Svm.CHAIN_ID
      (beBytes 32 10#256) (beBytes 32 6#256) = Svm.sampleMessage := by decide +kernel
  have hmessage' : Aptos.Endpoint.messageTo 2#16 (beBytes 32 77#256) 5#64 Svm.CHAIN_ID 10#256
      (beBytes 32 6#256) = Svm.sampleMessage := by decide +kernel
  have hadmin : 11#256 ≠ 0#256 := by decide
  have hchain : 2#16 ≠ 0#16 := by decide
  have hlength : ∀ x : BitVec 256, (beBytes 32 x).length = 32 := length_beBytes 32
  refine .cons (fun s _ => ⟨.register _ _ _, trivial, hadmin⟩)
    (.cons (fun s _ => ⟨.addAdapter _ _ _, trivial, trivial⟩)
    (.cons (fun s _ => ⟨.setAdapter .recv true _ _ _ _, hchain, trivial⟩)
    (.cons (fun s _ => ⟨?_, ?_, hlength _, hlength _, hlength _⟩)
    (.cons (fun s _ => ⟨?_, trivial, hlength _, hlength _⟩)
    (.cons (fun s _ => ⟨?_, ?_, hlength _, hlength _⟩) .nil)))))
  · rw [Aptos.Call.op, hmessage]
    exact .attest 12#256 2#8 Svm.sampleMessage
  · rw [Aptos.Call.op, hmessage]
    rfl
  · rw [Aptos.Call.op, hmessage']
    exact .recv 1#8 Svm.sampleMessage
  · rw [Aptos.Call.op, hmessage']
    exact .exec 1#8 Svm.sampleMessage
  · rw [Aptos.Call.op, hmessage']
    exact ⟨hchain, by decide⟩

theorem svm_aptos_same_machine_sample :
    Related Svm.sampleEnv ((Svm.machine Svm.sampleEnv).run .init Svm.sampleInstructions).1
        ((Aptos.machine id).run .init sampleCalls).1 ∧
      ((Svm.machine Svm.sampleEnv).run .init Svm.sampleInstructions).2.length = 5 ∧
      ((Aptos.machine id).run .init sampleCalls).2.length = 5 :=
  ⟨(svm_aptos_same_machine (E := Svm.sampleEnv) collisionFree_id .nil .nil related_init
    (Machine.Runs.nil.run sampleCalls_correspond)).1, by decide +kernel, by decide +kernel⟩

end GmpRouter
