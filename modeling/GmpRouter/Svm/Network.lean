import GmpRouter.Router.Network
import GmpRouter.Svm.Outbox

/-!
# The SVM endpoint as a node of a network

The events of a history of the program are those of the history of the router beside it
(`event_eq`), so that the node is lawful. A sent message is read from its account, and a received
one counts the bits of the bitmap that the event reports.
-/

namespace GmpRouter.Svm

open GmpRouter.Bitmap (indices)
open Network (Lawful)

variable {E : Env} {l : Log} {t : State} {c : Commit State Instruction Output} {m : Message}

/-- A message of the outbox, with the fields under which it is sent. -/
def OutboxMessage.message (message : OutboxMessage) : Message :=
  ⟨CHAIN_ID, message.srcAddr, message.sequence, message.dstChain, message.dstAddr,
    message.payloadHash⟩

/-- What a commit is to the network: the message in the new account, the one that is picked up, and
the arguments of the others. -/
def event (c : Commit State Instruction Output) : Network.Event Message Pubkey :=
  match c.input, c.output.event with
  | .sendMessage ctx _, _ => match c.post.find (.external ctx.outboxMessage) with
    | some sent => .sends (OutboxMessage.message sent)
    | none => .internal
  | .pickUpMessage .., .messagePickedUp srcAddr sequence dstChain dstAddr payloadHash _ _ =>
    .handsOver ⟨CHAIN_ID, srcAddr, sequence, dstChain, dstAddr, payloadHash⟩
  | .attestMessage _ args, _ => .attests args.adapterProgramId args.message
  | .recvMessage _ args, .messageReceived _ _ _ attestedBitmap =>
    .receives args.message (indices attestedBitmap).card
  | _, _ => .internal

/-- Corresponding commits are the same event. -/
theorem event_eq {d : Commit Router.State Router.Op Router.Out} (h : Matches E c d) :
    event c = Router.event CHAIN_ID d := by
  obtain ⟨s, i, o, t⟩ := c
  obtain ⟨a, op, out, b⟩ := d
  have hs : Refines E s a := h.pre
  have hstep : process E s i = .ok (t, o) := h.left
  obtain ⟨hop, hout⟩ := h.label
  obtain rfl : out = o.event.out := hout
  have hop : i.op s = some op := hop
  cases i with
  | claimAdmin ctx | discardAdmin ctx =>
    obtain ⟨config, -, rfl⟩ := Option.map_eq_some_iff.1 hop
    rfl
  | sendMessage ctx args =>
    obtain rfl := Option.some.inj hop
    obtain ⟨chainConfig, tracker, -, -, -, -, -, -, -, ht, rfl⟩ := sendMessage_eq_ok.1 hstep
    have haccount : t.accounts (.external ctx.outboxMessage) = some (.outboxMessage
        ⟨args.integratorProgramId, tracker.sequence, args.dstChain, args.dstAddr, args.payloadHash,
          chainConfig.sendAdapterBitmap, ctx.payer⟩) := by
      rw [ht]
      exact State.set_self ..
    have hfind := (State.find_eq_some (α := OutboxMessage)).2 haccount
    simp only [event, hfind, Router.event, Event.out, BitVec.add_sub_cancel]
    rfl
  | pickUpMessage ctx args =>
    obtain ⟨message, hfind, rfl⟩ := Option.map_eq_some_iff.1 hop
    obtain ⟨remaining, hevent⟩ := event_of_pickUp (State.find_eq_some.1 hfind) hstep
    simp only [event, hevent, Router.event, Event.out]
    rfl
  | attestMessage ctx args =>
    obtain rfl := Option.some.inj hop
    rfl
  | recvMessage ctx args =>
    obtain rfl := Option.some.inj hop
    obtain ⟨chainConfig, info, -, -, -, -, -, rfl⟩ := recvMessage_eq_ok.1 hstep
    rfl
  | _ =>
    obtain rfl := Option.some.inj hop
    rfl

/-- **Every history of the program is the trace of a lawful node.** -/
theorem lawful_of_path (hK : CollisionFree E.keccak) (h : (machine E).Path .init l t) :
    Lawful (l.map event) := by
  obtain ⟨l', b, hpath, -, hmatches⟩ := exists_path h
  have hevents : l.map event = l'.map (Router.event CHAIN_ID) := by
    rw [← List.forall₂_eq_eq_eq, List.forall₂_map_left_iff, List.forall₂_map_right_iff]
    exact hmatches.imp fun c d => event_eq
  exact hevents ▸ Router.lawful_of_path (computeMessageHash_injective hK) hpath

theorem srcChain_of_sends (h : (machine E).Path .init l t) (hm : .sends m ∈ l.map event) :
    m.srcChain = CHAIN_ID := by
  obtain ⟨c, hc, hevent⟩ := List.mem_map.1 hm
  obtain ⟨l', b, -, -, hmatches⟩ := exists_path h
  obtain ⟨d, -, hcd⟩ := Machine.Matches.exists_right hmatches hc
  exact (Router.event_eq_sends.1 ((event_eq hcd).symm.trans hevent)).2.2

/-- The program checks that an attested message is for its chain. -/
theorem dstChain_of_attests (h : (machine E).Path .init l t) {A : Pubkey}
    (hm : .attests A m ∈ l.map event) : m.dstChain = CHAIN_ID := by
  obtain ⟨⟨s, i, o, u⟩, hc, hevent⟩ := List.mem_map.1 hm
  have hstep : process E s i = .ok (u, o) := h.valid hc
  unfold event at hevent
  split at hevent
  · split at hevent <;> cases hevent
  · cases hevent
  · next hinput =>
    obtain rfl : i = .attestMessage _ _ := hinput
    obtain ⟨-, rfl⟩ := Network.Event.attests.inj hevent
    obtain ⟨_, _, _, _, -, -, -, -, -, hdst, -⟩ := attestMessage_eq_ok.1 hstep
    exact hdst
  · cases hevent
  · cases hevent

end GmpRouter.Svm
