import GmpRouter.Aptos.Attestation
import GmpRouter.Aptos.Outbox
import GmpRouter.Router.Network

/-!
# The Aptos endpoint as a node of a network

As on SVM, the events of a history are those of the history of the router beside it. The module does
not know its chain, which is a parameter here, and takes attestations of messages to any chain.
-/

namespace GmpRouter.Aptos

open GmpRouter.Bitmap (indices)
open Network (Lawful)

variable {keccak256 : List Byte → Digest} {l : Log} {s : State} {chain : ChainId}
  {c : Commit State Call Output} {m : Message}

/-- A message of the outbox, with the chain from which it is sent. -/
def OutboxMessage.message (chain : ChainId) (message : OutboxMessage) : Message :=
  ⟨chain, message.srcAddr.toAddress, message.sequence, message.dstChain, message.dstAddr.toAddress,
    beWord 256 message.payloadHash⟩

/-- What a commit is to the network: a message is known from the arguments of the call, and from the
sequence number or the message that it returns. -/
def event (chain : ChainId) (c : Commit State Call Output) : Network.Event Message Address :=
  match c.input, c.output with
  | .sendMessage I dstChain dstAddr payloadHash, .sequence n =>
    .sends ⟨chain, I, n, dstChain, dstAddr.toAddress, beWord 256 payloadHash⟩
  | .pickUpMessage .., .message message => .handsOver (message.message chain)
  | .attestMessage A srcChain srcAddr sequence dstChain dstAddr payloadHash, _ =>
    .attests A (Endpoint.messageOf srcChain srcAddr sequence dstChain dstAddr payloadHash)
  | .recvMessage I srcChain srcAddr sequence dstChain payloadHash, .adapters _ attestedAdapters =>
    .receives (Endpoint.messageTo srcChain srcAddr sequence dstChain I payloadHash)
      (indices attestedAdapters).card
  | _, _ => .internal

/-- Corresponding commits are the same event. -/
theorem event_eq {d : Commit Router.State Router.Op Router.Out} (h : Matches keccak256 c d) :
    event chain c = Router.event chain d := by
  obtain ⟨s, call, o, t⟩ := c
  obtain ⟨a, op, out, b⟩ := d
  have hs : Refines s a := h.pre
  have hstep : process keccak256 s call = .ok (t, o) := h.left
  obtain ⟨hop, hout⟩ := h.label
  obtain rfl : op = call.op := hop
  obtain rfl : out = o.out := hout
  cases call with
  | sendMessage => cases o <;> rfl
  | pickUpMessage A I sequence =>
    obtain ⟨⟨message, t'⟩, hpick, ht'⟩ := bind_eq_ok.1 hstep
    obtain ⟨-, rfl⟩ := Prod.mk.inj (pure_eq_ok.1 ht')
    obtain ⟨old, table, index, hold, -, -, -, -, rfl, -⟩ := Endpoint.pickUpMessage_eq_ok.1 hpick
    obtain ⟨hsrc, hsequence, -⟩ := hs.represents.key I sequence old hold
    have haddr : old.srcAddr.toAddress = I := by
      rw [hsrc, UniversalAddress.toAddress_fromAddress]
    simp only [event, OutboxMessage.message, haddr, hsequence]
    rfl
  | attestMessage => rfl
  | recvMessage => cases o <;> rfl
  | _ => rfl

/-- **Every history of the module is the trace of a lawful node**, on any chain. -/
theorem lawful_of_path (hK : CollisionFree keccak256) (h : (machine keccak256).Path .init l s) :
    Lawful (l.map (event chain)) ∧ ∀ m, .sends m ∈ l.map (event chain) → m.srcChain = chain := by
  obtain ⟨l', b, hpath, -, hmatches⟩ := (simulation keccak256).path h refines_init
  have hevents : l.map (event chain) = l'.map (Router.event chain) := by
    rw [← List.forall₂_eq_eq_eq, List.forall₂_map_left_iff, List.forall₂_map_right_iff]
    exact hmatches.imp fun c d => event_eq
  rw [hevents]
  refine ⟨Router.lawful_of_path (fun m m' h => hK.eq h) hpath, fun m hm => ?_⟩
  obtain ⟨d, -, hevent⟩ := List.mem_map.1 hm
  exact (Router.event_eq_sends.1 hevent).2.2

end GmpRouter.Aptos
