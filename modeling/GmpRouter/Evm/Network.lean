import GmpRouter.Evm.Delivery
import GmpRouter.Foundations.Network

/-!
# The EVM endpoint as a node of a network

A call of `sendMessage` sends its message when its loop starts and hands it over with every call of
an adapter, while other calls may nest. Attestations count for the adapter that calls, and a
received message with the bits of the bitmap that `recvMessage` returns.
-/

namespace GmpRouter.Evm

open Endpoint
open GmpRouter.Bitmap (indices)
open Network (Lawful)

variable {E : Env} {s t : State} {log : Log} {c : Commit State Op Receipt} {m : Message}

/-- The message of a call of `sendMessage`. -/
def Sending.message (E : Env) (frame : Sending) : Message :=
  ⟨E.ourChain, frame.sender, frame.sequence, frame.args.dstChain, frame.args.dstAddr,
    frame.args.payloadHash⟩

/-- What a commit is to the network. -/
def event (E : Env) (c : Commit State Op Receipt) : Network.Event Message UniversalAddress :=
  match c.input, c.output.ret with
  | .call _ (.sendMessage ..), .sending frame => .sends (frame.message E)
  | .forward _ frame _ _, _ => .handsOver (frame.message E)
  | .call msg (.attestMessage m), _ => .attests (fromAddress msg.sender) m
  | .call msg (.recvMessage args), .received _ attestedBitmap _ =>
    .receives (inbound E msg.sender args) (indices attestedBitmap).card
  | _, _ => .internal

/-! ## Inversion -/

theorem event_eq_sends (h : event E c = .sends m) :
    ∃ frame, c.output.ret = .sending frame ∧ frame.message E = m := by
  unfold event at h
  split at h
  · next hret => exact ⟨_, hret, Network.Event.sends.inj h⟩
  all_goals cases h

theorem event_eq_handsOver (h : event E c = .handsOver m) :
    ∃ frame, frame ∈ c.input.frame? ∧ frame.message E = m := by
  unfold event at h
  split at h
  · cases h
  · next hinput => exact ⟨_, by rw [hinput]; rfl, Network.Event.handsOver.inj h⟩
  all_goals cases h

theorem event_eq_attests {A : UniversalAddress} (h : event E c = .attests A m) :
    ∃ msg, c.input = .call msg (.attestMessage m) ∧ fromAddress msg.sender = A := by
  unfold event at h
  split at h
  · cases h
  · cases h
  · next hinput =>
    obtain ⟨rfl, rfl⟩ := Network.Event.attests.inj h
    exact ⟨_, hinput, rfl⟩
  all_goals cases h

theorem event_eq_receives {n : ℕ} (h : event E c = .receives m n) :
    ∃ msg args enabledBitmap attestedBitmap numAttested,
      c.input = .call msg (.recvMessage args) ∧
        c.output.ret = .received enabledBitmap attestedBitmap numAttested ∧
        inbound E msg.sender args = m ∧ (indices attestedBitmap).card = n := by
  unfold event at h
  split at h
  · cases h
  · cases h
  · cases h
  · next hinput hret =>
    obtain ⟨rfl, rfl⟩ := Network.Event.receives.inj h
    exact ⟨_, _, _, _, _, hinput, hret, rfl, rfl⟩
  · cases h

/-! ## The laws -/

/-- A commit that returns a frame sends its message. -/
theorem event_of_sending (hc : (machine E).Valid c) {frame : Sending}
    (hret : c.output.ret = .sending frame) : event E c = .sends (frame.message E) := by
  have hcarries := carries_of_sending (m := frame.message E) hc hret ⟨rfl, rfl, rfl, rfl, rfl⟩
  obtain ⟨msg, args, mem, frame', hinput, hret', -⟩ := carries_iff.1 hcarries
  obtain rfl := Return.sending.inj (hret.symm.trans hret')
  simp only [event, hinput, hret]

theorem countP_sends_le_one (h : (machine E).Path .init log t) (m : Message) :
    (log.map (event E)).countP (fun e => e = .sends m) ≤ 1 := by
  refine le_trans ?_ (countP_carries_le_one h m)
  rw [List.countP_map]
  refine List.countP_mono_left fun c hc hevent => ?_
  obtain ⟨frame, hret, rfl⟩ := event_eq_sends (of_decide_eq_true hevent)
  exact carries_of_sending (h.valid hc) hret ⟨rfl, rfl, rfl, rfl, rfl⟩

/-- The adapters that the record of a message lists. -/
theorem exists_attestors (hk : CollisionFree E.keccak) (h : (machine E).Path .init log t)
    (I : Address) (args : RecvMessageArgs) :
    ∃ attestors : Finset UniversalAddress,
      attestors.card = (indices (record E t I (inbound E I args)).attestedAdapters).card ∧
        ∀ A ∈ attestors, .attests A (inbound E I args) ∈ log.map (event E) := by
  classical
  have hattested : ∀ i ∈ indices (record E t I (inbound E I args)).attestedAdapters, ∃ adapter,
      (t.registeredAdapters I)[i]? = some adapter ∧
        .attests (fromAddress adapter) (inbound E I args) ∈ log.map (event E) := by
    intro i hi
    obtain ⟨adapter, hget, c, hc, hatt⟩ := (mem_attested_iff hk h I args i).1 hi
    obtain ⟨value, hinput⟩ := hatt.input_eq
    exact ⟨adapter, hget, List.mem_map.2 ⟨c, hc, by simp only [event, hinput]⟩⟩
  choose! adapter hget hmem using hattested
  have hwell := h.invariant (Registry.WellFormed.invariant E) .init
  refine ⟨(indices (record E t I (inbound E I args)).attestedAdapters).image
    (fun i => fromAddress (adapter i)), Finset.card_image_of_injOn ?_, fun A hA => ?_⟩
  · -- an adapter has one index
    intro i hi j hj heq
    have hsame : adapter i = adapter j := fromAddress_injective heq
    obtain ⟨-, hindex⟩ := (hwell.lookup I (adapter i) i).1 (hget i hi)
    obtain ⟨-, hindex'⟩ := (hwell.lookup I (adapter j) j).1 (hget j hj)
    rw [← hindex, ← hindex', hsame]
  · obtain ⟨i, hi, rfl⟩ := Finset.mem_image.1 hA
    exact hmem i hi

/-- **Every execution is the trace of a lawful node**, whatever its adapters call. -/
theorem lawful_of_trace (hk : CollisionFree E.keccak) (h : Trace E (fun _ => False) .init log t) :
    Lawful (log.map (event E)) where
  sends_le_one := countP_sends_le_one h.path
  sends_of_handsOver l₁ l₂ m hl := by
    obtain ⟨k₁, k₂, rfl, rfl, hk⟩ := List.map_eq_append_iff.1 hl
    obtain ⟨c, k₂, rfl, hevent, -⟩ := List.map_eq_cons_iff.1 hk
    obtain ⟨frame, hopen, rfl⟩ := event_eq_handsOver hevent
    obtain ⟨c', hc', hret⟩ := (h.exists_sending rfl hopen).resolve_left id
    have hvalid : (machine E).Valid c' := h.path.valid (List.mem_append_left _ hc')
    exact List.mem_map.2 ⟨c', hc', event_of_sending hvalid hret⟩
  attests_of_receives l₁ l₂ m n hl := by
    obtain ⟨k₁, k₂, rfl, rfl, hk'⟩ := List.map_eq_append_iff.1 hl
    obtain ⟨c, k₂, rfl, hevent, -⟩ := List.map_eq_cons_iff.1 hk'
    obtain ⟨hbefore, hvalid, -⟩ := h.path.of_append_cons
    obtain ⟨msg, args, enabledBitmap, attestedBitmap, numAttested, hinput, hret, rfl, rfl⟩ :=
      event_eq_receives hevent
    have hstep : step E c.pre c.input = .ok (c.post, c.output) := hvalid
    rw [hinput] at hstep
    obtain ⟨hne, enabledBitmap', numAttested', hret'⟩ := recvMessage_attested hstep
    obtain ⟨-, rfl, -⟩ := Return.received.inj (hret.symm.trans hret')
    obtain ⟨i, hi⟩ := GmpRouter.Bitmap.ne_zero_iff.1 hne
    exact ⟨Finset.card_pos.2 ⟨i, hi⟩, exists_attestors hk hbefore msg.sender args⟩
  receipts_le_one m := by
    rw [List.countP_map]
    by_cases hex : ∃ c ∈ log, Network.Event.isReceipt m 0 (event E c) = true
    · obtain ⟨c, hc, hreceipt⟩ := hex
      obtain ⟨n, hevent, -⟩ := Network.Event.isReceipt_iff.1 hreceipt
      obtain ⟨msg, args, _, _, _, -, -, rfl, -⟩ := event_eq_receives hevent
      refine le_trans (List.countP_mono_left (q := fun c => c.input.consumes msg.sender args)
        fun c' _ hc' => ?_) ?_
      · obtain ⟨n', hevent', -⟩ := Network.Event.isReceipt_iff.1 hc'
        obtain ⟨msg', args', _, _, _, hinput, -, heq, -⟩ := event_eq_receives hevent'
        obtain ⟨hsender, rfl⟩ := inbound_inj.1 heq
        simp [hinput, Op.consumes, hsender]
      · simpa using (latch_executed hk msg.sender args).countP_le_one
          (fun s op r t hstep _ => not_executed_of_consumes hstep) h.path trivial
    · have hzero : log.countP (Network.Event.isReceipt m 0 ∘ event E) = 0 :=
        List.countP_eq_zero.2 fun c hc hreceipt => hex ⟨c, hc, hreceipt⟩
      exact hzero.le.trans (Nat.zero_le _)

/-- The endpoint only sends from its chain, and only takes attestations of messages to it. -/
theorem srcChain_of_sends (hm : .sends m ∈ log.map (event E)) : m.srcChain = E.ourChain := by
  obtain ⟨c, -, hevent⟩ := List.mem_map.1 hm
  obtain ⟨frame, -, rfl⟩ := event_eq_sends hevent
  rfl

theorem dstChain_of_attests (h : (machine E).Path .init log t) {A : UniversalAddress}
    (hm : .attests A m ∈ log.map (event E)) : m.dstChain = E.ourChain := by
  obtain ⟨⟨s, op, r, u⟩, hc, hevent⟩ := List.mem_map.1 hm
  have hstep : step E s op = .ok (u, r) := h.valid hc
  obtain ⟨msg, rfl, -⟩ := event_eq_attests hevent
  cases step_effect hstep with
  | admin h => cases h
  | inbox h =>
    cases h with
    | attest hattests => exact hattests.dstChain_eq

end GmpRouter.Evm
