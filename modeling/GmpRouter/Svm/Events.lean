import GmpRouter.Svm.Outbox

/-!
# Events of the SVM endpoint

The event `MessagePickedUp` carries the sequence number of the message. `MessageSent` carries the
one after it, since `sendMessage` reads the tracker for the event after it has taken the sequence
number for the message. Read with this in mind (`eventsIdentify_sub_one`), the events identify the
messages; read as they are, they do so only in histories without a send.
-/

namespace GmpRouter.Svm

variable {E : Env} {s t : State} {l : Log} {a : Router.State} {o : Output} {i : Instruction}

/-! ## What events say of messages -/

/-- What identifies a message, and what it carries. -/
structure SentMessage where
  srcAddr : UniversalAddress
  sequence : BitVec 64
  dstChain : ChainId
  dstAddr : UniversalAddress
  payloadHash : Bytes32
  deriving DecidableEq

/-- The sender and the sequence number. -/
def SentMessage.key (m : SentMessage) : UniversalAddress × BitVec 64 := (m.srcAddr, m.sequence)

def OutboxMessage.sentMessage (message : OutboxMessage) : SentMessage :=
  ⟨message.srcAddr, message.sequence, message.dstChain, message.dstAddr, message.payloadHash⟩

/-- What `MessageSent` says of the message, when `read` takes the sequence number from that of the
event. -/
def Event.sent (read : BitVec 64 → BitVec 64) : Event → Option SentMessage
  | .messageSent sender sequence recipient recipientChain payloadDigest =>
    some ⟨sender, read sequence, recipientChain, recipient, payloadDigest⟩
  | _ => none

/-- What `MessagePickedUp` says of the message. -/
def Event.pickedUp : Event → Option SentMessage
  | .messagePickedUp srcAddr sequence dstChain dstAddr payloadHash _ _ =>
    some ⟨srcAddr, sequence, dstChain, dstAddr, payloadHash⟩
  | _ => none

/-- The message of the account that a send creates. -/
def created (c : Commit State Instruction Output) : Option SentMessage :=
  match c.input with
  | .sendMessage ctx _ => (c.post.find (.external ctx.outboxMessage)).map OutboxMessage.sentMessage
  | _ => none

/-- The events of a history identify the messages: every `MessageSent` carries the message that its
instruction created, no two of these have the same sender and sequence number, and before every
`MessagePickedUp` there is exactly one `MessageSent` of the same message. -/
structure EventsIdentify (read : BitVec 64 → BitVec 64) (l : Log) : Prop where
  sent_eq : ∀ c ∈ l, c.output.event.sent read = created c
  keys_nodup : ((l.filterMap created).map SentMessage.key).Nodup
  sent_before : ∀ l₁ c l₂ m, l = l₁ ++ c :: l₂ → c.output.event.pickedUp = some m →
    l₁.countP (fun d => d.output.event.sent read = some m) = 1

/-! ## Sends -/

theorem created_of_send {ctx : SendMessage} {args : SendMessageArgs}
    (h : process E s (.sendMessage ctx args) = .ok (t, o)) :
    ∃ m, created ⟨s, .sendMessage ctx args, o, t⟩ = some m ∧
      o.event = .messageSent m.srcAddr (m.sequence + 1#64) m.dstAddr m.dstChain m.payloadHash := by
  obtain ⟨chainConfig, tracker, -, -, -, -, -, -, -, rfl, rfl⟩ := sendMessage_eq_ok.1 h
  refine ⟨⟨args.integratorProgramId, tracker.sequence, args.dstChain, args.dstAddr,
    args.payloadHash⟩, ?_, rfl⟩
  exact congrArg (Option.map _) (State.find_eq_some.2 (State.set_self ..))

theorem op_send {I : Pubkey} {dstChain : ChainId} {dstAddr : UniversalAddress}
    {payloadHash : Bytes32} (h : i.op s = some (.send I dstChain dstAddr payloadHash)) :
    ∃ ctx args, i = .sendMessage ctx args := by
  cases i <;> simp only [Instruction.op, Option.map_eq_some_iff] at h
  case sendMessage ctx args => exact ⟨ctx, args, rfl⟩
  case claimAdmin | discardAdmin | pickUpMessage =>
    obtain ⟨_, -, hop⟩ := h
    cases hop
  all_goals cases h

/-- The sequence number of the event is one more than that of the message. -/
theorem sent_sub_one (hs : Refines E s a) (h : process E s i = .ok (t, o)) :
    o.event.sent (· - 1#64) = created ⟨s, i, o, t⟩ := by
  by_cases hsend : ∃ ctx args, i = .sendMessage ctx args
  · obtain ⟨ctx, args, rfl⟩ := hsend
    obtain ⟨m, hm, hevent⟩ := created_of_send h
    rw [hm, hevent, Event.sent, BitVec.add_sub_cancel]
  · have hcreated : created ⟨s, i, o, t⟩ = none := by
      unfold created
      split
      · exact absurd ⟨_, _, ‹_›⟩ hsend
      · rfl
    rw [hcreated]
    obtain ⟨op, hop, b, hstep, -⟩ := hs.step h
    cases hevent : o.event <;> try rfl
    -- only sends report a sequence number
    rw [hevent] at hstep
    obtain ⟨I, dstChain, dstAddr, payloadHash, rfl⟩ := Router.exists_send_of_out hstep
    exact absurd (op_send hop) hsend

/-- A created message has the number of messages sent before as its sequence number. -/
theorem sequence_of_created {c : Commit State Instruction Output} {m : SentMessage}
    (h : (machine E).Path .init l c.pre) (hc : (machine E).Valid c) (hm : created c = some m) :
    m.sequence.toNat = (l.countP fun c => c.input.sends m.srcAddr) ∧
      c.input.sends m.srcAddr = true := by
  obtain ⟨s, i, o, t⟩ := c
  cases i with
  | sendMessage ctx args =>
    obtain ⟨a, b, sent, hsent, hI, -, -, -, -, hsequence⟩ := sent_of_path h hc
    obtain rfl : sent.sentMessage = m := by
      have hfind : t.find (.external ctx.outboxMessage) = some sent :=
        State.find_eq_some.2 hsent.account
      simpa only [created, hfind, Option.map_some, Option.some.injEq] using hm
    exact ⟨hsequence, decide_eq_true hI.symm⟩
  | _ => cases hm

/-- The sequence numbers of the messages created are among those used, and no two messages of an
integrator have the same. -/
theorem created_keys (h : (machine E).Path .init l t) :
    (∀ m ∈ l.filterMap created, m.sequence.toNat < l.countP fun c => c.input.sends m.srcAddr) ∧
      ((l.filterMap created).map SentMessage.key).Nodup := by
  induction h with
  | nil => simp
  | @snoc l c hpath hc ih =>
    obtain ⟨ihlt, ihnodup⟩ := ih
    have hmono : ∀ m ∈ l.filterMap created,
        m.sequence.toNat < (l ++ [c]).countP fun c => c.input.sends m.srcAddr := by
      intro m hm
      rw [List.countP_append]
      exact Nat.lt_add_right _ (ihlt m hm)
    have hsplit : (l ++ [c]).filterMap created = l.filterMap created ++ (created c).toList := by
      rw [List.filterMap_append, List.filterMap_cons]
      cases created c <;> rfl
    rw [hsplit]
    cases hm : created c with
    | none =>
      rw [Option.toList_none, List.append_nil]
      exact ⟨hmono, ihnodup⟩
    | some m =>
      obtain ⟨hsequence, hsends⟩ := sequence_of_created hpath hc hm
      rw [Option.toList_some, List.map_append, List.map_singleton]
      constructor
      · intro m' hm'
        rcases List.mem_append.1 hm' with hold | hnew
        · exact hmono m' hold
        · obtain rfl := List.mem_singleton.1 hnew
          rw [List.countP_append, List.countP_singleton, if_pos hsends, hsequence]
          exact Nat.lt_succ_self _
      · refine List.nodup_append.2 ⟨ihnodup, List.nodup_singleton _, ?_⟩
        -- an older message of the integrator has a smaller sequence number
        intro key hkey key' hkey' heq
        obtain ⟨m', hm', rfl⟩ := List.mem_map.1 hkey
        obtain rfl := List.mem_singleton.1 hkey'
        have hlt := ihlt m' hm'
        have hI : m'.srcAddr = m.srcAddr := congrArg Prod.fst heq
        have hseq : m'.sequence = m.sequence := congrArg Prod.snd heq
        rw [hI, hseq, hsequence] at hlt
        exact Nat.lt_irrefl _ hlt

/-! ## Pick-ups -/

/-- Every message of the outbox was created by a send. -/
theorem mem_created_of_outbox (h : (machine E).Path .init l t) {k : Pubkey}
    {message : OutboxMessage} (hm : t.accounts (.external k) = some (.outboxMessage message)) :
    message.sentMessage ∈ l.filterMap created := by
  induction h generalizing message with
  | nil => cases hm
  | @snoc l c hpath hc ih =>
    obtain ⟨a, ha⟩ := exists_refines hpath
    rw [List.filterMap_append, List.mem_append]
    rcases outbox_of_step ha hc hm with ⟨ctx, args, -, hinput, rfl, -⟩ | ⟨old, hold, hmessage⟩
    · right
      have hcreated : created c = some message.sentMessage := by
        rw [created, hinput]
        exact congrArg (Option.map _) (State.find_eq_some.2 hm)
      simp [hcreated]
    · left
      have hsame : message.sentMessage = old.sentMessage := by rw [hmessage]; rfl
      rw [hsame]
      exact ih hold

/-- A pick-up reports a message of the outbox. -/
theorem outbox_of_pickedUp (hs : Refines E s a) (h : process E s i = .ok (t, o)) {m : SentMessage}
    (hpick : o.event.pickedUp = some m) :
    ∃ k message, s.accounts (.external k) = some (.outboxMessage message) ∧
      message.sentMessage = m := by
  obtain ⟨op, hop, b, hstep, -⟩ := hs.step h
  cases hevent : o.event <;> rw [hevent] at hpick <;> try cases hpick
  rw [hevent] at hstep
  obtain ⟨A, I, sequence, rfl⟩ := Router.exists_pickUp_of_out hstep
  obtain ⟨ctx, args, message, rfl, -, hload, -⟩ := op_pickUp hop
  obtain ⟨k, hk⟩ := (hs.canonical _ _ hload).external rfl
  obtain ⟨remaining, hevent'⟩ := event_of_pickUp hload h
  rw [hevent] at hevent'
  cases hevent'
  exact ⟨k, message, hk ▸ hload, rfl⟩

/-- **Read with the offset, the events identify the messages.** -/
theorem eventsIdentify_sub_one (h : (machine E).Path .init l t) : EventsIdentify (· - 1#64) l := by
  have hsent : ∀ c ∈ l, c.output.event.sent (· - 1#64) = created c := by
    intro c hc
    obtain ⟨l₁, l₂, -, hbefore, hvalid, -⟩ := h.split hc
    obtain ⟨a, ha⟩ := exists_refines hbefore
    exact sent_sub_one ha hvalid
  refine ⟨hsent, (created_keys h).2, fun l₁ c l₂ m hl hpick => ?_⟩
  subst hl
  obtain ⟨hbefore, hvalid, -⟩ := h.of_append_cons
  obtain ⟨a, ha⟩ := exists_refines hbefore
  obtain ⟨k, message, hload, rfl⟩ := outbox_of_pickedUp ha hvalid hpick
  have hmem := mem_created_of_outbox hbefore hload
  have hnodup : (l₁.filterMap created).Nodup := (created_keys hbefore).2.of_map
  have hcount : (l₁.filterMap created).count message.sentMessage = 1 :=
    List.count_eq_one_of_mem hnodup hmem
  rw [List.count_filterMap] at hcount
  refine (List.countP_congr fun d hd => ?_).trans hcount
  rw [hsent d (List.mem_append_left _ hd)]
  simp

def Instruction.isSend : Instruction → Bool
  | .sendMessage .. => true
  | _ => false

/-- **Read as they are, the events identify the messages in histories without a send, and in no
others.** -/
theorem eventsIdentify_iff (h : (machine E).Path .init l t) :
    EventsIdentify id l ↔ ∀ c ∈ l, c.input.isSend = false := by
  have hread := eventsIdentify_sub_one h
  constructor
  · intro hid c hc
    by_contra hsend
    obtain ⟨ctx, args, hinput⟩ : ∃ ctx args, c.input = .sendMessage ctx args := by
      cases hi : c.input with
      | sendMessage ctx args => exact ⟨ctx, args, rfl⟩
      | _ => simp [hi, Instruction.isSend] at hsend
    have hvalid : process E c.pre c.input = .ok (c.post, c.output) := h.valid hc
    rw [hinput] at hvalid
    obtain ⟨m, hm, hevent⟩ := created_of_send hvalid
    rw [← hinput] at hm
    -- the sequence number of the event is that of the next message
    have hsame : some { m with sequence := m.sequence + 1#64 } = some m := by
      rw [← hm, ← hid.sent_eq c hc, hevent]
      rfl
    have hsequence : m.sequence + 1#64 = m.sequence :=
      congrArg SentMessage.sequence (Option.some.inj hsame)
    have hnat := congrArg BitVec.toNat hsequence
    rw [BitVec.toNat_add, BitVec.toNat_ofNat] at hnat
    have hlt := m.sequence.isLt
    omega
  · intro hnone
    have hcreated : ∀ c ∈ l, created c = none := by
      intro c hc
      have hi := hnone c hc
      unfold created
      split
      · simp_all [Instruction.isSend]
      · rfl
    have hsent : ∀ c ∈ l, ∀ read, c.output.event.sent read = none := by
      intro c hc read
      have hsub := (hread.sent_eq c hc).trans (hcreated c hc)
      cases hevent : c.output.event <;> rw [hevent] at hsub <;> first | rfl | cases hsub
    refine ⟨fun c hc => ?_, hread.keys_nodup, fun l₁ c l₂ m hl hpick => ?_⟩
    · rw [hsent c hc, hcreated c hc]
    · rw [← hread.sent_before l₁ c l₂ m hl hpick]
      refine List.countP_congr fun d hd => ?_
      have hd' : d ∈ l := hl ▸ List.mem_append_left _ hd
      rw [hsent d hd', hsent d hd']

/-- The event of the first message of the integrator 10 has the sequence number 1. -/
theorem messageSent_not_identifies :
    ¬ EventsIdentify id ((machine sampleEnv).run .init (sampleOutboxSetup ++ [sampleSend])).2 := by
  intro h
  exact absurd h.sent_eq (by decide +kernel)

theorem eventsIdentify_iff_sample :
    EventsIdentify id ((machine sampleEnv).run .init sampleOutboxSetup).2 :=
  (eventsIdentify_iff ((machine sampleEnv).run_path .init sampleOutboxSetup)).2 (by decide +kernel)

end GmpRouter.Svm
