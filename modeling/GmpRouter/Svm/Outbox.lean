import GmpRouter.Svm.Attestation
import GmpRouter.Svm.Completeness

/-!
# The outbox of the SVM endpoint

A sent message is in one account until every adapter that was enabled when it was sent has picked it
up. The account stays at its address, with all fields but the outstanding adapters unchanged
(`Keeps`), and which adapters are outstanding is known from the histories of the router.
-/

namespace GmpRouter.Svm

open GmpRouter.Bitmap (indices)

variable {E : Env} {s t u : State} {l : Log} {a b : Router.State} {o : Output} {i : Instruction}
  {I : Pubkey} {sequence : BitVec 64} {A : Pubkey}

/-! ## Sends and pick-ups of a history -/

/-- The instruction sends a message of the integrator. -/
def Instruction.sends (I : Pubkey) : Instruction → Bool
  | .sendMessage _ args => args.integratorProgramId = I
  | _ => false

/-- The event reports that the adapter picked up the message of the integrator with the sequence
number. -/
def Event.picksUp (I : Pubkey) (sequence : BitVec 64) (A : Pubkey) : Event → Bool
  | .messagePickedUp srcAddr sequence' _ _ _ adapter _ =>
    srcAddr = I ∧ sequence' = sequence ∧ adapter = A
  | _ => false

theorem op_sends {op : Router.Op} (h : i.op s = some op) : i.sends I = op.sends I := by
  cases i <;> simp only [Instruction.op, Option.map_eq_some_iff] at h
  case claimAdmin | discardAdmin | pickUpMessage =>
    obtain ⟨_, -, rfl⟩ := h
    rfl
  all_goals
    obtain rfl := Option.some.inj h
    rfl

/-- A pick-up of the router is an instruction of the adapter on the account of the message. -/
theorem op_pickUp (h : i.op s = some (.pickUp A I sequence)) :
    ∃ ctx args message, i = .pickUpMessage ctx args ∧ args.adapterProgramId = A ∧
      s.accounts ctx.outboxMessage = some (.outboxMessage message) ∧ message.srcAddr = I ∧
      message.sequence = sequence := by
  cases i <;> simp only [Instruction.op, Option.map_eq_some_iff] at h
  case pickUpMessage ctx args =>
    obtain ⟨message, hfind, hop⟩ := h
    obtain ⟨rfl, rfl, rfl⟩ := Router.Op.pickUp.inj hop
    exact ⟨ctx, args, message, rfl, rfl, State.find_eq_some.1 hfind, rfl, rfl⟩
  case claimAdmin | discardAdmin =>
    obtain ⟨_, -, hop⟩ := h
    cases hop
  all_goals cases h

/-- A successful pick-up reports the message of its account. -/
theorem event_of_pickUp {ctx : PickUpMessage} {args : PickUpMessageArgs} {message : OutboxMessage}
    (hload : s.accounts ctx.outboxMessage = some (.outboxMessage message))
    (h : process E s (.pickUpMessage ctx args) = .ok (t, o)) :
    ∃ remaining, o.event = .messagePickedUp message.srcAddr message.sequence message.dstChain
      message.dstAddr message.payloadHash args.adapterProgramId remaining := by
  obtain ⟨message', info, hload', -, -, -, -, -, rfl⟩ := pickUpMessage_eq_ok.1 h
  obtain rfl : message' = message := by
    simpa using Option.some.inj (hload'.symm.trans hload)
  exact ⟨_, rfl⟩

theorem picksUp_iff {op : Router.Op} (hs : Refines E s a) (h : process E s i = .ok (t, o))
    (hop : i.op s = some op) : o.event.picksUp I sequence A = true ↔ op = .pickUp A I sequence := by
  constructor
  · intro hpick
    obtain ⟨op', hop', b, hstep, -⟩ := hs.step h
    obtain rfl : op = op' := Option.some.inj (hop.symm.trans hop')
    -- the event is that of a pick-up, so the instruction is one
    cases hevent : o.event <;> rw [hevent] at hpick <;> try cases hpick
    rw [hevent] at hstep
    obtain ⟨A', I', sequence', rfl⟩ := Router.exists_pickUp_of_out hstep
    obtain ⟨ctx, args, message, rfl, rfl, hload, rfl, rfl⟩ := op_pickUp hop
    obtain ⟨remaining, hevent'⟩ := event_of_pickUp hload h
    rw [hevent] at hevent'
    cases hevent'
    simp only [Event.picksUp, decide_eq_true_eq] at hpick
    obtain ⟨rfl, rfl, rfl⟩ := hpick
    rfl
  · rintro rfl
    obtain ⟨ctx, args, message, rfl, rfl, hload, rfl, rfl⟩ := op_pickUp hop
    obtain ⟨remaining, hevent⟩ := event_of_pickUp hload h
    simp [hevent, Event.picksUp]

/-! ## What happens to a message -/

/-- The adapter can pick up the message. -/
def CanPickUp (E : Env) (s : State) (I : Pubkey) (sequence : BitVec 64) (A : Pubkey) : Prop :=
  ∃ ctx args t o, args.adapterProgramId = A ∧ process E s (.pickUpMessage ctx args) = .ok (t, o) ∧
    o.event.picksUp I sequence A = true

theorem canPickUp_iff (h : Refines E s a) : CanPickUp E s I sequence A ↔
    a.CanPickUp I sequence A := by
  rw [← Router.canPickUp_iff (AttestationInfo.computeMessageHash E)]
  constructor
  · rintro ⟨ctx, args, t, o, -, hstep, hpick⟩
    obtain ⟨op, hop, b, hstep', -⟩ := h.step hstep
    rw [(picksUp_iff h hstep hop).1 hpick] at hstep'
    exact ⟨_, hstep'⟩
  · rintro ⟨⟨b, out⟩, hstep⟩
    obtain ⟨c, outgoing, j, hc, hm, hindex, hmem, -, -⟩ := Router.pickUp_eq_ok.1 hstep
    obtain ⟨k, message, hview, rfl, rfl, rfl⟩ := (h.represents.outbox.exists_iff _ _ _).1 hm
    have hload := view_outbox.1 hview
    obtain ⟨⟨t, o⟩, hok⟩ : ∃ r, process E s (.pickUpMessage ⟨.external k,
        E.pda (.adapterInfo message.srcAddr A), adapterPda A 0#8, message.refundRecipient⟩
        ⟨A, 0#8⟩) = .ok r :=
      h.pickUpMessage_ok hload rfl rfl rfl hc hindex hmem
    obtain ⟨remaining, hevent⟩ := event_of_pickUp (E := E) hload hok
    exact ⟨_, _, t, o, rfl, hok, by simp [hevent, Event.picksUp]⟩

/-- Every account of the message is at the key, and differs from the message sent only in the
outstanding adapters. -/
def Keeps (E : Env) (k : Pubkey) (sent : OutboxMessage) (s : State) : Prop :=
  ∀ k' message, (s.view E).outbox k' = some message → message.srcAddr = sent.srcAddr →
    message.sequence = sent.sequence →
    k' = k ∧ message = { sent with outstandingAdapters := message.outstandingAdapters }

/-- An outbox account is that of a message which the instruction sends, or was there before and
differs in the outstanding adapters only. -/
theorem outbox_of_step {k : Pubkey} {message : OutboxMessage} (hs : Refines E s a)
    (h : process E s i = .ok (t, o))
    (hm : t.accounts (.external k) = some (.outboxMessage message)) :
    (∃ ctx args c, i = .sendMessage ctx args ∧ k = ctx.outboxMessage ∧
      a.integrators message.srcAddr = some c ∧ message.sequence = c.nextSequence) ∨
    ∃ old, s.accounts (.external k) = some (.outboxMessage old) ∧
      message = { old with outstandingAdapters := message.outstandingAdapters } := by
  by_cases hsame : t.accounts (.external k) = s.accounts (.external k)
  · exact .inr ⟨message, hsame ▸ hm, rfl⟩
  by_cases hsend : ∃ ctx args, i = .sendMessage ctx args
  · obtain ⟨ctx, args, rfl⟩ := hsend
    obtain ⟨chainConfig, tracker, -, htracker, -, -, -, -, -, rfl, -⟩ := sendMessage_eq_ok.1 h
    have hy := htracker.eq_pda hs.canonical
    obtain ⟨c, hc, rfl⟩ := hs.tracker_eq htracker
    by_cases hk : k = ctx.outboxMessage
    · subst hk
      rw [State.set_self] at hm
      cases hm
      exact .inl ⟨ctx, args, c, rfl, rfl, hc, rfl⟩
    · refine absurd ?_ hsame
      rw [State.set_of_ne (by simpa using hk), hy, State.set_of_ne (by simp)]
  by_cases hpick : ∃ ctx args, i = .pickUpMessage ctx args
  · obtain ⟨ctx, args, rfl⟩ := hpick
    obtain ⟨old, info, hload, -, -, -, -, rfl, -⟩ := pickUpMessage_eq_ok.1 h
    obtain ⟨k₀, hk₀⟩ := (hs.canonical _ _ hload).external rfl
    rw [hk₀] at hload hm hsame
    by_cases hk : k = k₀
    · subst hk
      split at hm
      · simp at hm
      · rw [State.set_self] at hm
        cases hm
        exact .inr ⟨old, hload, rfl⟩
    · refine absurd ?_ hsame
      split
      · exact State.close_of_ne (by simpa using hk)
      · exact State.set_of_ne (by simpa using hk) _
  · simp only [not_exists] at hsend hpick
    exact absurd ((frames_of_step hs.canonical h hsend hpick).external k) hsame

theorem keeps_of_step {k : Pubkey} {sent : OutboxMessage} (hs : Refines E s a)
    (hused : Router.Used sent.srcAddr sent.sequence a) (h : process E s i = .ok (t, o))
    (hkeeps : Keeps E k sent s) : Keeps E k sent t := by
  intro k' message hview hI hsequence
  rcases outbox_of_step hs h (view_outbox.1 hview) with
    ⟨ctx, args, c, rfl, rfl, hc, hnext⟩ | ⟨old, hold, hmessage⟩
  · -- a new message has a sequence number that was not used
    obtain ⟨-, c', hc', hlt⟩ := hused
    rw [← hI] at hc'
    obtain rfl : c = c' := Option.some.inj (hc.symm.trans hc')
    rw [← hsequence, hnext] at hlt
    exact absurd hlt (BitVec.lt_irrefl _)
  · have hI' : old.srcAddr = sent.srcAddr := by rw [← hI, hmessage]
    have hsequence' : old.sequence = sent.sequence := by rw [← hsequence, hmessage]
    obtain ⟨hk, hsent⟩ := hkeeps k' old (view_outbox.2 hold) hI' hsequence'
    refine ⟨hk, ?_⟩
    rw [hmessage, hsent]

/-! ## Histories -/

theorem sends_countP_eq {l' : Router.Log} (h : List.Forall₂ (Matches E) l l') (I : Pubkey) :
    l.countP (fun c => c.input.sends I) = l'.countP fun d => d.input.sends I := by
  have heq := Machine.Matches.countP_eq (p := fun c => c.input.sends I = true)
    (q := fun d => d.input.sends I = true) (fun c d hcd => by rw [op_sends hcd.label.1]) h
  simpa only [Bool.decide_eq_true] using heq

theorem matches_picksUp {c : Commit State Instruction Output}
    {d : Commit Router.State Router.Op Router.Out} (hcd : Matches E c d) :
    c.output.event.picksUp I sequence A = true ↔ d.input = .pickUp A I sequence :=
  picksUp_iff hcd.pre hcd.left hcd.label.1

theorem picksUp_countP_eq {l' : Router.Log} (h : List.Forall₂ (Matches E) l l') :
    l.countP (fun c => c.output.event.picksUp I sequence A) =
      l'.countP fun d => d.input = .pickUp A I sequence := by
  have heq := Machine.Matches.countP_eq (p := fun c => c.output.event.picksUp I sequence A = true)
    (fun c d hcd => matches_picksUp hcd) h
  simpa only [Bool.decide_eq_true] using heq

/-- The adapter is enabled for messages of the integrator to the chain. -/
def SendEnabled (E : Env) (s : State) (I : Pubkey) (chain : ChainId) (A : Pubkey) : Prop :=
  ∃ info : AdapterInfo, s.accounts (E.pda (.adapterInfo I A)) = some (.adapterInfo info) ∧
    info.index.toNat ∈ indices (s.chainConfigOf E I chain).sendAdapterBitmap

/-- A message was sent: the state before is that of a router that has sent `n` messages of the
integrator, the message is in its account, and the adapters that may pick it up are those that were
enabled. -/
structure Sent (E : Env) (s t : State) (a b : Router.State) (k : Pubkey) (sent : OutboxMessage) :
    Prop where
  account : t.accounts (.external k) = some (.outboxMessage sent)
  sequence_eq : sent.sequence.toNat = a.sent sent.srcAddr
  outstanding_eq : sent.outstandingAdapters =
    (s.chainConfigOf E sent.srcAddr sent.dstChain).sendAdapterBitmap
  outstanding_ne : sent.outstandingAdapters ≠ 0#128
  refines : Refines E t b
  used : Router.Used sent.srcAddr sent.sequence b
  adapters_iff : ∀ A, b.CanPickUp sent.srcAddr sent.sequence A ↔
    SendEnabled E s sent.srcAddr sent.dstChain A

theorem sent_of_send {ctx : SendMessage} {args : SendMessageArgs} (hs : Refines E s a)
    (h : process E s (.sendMessage ctx args) = .ok (t, o)) :
    ∃ b sent, Sent E s t a b ctx.outboxMessage sent ∧ sent.srcAddr = args.integratorProgramId ∧
      sent.dstChain = args.dstChain ∧ sent.dstAddr = args.dstAddr ∧
      sent.payloadHash = args.payloadHash ∧ sent.refundRecipient = ctx.payer := by
  obtain ⟨op, hop, b, hstep, hb⟩ := hs.step h
  obtain rfl := Option.some.inj hop
  obtain ⟨chainConfig, tracker, hchain, htracker, -, -, -, hne, -, ht, -⟩ := sendMessage_eq_ok.1 h
  obtain ⟨c, hc, hsend, hmax, hb', -⟩ := Router.send_eq_ok.1 hstep
  obtain ⟨c', hc', rfl⟩ := hs.tracker_eq htracker
  obtain rfl : c = c' := Option.some.inj (hc.symm.trans hc')
  have hconfig := chainConfigOf_eq (hchain.eq_pda hs.canonical ▸ hchain.1)
  refine ⟨b, ⟨args.integratorProgramId, c.nextSequence, args.dstChain, args.dstAddr,
    args.payloadHash, chainConfig.sendAdapterBitmap, ctx.payer⟩, ?_, rfl, rfl, rfl, rfl, rfl⟩
  have houtstanding : b.outstanding args.integratorProgramId c.nextSequence =
      indices (s.chainConfigOf E args.integratorProgramId args.dstChain).sendAdapterBitmap := by
    rw [hb', Router.State.outstanding]
    simp only [update₂_self]
    exact hs.enabled_eq hc .send args.dstChain
  have hintegrator : b.integrators args.integratorProgramId =
      some { c with nextSequence := c.nextSequence + 1#64 } := by
    rw [hb']
    exact Router.setIntegrator_self ..
  refine ⟨?_, ?_, ?_, hne, hb, ⟨hb.inv, _, hintegrator, Router.lt_add_one hmax⟩, fun A => ?_⟩
  · rw [ht]
    exact State.set_self ..
  · simp only [Router.State.sent, hc]
  · rw [hconfig]
  · constructor
    · rintro ⟨e, i, he, hindex, hmem⟩
      obtain rfl := Option.some.inj (hintegrator.symm.trans he)
      obtain ⟨info, hinfo, rfl⟩ := hs.adapterInfo_derived hc hindex
      exact ⟨info, hinfo.1, houtstanding ▸ hmem⟩
    · rintro ⟨info, hinfo, hmem⟩
      obtain ⟨e, he, hindex⟩ := hs.adapterInfo_at hinfo
      obtain rfl : c = e := Option.some.inj (hc.symm.trans he)
      exact ⟨_, _, hintegrator, hindex, houtstanding ▸ hmem⟩

section AfterSend

variable {k : Pubkey} {sent : OutboxMessage} {a' : Router.State} {s' : State}

/-- Along a history, the account of the message keeps its key and its fields. -/
theorem keeps_of_path (hs : Refines E s a) (hused : Router.Used sent.srcAddr sent.sequence a)
    (hkeeps : Keeps E k sent s) (h : (machine E).Path s l t) : Keeps E k sent t := by
  induction h with
  | nil => exact hkeeps
  | @snoc l c hpath hc ih =>
    obtain ⟨l', b, hpath', hb, -⟩ := (simulation E).path hpath hs
    have hused' := hpath'.invariant
      (Router.used_invariant (AttestationInfo.computeMessageHash E) _ _) hused
    exact keeps_of_step hb hused' hc ih

theorem Sent.keeps (h : Sent E s t a b k sent) : Keeps E k sent t := by
  intro k' message hview hI hsequence
  have hk := h.refines.represents.outbox.unique _ _ _ _ hview (view_outbox.2 h.account) hI hsequence
  subst hk
  obtain rfl := Option.some.inj (hview.symm.trans (view_outbox.2 h.account))
  exact ⟨rfl, rfl⟩

/-- The adapters that can pick up the message later are those that were enabled and have not done
so. -/
theorem Sent.canPickUp_later (h : Sent E s t a b k sent) (hpath : (machine E).Path t l u)
    (A : Pubkey) : CanPickUp E u sent.srcAddr sent.sequence A ↔
    SendEnabled E s sent.srcAddr sent.dstChain A ∧
      ∀ c ∈ l, c.output.event.picksUp sent.srcAddr sent.sequence A = false := by
  obtain ⟨l', b', hpath', hb', hmatches⟩ := (simulation E).path hpath h.refines
  rw [canPickUp_iff hb', Router.canPickUp_iff_of_path hpath' h.used, h.adapters_iff]
  refine and_congr_right fun _ => ⟨fun hnot c hc => ?_, fun hnot d hd hinput => ?_⟩
  · obtain ⟨d, hd, hcd⟩ := Machine.Matches.exists_right hmatches hc
    rw [Bool.eq_false_iff, Ne, matches_picksUp hcd]
    exact hnot d hd
  · obtain ⟨c, hc, hcd⟩ := Machine.Matches.exists_left hmatches hd
    exact absurd ((matches_picksUp hcd).2 hinput) (by simp [hnot c hc])

/-- The account of the message exists while some adapter can pick it up. -/
theorem Sent.account_iff (h : Sent E s t a b k sent) (hpath : (machine E).Path t l u) :
    (∃ message, u.accounts (.external k) = some (.outboxMessage message) ∧
      message.srcAddr = sent.srcAddr ∧ message.sequence = sent.sequence) ↔
    ∃ A, CanPickUp E u sent.srcAddr sent.sequence A := by
  obtain ⟨l', b', hpath', hb', -⟩ := (simulation E).path hpath h.refines
  have hkeeps := keeps_of_path h.refines h.used h.keeps hpath
  simp only [canPickUp_iff hb', ← Router.exists_outbox_iff hb'.inv,
    hb'.represents.outbox.exists_iff]
  constructor
  · rintro ⟨message, hload, hI, hsequence⟩
    exact ⟨message.outgoing, k, message, view_outbox.2 hload, hI, hsequence, rfl⟩
  · rintro ⟨_, k', message, hview, hI, hsequence, -⟩
    obtain ⟨rfl, -⟩ := hkeeps k' message hview hI hsequence
    exact ⟨message, view_outbox.1 hview, hI, hsequence⟩

theorem Sent.pickedUp_le_one (h : Sent E s t a b k sent) (hpath : (machine E).Path t l u)
    (A : Pubkey) : l.countP (fun c => c.output.event.picksUp sent.srcAddr sent.sequence A) ≤ 1 := by
  obtain ⟨l', b', hpath', -, hmatches⟩ := (simulation E).path hpath h.refines
  rw [picksUp_countP_eq hmatches]
  exact Router.pickedUp_le_one hpath' h.used A

/-- Only an adapter that was enabled at the send picks up the message. -/
theorem Sent.sendEnabled_of_picksUp (h : Sent E s t a b k sent) (hpath : (machine E).Path t l u)
    {c : Commit State Instruction Output} (hc : c ∈ l)
    (hpick : c.output.event.picksUp sent.srcAddr sent.sequence A = true) :
    SendEnabled E s sent.srcAddr sent.dstChain A := by
  obtain ⟨l₁, l₂, -, hbefore, hvalid, -⟩ := hpath.split hc
  obtain ⟨l', b', -, hb', -⟩ := (simulation E).path hbefore h.refines
  obtain ⟨op, hop, b'', hstep, -⟩ := hb'.step hvalid
  rw [(picksUp_iff hb' hvalid hop).1 hpick] at hstep
  have hcan : CanPickUp E c.pre sent.srcAddr sent.sequence A :=
    (canPickUp_iff hb').2 ((Router.canPickUp_iff _).1 ⟨_, hstep⟩)
  exact ((h.canPickUp_later hbefore A).1 hcan).1

/-- What a pick-up of the message reports, and what becomes of the account: the last one closes it
and its rent goes to the payer of the message. -/
structure PickUpReport (E : Env) (k : Pubkey) (sent : OutboxMessage) (A : Pubkey)
    (c : Commit State Instruction Output) : Prop where
  event_eq : ∃ remaining, c.output.event = .messagePickedUp sent.srcAddr sent.sequence sent.dstChain
    sent.dstAddr sent.payloadHash A remaining ∧
    (remaining = 0#128 ∧ c.output.refund = some sent.refundRecipient ∧
        c.post.accounts (.external k) = none ∨
      remaining ≠ 0#128 ∧ c.output.refund = none ∧ c.post.accounts (.external k) =
        some (.outboxMessage { sent with outstandingAdapters := remaining }))

theorem Sent.pickUpReport (h : Sent E s t a b k sent) (hpath : (machine E).Path t l u)
    {c : Commit State Instruction Output} (hc : c ∈ l)
    (hpick : c.output.event.picksUp sent.srcAddr sent.sequence A = true) :
    PickUpReport E k sent A c := by
  obtain ⟨l₁, l₂, -, hbefore, hvalid, -⟩ := hpath.split hc
  obtain ⟨l', b', -, hb', -⟩ := (simulation E).path hbefore h.refines
  have hkeeps := keeps_of_path h.refines h.used h.keeps hbefore
  have hstep : process E c.pre c.input = .ok (c.post, c.output) := hvalid
  obtain ⟨op, hop, -⟩ := hb'.step hstep
  rw [(picksUp_iff hb' hstep hop).1 hpick] at hop
  obtain ⟨ctx, args, message, hinput, rfl, hload, hI, hsequence⟩ := op_pickUp hop
  obtain ⟨k', hk'⟩ := (hb'.canonical _ _ hload).external rfl
  obtain ⟨rfl, hsent⟩ := hkeeps k' message (view_outbox.2 (hk' ▸ hload)) hI hsequence
  rw [hinput] at hstep
  obtain ⟨message', info, hload', -, hrefund, -, -, hpost, hout⟩ := pickUpMessage_eq_ok.1 hstep
  obtain rfl : message' = message := by simpa using Option.some.inj (hload'.symm.trans hload)
  have hrefund' : sent.refundRecipient = ctx.refundRecipient := by
    rw [← hrefund, hsent]
  have hpicked : message'.pickUp info.index =
      { sent with outstandingAdapters :=
        Bitmap.put message'.outstandingAdapters info.index false } := by
    rw [OutboxMessage.pickUp, hsent]
  have hevent : c.output.event = .messagePickedUp sent.srcAddr sent.sequence sent.dstChain
      sent.dstAddr sent.payloadHash args.adapterProgramId
      (Bitmap.put message'.outstandingAdapters info.index false) := by
    rw [hout, hsent]
    rfl
  refine ⟨_, hevent, ?_⟩
  rw [hpicked] at hpost hout
  rw [hpost, hout, hrefund', hk']
  by_cases hzero : Bitmap.put message'.outstandingAdapters info.index false = 0#128
  · refine .inl ⟨hzero, if_pos hzero, ?_⟩
    rw [if_pos hzero]
    exact State.close_self ..
  · refine .inr ⟨hzero, if_neg hzero, ?_⟩
    rw [if_neg hzero]
    exact State.set_self ..

end AfterSend

/-- The sequence number of a message is the number of messages sent before. -/
theorem sent_of_path {ctx : SendMessage} {args : SendMessageArgs} (h : (machine E).Path .init l s)
    (hsend : process E s (.sendMessage ctx args) = .ok (t, o)) :
    ∃ a b sent, Sent E s t a b ctx.outboxMessage sent ∧ sent.srcAddr = args.integratorProgramId ∧
      sent.dstChain = args.dstChain ∧ sent.dstAddr = args.dstAddr ∧
      sent.payloadHash = args.payloadHash ∧ sent.refundRecipient = ctx.payer ∧
      sent.sequence.toNat = l.countP fun c => c.input.sends sent.srcAddr := by
  obtain ⟨l', a, hpath, ha, hmatches⟩ := exists_path h
  obtain ⟨b, sent, hsent, hI, hchain, haddr, hpayload, hpayer⟩ := sent_of_send ha hsend
  refine ⟨a, b, sent, hsent, hI, hchain, haddr, hpayload, hpayer, ?_⟩
  rw [hsent.sequence_eq, Router.sent_eq_countP hpath, sends_countP_eq hmatches]
  exact Nat.zero_add _

/-- **Exactly-once pick-up.** A send after any history from deployment creates an account for its
message, whose sequence number is the number of messages that the integrator has sent before and
whose outstanding adapters are those enabled for the chain, of which there is one. After any later
history, the adapters that can pick up the message are those that were enabled at the send and have
not picked it up; an adapter does so at most once, and every pick-up reports the fields of the
message and closes the account when no adapter is left, with the rent going to the payer of the
send. The account exists while some adapter that was enabled at the send has not picked up the
message. -/
theorem outbox_exactly_once {l₁ l₂ : Log} {ctx : SendMessage} {args : SendMessageArgs}
    (h₁ : (machine E).Path .init l₁ s) (hsend : process E s (.sendMessage ctx args) = .ok (t, o))
    (h₂ : (machine E).Path t l₂ u) :
    ∃ sent : OutboxMessage,
      t.accounts (.external ctx.outboxMessage) = some (.outboxMessage sent) ∧
      sent.srcAddr = args.integratorProgramId ∧ sent.dstChain = args.dstChain ∧
      sent.dstAddr = args.dstAddr ∧ sent.payloadHash = args.payloadHash ∧
      sent.refundRecipient = ctx.payer ∧
      sent.sequence.toNat = l₁.countP (fun c => c.input.sends sent.srcAddr) ∧
      sent.outstandingAdapters = (s.chainConfigOf E sent.srcAddr sent.dstChain).sendAdapterBitmap ∧
      sent.outstandingAdapters ≠ 0#128 ∧
      (∀ A, CanPickUp E u sent.srcAddr sent.sequence A ↔
        SendEnabled E s sent.srcAddr sent.dstChain A ∧
          ∀ c ∈ l₂, c.output.event.picksUp sent.srcAddr sent.sequence A = false) ∧
      (∀ A, l₂.countP (fun c => c.output.event.picksUp sent.srcAddr sent.sequence A) ≤ 1) ∧
      (∀ A, ∀ c ∈ l₂, c.output.event.picksUp sent.srcAddr sent.sequence A = true →
        SendEnabled E s sent.srcAddr sent.dstChain A ∧
          PickUpReport E ctx.outboxMessage sent A c) ∧
      ((∃ message, u.accounts (.external ctx.outboxMessage) = some (.outboxMessage message) ∧
          message.srcAddr = sent.srcAddr ∧ message.sequence = sent.sequence) ↔
        ∃ A, SendEnabled E s sent.srcAddr sent.dstChain A ∧
          ∀ c ∈ l₂, c.output.event.picksUp sent.srcAddr sent.sequence A = false) := by
  obtain ⟨a, b, sent, hsent, hI, hchain, haddr, hpayload, hpayer, hsequence⟩ :=
    sent_of_path h₁ hsend
  refine ⟨sent, hsent.account, hI, hchain, haddr, hpayload, hpayer, hsequence,
    hsent.outstanding_eq, hsent.outstanding_ne, hsent.canPickUp_later h₂, hsent.pickedUp_le_one h₂,
    fun A c hc hpick => ⟨hsent.sendEnabled_of_picksUp h₂ hc hpick, hsent.pickUpReport h₂ hc hpick⟩,
    ?_⟩
  rw [hsent.account_iff h₂]
  exact exists_congr (hsent.canPickUp_later h₂)

/-! ## A run -/

/-- The integrator 10, with admin 11, adds the adapters 12 and 13 and enables them for messages to
chain 2. -/
def sampleOutboxSetup : List Instruction :=
  [.register ⟨samplePda (.integratorConfig 10#256), samplePda (.sequenceTracker 10#256),
      integratorProgramPda 10#256 1#8⟩ ⟨10#256, 1#8, 11#256⟩] ++
    [12#256, 13#256].flatMap fun A =>
      [.addAdapter ⟨11#256, samplePda (.integratorConfig 10#256), samplePda (.adapterInfo 10#256 A)⟩
          ⟨10#256, A⟩,
        .enableSendAdapter ⟨11#256, samplePda (.integratorConfig 10#256),
          samplePda (.integratorChainConfig 10#256 2#16), samplePda (.adapterInfo 10#256 A)⟩
          ⟨2#16, A, 10#256⟩]

/-- The integrator sends a message, paid for by 14. -/
def sampleSend : Instruction :=
  .sendMessage ⟨14#256, integratorProgramPda 10#256 1#8,
    samplePda (.integratorChainConfig 10#256 2#16), samplePda (.sequenceTracker 10#256), 15#256⟩
    ⟨10#256, 1#8, 2#16, 77#256, 6#256⟩

def samplePickUp (A : Pubkey) : Instruction :=
  .pickUpMessage ⟨.external 15#256, samplePda (.adapterInfo 10#256 A), adapterPda A 2#8, 14#256⟩
    ⟨A, 2#8⟩

/-- Adapter 12 is disabled after the send. Both adapters pick the message up, and 13 tries again. -/
def samplePickUps : List Instruction :=
  [.disableSendAdapter ⟨11#256, samplePda (.integratorConfig 10#256),
      samplePda (.integratorChainConfig 10#256 2#16), samplePda (.adapterInfo 10#256 12#256)⟩
      ⟨2#16, 12#256, 10#256⟩,
    samplePickUp 13#256, samplePickUp 13#256, samplePickUp 12#256]

def sampleOutboxState : State := ((machine sampleEnv).run .init sampleOutboxSetup).1

example : ((machine sampleEnv).run .init
    (sampleOutboxSetup ++ [sampleSend] ++ samplePickUps)).2.length = 9 := by
  decide +kernel

theorem outbox_exactly_once_sample :
    ∃ t o, process sampleEnv sampleOutboxState sampleSend = .ok (t, o) ∧
      ∃ sent : OutboxMessage, t.accounts (.external 15#256) = some (.outboxMessage sent) ∧
        sent.refundRecipient = 14#256 ∧
        ((machine sampleEnv).run t samplePickUps).2.countP
          (fun c => c.output.event.picksUp sent.srcAddr sent.sequence 13#256) ≤ 1 := by
  obtain ⟨⟨t, o⟩, hsend⟩ : ∃ r, process sampleEnv sampleOutboxState sampleSend = .ok r :=
    isOk_iff.1 (by decide +kernel)
  obtain ⟨sent, haccount, -, -, -, -, hpayer, -, -, -, -, hle, -⟩ :=
    outbox_exactly_once ((machine sampleEnv).run_path .init sampleOutboxSetup) hsend
      ((machine sampleEnv).run_path t samplePickUps)
  exact ⟨t, o, hsend, sent, haccount, hpayer, hle 13#256⟩

end GmpRouter.Svm
