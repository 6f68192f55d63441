import GmpRouter.Aptos.Aborts
import GmpRouter.Router.Messages

/-!
# The outbox of the Aptos endpoint

A sent message is in the table until every adapter that was enabled when it was sent has picked it
up. The entry keeps its fields but the outstanding adapters (`Sent.message_eq`), and which adapters
are outstanding is known from the histories of the router (`Sent.fate`).
-/

namespace GmpRouter.Aptos

open GmpRouter.Bitmap (indices)

variable {keccak256 : List Byte → Digest} {s t u : State} {l : Log} {a b : Router.State}
  {I A : Address} {sequence : BitVec 64} {o : Output} {call : Call}

/-! ## Sends and pick-ups of a history -/

/-- The sequence number that a send of the integrator returned. -/
def sentSequence (I : Address) (c : Commit State Call Output) : Option (BitVec 64) :=
  match c.input, c.output with
  | .sendMessage I' _ _ _, .sequence n => if I' = I then some n else none
  | _, _ => none

/-- The bitmap has the bit of the adapter. -/
def HasBit (s : State) (I A : Address) (bitmap : BitVec 128) : Prop :=
  ∃ index, Integrator.getAdapterIndex s I A = .ok index ∧ Bitmap.get bitmap index = .ok true

theorem Refines.hasBit_iff {bitmap : BitVec 128} (h : Refines s a) : HasBit s I A bitmap ↔
    ∃ c i, a.integrators I = some c ∧ c.adapters.idxOf? A = some i ∧ i ∈ indices bitmap := by
  constructor
  · rintro ⟨index, hget, hbit⟩
    obtain ⟨table, htable, hindex⟩ := Integrator.getAdapterIndex_eq_ok.1 hget
    obtain ⟨hlt, hmem⟩ := Bitmap.get_eq_ok_true.1 hbit
    obtain ⟨c, hc, hx⟩ :=
      h.represents.exists_integrator (I := I) (by rintro hI; simp [hI] at htable)
    have hi := (hx.exists_index (h.inv.integrators _ _ hc) htable).2 ⟨index, hindex, rfl, hlt⟩
    exact ⟨c, _, hc, hi, hmem⟩
  · rintro ⟨c, i, hc, hi, hmem⟩
    have hx := h.represents.published hc
    obtain ⟨table, htable, -⟩ := hx.index
    obtain ⟨index, hindex, rfl, hlt⟩ := (hx.exists_index (h.inv.integrators _ _ hc) htable).1 hi
    exact ⟨index, Integrator.getAdapterIndex_eq_ok.2 ⟨table, htable, hindex⟩,
      Bitmap.get_eq_ok_true.2 ⟨hlt, hmem⟩⟩

theorem op_eq_pickUp : call.op = .pickUp A I sequence ↔ call = .pickUpMessage A I sequence := by
  constructor
  · intro h
    cases call with
    | pickUpMessage A' I' sequence' =>
      obtain ⟨rfl, rfl, rfl⟩ := Router.Op.pickUp.inj h
      rfl
    | _ => cases h
  · rintro rfl
    rfl

/-- Commits of the endpoint and of the router that correspond. -/
abbrev Matches (keccak256 : List Byte → Digest) (c : Commit State Call Output)
    (d : Commit Router.State Router.Op Router.Out) : Prop :=
  Machine.Matches (machine keccak256) (Router.machine (messageHash keccak256)) Refines
    (fun _ call o op out => op = call.op ∧ out = o.out) c d

theorem Matches.pickUp_iff {c : Commit State Call Output}
    {d : Commit Router.State Router.Op Router.Out} (h : Matches keccak256 c d) :
    d.input = .pickUp A I sequence ↔ c.input = .pickUpMessage A I sequence := by
  rw [h.label.1, op_eq_pickUp]

theorem Matches.sentSequence_eq {c : Commit State Call Output}
    {d : Commit Router.State Router.Op Router.Out} (h : Matches keccak256 c d) :
    sentSequence I c = Router.sentSequence I d := by
  obtain ⟨hop, hout⟩ := h.label
  unfold sentSequence Router.sentSequence
  rw [hop, hout]
  cases c.input with
  | sendMessage => cases c.output <;> rfl
  | _ => rfl

theorem sequences_of_path (h : (machine keccak256).Path .init l t) (I : Address) :
    (l.filterMap (sentSequence I)).map BitVec.toNat =
      List.range (l.filterMap (sentSequence I)).length := by
  obtain ⟨l', a, hpath, -, hmatches⟩ := (simulation keccak256).path h refines_init
  have hseq := Router.sequences_of_path hpath I
  rw [← Machine.Matches.filterMap_eq (fun c d hcd => Matches.sentSequence_eq hcd) hmatches] at hseq
  have hlength := congrArg List.length hseq
  rw [List.length_map, List.length_range'] at hlength
  rw [hseq, hlength, List.range_eq_range']
  rfl

/-! ## What happens to a message -/

theorem canPickUp_iff (h : Refines s a) :
    (∃ r, process keccak256 s (.pickUpMessage A I sequence) = .ok r) ↔
      a.CanPickUp I sequence A := by
  rw [← Router.canPickUp_iff (messageHash keccak256)]
  constructor
  · rintro ⟨⟨t, o⟩, hstep⟩
    obtain ⟨-, b, hstep', -⟩ := h.step hstep
    exact ⟨_, hstep'⟩
  · rintro ⟨r, hstep⟩
    exact (h.process (.pickUpMessage A I sequence)).complete trivial hstep

/-- An entry whose last adapter is removed is as good as one without adapters. -/
theorem Refines.outstanding_of_entry {sent : OutboxMessage} {remaining : BitVec 128}
    (h : Refines s a) (hm : s.outboxMessages ⟨I, sequence⟩ = if remaining = 0#128 then none
      else some { sent with outstandingAdapters := remaining }) :
    a.outstanding I sequence = indices remaining := by
  have hout := h.represents.outbox I sequence
  rw [hm] at hout
  rw [Router.State.outstanding, ← hout]
  by_cases hzero : remaining = 0#128
  · rw [if_pos hzero, hzero]
    exact GmpRouter.Bitmap.indices_zero.symm
  · rw [if_neg hzero]
    rfl

/-- A message is known from what the router knows of it. -/
theorem OutboxMessage.eq_of_outgoing {m m' : OutboxMessage} (hsrc : m.srcAddr = m'.srcAddr)
    (hsequence : m.sequence = m'.sequence) (hlength : m.payloadHash.length = 32)
    (hlength' : m'.payloadHash.length = 32)
    (h : m.outgoing = { m'.outgoing with outstanding := m.outgoing.outstanding }) :
    m = { m' with outstandingAdapters := m.outstandingAdapters } := by
  obtain ⟨hchain, haddr, hpayload, -⟩ := Router.Outgoing.mk.inj h
  have haddr' : m.dstAddr = m'.dstAddr := by
    have hbytes := beWord_inj (m.dstAddr.length_eq.trans m'.dstAddr.length_eq.symm)
      (by rw [m.dstAddr.length_eq]) haddr
    cases hm : m.dstAddr
    cases hm' : m'.dstAddr
    simp_all
  have hpayload' := beWord_inj (hlength.trans hlength'.symm) (by rw [hlength]) hpayload
  cases m
  cases m'
  simp_all [OutboxMessage.outgoing]

/-- A message was sent: it is in its entry of the table, and the adapters that may pick it up are
those that were enabled. -/
structure Sent (s t : State) (b : Router.State) (I : Address) (sent : OutboxMessage) : Prop where
  entry : t.outboxMessages ⟨I, sent.sequence⟩ = some sent
  bitmap_eq : Integrator.getEnabledSendAdapters s I sent.dstChain = .ok sent.outstandingAdapters
  bitmap_ne : sent.outstandingAdapters ≠ 0#128
  refines : Refines t b
  used : Router.Used I sent.sequence b
  adapters_iff : ∀ A, b.CanPickUp I sent.sequence A ↔ HasBit s I A sent.outstandingAdapters

theorem sent_of_send {dstChain : ChainId} {dstAddr : UniversalAddress} {payloadHash : List Byte}
    (hs : Refines s a)
    (h : process keccak256 s (.sendMessage I dstChain dstAddr payloadHash) = .ok (t, o)) :
    ∃ b sent, Sent s t b I sent ∧ sent.srcAddr = .fromAddress I ∧ sent.dstChain = dstChain ∧
      sent.dstAddr = dstAddr ∧ sent.payloadHash = payloadHash ∧ o = .sequence sent.sequence := by
  obtain ⟨-, b, hstep, hb⟩ := hs.step h
  obtain ⟨⟨sequence, t⟩, hsend, ht⟩ := bind_eq_ok.1 h
  obtain ⟨rfl, rfl⟩ := Prod.mk.inj (pure_eq_ok.1 ht)
  obtain ⟨-, table, htable, hne, -, -, -, rfl⟩ := Endpoint.sendMessage_eq_ok.1 hsend
  obtain ⟨c, hc, -, hmax, hb', hout⟩ := Router.send_eq_ok.1 hstep
  obtain rfl : sequence = c.nextSequence := Router.Out.sequence.inj hout
  refine ⟨b, ⟨.fromAddress I, c.nextSequence, dstChain, dstAddr, payloadHash,
    table.borrowWithDefault dstChain 0#128⟩, ?_, rfl, rfl, rfl, rfl, rfl⟩
  have hintegrator : b.integrators I = some { c with nextSequence := c.nextSequence + 1#64 } := by
    rw [hb']
    exact Router.setIntegrator_self ..
  have houtstanding : b.outstanding I c.nextSequence =
      indices (table.borrowWithDefault dstChain 0#128) := by
    rw [← (hs.represents.published hc).enabled_eq htable, hb', Router.State.outstanding]
    simp only [update₂_self]
  refine ⟨Table.upsert_self .., Integrator.getEnabledAdapters_eq_ok.2 ⟨table, htable, rfl⟩, hne, hb,
    ⟨hb.inv, _, hintegrator, Router.lt_add_one hmax⟩, fun A => ?_⟩
  rw [hs.hasBit_iff]
  constructor
  · rintro ⟨c', i, hc', hi, hmem⟩
    obtain rfl := Option.some.inj (hintegrator.symm.trans hc')
    exact ⟨c, i, hc, hi, houtstanding ▸ hmem⟩
  · rintro ⟨c', i, hc', hi, hmem⟩
    obtain rfl : c = c' := Option.some.inj (hc.symm.trans hc')
    exact ⟨_, i, hintegrator, hi, houtstanding ▸ hmem⟩

section AfterSend

variable {sent : OutboxMessage}

/-- The entry of the message keeps its fields. -/
theorem Sent.message_eq (h : Sent s t b I sent) (hpath : (machine keccak256).Path t l u)
    {message : OutboxMessage} (hm : u.outboxMessages ⟨I, sent.sequence⟩ = some message) :
    message = { sent with outstandingAdapters := message.outstandingAdapters } := by
  obtain ⟨l', b', hpath', hb', -⟩ := (simulation keccak256).path hpath h.refines
  have hout := hb'.represents.outbox I sent.sequence
  rw [hm, Option.map_some] at hout
  obtain ⟨message₀, hm₀, houtgoing⟩ := Router.outgoing_of_path hpath' h.used hout.symm
  have hsent := h.refines.represents.outbox I sent.sequence
  rw [h.entry, hm₀, Option.map_some] at hsent
  obtain rfl := Option.some.inj hsent
  obtain ⟨hsrc, hsequence, hlength⟩ := hb'.represents.key I sent.sequence message hm
  obtain ⟨hsrc', -, hlength'⟩ := h.refines.represents.key I sent.sequence sent h.entry
  exact OutboxMessage.eq_of_outgoing (hsrc.trans hsrc'.symm) hsequence hlength hlength' houtgoing

/-- The adapters that can pick up the message later are those that were enabled and have not done
so. -/
theorem Sent.canPickUp_later (h : Sent s t b I sent) (hpath : (machine keccak256).Path t l u)
    (A : Address) : (∃ r, process keccak256 u (.pickUpMessage A I sent.sequence) = .ok r) ↔
      HasBit s I A sent.outstandingAdapters ∧
        ∀ c ∈ l, c.input ≠ .pickUpMessage A I sent.sequence := by
  obtain ⟨l', b', hpath', hb', hmatches⟩ := (simulation keccak256).path hpath h.refines
  rw [canPickUp_iff hb', Router.canPickUp_iff_of_path hpath' h.used, h.adapters_iff]
  refine and_congr_right fun _ => ⟨fun hnot c hc hinput => ?_, fun hnot d hd hinput => ?_⟩
  · obtain ⟨d, hd, hcd⟩ := Machine.Matches.exists_right hmatches hc
    exact hnot d hd (Matches.pickUp_iff hcd |>.2 hinput)
  · obtain ⟨c, hc, hcd⟩ := Machine.Matches.exists_left hmatches hd
    exact hnot c hc (Matches.pickUp_iff hcd |>.1 hinput)

/-- The entry exists while some adapter can pick the message up. -/
theorem Sent.entry_iff (h : Sent s t b I sent) (hpath : (machine keccak256).Path t l u) :
    (∃ message, u.outboxMessages ⟨I, sent.sequence⟩ = some message) ↔
      ∃ A, HasBit s I A sent.outstandingAdapters ∧
        ∀ c ∈ l, c.input ≠ .pickUpMessage A I sent.sequence := by
  obtain ⟨l', b', hpath', hb', -⟩ := (simulation keccak256).path hpath h.refines
  simp only [← h.canPickUp_later hpath, canPickUp_iff hb', ← Router.exists_outbox_iff hb'.inv,
    ← hb'.represents.outbox, Option.map_eq_some_iff]
  constructor
  · rintro ⟨message, hm⟩
    exact ⟨_, message, hm, rfl⟩
  · rintro ⟨-, message, hm, -⟩
    exact ⟨message, hm⟩

theorem Sent.pickedUp_le_one (h : Sent s t b I sent) (hpath : (machine keccak256).Path t l u)
    (A : Address) : l.countP (fun c => c.input = .pickUpMessage A I sent.sequence) ≤ 1 := by
  obtain ⟨l', b', hpath', -, hmatches⟩ := (simulation keccak256).path hpath h.refines
  rw [Machine.Matches.countP_eq (q := fun d => d.input = .pickUp A I sent.sequence)
    (fun c d hcd => (Matches.pickUp_iff hcd).symm) hmatches]
  exact Router.pickedUp_le_one hpath' h.used A

/-- What a pick-up after the commits `before` returns and leaves in the table: the fields of the
message with the bits of the adapters that remain, and no entry when none does. -/
structure PickUpReport (s : State) (I : Address) (sent : OutboxMessage) (before : Log)
    (c : Commit State Call Output) : Prop where
  exists_remaining : ∃ remaining,
    c.output = .message { sent with outstandingAdapters := remaining } ∧
    (∀ A, HasBit c.post I A remaining ↔ HasBit s I A sent.outstandingAdapters ∧
      ∀ d ∈ before ++ [c], d.input ≠ .pickUpMessage A I sent.sequence) ∧
    c.post.outboxMessages ⟨I, sent.sequence⟩ = if remaining = 0#128 then none
      else some { sent with outstandingAdapters := remaining }

theorem Sent.pickUpReport (h : Sent s t b I sent) {before : Log} {c : Commit State Call Output}
    (hpath : (machine keccak256).Path t before c.pre) (hvalid : (machine keccak256).Valid c)
    (hinput : c.input = .pickUpMessage A I sent.sequence) : PickUpReport s I sent before c := by
  obtain ⟨l', b', -, hb', -⟩ := (simulation keccak256).path hpath h.refines
  have hstep : process keccak256 c.pre c.input = .ok (c.post, c.output) := hvalid
  rw [hinput] at hstep
  obtain ⟨⟨message', t'⟩, hpick, ht'⟩ := bind_eq_ok.1 hstep
  obtain ⟨hpost, hout⟩ := Prod.mk.inj (pure_eq_ok.1 ht')
  obtain ⟨message, table, index, hm, htable, hindex, hlt, hmem, rfl, ht⟩ :=
    Endpoint.pickUpMessage_eq_ok.1 hpick
  have hmessage := h.message_eq hpath hm
  have hremaining : ∀ remaining, { message with outstandingAdapters := remaining } =
      { sent with outstandingAdapters := remaining } := by
    intro remaining
    rw [hmessage]
  have hentry : c.post.outboxMessages ⟨I, sent.sequence⟩ = if message.outstandingAdapters &&&
        ~~~BitVec.twoPow 128 index.toNat = 0#128 then none
      else some { sent with outstandingAdapters :=
        message.outstandingAdapters &&& ~~~BitVec.twoPow 128 index.toNat } := by
    rw [hpost, ht]
    split
    · exact Table.remove_self ..
    · rw [← hremaining]
      exact Table.upsert_self ..
  refine ⟨_, hout.trans (congrArg _ (hremaining _)), fun A' => ?_, hentry⟩
  have hafter := hpath.snoc hvalid
  obtain ⟨l'', b'', -, hb'', -⟩ := (simulation keccak256).path hafter h.refines
  rw [← h.canPickUp_later hafter, canPickUp_iff hb'', hb''.hasBit_iff, Router.State.CanPickUp,
    hb''.outstanding_of_entry hentry]

/-- What becomes of a message that is sent from `s`, in the history `l` that follows and at its end
`u`: the adapters that can pick it up are those that were enabled and have not done so, and the
table has it while there is one. -/
structure Fate (keccak256 : List Byte → Digest) (s u : State) (l : Log) (I : Address)
    (sent : OutboxMessage) : Prop where
  pickUp_iff : ∀ A, (∃ r, process keccak256 u (.pickUpMessage A I sent.sequence) = .ok r) ↔
    HasBit s I A sent.outstandingAdapters ∧ ∀ c ∈ l, c.input ≠ .pickUpMessage A I sent.sequence
  pickedUp_le_one : ∀ A, l.countP (fun c => c.input = .pickUpMessage A I sent.sequence) ≤ 1
  report : ∀ before c after A, l = before ++ c :: after →
    c.input = .pickUpMessage A I sent.sequence →
      HasBit s I A sent.outstandingAdapters ∧ PickUpReport s I sent before c
  entry_iff : (∃ message, u.outboxMessages ⟨I, sent.sequence⟩ = some message) ↔
    ∃ A, HasBit s I A sent.outstandingAdapters ∧ ∀ c ∈ l, c.input ≠ .pickUpMessage A I sent.sequence
  message_eq : ∀ message, u.outboxMessages ⟨I, sent.sequence⟩ = some message →
    message = { sent with outstandingAdapters := message.outstandingAdapters }
  gone : (∀ A, HasBit s I A sent.outstandingAdapters →
      ∃ c ∈ l, c.input = .pickUpMessage A I sent.sequence) →
    Endpoint.getOutboxMessage u I sent.sequence = .error .tableNotFound ∧
      ∀ A, process keccak256 u (.pickUpMessage A I sent.sequence) = .error .tableNotFound ∧
        (machine keccak256).next u (.pickUpMessage A I sent.sequence) = u

theorem Sent.fate (h : Sent s t b I sent) (hpath : (machine keccak256).Path t l u) :
    Fate keccak256 s u l I sent where
  pickUp_iff := h.canPickUp_later hpath
  pickedUp_le_one := h.pickedUp_le_one hpath
  report := by
    rintro before c after A rfl hinput
    obtain ⟨hbefore, hvalid, -⟩ := hpath.of_append_cons
    have hpick : process keccak256 c.pre (.pickUpMessage A I sent.sequence) =
        .ok (c.post, c.output) :=
      hinput ▸ hvalid
    exact ⟨((h.canPickUp_later hbefore A).1 ⟨_, hpick⟩).1, h.pickUpReport hbefore hvalid hinput⟩
  entry_iff := h.entry_iff hpath
  message_eq := fun _ => h.message_eq hpath
  gone := by
    intro hall
    have hnone : u.outboxMessages ⟨I, sent.sequence⟩ = none := by
      by_contra hsome
      obtain ⟨A, hA, hnot⟩ := (h.entry_iff hpath).1 (Option.ne_none_iff_exists'.1 hsome)
      obtain ⟨c, hc, hinput⟩ := hall A hA
      exact hnot c hc hinput
    have hborrow : Endpoint.getOutboxMessage u I sent.sequence = .error .tableNotFound := by
      rw [Endpoint.getOutboxMessage, Table.borrow, hnone]
      rfl
    have hfail : ∀ A, process keccak256 u (.pickUpMessage A I sent.sequence) =
        .error .tableNotFound := by
      intro A
      simp only [process, Endpoint.pickUpMessage, Table.borrow, hnone]
      rfl
    refine ⟨hborrow, fun A => ⟨hfail A, ?_⟩⟩
    rw [Machine.next]
    simp only [machine, hfail A]

end AfterSend

/-- **Exactly-once pick-up.** In every history from deployment, the sequence numbers that the sends
of an integrator return are 0, 1, 2 and so on, and no call finds a key of a table in use that it
adds. A send puts its message into the table, with the adapters enabled for the chain, of which
there is one, and the rest of the history decides on the message as `Fate` says. -/
theorem pickUp_exactly_once (h : (machine keccak256).Path .init l u) :
    (∀ I, (l.filterMap (sentSequence I)).map BitVec.toNat =
      List.range (l.filterMap (sentSequence I)).length) ∧
    (∀ call, process keccak256 u call ≠ .error .tableAlreadyExists) ∧
    ∀ l₁ c l₂ I dstChain dstAddr payloadHash, l = l₁ ++ c :: l₂ →
      c.input = .sendMessage I dstChain dstAddr payloadHash →
        ∃ sent : OutboxMessage, sent.srcAddr = .fromAddress I ∧ sent.dstChain = dstChain ∧
          sent.dstAddr = dstAddr ∧ sent.payloadHash = payloadHash ∧
          c.output = .sequence sent.sequence ∧
          Integrator.getEnabledSendAdapters c.pre I dstChain = .ok sent.outstandingAdapters ∧
          sent.outstandingAdapters ≠ 0#128 ∧
          c.post.outboxMessages ⟨I, sent.sequence⟩ = some sent ∧
          Fate keccak256 c.pre u l₂ I sent := by
  refine ⟨sequences_of_path h, fun call => ?_, ?_⟩
  · obtain ⟨a, ha⟩ := exists_refines h
    exact ha.process_ne_error (e := .tableAlreadyExists) trivial call (by simp)
  · rintro l₁ c l₂ I dstChain dstAddr payloadHash rfl hinput
    obtain ⟨hbefore, hvalid, hafter⟩ := h.of_append_cons
    obtain ⟨a, ha⟩ := exists_refines hbefore
    have hsend : process keccak256 c.pre (.sendMessage I dstChain dstAddr payloadHash) =
        .ok (c.post, c.output) := hinput ▸ hvalid
    obtain ⟨b, sent, hsent, hsrc, rfl, rfl, rfl, hout⟩ := sent_of_send ha hsend
    exact ⟨sent, hsrc, rfl, rfl, rfl, hout, hsent.bitmap_eq, hsent.bitmap_ne, hsent.entry,
      hsent.fate hafter⟩

/-! ## A run -/

/-- The integrator 10, with admin 11, adds the adapters 12 and 13 and enables them for messages to
chain 2 and from chain 4. -/
def sampleSetup : List Call :=
  .register 10#256 11#256 :: [12#256, 13#256].flatMap fun A =>
    [.addAdapter 11#256 10#256 A, .enableSendAdapter 11#256 10#256 2#16 A,
      .enableRecvAdapter 11#256 10#256 4#16 A]

/-- A message is sent, adapter 12 is disabled, and both adapters pick the message up. -/
def samplePickUps : List Call :=
  [.sendMessage 10#256 2#16 (.fromAddress 77#256) (List.replicate 32 6#8),
    .disableSendAdapter 11#256 10#256 2#16 12#256, .pickUpMessage 13#256 10#256 0#64,
    .pickUpMessage 13#256 10#256 0#64, .pickUpMessage 12#256 10#256 0#64]

example : (((machine id).run .init (sampleSetup ++ samplePickUps)).2.map (·.output)).drop 7 =
    [.sequence 0#64, .unit,
      .message ⟨.fromAddress 10#256, 0#64, 2#16, .fromAddress 77#256, List.replicate 32 6#8, 1#128⟩,
      .message ⟨.fromAddress 10#256, 0#64, 2#16, .fromAddress 77#256, List.replicate 32 6#8,
        0#128⟩] := by
  decide +kernel

theorem pickUp_exactly_once_sample :
    ((((machine id).run .init (sampleSetup ++ samplePickUps)).2.filterMap
      (sentSequence 10#256)).map BitVec.toNat) = List.range 1 := by
  obtain ⟨hseq, -⟩ := pickUp_exactly_once
    ((machine id).run_path .init (sampleSetup ++ samplePickUps))
  rw [hseq]
  decide +kernel

end GmpRouter.Aptos
