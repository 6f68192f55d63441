import GmpRouter.Evm.Effect
import GmpRouter.Foundations.Frames

/-!
# Sequence numbers of the EVM endpoint

While `sendMessage` calls its adapters they can call back into the endpoint, also into
`sendMessage`. The frames of these calls nest (`execAll_nested`), and each is known by its sender
and its sequence number, since the counter only moves when a frame is opened (`openedBy_of_path`).
So every call sends to the adapters that it read at its beginning, with its own sequence number,
whatever happens while it runs, and the sequence numbers that are returned are those below the
counter.
-/

namespace GmpRouter.Evm

open Endpoint Frames

variable {E : Env} {s t : State} {log : Log} {c : Commit State Op Receipt} {frame : Sending}

/-! ## Frames -/

/-- The sender and the sequence number of the message. -/
def Sending.key (frame : Sending) : UniversalAddress × BitVec 64 := (frame.sender, frame.sequence)

/-- A call of `IAdapter.sendMessage`. -/
structure AdapterCall where
  adapter : Address
  srcAddr : UniversalAddress
  sequence : BitVec 64
  dstChain : ChainId
  dstAddr : UniversalAddress
  payloadHash : Bytes32
  refundAddr : Address
  instructions : List Byte
  deriving DecidableEq

def Sending.adapterCall (frame : Sending) (adapter : Address) (payload : List Byte) : AdapterCall :=
  ⟨adapter, frame.sender, frame.sequence, frame.args.dstChain, frame.args.dstAddr,
    frame.args.payloadHash, frame.args.refundAddress, payload⟩

/-- The call of an adapter of the send array, with the instruction for it. -/
def Sending.callOf (frame : Sending) (adapter : PerSendAdapterInfo) : AdapterCall :=
  frame.adapterCall adapter.addr (frame.adapterInst.getD adapter.index.toNat {}).payload

/-- The calls that the loop of `_sendMessage` makes. -/
def Sending.adapterCalls (frame : Sending) : List AdapterCall := frame.sendAdapters.map frame.callOf

/-- What a step does with the frames. -/
def label (c : Commit State Op Receipt) : Label Sending AdapterCall :=
  match c.input with
  | .call _ _ =>
    match c.output.ret with
    | .sending frame => .opens frame
    | _ => .leaf
  | .forward adapter frame payload _ => .performs frame (frame.adapterCall adapter payload)
  | .sent frame => .closes frame

mutual

/-- **The frames of a transaction nest.** -/
theorem exec_nested (E : Env) {s t : State} {log : Log} (tx : Tx) (h : exec E s tx = .ok (t, log)) :
    Nested label Sending.adapterCalls none log := by
  obtain ⟨msg, call, replies⟩ := tx
  obtain ⟨u, r, -, ⟨frame, l, r', hframe, hloop, -, rfl⟩ | ⟨hleaf, rfl, rfl⟩⟩ := exec_inv h
  · have hopens : label ⟨s, .call msg call, r, u⟩ = .opens frame := by
      simp only [label, hframe]
    exact .frame hopens (sendLoop_nested E frame frame.sendAdapters replies hloop) rfl .nil
  · refine .leaf ?_ .nil
    unfold label
    cases hret : r.ret with
    | sending frame => exact absurd hret (hleaf frame)
    | _ => rfl

theorem sendLoop_nested (E : Env) (frame : Sending) {s t : State} {log : Log}
    (sendAdapters : List PerSendAdapterInfo) (replies : List Reply)
    (h : sendLoop E frame s sendAdapters replies = .ok (t, log)) :
    Nested label Sending.adapterCalls (some (frame, sendAdapters.map frame.callOf)) log := by
  cases sendAdapters with
  | nil =>
    obtain ⟨rfl, rfl⟩ := sendLoop_nil_eq_ok.1 h
    exact .done
  | cons adapter sendAdapters =>
    cases replies with
    | nil => exact absurd h sendLoop_ne_ok
    | cons reply replies =>
      obtain ⟨price, calls, returns⟩ := reply
      obtain ⟨inst, deliveryPrice, u, r, log', hinst, -, -, -, hloop, rfl⟩ :=
        sendLoop_cons_eq_ok.1 h
      have hperforms : label ⟨s, .forward adapter.addr frame inst.payload deliveryPrice, r, u⟩ =
          .performs frame (frame.callOf adapter) := by
        rw [Sending.callOf, List.getD_eq_getElem?_getD, hinst]
        rfl
      exact .perform hperforms (execAll_nested E u calls)
        (sendLoop_nested E frame sendAdapters replies hloop)

/-- **The frames of a run nest.** -/
theorem execAll_nested (E : Env) (s : State) (txs : List Tx) :
    Nested label Sending.adapterCalls none (execAll E s txs).2 := by
  cases txs with
  | nil => exact .nil
  | cons tx txs =>
    rw [execAll]
    split
    · next t log h => exact (exec_nested E tx h).append (execAll_nested E t txs)
    · exact execAll_nested E s txs

end

/-! ## The counter -/

/-- The step is the call of `sendMessage` whose frame this is. -/
structure Opens (c : Commit State Op Receipt) (msg : Msg) (frame : Sending) : Prop where
  input_eq : ∃ mem, c.input = .call msg (.sendMessage frame.args mem)
  sender_eq : frame.sender = fromAddress msg.sender
  sequence_eq : frame.sequence = c.pre.messageSequence msg.sender
  sequence_ne : frame.sequence ≠ BitVec.allOnes 64
  sendAdapters_eq : frame.sendAdapters =
    c.pre.perChainSendAdapterArray msg.sender frame.args.dstChain
  messageSequence_eq : c.post.messageSequence =
    Function.update c.pre.messageSequence msg.sender (frame.sequence + 1#64)

/-- Frames are opened by `sendMessage`, which moves the counter of its caller, and no other step
moves a counter. -/
theorem counter_of_valid (hc : (machine E).Valid c) :
    (∃ msg frame, c.output.ret = .sending frame ∧ Opens c msg frame) ∨
      (∀ frame, c.output.ret ≠ .sending frame) ∧
        c.post.messageSequence = c.pre.messageSequence := by
  obtain ⟨s, op, r, t⟩ := c
  have hstep : step E s op = .ok (t, r) := hc
  cases step_effect hstep with
  | @send msg args mem inst hinst hchain hne hmax =>
    exact .inl ⟨msg, _, rfl, ⟨mem, rfl⟩, rfl, rfl, hmax, rfl, rfl⟩
  | admin => exact .inr ⟨nofun, rfl⟩
  | @configure _ _ _ registry r _ hrun =>
    exact .inr ⟨AdapterRegistry.Change.run_ret_ne_sending hrun, rfl⟩
  | inbox hinbox =>
    refine .inr ⟨fun frame => ?_, rfl⟩
    cases hinbox <;> simp
  | forward => exact .inr ⟨nofun, rfl⟩
  | sent => exact .inr ⟨nofun, rfl⟩

theorem opens_of_valid (hc : (machine E).Valid c) (hret : c.output.ret = .sending frame) :
    ∃ msg, Opens c msg frame := by
  rcases counter_of_valid hc with ⟨msg, frame', hret', hopens⟩ | ⟨hnone, -⟩
  · obtain rfl := Return.sending.inj (hret.symm.trans hret')
    exact ⟨msg, hopens⟩
  · exact absurd hret (hnone frame)

/-- A call of `sendMessage` that is not rolled back opens a frame with its arguments. -/
theorem exists_frame_of_sendMessage {msg : Msg} {args : SendMessageArgs} {mem : ℕ → Byte}
    (hc : (machine E).Valid c) (hinput : c.input = .call msg (.sendMessage args mem)) :
    ∃ frame, c.output.ret = .sending frame ∧ frame.args = args ∧ Opens c msg frame := by
  obtain ⟨pre, op, r, post⟩ := c
  have hstep : step E pre op = .ok (post, r) := hc
  obtain rfl : op = .call msg (.sendMessage args mem) := hinput
  cases step_effect hstep with
  | admin h => cases h
  | inbox h => cases h
  | send _ _ _ hmax => exact ⟨_, rfl, rfl, ⟨_, rfl⟩, rfl, rfl, hmax, rfl, rfl⟩

theorem opened_label (hc : (machine E).Valid c) :
    (label c).opened = some frame ↔ c.output.ret = .sending frame := by
  constructor
  · intro h
    unfold label at h
    split at h
    · split at h
      · next hret => rw [hret, Option.some.inj h]
      · cases h
    · cases h
    · cases h
  · intro hret
    obtain ⟨msg, ⟨mem, hinput⟩, -⟩ := opens_of_valid hc hret
    rw [label, hinput]
    simp only [hret]
    rfl

/-- The sequence number of the frame, if the integrator opened it. -/
def Sending.sequenceBy (I : Address) (frame : Sending) : Option (BitVec 64) :=
  if frame.sender = fromAddress I then some frame.sequence else none

/-- The frames that the integrator opens have the numbers up to the counter, in order. -/
theorem openedBy_of_path (h : (machine E).Path .init log t) (I : Address) :
    ((opened label log).filterMap (Sending.sequenceBy I)).map BitVec.toNat =
      List.range (t.messageSequence I).toNat := by
  induction h with
  | nil => rfl
  | @snoc l c _ hc ih =>
    rw [opened_append, List.filterMap_append, List.map_append, ih]
    rcases counter_of_valid hc with ⟨msg, frame, hret, hopens⟩ | ⟨hnone, hsame⟩
    · have hopened : opened label [c] = [frame] := by
        rw [opened_cons, (opened_label hc).2 hret]
        rfl
      rw [hopened, hopens.messageSequence_eq]
      by_cases hI : I = msg.sender
      · subst hI
        have hby : frame.sequenceBy msg.sender = some frame.sequence := if_pos hopens.sender_eq
        have hlt : frame.sequence.toNat + 1 < 2 ^ 64 := by
          have hne : frame.sequence.toNat ≠ 2 ^ 64 - 1 := fun heq =>
            hopens.sequence_ne (BitVec.eq_of_toNat_eq (by simpa using heq))
          have hlt := frame.sequence.isLt
          omega
        rw [List.filterMap_cons_some hby, Function.update_self, ← hopens.sequence_eq,
          BitVec.toNat_add, BitVec.toNat_ofNat, Nat.mod_eq_of_lt (by omega), List.range_succ]
        rfl
      · have hby : frame.sequenceBy I = none :=
          if_neg fun heq => hI (fromAddress_injective (heq.symm.trans hopens.sender_eq))
        rw [List.filterMap_cons_none hby, Function.update_of_ne hI]
        exact List.append_nil _
    · have hopened : opened label [c] = [] := by
        rw [opened_cons]
        cases hlabel : (label c).opened with
        | none => rfl
        | some frame => exact absurd ((opened_label hc).1 hlabel) (hnone frame)
      rw [hopened, hsame]
      exact List.append_nil _

theorem nodup_keys {frames : List Sending} (hsender : ∀ f ∈ frames, ∃ I, f.sender = fromAddress I)
    (hnodup : ∀ I, (frames.filterMap (Sending.sequenceBy I)).Nodup) :
    (frames.map Sending.key).Nodup := by
  induction frames with
  | nil => exact List.nodup_nil
  | cons f frames ih =>
    rw [List.map_cons, List.nodup_cons]
    constructor
    · intro hmem
      obtain ⟨g, hg, hkey⟩ := List.mem_map.1 hmem
      obtain ⟨I, hI⟩ := hsender f (List.mem_cons_self ..)
      have hf : f.sequenceBy I = some f.sequence := if_pos hI
      obtain ⟨hsenders, hsequences⟩ := Prod.mk.inj hkey
      have hgI : g.sequenceBy I = some f.sequence := by
        rw [Sending.sequenceBy, hsenders, if_pos hI, hsequences]
      have htwice := hnodup I
      rw [List.filterMap_cons_some hf, List.nodup_cons] at htwice
      exact htwice.1 (List.mem_filterMap.2 ⟨g, hg, hgI⟩)
    · refine ih (fun g hg => hsender g (List.mem_cons_of_mem _ hg)) fun I => ?_
      have hall := hnodup I
      rw [List.filterMap_cons] at hall
      split at hall
      · exact hall
      · exact (List.nodup_cons.1 hall).2

theorem mem_opened (h : (machine E).Path s log t) : frame ∈ opened label log ↔
    ∃ c ∈ log, c.output.ret = .sending frame := by
  rw [opened, List.mem_filterMap]
  exact exists_congr fun c => and_congr_right fun hc => opened_label (h.valid hc)

/-- No two frames have the same key. -/
theorem nodup_keys_of_path (h : (machine E).Path .init log t) :
    ((opened label log).map Sending.key).Nodup := by
  refine nodup_keys (fun f hf => ?_) fun I => ?_
  · obtain ⟨c, hc, hret⟩ := (mem_opened h).1 hf
    obtain ⟨msg, hopens⟩ := opens_of_valid (h.valid hc) hret
    exact ⟨_, hopens.sender_eq⟩
  · have hrange : (((opened label log).filterMap (Sending.sequenceBy I)).map
        BitVec.toNat).Nodup := by
      rw [openedBy_of_path h]
      exact List.nodup_range
    exact hrange.of_map

theorem closed_label (hc : (machine E).Valid c) (h : (label c).closed = some frame) :
    c.input = .sent frame ∧ c.output.ret = .sequence frame.sequence := by
  obtain ⟨pre, op, r, post⟩ := c
  have hstep : step E pre op = .ok (post, r) := hc
  cases op with
  | call msg call =>
    unfold label at h
    cases hret : r.ret <;> simp only [hret] at h <;> cases h
  | forward => cases h
  | sent =>
    cases h
    cases step_effect hstep
    exact ⟨rfl, rfl⟩

/-! ## What a run shows of a call -/

/-- The sequence numbers that the calls of `sendMessage` by the integrator return. -/
def returned (I : Address) (log : Log) : List (BitVec 64) :=
  log.filterMap fun c =>
    match c.input, c.output.ret with
    | .sent frame, .sequence sequence =>
      if frame.sender = fromAddress I then some sequence else none
    | _, _ => none

def adapterCalls (log : Log) : List AdapterCall :=
  log.filterMap fun c =>
    match c.input with
    | .forward adapter frame payload _ => some (frame.adapterCall adapter payload)
    | _ => none

/-- The sender and the sequence number that a call of an adapter carries. -/
def AdapterCall.key (call : AdapterCall) : UniversalAddress × BitVec 64 :=
  (call.srcAddr, call.sequence)

def events (log : Log) : List Event := log.flatMap fun c => c.output.events

/-- The sender and the sequence number that `MessageSent` carries. -/
def Event.sentKey : Event → Option (UniversalAddress × BitVec 64)
  | .messageSent _ sender sequence _ _ _ => some (sender, sequence)
  | _ => none

/-- What a run shows of the call of `sendMessage` with the frame: it used the counter and the send
adapters as they were at that moment, called these adapters, each with its own sequence number, then
emitted one event with it, and returned it. -/
structure Sends (E : Env) (log : Log) (c : Commit State Op Receipt) (frame : Sending) : Prop where
  opens : ∃ msg, Opens c msg frame
  adapterCalls_eq : (adapterCalls log).filter (fun call => call.key = frame.key) =
    frame.adapterCalls
  messageSent_eq : (events log).filter (fun event => event.sentKey = some frame.key) =
    [messageSent E frame]
  returns : ∃ d ∈ log, d.input = .sent frame ∧ d.output.ret = .sequence frame.sequence

theorem returned_eq (h : (machine E).Path s log t) (I : Address) :
    returned I log = (closed label log).filterMap (Sending.sequenceBy I) := by
  rw [returned, closed, List.filterMap_filterMap]
  refine List.filterMap_congr fun c hc => ?_
  obtain ⟨pre, op, r, post⟩ := c
  have hstep : step E pre op = .ok (post, r) := h.valid hc
  cases op with
  | call msg call =>
    unfold label
    cases r.ret <;> rfl
  | forward => rfl
  | sent frame =>
    cases step_effect hstep
    rfl

theorem filter_adapterCalls (log : Log) (key : UniversalAddress × BitVec 64) :
    (adapterCalls log).filter (fun call => call.key = key) =
      performed label Sending.key key log := by
  rw [adapterCalls, performed, List.filter_filterMap]
  refine List.filterMap_congr fun c _ => ?_
  obtain ⟨pre, op, r, post⟩ := c
  cases op with
  | call msg call =>
    unfold label
    cases r.ret <;> rfl
  | forward adapter frame payload =>
    have hkey : (frame.adapterCall adapter payload).key = frame.key := rfl
    simp only [label, Label.performed, Option.filter_some, hkey, decide_eq_true_eq]
  | sent => rfl

theorem sentKey_of_run {registry registry' : Registry} {I : Address} {r : Receipt}
    {change : AdapterRegistry.Change} (h : change.run registry I = .ok (registry', r)) :
    ∀ event ∈ r.events, event.sentKey = none := by
  rw [AdapterRegistry.Change.receipt_of_run h]
  cases change <;> simp [AdapterRegistry.Change.receipt, Event.sentKey]

/-- `MessageSent` is emitted when a frame is closed, and only then. -/
theorem filter_output_events (hc : (machine E).Valid c) (key : UniversalAddress × BitVec 64) :
    c.output.events.filter (fun event => event.sentKey = some key) =
      ((label c).closed.toList.filter (fun frame => frame.key = key)).map (messageSent E) := by
  obtain ⟨pre, op, r, post⟩ := c
  have hstep : step E pre op = .ok (post, r) := hc
  have hnone : ∀ msg call, op = .call msg call → (label ⟨pre, op, r, post⟩).closed = none := by
    rintro msg call rfl
    unfold label
    cases r.ret <;> rfl
  have hsilent : (∀ event ∈ r.events, event.sentKey = none) →
      r.events.filter (fun event => event.sentKey = some key) = [] := by
    refine fun hkey => List.filter_eq_nil_iff.2 fun event hevent => ?_
    simp [hkey event hevent]
  cases step_effect hstep with
  | admin hadmin =>
    rw [hnone _ _ rfl]
    refine hsilent ?_
    cases hadmin <;> simp [Event.sentKey]
  | configure _ hrun =>
    rw [hnone _ _ rfl]
    exact hsilent (sentKey_of_run hrun)
  | inbox hinbox =>
    rw [hnone _ _ rfl]
    refine hsilent ?_
    cases hinbox <;> simp [Event.sentKey]
  | send => rfl
  | forward => rfl
  | @sent frame =>
    by_cases hkey : frame.key = key
    · subst hkey
      simp [label, Label.closed, messageSent, Event.sentKey, Sending.key]
    · have hevent : (frame.sender, frame.sequence) ≠ key := hkey
      simp [label, Label.closed, messageSent, Event.sentKey, hkey, hevent]

theorem filter_events (h : (machine E).Path s log t) (key : UniversalAddress × BitVec 64) :
    (events log).filter (fun event => event.sentKey = some key) =
      ((closed label log).filter (fun frame => frame.key = key)).map (messageSent E) := by
  rw [events, List.filter_flatMap, closed, List.filterMap_eq_flatMap_toList, List.filter_flatMap,
    List.map_flatMap]
  exact List.flatMap_congr fun c hc => filter_output_events (h.valid hc) key

theorem sends_of_path (h : (machine E).Path .init log t)
    (hnested : Nested label Sending.adapterCalls none log) (hc : c ∈ log)
    (hret : c.output.ret = .sending frame) : Sends E log c frame := by
  have hopened : frame ∈ opened label log := (mem_opened h).2 ⟨c, hc, hret⟩
  have hclosed : frame ∈ closed label log := hnested.closed_perm.mem_iff.2 hopened
  have hnodup := nodup_keys_of_path h
  refine ⟨opens_of_valid (h.valid hc) hret, ?_, ?_, ?_⟩
  · rw [filter_adapterCalls]
    exact (hnested.performed_eq hnodup nofun).1 frame hopened
  · rw [filter_events h, filter_key_eq ((hnested.closed_perm.map _).nodup_iff.2 hnodup) hclosed,
      List.map_singleton]
  · obtain ⟨d, hd, hlabel⟩ := List.mem_filterMap.1 hclosed
    exact ⟨d, hd, closed_label (h.valid hd) hlabel⟩

/-- **Sequence numbers under reentrancy.** In every run, whatever the adapters do while they are
called, the calls of `sendMessage` by an integrator that are not rolled back return the numbers
below its counter, each once. Each of them uses the counter and the adapters as they were when it
began: these adapters are called, with its own sequence number, which is in its one `MessageSent`
and returned. The frames of the calls nest, and each call of an adapter and each `MessageSent`
belongs to one of them. -/
theorem sequence_numbers (E : Env) (txs : List Tx) :
    let t := (execAll E .init txs).1
    let log := (execAll E .init txs).2
    (∀ I, ((returned I log).map BitVec.toNat).Perm (List.range (t.messageSequence I).toNat)) ∧
    Nested label Sending.adapterCalls none log ∧
    (∀ c ∈ log, ∀ msg args mem, c.input = .call msg (.sendMessage args mem) →
      ∃ frame, c.output.ret = .sending frame ∧ frame.args = args ∧
        frame.sender = fromAddress msg.sender ∧ Sends E log c frame) ∧
    (∀ c ∈ log, ∀ frame, c.output.ret = .sending frame → Sends E log c frame) ∧
    (∀ call ∈ adapterCalls log, ∃ c ∈ log, ∃ frame, c.output.ret = .sending frame ∧
      call.key = frame.key) ∧
    ∀ event ∈ events log, ∀ key, event.sentKey = some key → ∃ c ∈ log, ∃ frame,
      c.output.ret = .sending frame ∧ key = frame.key := by
  intro t log
  have h : (machine E).Path .init log t := execAll_path E .init txs
  have hnested : Nested label Sending.adapterCalls none log := execAll_nested E .init txs
  refine ⟨fun I => ?_, hnested, fun c hc msg args mem hinput => ?_,
    fun c hc frame => sends_of_path h hnested hc, fun call hcall => ?_,
    fun event hevent key hkey => ?_⟩
  · rw [returned_eq h, ← openedBy_of_path h]
    exact (hnested.closed_perm.filterMap _).map _
  · obtain ⟨frame, hret, hargs, hopens⟩ := exists_frame_of_sendMessage (h.valid hc) hinput
    exact ⟨frame, hret, hargs, hopens.sender_eq, sends_of_path h hnested hc hret⟩
  · obtain ⟨⟨pre, op, r, post⟩, hc, hop⟩ := List.mem_filterMap.1 hcall
    cases op with
    | forward adapter frame payload =>
      obtain rfl := Option.some.inj hop
      rcases hnested.mem_of_performs hc rfl with hopened | ⟨ks, hframe⟩
      · obtain ⟨d, hd, hret⟩ := (mem_opened h).1 hopened
        exact ⟨d, hd, frame, hret, rfl⟩
      · cases hframe
    | _ => cases hop
  · have hmem : event ∈ (events log).filter (fun event => event.sentKey = some key) :=
      List.mem_filter.2 ⟨hevent, by simpa using hkey⟩
    rw [filter_events h, List.mem_map] at hmem
    obtain ⟨frame, hframe, -⟩ := hmem
    obtain ⟨hclosed, hkey⟩ := List.mem_filter.1 hframe
    obtain ⟨c, hc, hret⟩ := (mem_opened h).1 (hnested.closed_perm.mem_iff.1 hclosed)
    exact ⟨c, hc, frame, hret, (of_decide_eq_true hkey).symm⟩

/-- The integrator at address 10 sends through the adapter 12, which sends through itself while it
is called, and disables itself in between. -/
def reentrantTxs : List Tx :=
  [.mk ⟨10#160, 0⟩ (.register 12#160) [],
    .mk ⟨12#160, 0⟩ (.configure 10#160 (.addAdapter 12#160)) [],
    .mk ⟨12#160, 0⟩ (.configure 10#160 (.enableSendAdapter 4#16 12#160)) [],
    .mk ⟨10#160, 0⟩ (.sendMessage ⟨4#16, 77#256, 5#256, 10#160, []⟩ fun _ => 0#8)
      [.mk (some 0)
        [.mk ⟨10#160, 0⟩ (.sendMessage ⟨4#16, 77#256, 6#256, 10#160, []⟩ fun _ => 0#8)
            [.mk (some 0) [.mk ⟨12#160, 0⟩ (.configure 10#160 (.disableSendAdapter 4#16 12#160)) []]
              true],
          .mk ⟨10#160, 0⟩ (.sendMessage ⟨4#16, 77#256, 7#256, 10#160, []⟩ fun _ => 0#8) []]
        true]]

/-- The payload hash, if the operation is a call of `sendMessage` by the integrator. -/
def Op.sentPayload (I : Address) : Op → Option Bytes32
  | .call msg (.sendMessage args _) => if msg.sender = I then some args.payloadHash else none
  | _ => none

theorem Op.sentPayload_eq_some {I : Address} {op : Op} {payloadHash : Bytes32}
    (h : op.sentPayload I = some payloadHash) : ∃ msg args mem,
      op = .call msg (.sendMessage args mem) ∧ msg.sender = I ∧ args.payloadHash = payloadHash := by
  unfold Op.sentPayload at h
  split at h
  · next msg args mem =>
    obtain ⟨hsender, hpayload⟩ := Option.ite_none_right_eq_some.1 h
    exact ⟨msg, args, mem, rfl, hsender, Option.some.inj hpayload⟩
  · cases h

/-- The first message is sent with 0 and the second, which is sent while the adapter is called for
the first, with 1. The third reverts. -/
theorem sequence_numbers_sample :
    let log := (execAll ⟨id, 2#16⟩ .init reentrantTxs).2
    ((returned 10#160 log).map BitVec.toNat).Perm [0, 1] ∧
      ∀ payloadHash ∈ [5#256, 6#256], ∃ c ∈ log, ∃ frame, c.output.ret = .sending frame ∧
        frame.args.payloadHash = payloadHash ∧ frame.sender = fromAddress 10#160 ∧
        Sends ⟨id, 2#16⟩ log c frame := by
  have hcounter : ((execAll ⟨id, 2#16⟩ .init reentrantTxs).1.messageSequence 10#160).toNat = 2 := by
    decide +kernel
  have hcommitted : ((execAll ⟨id, 2#16⟩ .init reentrantTxs).2.filterMap fun c =>
      c.input.sentPayload 10#160) = [5#256, 6#256] := by
    decide +kernel
  obtain ⟨hreturned, -, hcalls, -⟩ := sequence_numbers ⟨id, 2#16⟩ reentrantTxs
  generalize execAll ⟨id, 2#16⟩ .init reentrantTxs = run at hcounter hcommitted hreturned hcalls ⊢
  constructor
  · have hperm := hreturned 10#160
    rw [hcounter] at hperm
    exact hperm
  · intro payloadHash hmem
    rw [← hcommitted] at hmem
    obtain ⟨c, hc, hsent⟩ := List.mem_filterMap.1 hmem
    obtain ⟨msg, args, mem, hinput, hI, rfl⟩ := Op.sentPayload_eq_some hsent
    obtain ⟨frame, hret, rfl, hsender, hsends⟩ := hcalls c hc msg args mem hinput
    exact ⟨c, hc, frame, hret, rfl, hI ▸ hsender, hsends⟩

end GmpRouter.Evm
