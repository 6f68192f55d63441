import GmpRouter.Evm.InstructionCodec
import GmpRouter.Evm.SendArray
import GmpRouter.Evm.Sequences
import Mathlib.Algebra.GroupWithZero.Nat

/-!
# Routing the instructions to the adapters

`_sendMessage` looks up the instruction for an adapter with the index that the send array holds
beside its address, in an array that was sized by the list of registered adapters. The lookup never
fails and finds the adapter's own instruction, because the send array keeps the indices of the
registry (`SendInv`, `RegistryInv`) and the parsed array holds the last instruction of every index
(`getElem?_slots`). So the external calls of a successful `sendMessage` are known: for each enabled
adapter the quote and the message, both with its payload (`externalCalls_of_exec`), and with
adapters that quote and accept it fails for its own reasons only (`exec_sendMessage_iff`).
-/

namespace GmpRouter.Evm

open AdapterRegistry AdapterInstructions Endpoint Frames

variable {E : Env} {s t : State} {log log₀ : Log} {msg : Msg} {args : SendMessageArgs}
  {mem : ℕ → Byte} {replies : List Reply} {I A : Address} {chain : ChainId}

/-! ## External calls -/

/-- A call that leaves the contract. -/
inductive ExternalCall
  | quoteDeliveryPrice (adapter : Address) (dstChain : ChainId) (instructions : List Byte)
  | sendMessage (call : AdapterCall)
  deriving DecidableEq

def ExternalCall.adapter : ExternalCall → Address
  | .quoteDeliveryPrice adapter _ _ => adapter
  | .sendMessage call => call.adapter

/-- The two calls of an iteration of the loop. The adapter is asked for its price with the payload
that it is then sent. -/
def AdapterCall.iteration (call : AdapterCall) : List ExternalCall :=
  [.quoteDeliveryPrice call.adapter call.dstChain call.instructions, .sendMessage call]

/-- The external calls of a step, when it belongs to the call of `sendMessage` with the key. -/
def Op.externalCalls (key : UniversalAddress × BitVec 64) : Op → List ExternalCall
  | .forward adapter frame payload _ =>
    if frame.key = key then (frame.adapterCall adapter payload).iteration else []
  | _ => []

/-- The external calls of the call of `sendMessage` with the key. -/
def externalCalls (key : UniversalAddress × BitVec 64) (log : Log) : List ExternalCall :=
  log.flatMap fun c => c.input.externalCalls key

theorem externalCalls_eq (key : UniversalAddress × BitVec 64) (log : Log) :
    externalCalls key log = (performed label Sending.key key log).flatMap
      AdapterCall.iteration := by
  rw [externalCalls, performed, List.filterMap_eq_flatMap_toList, List.flatMap_assoc]
  refine List.flatMap_congr fun c _ => ?_
  obtain ⟨pre, op, r, post⟩ := c
  cases op with
  | call msg call =>
    unfold label
    cases r.ret <;> rfl
  | forward adapter frame payload =>
    by_cases hkey : frame.key = key
    · simp [Op.externalCalls, label, Label.performed, hkey]
    · simp [Op.externalCalls, label, Label.performed, hkey]
  | sent => rfl

/-! ## The frame of a call -/

/-- The frame that `sendMessage` opens, with the parsed instructions. -/
def sendingFrame (s : State) (I : Address) (args : SendMessageArgs)
    (adapterInst : List Instruction) : Sending :=
  ⟨args, fromAddress I, s.messageSequence I, adapterInst,
    s.perChainSendAdapterArray I args.dstChain⟩

/-- The state in which the loop of `sendMessage` begins. -/
def State.opened (s : State) (msg : Msg) : State :=
  { s.credit msg.value with
    messageSequence :=
      Function.update s.messageSequence msg.sender (s.messageSequence msg.sender + 1#64) }

theorem dispatch_sendMessage_eq_ok {r : Receipt} :
    dispatch E s msg (.sendMessage args mem) = .ok (t, r) ↔
      ∃ adapterInst, parseInstructions args.adapterInstructions mem
          (s.registeredAdapters msg.sender).length = .ok adapterInst ∧
        args.dstChain ≠ 0#16 ∧ s.perChainSendAdapterArray msg.sender args.dstChain ≠ [] ∧
        s.messageSequence msg.sender ≠ BitVec.allOnes 64 ∧ t = s.opened msg ∧
        r = ⟨.sending (sendingFrame s msg.sender args adapterInst), []⟩ := by
  rw [dispatch_eq_ok]
  exact ⟨fun h => sendMessage_eq_ok.1 h.2, fun h => ⟨.inl rfl, sendMessage_eq_ok.2 h⟩⟩

/-- The commits of a call of `sendMessage`: the opening of its frame, its loop and its end. -/
theorem exec_sendMessage_eq_ok :
    exec E s (.mk msg (.sendMessage args mem) replies) = .ok (t, log) ↔
      ∃ adapterInst l, parseInstructions args.adapterInstructions mem
          (s.registeredAdapters msg.sender).length = .ok adapterInst ∧
        args.dstChain ≠ 0#16 ∧ s.perChainSendAdapterArray msg.sender args.dstChain ≠ [] ∧
        s.messageSequence msg.sender ≠ BitVec.allOnes 64 ∧
        let frame := sendingFrame s msg.sender args adapterInst
        sendLoop E frame (s.opened msg) frame.sendAdapters replies = .ok (t, l) ∧
          log = ⟨s, .call msg (.sendMessage args mem), ⟨.sending frame, []⟩, s.opened msg⟩ ::
            l ++ [⟨t, .sent frame, ⟨.sequence frame.sequence, [messageSent E frame]⟩, t⟩] := by
  rw [exec, bind_eq_ok]
  constructor
  · rintro ⟨⟨_, _⟩, hopen, h⟩
    obtain ⟨inst, hinst, hchain, hne, hmax, rfl, rfl⟩ := dispatch_sendMessage_eq_ok.1 hopen
    obtain ⟨⟨u, l⟩, hloop, h⟩ := bind_eq_ok.1 h
    obtain ⟨⟨v, r'⟩, hsent, h⟩ := bind_eq_ok.1 h
    obtain ⟨rfl, rfl⟩ := Prod.mk.inj (pure_eq_ok.1 h)
    obtain ⟨rfl, rfl⟩ := Prod.mk.inj (pure_eq_ok.1 hsent)
    exact ⟨inst, l, hinst, hchain, hne, hmax, hloop, rfl⟩
  · rintro ⟨inst, l, hinst, hchain, hne, hmax, hloop, rfl⟩
    refine ⟨_, dispatch_sendMessage_eq_ok.2 ⟨inst, hinst, hchain, hne, hmax, rfl, rfl⟩, ?_⟩
    refine bind_eq_ok.2 ⟨_, hloop, bind_eq_ok.2 ⟨_, rfl, rfl⟩⟩

/-! ## The calls of a frame -/

/-- The adapters of the send array are at their indices in the list of registered adapters. -/
theorem getElem?_of_mem_sendArray (hsend : SendInv s.toRegistry) (hreg : RegistryInv s)
    {info : PerSendAdapterInfo} (hinfo : info ∈ s.perChainSendAdapterArray I chain) :
    (s.registeredAdapters I)[info.index.toNat]? = some info.addr := by
  have hinfos := hsend.adapterInfos_eq I chain info hinfo
  exact (hreg.wellFormed.lookup I info.addr info.index.toNat).2 ⟨by rw [hinfos], by rw [hinfos]⟩

/-- The calls of `IAdapter.sendMessage` for the frame of a successful `sendMessage` are those that
the frame plans. -/
theorem performed_of_exec (h₀ : (machine E).Path .init log₀ s)
    (h : exec E s (.mk msg (.sendMessage args mem) replies) = .ok (t, log)) :
    ∃ adapterInst, parseInstructions args.adapterInstructions mem
        (s.registeredAdapters msg.sender).length = .ok adapterInst ∧
      performed label Sending.key (fromAddress msg.sender, s.messageSequence msg.sender) log =
        (sendingFrame s msg.sender args adapterInst).adapterCalls := by
  obtain ⟨inst, l, hinst, -, -, -, -, hlog⟩ := exec_sendMessage_eq_ok.1 h
  have hnested := exec_nested E _ h
  have hpath : (machine E).Path .init (log₀ ++ log) t := h₀.append (exec_trace E _ h).path
  have hopened : sendingFrame s msg.sender args inst ∈ opened label log := by
    rw [hlog]
    exact List.mem_cons_self ..
  have hnodup := nodup_keys_of_path hpath
  rw [opened_append, List.map_append] at hnodup
  exact ⟨inst, hinst, (hnested.performed_eq hnodup.of_append_right nofun).1 _ hopened⟩

/-- **A successful `sendMessage` calls the adapters that it read when it began.** -/
theorem externalCalls_of_exec (h₀ : (machine E).Path .init log₀ s)
    (h : exec E s (.mk msg (.sendMessage args mem) replies) = .ok (t, log)) :
    ∃ adapterInst, parseInstructions args.adapterInstructions mem
        (s.registeredAdapters msg.sender).length = .ok adapterInst ∧
      externalCalls (fromAddress msg.sender, s.messageSequence msg.sender) log =
        (sendingFrame s msg.sender args adapterInst).adapterCalls.flatMap
          AdapterCall.iteration := by
  obtain ⟨inst, hinst, hcalls⟩ := performed_of_exec h₀ h
  refine ⟨inst, hinst, ?_⟩
  rw [externalCalls_eq, hcalls]

/-- The payload for the adapter of an entry is that of the last instruction with its index. -/
theorem callOf_sendingFrame {l : List Instruction} {info : PerSendAdapterInfo}
    (hlt : info.index.toNat < (s.registeredAdapters I).length) :
    (sendingFrame s I args (slots (s.registeredAdapters I).length l)).callOf info =
      ⟨info.addr, fromAddress I, s.messageSequence I, args.dstChain, args.dstAddr,
        args.payloadHash, args.refundAddress, (lastAt l info.index.toNat).payload⟩ := by
  have hslot : (slots (s.registeredAdapters I).length l).getD info.index.toNat {} =
      lastAt l info.index.toNat := by
    rw [List.getD_eq_getElem?_getD, getElem?_slots hlt, Option.getD_some]
  rw [Sending.callOf, Sending.adapterCall, sendingFrame, hslot]

theorem filter_iteration (call : AdapterCall) :
    call.iteration.filter (fun c => c.adapter = A) =
      if call.adapter = A then call.iteration else [] := by
  by_cases h : call.adapter = A
  · simp [AdapterCall.iteration, ExternalCall.adapter, h]
  · simp [AdapterCall.iteration, ExternalCall.adapter, h]

/-- Among calls to distinct adapters, those to one adapter are one iteration, or none. -/
theorem filter_flatMap_iteration {infos : List PerSendAdapterInfo}
    {f : PerSendAdapterInfo → AdapterCall} (hf : ∀ info, (f info).adapter = info.addr)
    (hnodup : (infos.map PerSendAdapterInfo.addr).Nodup) :
    (A ∉ infos.map PerSendAdapterInfo.addr →
      ((infos.map f).flatMap AdapterCall.iteration).filter (fun c => c.adapter = A) = []) ∧
    ∀ info ∈ infos, info.addr = A →
      ((infos.map f).flatMap AdapterCall.iteration).filter (fun c => c.adapter = A) =
        (f info).iteration := by
  induction infos with
  | nil => exact ⟨fun _ => rfl, nofun⟩
  | cons first infos ih =>
    rw [List.map_cons, List.nodup_cons] at hnodup
    obtain ⟨hnone, hone⟩ := ih hnodup.2
    simp only [List.map_cons, List.flatMap_cons, List.filter_append, filter_iteration, hf]
    refine ⟨fun hA => ?_, fun info hinfo haddr => ?_⟩
    · rw [List.mem_cons, not_or] at hA
      rw [if_neg (Ne.symm hA.1), hnone hA.2, List.append_nil]
    · rcases List.mem_cons.1 hinfo with rfl | hinfo
      · rw [if_pos haddr, hnone (haddr ▸ hnodup.1), List.append_nil]
      · have hne : first.addr ≠ A := fun h =>
          hnodup.1 (h ▸ haddr ▸ List.mem_map_of_mem hinfo)
        rw [if_neg hne, hone info hinfo haddr, List.nil_append]

/-! ## Well-behaved adapters -/

def Reply.deliveryPrice : Reply → Option ℕ
  | .mk deliveryPrice _ _ => deliveryPrice

def Reply.calls : Reply → List Tx
  | .mk _ calls _ => calls

def Reply.returns : Reply → Bool
  | .mk _ _ returns => returns

/-- The adapter quotes a price and accepts the message. -/
structure Reply.WellBehaved (reply : Reply) : Prop where
  quotes : reply.deliveryPrice.isSome
  returns : reply.returns

/-- The price, of an adapter that quotes one. -/
def Reply.price (reply : Reply) : ℕ := reply.deliveryPrice.getD 0

/-- The balance pays the adapters, one after the other; what they call in between may change it. -/
def Sufficient (E : Env) : State → List Reply → Prop
  | _, [] => True
  | s, reply :: replies => reply.price ≤ s.balance ∧
    Sufficient E (execAll E { s with balance := s.balance - reply.price } reply.calls).1 replies

/-- When no adapter calls back, the balance pays the sum of the prices. -/
theorem sufficient_iff (hcalls : ∀ reply ∈ replies, reply.calls = []) :
    Sufficient E s replies ↔ (replies.map Reply.price).sum ≤ s.balance := by
  induction replies generalizing s with
  | nil => simp [Sufficient]
  | cons reply replies ih =>
    have hrest := fun s => ih (s := s) fun reply hreply =>
      hcalls reply (List.mem_cons_of_mem _ hreply)
    rw [Sufficient, hcalls reply (List.mem_cons_self ..), execAll, hrest, List.map_cons,
      List.sum_cons]
    dsimp only
    omega

/-- An iteration of the loop: the lookup, the quote, the payment and the return of the adapter. -/
theorem exists_sendLoop_cons {frame : Sending} {info : PerSendAdapterInfo}
    {infos : List PerSendAdapterInfo} {reply : Reply} :
    (∃ t log, sendLoop E frame s (info :: infos) (reply :: replies) = .ok (t, log)) ↔
      info.index.toNat < frame.adapterInst.length ∧ reply.WellBehaved ∧ reply.price ≤ s.balance ∧
        ∃ t log, sendLoop E frame
          (execAll E { s with balance := s.balance - reply.price } reply.calls).1 infos replies =
            .ok (t, log) := by
  obtain ⟨price, calls, returns⟩ := reply
  constructor
  · rintro ⟨t, log, h⟩
    obtain ⟨inst, deliveryPrice, u, r, log', hinst, rfl, hforward, rfl, hloop, -⟩ :=
      sendLoop_cons_eq_ok.1 h
    obtain ⟨hle, hpaid⟩ := require_bind_eq_ok.1 hforward
    obtain ⟨rfl, rfl⟩ := Prod.mk.inj (pure_eq_ok.1 hpaid)
    obtain ⟨hlt, -⟩ := List.getElem?_eq_some_iff.1 hinst
    exact ⟨hlt, ⟨rfl, rfl⟩, hle, t, log', hloop⟩
  · rintro ⟨hlt, ⟨hquotes, hreturns⟩, hle, v, log', hloop⟩
    obtain ⟨deliveryPrice, rfl⟩ := Option.isSome_iff_exists.1 hquotes
    exact ⟨v, _, sendLoop_cons_eq_ok.2 ⟨_, deliveryPrice, _, _, log',
      List.getElem?_eq_getElem hlt, rfl, require_bind_eq_ok.2 ⟨hle, rfl⟩, hreturns, hloop, rfl⟩⟩

/-- With well-behaved adapters, and indices within the array, the loop fails only for lack of
value. -/
theorem sendLoop_iff {frame : Sending} {infos : List PerSendAdapterInfo}
    (hinst : ∀ info ∈ infos, info.index.toNat < frame.adapterInst.length)
    (hreplies : ∀ reply ∈ replies, reply.WellBehaved) (hlength : infos.length ≤ replies.length) :
    (∃ t log, sendLoop E frame s infos replies = .ok (t, log)) ↔
      Sufficient E s (replies.take infos.length) := by
  induction infos generalizing s replies with
  | nil => exact iff_of_true ⟨s, [], sendLoop_nil_eq_ok.2 ⟨rfl, rfl⟩⟩ trivial
  | cons info infos ih =>
    obtain ⟨reply, replies, rfl⟩ :=
      List.exists_cons_of_length_pos (Nat.lt_of_lt_of_le (Nat.succ_pos _) hlength)
    have hlt := hinst info (List.mem_cons_self ..)
    have hreply := hreplies reply (List.mem_cons_self ..)
    rw [exists_sendLoop_cons, List.length_cons, List.take_succ_cons, Sufficient,
      ih (fun i hi => hinst i (List.mem_cons_of_mem _ hi))
        (fun r hr => hreplies r (List.mem_cons_of_mem _ hr)) (Nat.le_of_succ_le_succ hlength)]
    simp only [hlt, hreply, true_and]

theorem sendArray_ne_nil_iff : s.perChainSendAdapterArray I chain ≠ [] ↔
    ∃ A, SendEnabled s.toRegistry I chain A := by
  constructor
  · intro h
    obtain ⟨info, hinfo⟩ := List.exists_mem_of_ne_nil _ h
    exact ⟨info.addr, List.mem_map_of_mem hinfo⟩
  · rintro ⟨A, hA⟩ hnil
    rw [SendEnabled, hnil] at hA
    exact List.not_mem_nil hA

/-- No lookup of the loop is out of bounds. -/
theorem index_lt_of_mem_sendArray (hsend : SendInv s.toRegistry) (hreg : RegistryInv s)
    {info : PerSendAdapterInfo} (hinfo : info ∈ s.perChainSendAdapterArray I chain) :
    info.index.toNat < (s.registeredAdapters I).length :=
  (List.getElem?_eq_some_iff.1 (getElem?_of_mem_sendArray hsend hreg hinfo)).1

/-- With well-behaved adapters `sendMessage` succeeds when the instructions are well formed for the
registered adapters, the chain is not zero, an adapter is enabled, the sequence number is not the
last one and the value suffices. -/
theorem exec_sendMessage_iff (hsend : SendInv s.toRegistry) (hreg : RegistryInv s)
    (hreplies : ∀ reply ∈ replies, reply.WellBehaved)
    (hlength : (s.perChainSendAdapterArray msg.sender args.dstChain).length ≤ replies.length) :
    (∃ t log, exec E s (.mk msg (.sendMessage args mem) replies) = .ok (t, log)) ↔
      (∃ l, Denotes args.adapterInstructions (s.registeredAdapters msg.sender).length l) ∧
        args.dstChain ≠ 0#16 ∧ (∃ A, SendEnabled s.toRegistry msg.sender args.dstChain A) ∧
        s.messageSequence msg.sender ≠ BitVec.allOnes 64 ∧
        Sufficient E (s.opened msg)
          (replies.take (s.perChainSendAdapterArray msg.sender args.dstChain).length) := by
  have hloop : ∀ l, (∃ t log, sendLoop E (sendingFrame s msg.sender args
        (slots (s.registeredAdapters msg.sender).length l)) (s.opened msg)
        (s.perChainSendAdapterArray msg.sender args.dstChain) replies = .ok (t, log)) ↔
      Sufficient E (s.opened msg)
        (replies.take (s.perChainSendAdapterArray msg.sender args.dstChain).length) := by
    refine fun l => sendLoop_iff (fun info hinfo => ?_) hreplies hlength
    rw [sendingFrame, length_slots]
    exact index_lt_of_mem_sendArray hsend hreg hinfo
  rw [← sendArray_ne_nil_iff]
  constructor
  · rintro ⟨t, log, h⟩
    obtain ⟨inst, l, hinst, hchain, hne, hmax, hsend, -⟩ := exec_sendMessage_eq_ok.1 h
    obtain ⟨instructions, hdenotes, rfl⟩ := parseInstructions_eq_ok_iff.1 hinst
    exact ⟨⟨_, hdenotes⟩, hchain, hne, hmax, (hloop _).1 ⟨t, l, hsend⟩⟩
  · rintro ⟨⟨instructions, hdenotes⟩, hchain, hne, hmax, hsufficient⟩
    obtain ⟨t, l, hsend⟩ := (hloop instructions).2 hsufficient
    exact ⟨t, _, exec_sendMessage_eq_ok.2
      ⟨_, l, parseInstructions_eq_ok_iff.2 ⟨_, hdenotes, rfl⟩, hchain, hne, hmax, hsend, rfl⟩⟩

/-! ## The main result -/

/-- **Every instruction reaches its adapter.** In every state reached, for every caller and
arguments:

* a successful `sendMessage` quotes and calls each adapter that is enabled for the chain once, and
  calls no other address; the message is the same for all, and the adapter registered at index `k`
  is quoted and sent the payload of the last instruction with index `k`, or none;
* no lookup of an instruction is out of bounds;
* with adapters that quote a price and accept the message it succeeds exactly when the instructions
  are well formed for the registered adapters, the chain is not zero, some adapter is enabled, the
  sequence is not exhausted and the value is sufficient; when they do not call back, this is that
  the prices do not exceed the balance with the value of the call. -/
theorem send_routes (E : Env) {log₀ : Log} (h₀ : (machine E).Path .init log₀ s) (msg : Msg)
    (args : SendMessageArgs) (mem : ℕ → Byte) (replies : List Reply) :
    let I := msg.sender
    let sequence := s.messageSequence I
    let registered := s.registeredAdapters I
    let enabled := (s.perChainSendAdapterArray I args.dstChain).length
    (∀ t log, exec E s (.mk msg (.sendMessage args mem) replies) = .ok (t, log) →
      ∃ l, Denotes args.adapterInstructions registered.length l ∧
        let calls := externalCalls (fromAddress I, sequence) log
        (∀ A, ¬ SendEnabled s.toRegistry I args.dstChain A →
          calls.filter (fun call => call.adapter = A) = []) ∧
        (∀ A, SendEnabled s.toRegistry I args.dstChain A → ∃ k : ℕ, registered[k]? = some A) ∧
        ∀ A, SendEnabled s.toRegistry I args.dstChain A → ∀ k : ℕ, registered[k]? = some A →
          calls.filter (fun call => call.adapter = A) =
            [.quoteDeliveryPrice A args.dstChain (lastAt l k).payload,
              .sendMessage ⟨A, fromAddress I, sequence, args.dstChain, args.dstAddr,
                args.payloadHash, args.refundAddress, (lastAt l k).payload⟩]) ∧
    (∀ t frame, dispatch E s msg (.sendMessage args mem) = .ok (t, ⟨.sending frame, []⟩) →
      ∀ info ∈ frame.sendAdapters, info.index.toNat < frame.adapterInst.length) ∧
    ((∀ reply ∈ replies, reply.WellBehaved) → enabled ≤ replies.length →
      ((∃ t log, exec E s (.mk msg (.sendMessage args mem) replies) = .ok (t, log)) ↔
        (∃ l, Denotes args.adapterInstructions registered.length l) ∧ args.dstChain ≠ 0#16 ∧
          (∃ A, SendEnabled s.toRegistry I args.dstChain A) ∧ sequence ≠ BitVec.allOnes 64 ∧
          Sufficient E (s.opened msg) (replies.take enabled))) ∧
    ((∀ reply ∈ replies, reply.calls = []) →
      (Sufficient E (s.opened msg) (replies.take enabled) ↔
        ((replies.take enabled).map Reply.price).sum ≤ s.balance + msg.value)) := by
  have hsend := h₀.invariant (SendInv.invariant E) .init
  have hreg := h₀.invariant (RegistryInv.invariant E) .init
  refine ⟨fun t log h => ?_, fun t frame h info hinfo => ?_, exec_sendMessage_iff hsend hreg,
    fun hcalls => sufficient_iff fun reply hreply => hcalls reply (List.mem_of_mem_take hreply)⟩
  · obtain ⟨inst, hinst, hexternal⟩ := externalCalls_of_exec h₀ h
    obtain ⟨l, hdenotes, rfl⟩ := parseInstructions_eq_ok_iff.1 hinst
    let frame := sendingFrame s msg.sender args (slots (s.registeredAdapters msg.sender).length l)
    have hcalls := fun A => filter_flatMap_iteration (A := A) (f := frame.callOf) (fun _ => rfl)
      (hsend.nodup msg.sender args.dstChain)
    refine ⟨l, hdenotes, fun A hA => ?_, fun A hA => ?_, fun A hA k hk => ?_⟩
    · rw [hexternal]
      exact (hcalls A).1 hA
    · obtain ⟨info, hinfo, rfl⟩ := List.mem_map.1 hA
      exact ⟨_, getElem?_of_mem_sendArray hsend hreg hinfo⟩
    · obtain ⟨info, hinfo, rfl⟩ := List.mem_map.1 hA
      have hindex := getElem?_of_mem_sendArray hsend hreg hinfo
      obtain rfl : info.index.toNat = k :=
        (List.getElem?_inj (List.getElem?_eq_some_iff.1 hindex).1 (hreg.nodup _)).1
          (hindex.trans hk.symm)
      rw [hexternal]
      refine ((hcalls info.addr).2 info hinfo rfl).trans ?_
      rw [callOf_sendingFrame (index_lt_of_mem_sendArray hsend hreg hinfo)]
      rfl
  · obtain ⟨inst, hinst, -, -, -, -, heq⟩ := dispatch_sendMessage_eq_ok.1 h
    obtain ⟨l, -, rfl⟩ := parseInstructions_eq_ok_iff.1 hinst
    obtain rfl := Return.sending.inj (congrArg Receipt.ret heq)
    rw [sendingFrame, length_slots]
    exact index_lt_of_mem_sendArray hsend hreg hinfo

/-- Chain 1, with a payload for the adapter at index 2. -/
def routedArgs : SendMessageArgs := ⟨1#16, 77#256, 5#256, 10#160, [1, 2, 0, 1, 171]⟩

theorem send_routes_sample :
    let s := (execAll ⟨id, 2#16⟩ .init sendTxs).1
    ∃ t log, exec ⟨id, 2#16⟩ s (.mk ⟨10#160, 11⟩ (.sendMessage routedArgs fun _ => 0#8)
        [.mk (some 5) [] true, .mk (some 6) [] true]) = .ok (t, log) ∧
      (externalCalls (fromAddress 10#160, s.messageSequence 10#160) log).filter
          (fun call => call.adapter = 14#160) =
        [.quoteDeliveryPrice 14#160 1#16 [171],
          .sendMessage ⟨14#160, fromAddress 10#160, s.messageSequence 10#160, 1#16, 77#256, 5#256,
            10#160, [171]⟩] := by
  intro s
  have hpath : (machine ⟨id, 2#16⟩).Path .init _ s := execAll_path ⟨id, 2#16⟩ State.init sendTxs
  have hlength : 2 < (s.registeredAdapters 10#160).length := by decide +kernel
  have hregistered : (s.registeredAdapters 10#160)[2]? = some 14#160 := by decide +kernel
  have henabled : SendEnabled s.toRegistry 10#160 1#16 14#160 :=
    isSendAdapterEnabledForChain_iff.1 (by decide +kernel)
  obtain ⟨⟨t, log⟩, hexec⟩ := isOk_iff.1 (show (exec ⟨id, 2#16⟩ s
    (.mk ⟨10#160, 11⟩ (.sendMessage routedArgs fun _ => 0#8)
      [.mk (some 5) [] true, .mk (some 6) [] true])).isOk by decide +kernel)
  clear_value s
  obtain ⟨l, hl, -, -, hcalls⟩ := (send_routes ⟨id, 2#16⟩ hpath ⟨10#160, 11⟩ routedArgs
    (fun _ => 0#8) [.mk (some 5) [] true, .mk (some 6) [] true]).1 t log hexec
  have hdenotes : Denotes routedArgs.adapterInstructions (s.registeredAdapters 10#160).length
      [⟨2#8, [171]⟩] :=
    .of_encode rfl fun i hi => by rwa [List.mem_singleton.1 hi]
  obtain rfl := hl.unique hdenotes
  exact ⟨t, log, hexec, hcalls 14#160 henabled 2 hregistered⟩

end GmpRouter.Evm
