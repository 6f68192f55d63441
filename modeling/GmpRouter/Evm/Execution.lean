import GmpRouter.Evm.Endpoint
import GmpRouter.Foundations.Machine

/-!
# Executions of the EVM endpoint

A transaction `Tx` calls the endpoint. While `sendMessage` runs its loop it calls the send adapters,
which are contracts of the integrator's choice: they quote a price, receive the message with that
value, and may call back into the endpoint, from any address, before they return or revert. A
`Reply` is what one adapter does, so a transaction is a tree. `exec` runs it with the semantics of
the EVM: a call that fails is rolled back together with everything it called.

The atomic parts of an execution are the steps of the machine `machine E`: a call of a function (for
`sendMessage`, the part before its loop), a value transfer to an adapter, and the end of
`sendMessage`. The log of an execution lists the steps that were not rolled back, in order, and is a
path of the machine (`execAll_path`). A property of all paths hence holds whatever the adapters do.
-/

namespace GmpRouter.Evm

/-! ## Calls -/

/-- The external functions that change the storage. The memory that the parser of the adapter
instructions sees past their end is an argument of `sendMessage`. -/
inductive Call
  | register (initialAdmin : Address)
  | updateAdmin (integrator newAdmin : Address)
  | transferAdmin (integrator newAdmin : Address)
  | claimAdmin (integrator : Address)
  | discardAdmin (integrator : Address)
  /-- `addAdapter`, `enableSendAdapter`, `enableRecvAdapter`, `disableSendAdapter` and
  `disableRecvAdapter`. -/
  | configure (integrator : Address) (change : AdapterRegistry.Change)
  | sendMessage (args : SendMessageArgs) (mem : ℕ → Byte)
  | attestMessage (m : Message)
  | recvMessage (args : RecvMessageArgs)
  | execMessage (args : RecvMessageArgs)

/-- The functions that accept value. -/
def Call.payable : Call → Bool
  | .sendMessage .. | .recvMessage .. => true
  | _ => false

/-- The function that a call runs, once its value was accepted. -/
def Call.body (E : Env) (s : State) (sender : Address) : Call → Except Error (State × Receipt)
  | .register initialAdmin => Endpoint.register s sender initialAdmin
  | .updateAdmin integrator newAdmin => Endpoint.updateAdmin s sender integrator newAdmin
  | .transferAdmin integrator newAdmin => Endpoint.transferAdmin s sender integrator newAdmin
  | .claimAdmin integrator => Endpoint.claimAdmin s sender integrator
  | .discardAdmin integrator => Endpoint.discardAdmin s sender integrator
  | .configure integrator (.addAdapter adapter) => Endpoint.addAdapter s sender integrator adapter
  | .configure integrator (.enableSendAdapter chain adapter) =>
    Endpoint.enableSendAdapter s sender integrator chain adapter
  | .configure integrator (.enableRecvAdapter chain adapter) =>
    Endpoint.enableRecvAdapter s sender integrator chain adapter
  | .configure integrator (.disableSendAdapter chain adapter) =>
    Endpoint.disableSendAdapter s sender integrator chain adapter
  | .configure integrator (.disableRecvAdapter chain adapter) =>
    Endpoint.disableRecvAdapter s sender integrator chain adapter
  | .sendMessage args mem => Endpoint.sendMessage s sender args mem
  | .attestMessage m => Endpoint.attestMessage E s sender m
  | .recvMessage args => Endpoint.recvMessage E s sender args
  | .execMessage args => Endpoint.execMessage E s sender args

/-- The five functions of the registry share their modifier. -/
theorem body_configure (E : Env) (s : State) (sender integrator : Address)
    (change : AdapterRegistry.Change) :
    (Call.configure integrator change).body E s sender =
      Endpoint.registryAsAdmin s sender integrator (change.run · integrator) := by
  cases change <;> rfl

/-- The state in which the body of a called function starts: its value has been received. -/
def State.credit (s : State) (value : ℕ) : State := { s with balance := s.balance + value }

/-- A call of a function. -/
def dispatch (E : Env) (s : State) (msg : Msg) (call : Call) : Except Error (State × Receipt) := do
  require (call.payable ∨ msg.value = 0) .nonPayable
  call.body E (s.credit msg.value) msg.sender

theorem dispatch_eq_ok {E : Env} {s s' : State} {msg : Msg} {call : Call} {r : Receipt} :
    dispatch E s msg call = .ok (s', r) ↔
      (call.payable ∨ msg.value = 0) ∧
        call.body E (s.credit msg.value) msg.sender = .ok (s', r) := by
  simp only [dispatch, require_bind_eq_ok]

/-! ## The machine of the atomic parts -/

/-- The atomic parts of an execution. -/
inductive Op
  | call (msg : Msg) (call : Call)
  /-- `IAdapter(adapter).sendMessage{value: deliveryPrice}`, with the data of the frame. -/
  | forward (adapter : Address) (frame : Sending) (payload : List Byte) (deliveryPrice : ℕ)
  /-- The end of `_sendMessage`. -/
  | sent (frame : Sending)

def step (E : Env) (s : State) : Op → Except Error (State × Receipt)
  | .call msg call => dispatch E s msg call
  | .forward _ _ _ deliveryPrice => do
    require (deliveryPrice ≤ s.balance) .insufficientBalance
    pure ({ s with balance := s.balance - deliveryPrice }, { events := [] })
  | .sent frame => pure (s, ⟨.sequence frame.sequence, [Endpoint.messageSent E frame]⟩)

def machine (E : Env) : Machine State Op Error Receipt := ⟨step E⟩

/-- The steps of an execution that were not rolled back. -/
abbrev Log := List (Commit State Op Receipt)

/-! ## Transactions -/

mutual

/-- A call of the endpoint, with what the adapters do that it calls. -/
inductive Tx
  | mk (msg : Msg) (call : Call) (replies : List Reply)

/-- What a send adapter does: the price it quotes (`none` when the quote reverts), the calls of the
endpoint that are made while it handles the message, and whether it returns. -/
inductive Reply
  | mk (deliveryPrice : Option ℕ) (calls : List Tx) (returns : Bool)

end

mutual

/-- Run a transaction. -/
def exec (E : Env) (s : State) : Tx → Except Error (State × Log)
  | .mk msg call replies => do
    let (t, r) ← dispatch E s msg call
    match r.ret with
    | .sending frame =>
      let (u, log) ← sendLoop E frame t frame.sendAdapters replies
      let (v, r') ← step E u (.sent frame)
      pure (v, ⟨s, .call msg call, r, t⟩ :: log ++ [⟨u, .sent frame, r', v⟩])
    | _ => pure (t, [⟨s, .call msg call, r, t⟩])

/-- The loop of `_sendMessage` over the send adapters. -/
def sendLoop (E : Env) (frame : Sending) (s : State) :
    List PerSendAdapterInfo → List Reply → Except Error (State × Log)
  | [], _ => pure (s, [])
  | _ :: _, [] => .error .adapterReverted
  | adapter :: sendAdapters, .mk price calls returns :: replies => do
    let inst ← orFail (frame.adapterInst[adapter.index.toNat]?) .panic
    let deliveryPrice ← orFail price .adapterReverted
    let op := .forward adapter.addr frame inst.payload deliveryPrice
    let (t, r) ← step E s op
    -- the calls that the adapter makes or causes, before it returns
    let (u, log) := execAll E t calls
    require returns .adapterReverted
    let (v, log') ← sendLoop E frame u sendAdapters replies
    pure (v, ⟨s, op, r, t⟩ :: log ++ log')

/-- Run transactions one after another; those that fail change nothing. -/
def execAll (E : Env) (s : State) : List Tx → State × Log
  | [] => (s, [])
  | tx :: txs =>
    match exec E s tx with
    | .ok (t, log) => ((execAll E t txs).1, log ++ (execAll E t txs).2)
    | .error _ => execAll E s txs

end

/-! ### Inversion -/

section Inversion

variable {E : Env} {s t : State} {log : Log} {frame : Sending} {replies : List Reply}

/-- A transaction that succeeds calls its function and, for `sendMessage`, runs its loop and
ends. -/
theorem exec_inv {msg : Msg} {call : Call} (h : exec E s (.mk msg call replies) = .ok (t, log)) :
    ∃ u r, dispatch E s msg call = .ok (u, r) ∧
      ((∃ frame l r', r.ret = .sending frame ∧
          sendLoop E frame u frame.sendAdapters replies = .ok (t, l) ∧
          step E t (.sent frame) = .ok (t, r') ∧
          log = ⟨s, .call msg call, r, u⟩ :: l ++ [⟨t, .sent frame, r', t⟩]) ∨
        (∀ frame, r.ret ≠ .sending frame) ∧ t = u ∧ log = [⟨s, .call msg call, r, u⟩]) := by
  rw [exec] at h
  obtain ⟨⟨u, r⟩, hcall, h⟩ := bind_eq_ok.1 h
  dsimp only at h
  refine ⟨u, r, hcall, ?_⟩
  split at h
  · next frame hframe =>
    obtain ⟨⟨v, l⟩, hloop, h⟩ := bind_eq_ok.1 h
    obtain ⟨⟨w, r'⟩, hsent, h⟩ := bind_eq_ok.1 h
    obtain ⟨rfl, rfl⟩ := Prod.mk.inj (pure_eq_ok.1 h)
    obtain ⟨rfl, -⟩ := Prod.mk.inj (pure_eq_ok.1 hsent)
    exact .inl ⟨frame, l, r', hframe, hloop, hsent, rfl⟩
  · next hleaf =>
    obtain ⟨rfl, rfl⟩ := Prod.mk.inj (pure_eq_ok.1 h)
    exact .inr ⟨hleaf, rfl, rfl⟩

theorem sendLoop_nil_eq_ok :
    sendLoop E frame s [] replies = .ok (t, log) ↔ t = s ∧ log = [] := by
  rw [sendLoop, pure_eq_ok, Prod.mk.injEq]

theorem sendLoop_ne_ok {adapter : PerSendAdapterInfo} {sendAdapters : List PerSendAdapterInfo} :
    sendLoop E frame s (adapter :: sendAdapters) [] ≠ .ok (t, log) := by
  rw [sendLoop]
  rintro ⟨⟩

/-- An iteration of the loop: the lookup, the quote, the payment, what the adapter calls, and the
other iterations. -/
theorem sendLoop_cons_eq_ok {adapter : PerSendAdapterInfo} {sendAdapters : List PerSendAdapterInfo}
    {price : Option ℕ} {calls : List Tx} {returns : Bool} :
    sendLoop E frame s (adapter :: sendAdapters) (.mk price calls returns :: replies) =
        .ok (t, log) ↔
      ∃ inst deliveryPrice u r log', frame.adapterInst[adapter.index.toNat]? = some inst ∧
        price = some deliveryPrice ∧
        step E s (.forward adapter.addr frame inst.payload deliveryPrice) = .ok (u, r) ∧
        returns = true ∧
        sendLoop E frame (execAll E u calls).1 sendAdapters replies = .ok (t, log') ∧
        log = ⟨s, .forward adapter.addr frame inst.payload deliveryPrice, r, u⟩ ::
          (execAll E u calls).2 ++ log' := by
  rw [sendLoop]
  constructor
  · intro h
    obtain ⟨inst, hinst, h⟩ := orFail_bind_eq_ok.1 h
    obtain ⟨deliveryPrice, hprice, h⟩ := orFail_bind_eq_ok.1 h
    obtain ⟨⟨u, r⟩, hforward, h⟩ := bind_eq_ok.1 h
    obtain ⟨hreturns, h⟩ := require_bind_eq_ok.1 h
    obtain ⟨⟨v, log'⟩, hloop, h⟩ := bind_eq_ok.1 h
    obtain ⟨rfl, rfl⟩ := Prod.mk.inj (pure_eq_ok.1 h)
    exact ⟨inst, deliveryPrice, u, r, log', hinst, hprice, hforward, hreturns, hloop, rfl⟩
  · rintro ⟨inst, deliveryPrice, u, r, log', hinst, hprice, hforward, hreturns, hloop, rfl⟩
    refine orFail_bind_eq_ok.2 ⟨inst, hinst, orFail_bind_eq_ok.2 ⟨deliveryPrice, hprice, ?_⟩⟩
    refine bind_eq_ok.2 ⟨_, hforward, require_bind_eq_ok.2 ⟨hreturns, ?_⟩⟩
    exact bind_eq_ok.2 ⟨_, hloop, rfl⟩

end Inversion

/-! ## Executions are paths -/

/-- The frame that a step after the beginning of `sendMessage` belongs to. -/
def Op.frame? : Op → Option Sending
  | .call .. => none
  | .forward _ frame _ _ => some frame
  | .sent frame => some frame

/-- A path on which each step of a loop is preceded by the commit that opened its frame, unless the
frame is one of `F`, open from the beginning. -/
inductive Trace (E : Env) (F : Sending → Prop) (s : State) : Log → State → Prop
  | nil : Trace E F s [] s
  | snoc {l : Log} {c : Commit State Op Receipt} : Trace E F s l c.pre → (machine E).Valid c →
      (∀ frame ∈ c.input.frame?, F frame ∨ ∃ c' ∈ l, c'.output.ret = .sending frame) →
      Trace E F s (l ++ [c]) c.post

namespace Trace

variable {E : Env} {F G : Sending → Prop} {s t u : State} {l l' : Log}

theorem path (h : Trace E F s l t) : (machine E).Path s l t := by
  induction h with
  | nil => exact .nil
  | snoc _ hc _ ih => exact ih.snoc hc

theorem append (h : Trace E F s l t)
    (h' : Trace E (fun frame => F frame ∨ ∃ c ∈ l, c.output.ret = .sending frame) t l' u) :
    Trace E F s (l ++ l') u := by
  induction h' with
  | nil => simpa using h
  | @snoc l' c _ hc hframe ih =>
    rw [← List.append_assoc]
    refine ih.snoc hc fun frame hf => ?_
    rcases hframe frame hf with (hF | ⟨d, hd, hr⟩) | ⟨d, hd, hr⟩
    · exact .inl hF
    · exact .inr ⟨d, List.mem_append_left _ hd, hr⟩
    · exact .inr ⟨d, List.mem_append_right _ hd, hr⟩

theorem mono (hFG : ∀ frame, F frame → G frame) (h : Trace E F s l t) : Trace E G s l t := by
  induction h with
  | nil => exact .nil
  | snoc _ hc hframe ih => exact ih.snoc hc fun frame hf => (hframe frame hf).imp_left (hFG frame)

theorem of_false (h : Trace E (fun _ => False) s l t) : Trace E F s l t :=
  h.mono fun _ => False.elim

theorem single {o : Op} {r : Receipt} (h : step E s o = .ok (t, r))
    (hF : ∀ frame ∈ o.frame?, F frame) : Trace E F s [⟨s, o, r, t⟩] t :=
  (Trace.nil (F := F)).snoc (c := ⟨s, o, r, t⟩) h fun frame hf => .inl (hF frame hf)

/-- A step of a loop in a trace comes after the commit that opened its frame. -/
theorem exists_sending (h : Trace E F s l t) {l₁ l₂ : Log} {c : Commit State Op Receipt}
    (hl : l = l₁ ++ c :: l₂) {frame : Sending} (hf : frame ∈ c.input.frame?) :
    F frame ∨ ∃ c' ∈ l₁, c'.output.ret = .sending frame := by
  induction h generalizing l₂ with
  | nil => simp at hl
  | @snoc l d _ _ hframe ih =>
    rcases List.eq_nil_or_concat' l₂ with rfl | ⟨l₃, e, rfl⟩
    · obtain ⟨rfl, h⟩ := List.append_inj' hl rfl
      obtain rfl : d = c := by simpa using h
      exact hframe frame hf
    · rw [← List.cons_append, ← List.append_assoc] at hl
      exact ih (List.append_inj' hl rfl).1

end Trace

mutual

/-- **A transaction is a path of atomic steps.** -/
theorem exec_trace (E : Env) {s t : State} {log : Log} (tx : Tx) (h : exec E s tx = .ok (t, log)) :
    Trace E (fun _ => False) s log t := by
  obtain ⟨msg, call, replies⟩ := tx
  obtain ⟨u, r, hcall, hrest⟩ := exec_inv h
  have hfirst : Trace E (fun _ => False) s [⟨s, .call msg call, r, u⟩] u :=
    .single hcall (by simp [Op.frame?])
  rcases hrest with ⟨frame, l, r', hframe, hloop, hsent, rfl⟩ | ⟨-, rfl, rfl⟩
  · have hopen : ∀ f, f = frame → False ∨
        ∃ c ∈ ([⟨s, .call msg call, r, u⟩] : Log), c.output.ret = .sending f := by
      rintro f rfl
      exact .inr ⟨_, List.mem_singleton_self _, hframe⟩
    have hlast : Trace E (· = frame) t [⟨t, .sent frame, r', t⟩] t :=
      .single hsent (by simp [Op.frame?])
    have hrest := (sendLoop_trace E frame frame.sendAdapters replies hloop).append
      (hlast.mono fun f hf => .inl hf)
    simpa using hfirst.append (hrest.mono hopen)
  · exact hfirst

theorem sendLoop_trace (E : Env) (frame : Sending) {s t : State} {log : Log}
    (sendAdapters : List PerSendAdapterInfo) (replies : List Reply)
    (h : sendLoop E frame s sendAdapters replies = .ok (t, log)) :
    Trace E (· = frame) s log t := by
  cases sendAdapters with
  | nil =>
    obtain ⟨rfl, rfl⟩ := sendLoop_nil_eq_ok.1 h
    exact .nil
  | cons adapter sendAdapters =>
    cases replies with
    | nil => exact absurd h sendLoop_ne_ok
    | cons reply replies =>
      obtain ⟨price, calls, returns⟩ := reply
      obtain ⟨inst, deliveryPrice, u, r, log', -, -, hforward, -, hloop, rfl⟩ :=
        sendLoop_cons_eq_ok.1 h
      have hfirst := Trace.single (F := (· = frame)) hforward (by simp [Op.frame?])
      have hrest := sendLoop_trace E frame sendAdapters replies hloop
      simpa using hfirst.append
        ((execAll_trace E u calls).of_false.append (hrest.mono fun _ h => .inl (.inl h)))

/-- **Every run is a path of atomic steps**, whatever the adapters do. -/
theorem execAll_trace (E : Env) (s : State) (txs : List Tx) :
    Trace E (fun _ => False) s (execAll E s txs).2 (execAll E s txs).1 := by
  cases txs with
  | nil => exact .nil
  | cons tx txs =>
    rw [execAll]
    split
    · next t log h =>
      exact (exec_trace E tx h).append (execAll_trace E t txs).of_false
    · exact execAll_trace E s txs

end

theorem execAll_append (E : Env) (s : State) (txs txs' : List Tx) :
    execAll E s (txs ++ txs') = ((execAll E (execAll E s txs).1 txs').1,
      (execAll E s txs).2 ++ (execAll E (execAll E s txs).1 txs').2) := by
  induction txs generalizing s with
  | nil => simp [execAll]
  | cons tx txs ih =>
    rw [List.cons_append, execAll, execAll]
    split
    · rw [ih, List.append_assoc]
    · exact ih s

theorem execAll_path (E : Env) (s : State) (txs : List Tx) :
    (machine E).Path s (execAll E s txs).2 (execAll E s txs).1 :=
  (execAll_trace E s txs).path

end GmpRouter.Evm
