import GmpRouter.Evm.Sequences
import Mathlib.Algebra.BigOperators.Group.Finset.Piecewise
import Mathlib.Algebra.GroupWithZero.Nat

/-!
# Native value on the EVM endpoint

A call brings value into the contract, and `sendMessage` pays each of its adapters the price that it
quotes; nothing else moves value (`balance_of_path`). The contract never compares the two, and
`recvMessage` accepts value that it has no use for. So value is conserved exactly in the runs whose
callers send what the contract pays for them (`conserves_iff`): in others it is stranded, and pays
for the messages of whoever sends next.
-/

namespace GmpRouter.Evm

open Endpoint Frames

variable {E : Env} {s t : State} {log log' : Log} {c : Commit State Op Receipt}
  {key : UniversalAddress × BitVec 64}

/-! ## Accounts -/

/-- The value that a call brings. -/
def Op.received : Op → ℕ
  | .call msg _ => msg.value
  | _ => 0

/-- The price that an adapter quotes. -/
def Op.quote : Op → ℕ
  | .forward _ _ _ deliveryPrice => deliveryPrice
  | _ => 0

/-- The price, when it is quoted to a frame with the key. -/
def Op.quoteTo (key : UniversalAddress × BitVec 64) : Op → ℕ
  | .forward _ frame _ deliveryPrice => if frame.key = key then deliveryPrice else 0
  | _ => 0

/-- What the adapters of a call of `sendMessage` quote to it. -/
def quoted (key : UniversalAddress × BitVec 64) (log : Log) : ℕ :=
  (log.map fun c => c.input.quoteTo key).sum

/-- What leaves the contract in a step that calls an adapter for a frame with the key. -/
def paidFor (key : UniversalAddress × BitVec 64) (c : Commit State Op Receipt) : ℕ :=
  match c.input with
  | .forward _ frame _ _ => if frame.key = key then c.pre.balance - c.post.balance else 0
  | _ => 0

/-- What a call of `sendMessage` forwards to its adapters. -/
def forwarded (key : UniversalAddress × BitVec 64) (log : Log) : ℕ := (log.map (paidFor key)).sum

/-- A function that is not payable rejects value; the others keep what the call brings. -/
theorem balance_of_step {op : Op} {r : Receipt} (h : step E s op = .ok (t, r)) :
    t.balance + op.quote = s.balance + op.received := by
  have hzero : ∀ msg call, op = .call msg call → call.payable = false → msg.value = 0 := by
    rintro msg call rfl hpay
    exact (body_of_dispatch h hpay).1
  cases step_effect h with
  | @admin msg _ _ _ _ hadmin =>
    have hvalue : msg.value = 0 := hzero _ _ rfl (by cases hadmin <;> rfl)
    simp [Op.quote, Op.received, hvalue]
  | @configure msg =>
    have hvalue : msg.value = 0 := hzero _ _ rfl rfl
    simp [Op.quote, Op.received, hvalue]
  | inbox => rfl
  | send => rfl
  | @forward _ _ _ deliveryPrice hle => exact Nat.sub_add_cancel hle
  | sent => rfl

/-- **The accounts of a history.** -/
theorem balance_of_path (h : (machine E).Path s log t) :
    t.balance + (log.map fun c => c.input.quote).sum =
      s.balance + (log.map fun c => c.input.received).sum := by
  induction h with
  | nil => rfl
  | snoc _ hc ih =>
    have hstep := balance_of_step hc
    simp only [List.map_append, List.sum_append, List.map_singleton, List.sum_singleton]
    omega

theorem forwarded_eq (h : (machine E).Path s log t) : forwarded key log = quoted key log := by
  refine congrArg List.sum (List.map_congr_left fun c hc => ?_)
  obtain ⟨pre, op, r, post⟩ := c
  have hstep : step E pre op = .ok (post, r) := h.valid hc
  cases op with
  | forward adapter frame payload deliveryPrice =>
    have hbalance := balance_of_step hstep
    simp only [Op.quote, Op.received] at hbalance
    simp only [paidFor, Op.quoteTo]
    split
    · omega
    · rfl
  | _ => rfl

@[simp] theorem quoted_append : quoted key (log ++ log') = quoted key log + quoted key log' := by
  rw [quoted, List.map_append, List.sum_append]
  rfl

/-- Nothing is quoted to a frame that is not opened. -/
theorem quoted_eq_zero (hnested : Nested label Sending.adapterCalls none log)
    (hkey : key ∉ (opened label log).map Sending.key) : quoted key log = 0 := by
  refine List.sum_eq_zero fun x hx => ?_
  obtain ⟨⟨pre, op, r, post⟩, hc, rfl⟩ := List.mem_map.1 hx
  cases op with
  | forward adapter frame payload deliveryPrice =>
    refine if_neg fun heq => hkey ?_
    rcases hnested.mem_of_performs hc rfl with hframe | ⟨_, hframe⟩
    · exact heq ▸ List.mem_map_of_mem hframe
    · cases hframe
  | _ => rfl

theorem sum_quoteTo {keys : List (UniversalAddress × BitVec 64)} (hnodup : keys.Nodup) {op : Op}
    (hop : ∀ adapter frame payload price, op = .forward adapter frame payload price →
      frame.key ∈ keys) : (keys.map fun key => op.quoteTo key).sum = op.quote := by
  rw [← List.sum_toFinset _ hnodup]
  cases op with
  | forward adapter frame payload deliveryPrice =>
    have hmem := List.mem_toFinset.2 (hop _ _ _ _ rfl)
    exact (Finset.sum_ite_eq _ _ _).trans (if_pos hmem)
  | _ => exact Finset.sum_const_zero

/-- The prices are those quoted to the keys, when each is quoted to one of them. -/
theorem sum_quoted {keys : List (UniversalAddress × BitVec 64)} (hnodup : keys.Nodup)
    (hlog : ∀ c ∈ log, ∀ adapter frame payload price,
      c.input = .forward adapter frame payload price → frame.key ∈ keys) :
    (keys.map fun key => quoted key log).sum = (log.map fun c => c.input.quote).sum := by
  induction log with
  | nil => simp [quoted]
  | cons c log ih =>
    have hc := sum_quoteTo hnodup (hlog c (List.mem_cons_self ..))
    have hrest := ih fun d hd => hlog d (List.mem_cons_of_mem _ hd)
    simp only [quoted, List.map_cons, List.sum_cons, List.sum_map_add] at hrest ⊢
    rw [hc, hrest]

/-! ## Conservation -/

/-- The call brings what it needs: `sendMessage` the prices that its adapters quote to it, and
`recvMessage` nothing. -/
def Exact (log : Log) (c : Commit State Op Receipt) : Prop :=
  match c.input with
  | .call msg (.sendMessage _ _) =>
    msg.value = quoted (fromAddress msg.sender, c.pre.messageSequence msg.sender) log
  | .call msg (.recvMessage _) => msg.value = 0
  | _ => True

theorem Opens.key_eq {msg : Msg} {frame : Sending} (h : Opens c msg frame) :
    frame.key = (fromAddress msg.sender, c.pre.messageSequence msg.sender) :=
  Prod.ext h.sender_eq h.sequence_eq

/-- Only the payable functions bring value. -/
theorem value_eq_zero {msg : Msg} {call : Call} (hc : (machine E).Valid c)
    (hinput : c.input = .call msg call) (hpay : call.payable = false) : msg.value = 0 := by
  have hstep : step E c.pre c.input = .ok (c.post, c.output) := hc
  rw [hinput] at hstep
  exact (body_of_dispatch hstep hpay).1

/-- An exact call that opens no frame brings nothing. -/
theorem received_eq_zero (hc : (machine E).Valid c) (hnone : ∀ frame, c.output.ret ≠ .sending frame)
    (h : Exact log c) : c.input.received = 0 := by
  cases hinput : c.input with
  | call msg call =>
    cases call with
    | sendMessage args mem =>
      obtain ⟨frame, hret, -, -⟩ := exists_frame_of_sendMessage hc hinput
      exact absurd hret (hnone frame)
    | recvMessage args =>
      rw [Exact, hinput] at h
      exact h
    | _ => exact value_eq_zero hc hinput rfl
  | _ => rfl

/-- An exact call brings what its frame is quoted. -/
theorem received_of_exact (hc : (machine E).Valid c) (h : Exact log c) :
    c.input.received = ((label c).opened.toList.map fun frame => quoted frame.key log).sum := by
  cases hopened : (label c).opened with
  | some frame =>
    obtain ⟨msg, hopens⟩ := opens_of_valid hc ((opened_label hc).1 hopened)
    obtain ⟨mem, hinput⟩ := hopens.input_eq
    rw [Exact, hinput] at h
    rw [hinput, Option.toList_some, List.map_singleton, List.sum_singleton, hopens.key_eq]
    exact h
  | none =>
    refine received_eq_zero hc (fun frame hret => ?_) h
    rw [(opened_label hc).2 hret] at hopened
    cases hopened

theorem sum_received (hvalid : ∀ c ∈ log', (machine E).Valid c) (hexact : ∀ c ∈ log', Exact log c) :
    (log'.map fun c => c.input.received).sum =
      ((opened label log').map fun frame => quoted frame.key log).sum := by
  induction log' with
  | nil => rfl
  | cons c log' ih =>
    have hrest := ih (fun d hd => hvalid d (List.mem_cons_of_mem _ hd))
      fun d hd => hexact d (List.mem_cons_of_mem _ hd)
    have hc := received_of_exact (hvalid c (List.mem_cons_self ..))
      (hexact c (List.mem_cons_self ..))
    rw [List.map_cons, List.sum_cons, opened_cons, List.map_append, List.sum_append, hc, hrest]

/-- In a history of exact calls the contract keeps nothing. -/
theorem balance_of_exact (h : (machine E).Path .init log t)
    (hnested : Nested label Sending.adapterCalls none log) (hexact : ∀ c ∈ log, Exact log c) :
    t.balance = 0 := by
  have hquotes : (((opened label log).map Sending.key).map fun key => quoted key log).sum =
      (log.map fun c => c.input.quote).sum := by
    refine sum_quoted (nodup_keys_of_path h) fun c hc adapter frame payload price hinput => ?_
    have hlabel : label c = .performs frame (frame.adapterCall adapter payload) := by
      rw [label, hinput]
    rcases hnested.mem_of_performs hc hlabel with hframe | ⟨_, hframe⟩
    · exact List.mem_map_of_mem hframe
    · cases hframe
  have hbalance := balance_of_path h
  rw [sum_received (fun c => h.valid) hexact, ← hquotes, List.map_map] at hbalance
  exact Nat.add_right_cancel hbalance

/-! ## Runs -/

/-- Whether a call is exact is decided when it ends. -/
theorem Exact.of_append (h : (machine E).Path .init (log ++ log') t)
    (hnested : Nested label Sending.adapterCalls none log') (hc : c ∈ log)
    (hexact : Exact (log ++ log') c) : Exact log c := by
  have hvalid : (machine E).Valid c := h.valid (List.mem_append_left _ hc)
  unfold Exact at hexact ⊢
  split
  · next msg args mem hinput =>
    obtain ⟨frame, hret, -, hopens⟩ := exists_frame_of_sendMessage hvalid hinput
    have hmem : frame ∈ opened label log :=
      List.mem_filterMap.2 ⟨c, hc, (opened_label hvalid).2 hret⟩
    have hnodup := nodup_keys_of_path h
    rw [opened_append, List.map_append, List.nodup_append'] at hnodup
    obtain ⟨-, -, hdisjoint⟩ := hnodup
    have hzero := quoted_eq_zero hnested fun hkey => hdisjoint (List.mem_map_of_mem hmem) hkey
    simp only [hinput, quoted_append, ← hopens.key_eq, hzero, Nat.add_zero] at hexact ⊢
    exact hexact
  · next hinput =>
    rw [hinput] at hexact
    exact hexact
  · trivial

/-- After every part of a run of exact calls the contract holds nothing. -/
theorem balance_of_prefix {txs txs' : List Tx}
    (hexact : ∀ c ∈ (execAll E .init (txs ++ txs')).2, Exact (execAll E .init (txs ++ txs')).2 c) :
    (execAll E .init txs).1.balance = 0 := by
  have hpath := execAll_path E .init (txs ++ txs')
  rw [execAll_append] at hexact hpath
  refine balance_of_exact (execAll_path E .init txs) (execAll_nested E .init txs) fun c hc => ?_
  exact (hexact c (List.mem_append_left _ hc)).of_append hpath (execAll_nested E _ txs') hc

/-- Value is conserved in a run: every call of `sendMessage` forwards its own value to its adapters,
no other call leaves value in the contract, and no call from outside changes the balance. -/
structure Conserves (E : Env) (txs : List Tx) : Prop where
  forwards : ∀ c ∈ (execAll E .init txs).2, ∀ msg args mem,
    c.input = .call msg (.sendMessage args mem) → ∀ frame, c.output.ret = .sending frame →
      forwarded frame.key (execAll E .init txs).2 = msg.value
  retains : ∀ c ∈ (execAll E .init txs).2, ∀ msg call, c.input = .call msg call →
    (∀ args mem, call ≠ .sendMessage args mem) → c.post.balance = c.pre.balance
  unchanged : ∀ txs₁ tx txs₂, txs = txs₁ ++ tx :: txs₂ → ∀ t log,
    exec E (execAll E .init txs₁).1 tx = .ok (t, log) →
      t.balance = (execAll E .init txs₁).1.balance

/-- **Value is conserved in the runs of exact calls, and in no others.** -/
theorem conserves_iff (E : Env) (txs : List Tx) :
    Conserves E txs ↔ ∀ c ∈ (execAll E .init txs).2, Exact (execAll E .init txs).2 c := by
  have h := execAll_path E .init txs
  constructor
  · intro hconserves c hc
    unfold Exact
    split
    · next msg args mem hinput =>
      obtain ⟨frame, hret, -, hopens⟩ := exists_frame_of_sendMessage (h.valid hc) hinput
      rw [← hopens.key_eq, ← forwarded_eq h]
      exact (hconserves.forwards c hc msg args mem hinput frame hret).symm
    · next msg args hinput =>
      have hsame := hconserves.retains c hc msg _ hinput nofun
      have hstep : step E c.pre c.input = .ok (c.post, c.output) := h.valid hc
      have hbalance := balance_of_step hstep
      simp only [hinput, Op.quote, Op.received, hsame] at hbalance
      omega
    · trivial
  · intro hexact
    refine ⟨fun c hc msg args mem hinput frame hret => ?_, fun c hc msg call hinput hcall => ?_,
      fun txs₁ tx txs₂ htxs t log hexec => ?_⟩
    · obtain ⟨frame', hret', -, hopens⟩ := exists_frame_of_sendMessage (h.valid hc) hinput
      obtain rfl := Return.sending.inj (hret.symm.trans hret')
      have hvalue := hexact c hc
      rw [Exact, hinput] at hvalue
      rw [forwarded_eq h, hopens.key_eq]
      exact hvalue.symm
    · have hstep : step E c.pre c.input = .ok (c.post, c.output) := h.valid hc
      have hzero := received_eq_zero (h.valid hc) (fun frame hret => ?_) (hexact c hc)
      · have hbalance := balance_of_step hstep
        rw [hzero, hinput] at hbalance
        exact hbalance
      · obtain ⟨msg', hopens⟩ := opens_of_valid (h.valid hc) hret
        obtain ⟨mem, hsend⟩ := hopens.input_eq
        rw [hinput] at hsend
        exact hcall _ _ (Op.call.inj hsend).2
    · subst htxs
      have hbefore : (execAll E .init txs₁).1.balance = 0 := balance_of_prefix hexact
      rw [List.append_cons] at hexact
      have hafter : (execAll E .init (txs₁ ++ [tx])).1.balance = 0 := balance_of_prefix hexact
      rw [execAll_append, execAll, hexec] at hafter
      rw [hbefore]
      exact hafter

/-- The integrators at the addresses 10 and 20 enable the adapter 12 for chain 4. -/
def sendersTxs : List Tx :=
  [10#160, 20#160].flatMap fun I =>
    [.mk ⟨I, 0⟩ (.register 11#160) [],
      .mk ⟨11#160, 0⟩ (.configure I (.addAdapter 12#160)) [],
      .mk ⟨11#160, 0⟩ (.configure I (.enableSendAdapter 4#16 12#160)) []]

/-- A call of `sendMessage` with the value, to which the adapter quotes the price. -/
def sendTx (sender : Address) (value deliveryPrice : ℕ) : Tx :=
  .mk ⟨sender, value⟩ (.sendMessage ⟨4#16, 77#256, 5#256, sender, []⟩ fun _ => 0#8)
    [.mk (some deliveryPrice) [] true]

/-- The value that an exact call brings. -/
def due (log : Log) (c : Commit State Op Receipt) : ℕ :=
  match c.input with
  | .call msg (.sendMessage _ _) =>
    quoted (fromAddress msg.sender, c.pre.messageSequence msg.sender) log
  | _ => 0

theorem exact_of_received (h : c.input.received = due log c) : Exact log c := by
  unfold Exact
  split
  · next hinput =>
    simp only [due, hinput, Op.received] at h
    exact h
  · next hinput =>
    simp only [due, hinput, Op.received] at h
    exact h
  · trivial

/-- The first sender pays the 3 that its message costs. While the adapter is called for it, the
second sender pays 2 for another message. -/
def exactTxs : List Tx :=
  sendersTxs ++
    [.mk ⟨10#160, 3⟩ (.sendMessage ⟨4#16, 77#256, 5#256, 10#160, []⟩ fun _ => 0#8)
      [.mk (some 3) [sendTx 20#160 2 2] true]]

theorem conserves_iff_sample : Conserves ⟨id, 2#16⟩ exactTxs ∧
    (execAll ⟨id, 2#16⟩ .init exactTxs).2.map (fun c => c.input.received) =
      [0, 0, 0, 0, 0, 0, 3, 0, 2, 0, 0, 0] := by
  have hreceived : ∀ c ∈ (execAll ⟨id, 2#16⟩ .init exactTxs).2,
      c.input.received = due (execAll ⟨id, 2#16⟩ .init exactTxs).2 c := by
    decide +kernel
  exact ⟨(conserves_iff _ _).2 fun c hc => exact_of_received (hreceived c hc), by decide +kernel⟩

/-- The first sender pays 5 for a message that costs 3, and the second one sends without any
value. -/
def strandedTxs : List Tx := sendersTxs ++ [sendTx 10#160 5 3, sendTx 20#160 0 2]

/-- The call of the first sender leaves 2 in the contract. -/
theorem strandedTxs_not_conserves : ¬ Conserves ⟨id, 2#16⟩ strandedTxs := by
  intro h
  obtain ⟨⟨t, log⟩, hexec⟩ : ∃ r, exec ⟨id, 2#16⟩ (execAll ⟨id, 2#16⟩ .init sendersTxs).1
      (sendTx 10#160 5 3) = .ok r := isOk_iff.1 (by decide +kernel)
  have hbefore : (execAll ⟨id, 2#16⟩ .init sendersTxs).1.balance = 0 := by
    decide +kernel
  have hafter : (execAll ⟨id, 2#16⟩ (execAll ⟨id, 2#16⟩ .init sendersTxs).1
      [sendTx 10#160 5 3]).1.balance = 2 := by
    decide +kernel
  have hsame := h.unchanged sendersTxs _ [sendTx 20#160 0 2] rfl t log hexec
  rw [execAll, hexec] at hafter
  have htwo : t.balance = 2 := hafter
  rw [hbefore, htwo] at hsame
  cases hsame

/-- The second call succeeds with it. -/
example : let run := execAll ⟨id, 2#16⟩ .init strandedTxs
    run.2.length = 12 ∧ run.1.balance = 0 := by
  decide +kernel

end GmpRouter.Evm
