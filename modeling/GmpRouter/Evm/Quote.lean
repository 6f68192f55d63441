import GmpRouter.Evm.Routing
import GmpRouter.Evm.Value

/-!
# The quoted price

`quoteDeliveryPrice` and `_sendMessage` parse the instructions, read the send array and look up the
instruction of each adapter in loops of their own; one sums the prices that the adapters quote, the
other pays them one after the other. When the adapters quote the same prices in both, the quote is
what `sendMessage` pays (`forwarded_of_exec`, `quoteDeliveryPriceAt_eq`), as far as a word holds it:
the sum of the quote is checked, and no sum is computed where the prices are paid.
-/

namespace GmpRouter.Evm

open AdapterRegistry AdapterInstructions Endpoint Frames

/-- What the adapters quote for a chain and a payload: the function `quoteDeliveryPrice` of each
contract, with `none` where it reverts. -/
abbrev Prices := Address → ChainId → List Byte → Option (BitVec 256)

/-! ## The views -/

namespace Endpoint

/-- The addition of amounts, which is checked. -/
def checkedAdd (x y : BitVec 256) : Except Error (BitVec 256) := do
  require (x.toNat + y.toNat < 2 ^ 256) .panic
  pure (x + y)

/-- The loop of `_quoteDeliveryPrice` over the send adapters. -/
def quoteLoop (P : Prices) (dstChain : ChainId) (adapterInst : List Instruction) :
    List PerSendAdapterInfo → BitVec 256 → Except Error (BitVec 256)
  | [], totalCost => .ok totalCost
  | adapter :: sendAdapters, totalCost => do
    let inst ← orFail (adapterInst[adapter.index.toNat]?) .panic
    let deliveryPrice ← orFail (P adapter.addr dstChain inst.payload) .adapterReverted
    let totalCost ← checkedAdd totalCost deliveryPrice
    quoteLoop P dstChain adapterInst sendAdapters totalCost

/-- `_quoteDeliveryPrice`, with the memory that the parser sees past the end of the instructions. -/
def quoteDeliveryPriceAt (P : Prices) (s : State) (integrator : Address) (dstChain : ChainId)
    (adapterInstructions : List Byte) (mem : ℕ → Byte) : Except Error (BitVec 256) := do
  let adapterInst ← parseInstructions adapterInstructions mem
    (s.registeredAdapters integrator).length
  let sendAdapters ← getSendAdaptersByChain s.toRegistry integrator dstChain
  quoteLoop P dstChain adapterInst sendAdapters 0#256

/-- `quoteDeliveryPrice`, for an explicit integrator. -/
def quoteDeliveryPriceOf (P : Prices) (s : State) (integrator : Address) (dstChain : ChainId)
    (adapterInstructions : List Byte) (mem : ℕ → Byte) : Except Error (BitVec 256) :=
  quoteDeliveryPriceAt P s integrator dstChain adapterInstructions mem

/-- `quoteDeliveryPrice`, for the caller. -/
def quoteDeliveryPrice (P : Prices) (s : State) (sender : Address) (dstChain : ChainId)
    (adapterInstructions : List Byte) (mem : ℕ → Byte) : Except Error (BitVec 256) :=
  quoteDeliveryPriceAt P s sender dstChain adapterInstructions mem

end Endpoint

/-! ## Checked sums -/

/-- The amount as a word, which panics when it does not fit. -/
def checked (n : ℕ) : Except Error (BitVec 256) :=
  if n < 2 ^ 256 then .ok (BitVec.ofNat 256 n) else .error .panic

theorem checked_eq_ok {n : ℕ} {v : BitVec 256} : checked n = .ok v ↔ v.toNat = n := by
  unfold checked
  split
  · next hlt =>
    rw [Except.ok.injEq]
    constructor
    · rintro rfl
      rw [BitVec.toNat_ofNat, Nat.mod_eq_of_lt hlt]
    · rintro rfl
      rw [BitVec.ofNat_toNat, BitVec.setWidth_eq]
  · next hge =>
    refine iff_of_false (by simp) ?_
    rintro rfl
    exact hge v.isLt

theorem checked_of_le {n : ℕ} (h : 2 ^ 256 ≤ n) : checked n = .error .panic := if_neg h.not_gt

theorem checkedAdd_eq (x y : BitVec 256) : checkedAdd x y = checked (x.toNat + y.toNat) := by
  by_cases hlt : x.toNat + y.toNat < 2 ^ 256
  · rw [checked_eq_ok.2 (BitVec.toNat_add_of_lt hlt)]
    exact require_bind_eq_ok.2 ⟨hlt, rfl⟩
  · rw [checked_of_le (not_lt.1 hlt)]
    exact require_bind_eq_error.2 (.inl ⟨hlt, rfl⟩)

/-! ## The sum of the prices -/

variable {E : Env} {P : Prices} {s s' t : State} {log log₀ : Log} {I : Address} {chain : ChainId}
  {bytes : List Byte} {mem : ℕ → Byte} {l : List Instruction}
    {infos infos' : List PerSendAdapterInfo}
  {key : UniversalAddress × BitVec 64} {v : BitVec 256} {n : ℕ}

/-- What the adapter of an entry of the send array quotes, for the payload of the last instruction
with its index. -/
def Prices.quote (P : Prices) (chain : ChainId) (l : List Instruction) (info : PerSendAdapterInfo) :
    Option (BitVec 256) := P info.addr chain (lastAt l info.index.toNat).payload

/-- The price that is quoted, or zero. -/
def amount (quote : Option (BitVec 256)) : ℕ := (quote.map BitVec.toNat).getD 0

/-- The sum of the prices of the entries. -/
def Prices.total (P : Prices) (chain : ChainId) (l : List Instruction)
    (infos : List PerSendAdapterInfo) : ℕ :=
  (infos.map fun info => amount (P.quote chain l info)).sum

/-- Each entry has a price. -/
def Prices.Quoted (P : Prices) (chain : ChainId) (l : List Instruction)
    (infos : List PerSendAdapterInfo) : Prop := ∀ info ∈ infos, (P.quote chain l info).isSome = true

/-- Neither depends on the order of the entries. -/
theorem Prices.total_perm (h : infos.Perm infos') :
    P.total chain l infos = P.total chain l infos' :=
  (h.map _).sum_eq

theorem Prices.quoted_perm (h : infos.Perm infos') :
    P.Quoted chain l infos ↔ P.Quoted chain l infos' :=
  forall_congr' fun _ => by rw [h.mem_iff]

/-- When every lookup is in bounds and every entry has a price, the loop returns the checked sum. -/
theorem quoteLoop_eq (hlt : ∀ info ∈ infos, info.index.toNat < n) (hquoted : P.Quoted chain l infos)
    (totalCost : BitVec 256) : quoteLoop P chain (slots n l) infos totalCost =
      checked (totalCost.toNat + P.total chain l infos) := by
  induction infos generalizing totalCost with
  | nil => exact (checked_eq_ok.2 rfl).symm
  | cons info infos ih =>
    obtain ⟨price, hprice⟩ := Option.isSome_iff_exists.1 (hquoted info (List.mem_cons_self ..))
    have hinst := getElem?_slots (l := l) (hlt info (List.mem_cons_self ..))
    have hih := ih (fun i hi => hlt i (List.mem_cons_of_mem _ hi))
      fun i hi => hquoted i (List.mem_cons_of_mem _ hi)
    have hsum : P.total chain l (info :: infos) = price.toNat + P.total chain l infos := by
      rw [Prices.total, List.map_cons, List.sum_cons, hprice]
      rfl
    have hloop : quoteLoop P chain (slots n l) (info :: infos) totalCost =
        checkedAdd totalCost price >>= quoteLoop P chain (slots n l) infos := by
      rw [Prices.quote] at hprice
      rw [quoteLoop, hinst]
      change orFail (P info.addr chain _) _ >>= _ = _
      rw [hprice]
      rfl
    rw [hloop, checkedAdd_eq, hsum, ← Nat.add_assoc]
    by_cases hfits : totalCost.toNat + price.toNat < 2 ^ 256
    · rw [checked_eq_ok.2 (BitVec.toNat_add_of_lt hfits)]
      exact (hih (totalCost + price)).trans (by rw [BitVec.toNat_add_of_lt hfits])
    · rw [checked_of_le (not_lt.1 hfits), checked_of_le (by omega)]
      rfl

/-- When the loop returns, every entry has a price. -/
theorem quoted_of_quoteLoop (hlt : ∀ info ∈ infos, info.index.toNat < n) {totalCost : BitVec 256}
    (h : quoteLoop P chain (slots n l) infos totalCost = .ok v) : P.Quoted chain l infos := by
  induction infos generalizing totalCost with
  | nil => exact fun _ hinfo => absurd hinfo (List.not_mem_nil)
  | cons info infos ih =>
    obtain ⟨inst, hinst, hquote⟩ := orFail_bind_eq_ok.1 h
    obtain ⟨price, hprice, hadd⟩ := orFail_bind_eq_ok.1 hquote
    obtain ⟨totalCost', -, hrest⟩ := bind_eq_ok.1 hadd
    rw [getElem?_slots (hlt info (List.mem_cons_self ..)), Option.some.injEq] at hinst
    subst hinst
    refine List.forall_mem_cons.2 ⟨?_, ih (fun i hi => hlt i (List.mem_cons_of_mem _ hi)) hrest⟩
    rw [Prices.quote, hprice]
    rfl

/-- The quote of a send array whose adapters quote is their checked sum. -/
theorem quoteDeliveryPriceAt_eq (hsend : SendInv s.toRegistry) (hreg : RegistryInv s)
    (hl : Denotes bytes (s.registeredAdapters I).length l) (hchain : chain ≠ 0#16)
    (hquoted : P.Quoted chain l (s.perChainSendAdapterArray I chain)) :
    quoteDeliveryPriceAt P s I chain bytes mem =
      checked (P.total chain l (s.perChainSendAdapterArray I chain)) := by
  have hparse : parseInstructions bytes mem (s.registeredAdapters I).length = .ok _ :=
    parseInstructions_eq_ok_iff.2 ⟨l, hl, rfl⟩
  have harray : getSendAdaptersByChain s.toRegistry I chain = .ok _ :=
    require_bind_eq_ok.2 ⟨hchain, rfl⟩
  have hloop := quoteLoop_eq (fun info => index_lt_of_mem_sendArray hsend hreg) hquoted 0#256
  rw [BitVec.toNat_ofNat, Nat.zero_mod, Nat.zero_add] at hloop
  rw [quoteDeliveryPriceAt, hparse, ← hloop]
  change getSendAdaptersByChain s.toRegistry I chain >>= _ = _
  rw [harray]
  rfl

/-- The quote returns for instructions that are well formed, a chain that is not zero and adapters
that quote, when a word holds the sum. -/
theorem quoteDeliveryPriceAt_eq_ok (hsend : SendInv s.toRegistry) (hreg : RegistryInv s) :
    quoteDeliveryPriceAt P s I chain bytes mem = .ok v ↔
      ∃ l, Denotes bytes (s.registeredAdapters I).length l ∧ chain ≠ 0#16 ∧
        P.Quoted chain l (s.perChainSendAdapterArray I chain) ∧
        v.toNat = P.total chain l (s.perChainSendAdapterArray I chain) := by
  constructor
  · intro h
    obtain ⟨_, hparse, hrest⟩ := bind_eq_ok.1 h
    obtain ⟨l, hl, rfl⟩ := parseInstructions_eq_ok_iff.1 hparse
    obtain ⟨_, harray, hloop⟩ := bind_eq_ok.1 hrest
    obtain ⟨hchain, hinfos⟩ := require_bind_eq_ok.1 harray
    obtain rfl := pure_eq_ok.1 hinfos
    have hquoted := quoted_of_quoteLoop (fun info => index_lt_of_mem_sendArray hsend hreg) hloop
    rw [quoteDeliveryPriceAt_eq hsend hreg hl hchain hquoted, checked_eq_ok] at h
    exact ⟨l, hl, hchain, hquoted, h⟩
  · rintro ⟨l, hl, hchain, hquoted, hv⟩
    rw [quoteDeliveryPriceAt_eq hsend hreg hl hchain hquoted, checked_eq_ok, hv]

/-! ## The prices that are paid -/

/-- If the step pays an adapter for a frame with the key, it pays the price of the adapter. -/
def Op.PaysPrice (P : Prices) (key : UniversalAddress × BitVec 64) : Op → Prop
  | .forward adapter frame payload deliveryPrice => frame.key = key →
    (P adapter frame.args.dstChain payload).map BitVec.toNat = some deliveryPrice
  | _ => True

instance : DecidablePred (Op.PaysPrice P key)
  | .call .. | .sent .. => .isTrue trivial
  | .forward adapter frame payload deliveryPrice =>
    inferInstanceAs (Decidable (frame.key = key →
      (P adapter frame.args.dstChain payload).map BitVec.toNat = some deliveryPrice))

/-- The adapters quote their prices to the call of `sendMessage` with the key. -/
def QuotesPrices (P : Prices) (key : UniversalAddress × BitVec 64) (log : Log) : Prop :=
  ∀ c ∈ log, c.input.PaysPrice P key

/-- The price of a call of an adapter. -/
def Prices.ofCall (P : Prices) (call : AdapterCall) : Option (BitVec 256) :=
  P call.adapter call.dstChain call.instructions

/-- A step either pays nothing for the key or is a call of an adapter, whose price it pays. -/
theorem Op.PaysPrice.cases {c : Commit State Op Receipt} (h : c.input.PaysPrice P key) :
    ((label c).performed Sending.key key = none ∧ c.input.quoteTo key = 0) ∨
      ∃ call price, (label c).performed Sending.key key = some call ∧
        P.ofCall call = some price ∧ c.input.quoteTo key = price.toNat := by
  obtain ⟨pre, op, r, post⟩ := c
  cases op with
  | call msg call =>
    refine .inl ⟨?_, rfl⟩
    unfold label
    cases r.ret <;> rfl
  | sent => exact .inl ⟨rfl, rfl⟩
  | forward adapter frame payload deliveryPrice =>
    by_cases hkey : frame.key = key
    · obtain ⟨price, hprice, rfl⟩ := Option.map_eq_some_iff.1 (h hkey)
      exact .inr ⟨_, price, if_pos hkey, hprice, if_pos hkey⟩
    · exact .inl ⟨if_neg hkey, if_neg hkey⟩

/-- What is paid for the key is the sum of the prices of the calls for it. -/
theorem quoted_eq_sum (h : QuotesPrices P key log) :
    (∀ call ∈ performed label Sending.key key log, (P.ofCall call).isSome = true) ∧
      quoted key log =
        ((performed label Sending.key key log).map fun call => amount (P.ofCall call)).sum := by
  induction log with
  | nil => exact ⟨fun _ hcall => absurd hcall List.not_mem_nil, rfl⟩
  | cons c log ih =>
    obtain ⟨hquote, hsum⟩ := ih fun d hd => h d (List.mem_cons_of_mem _ hd)
    have hcons : quoted key (c :: log) = c.input.quoteTo key + quoted key log := rfl
    rw [performed_cons, hcons, hsum]
    rcases (h c (List.mem_cons_self ..)).cases with ⟨hnone, hzero⟩ |
      ⟨call, price, hcall, hprice, hpaid⟩
    · rw [hnone, hzero, Nat.zero_add]
      exact ⟨hquote, rfl⟩
    · rw [hcall, hpaid]
      refine ⟨List.forall_mem_cons.2 ⟨by rw [hprice]; rfl, hquote⟩, ?_⟩
      rw [Option.toList_some, List.singleton_append, List.map_cons, List.sum_cons, hprice]
      rfl

/-- **What `sendMessage` pays** is the sum of the prices of the send adapters that it read. -/
theorem forwarded_of_exec (h₀ : (machine E).Path .init log₀ s) {msg : Msg} {args : SendMessageArgs}
    {replies : List Reply}
    (h : exec E s (.mk msg (.sendMessage args mem) replies) = .ok (t, log))
    (hprices : QuotesPrices P (fromAddress msg.sender, s.messageSequence msg.sender) log) :
    ∃ l, Denotes args.adapterInstructions (s.registeredAdapters msg.sender).length l ∧
      args.dstChain ≠ 0#16 ∧
      P.Quoted args.dstChain l (s.perChainSendAdapterArray msg.sender args.dstChain) ∧
      forwarded (fromAddress msg.sender, s.messageSequence msg.sender) log =
        P.total args.dstChain l (s.perChainSendAdapterArray msg.sender args.dstChain) := by
  have hsend := h₀.invariant (SendInv.invariant E) .init
  have hreg := h₀.invariant (RegistryInv.invariant E) .init
  obtain ⟨inst, hinst, hcalls⟩ := performed_of_exec h₀ h
  obtain ⟨l, hl, rfl⟩ := parseInstructions_eq_ok_iff.1 hinst
  obtain ⟨-, -, -, hchain, -⟩ := exec_sendMessage_eq_ok.1 h
  obtain ⟨hquote, hsum⟩ := quoted_eq_sum hprices
  have hcall : ∀ info ∈ s.perChainSendAdapterArray msg.sender args.dstChain,
      P.ofCall ((sendingFrame s msg.sender args
        (slots (s.registeredAdapters msg.sender).length l)).callOf info) =
      P.quote args.dstChain l info := by
    intro info hinfo
    rw [callOf_sendingFrame (index_lt_of_mem_sendArray hsend hreg hinfo)]
    rfl
  refine ⟨l, hl, hchain, fun info hinfo => ?_, ?_⟩
  · rw [← hcall info hinfo]
    exact hquote _ (hcalls ▸ List.mem_map_of_mem hinfo)
  · rw [forwarded_eq (exec_trace E _ h).path, hsum, hcalls, Sending.adapterCalls, List.map_map]
    exact congrArg List.sum (List.map_congr_left fun info hinfo => congrArg amount
      (hcall info hinfo))

/-- What is quoted for a key is quoted. -/
theorem quoted_le : quoted key log ≤ (log.map fun c => c.input.quote).sum := by
  have hstep : ∀ op : Op, op.quoteTo key ≤ op.quote := by
    intro op
    cases op with
    | forward adapter frame payload deliveryPrice =>
      simp only [Op.quoteTo, Op.quote]
      split
      · exact Nat.le_refl _
      · exact Nat.zero_le _
    | _ => exact Nat.le_refl _
  induction log with
  | nil => exact Nat.le_refl _
  | cons c log ih => exact Nat.add_le_add (hstep c.input) ih

/-- What is paid for a call was in the contract before, or brought in by the calls of the log. -/
theorem forwarded_le (h : (machine E).Path s log t) :
    forwarded key log ≤ s.balance + (log.map fun c => c.input.received).sum := by
  have hquoted : quoted key log ≤ (log.map fun c => c.input.quote).sum := quoted_le
  have hbalance := balance_of_path h
  rw [forwarded_eq h]
  omega

/-! ## Rejected instructions -/

theorem quoteLoop_ne_error {adapterInst : List Instruction} {totalCost : BitVec 256} {e : Error}
    (he : OfInstructions e) : quoteLoop P chain adapterInst infos totalCost ≠ .error e := by
  induction infos generalizing totalCost with
  | nil => exact nofun
  | cons info infos ih =>
    refine orFail_bind_ne_error (he.ne not_false) fun inst _ =>
      orFail_bind_ne_error (he.ne not_false) fun price _ => bind_ne_error ?_ fun _ _ => ih
    exact require_bind_ne_error (he.ne not_false) fun _ => pure_ne_error

/-- A quote rejects the instructions that the parser rejects. -/
theorem rejects_quote_iff : Rejects (quoteDeliveryPriceAt P s I chain bytes mem) ↔
    ¬ ∃ l, Denotes bytes (s.registeredAdapters I).length l := by
  have hparse : Rejects (parseInstructions bytes mem (s.registeredAdapters I).length) ↔ _ :=
    rejects_parse_iff
  rw [← hparse, quoteDeliveryPriceAt]
  refine rejects_bind_iff fun inst e he => bind_ne_error ?_ fun _ _ => quoteLoop_ne_error he
  exact require_bind_ne_error (he.ne not_false) fun _ => pure_ne_error

theorem sendLoop_ne_error {frame : Sending} {replies : List Reply} {e : Error}
    (he : OfInstructions e) : sendLoop E frame s infos replies ≠ .error e := by
  induction infos generalizing s replies with
  | nil => simp [sendLoop, pure_ne_error]
  | cons info infos ih =>
    rcases replies with _ | ⟨⟨price, calls, returns⟩, replies⟩
    · rw [sendLoop, Ne, Except.error.injEq]
      exact he.ne not_false
    · rw [sendLoop]
      refine orFail_bind_ne_error (he.ne not_false) fun inst _ =>
        orFail_bind_ne_error (he.ne not_false) fun deliveryPrice _ =>
        bind_ne_error ?_ fun _ _ => require_bind_ne_error (he.ne not_false) fun _ =>
        bind_ne_error ih fun _ _ => pure_ne_error
      exact require_bind_ne_error (he.ne not_false) fun _ => pure_ne_error

/-- A call of `sendMessage` rejects the instructions that the parser rejects. -/
theorem rejects_send_iff {msg : Msg} {args : SendMessageArgs} {replies : List Reply} :
    Rejects (exec E s (.mk msg (.sendMessage args mem) replies)) ↔
      ¬ ∃ l, Denotes args.adapterInstructions (s.registeredAdapters msg.sender).length l := by
  have hdispatch : dispatch E s msg (.sendMessage args mem) =
      Endpoint.sendMessage (s.credit msg.value) msg.sender args mem := rfl
  have hparse : Rejects (parseInstructions args.adapterInstructions mem
      (s.registeredAdapters msg.sender).length) ↔ _ := rejects_parse_iff
  rw [← hparse, exec, rejects_bind_iff, hdispatch, Endpoint.sendMessage]
  · refine rejects_bind_iff fun inst e he => ?_
    refine bind_ne_error (require_bind_ne_error (he.ne not_false) fun _ => pure_ne_error)
      fun _ _ => require_bind_ne_error (he.ne not_false) fun _ =>
      bind_ne_error (require_bind_ne_error (he.ne not_false) fun _ => pure_ne_error)
      fun _ _ => pure_ne_error
  · rintro ⟨t, r⟩ e he
    dsimp only
    split
    · exact bind_ne_error (sendLoop_ne_error he) fun _ _ =>
        bind_ne_error pure_ne_error fun _ _ => pure_ne_error
    · exact pure_ne_error

/-! ## Accepted instructions -/

/-- The adapter of an entry quotes its price, accepts the message and calls nothing. -/
def Prices.reply (P : Prices) (chain : ChainId) (l : List Instruction) (info : PerSendAdapterInfo) :
    Reply := .mk (some (amount (P.quote chain l info))) [] true

theorem quotesPrices_of_sendLoop {frame : Sending} (hinst : frame.adapterInst = slots n l)
    (hlt : ∀ info ∈ infos, info.index.toNat < n) (hquoted : P.Quoted frame.args.dstChain l infos)
    (h : sendLoop E frame s infos (infos.map (P.reply frame.args.dstChain l)) = .ok (t, log)) :
    QuotesPrices P key log := by
  induction infos generalizing s log with
  | nil =>
    obtain ⟨rfl, rfl⟩ := sendLoop_nil_eq_ok.1 h
    exact fun _ hc => absurd hc List.not_mem_nil
  | cons info infos ih =>
    rw [List.map_cons] at h
    obtain ⟨inst, deliveryPrice, u, r, log', hslot, hprice, -, -, hloop, rfl⟩ :=
      sendLoop_cons_eq_ok.1 h
    rw [hinst, getElem?_slots (hlt info (List.mem_cons_self ..))] at hslot
    have hlog' := ih (fun i hi => hlt i (List.mem_cons_of_mem _ hi))
      (fun i hi => hquoted i (List.mem_cons_of_mem _ hi)) hloop
    refine List.forall_mem_cons.2 ⟨fun _ => ?_, hlog'⟩
    obtain ⟨price, hsome⟩ := Option.isSome_iff_exists.1 (hquoted info (List.mem_cons_self ..))
    rw [← Option.some.inj hslot, ← hprice, hsome]
    rw [Prices.quote] at hsome
    rw [hsome]
    rfl

/-- For the price that is quoted, `sendMessage` succeeds when the adapters accept. -/
theorem exists_send_of_quote (hsend : SendInv s.toRegistry) (hreg : RegistryInv s)
    {args : SendMessageArgs}
    (h : quoteDeliveryPriceAt P s I args.dstChain args.adapterInstructions mem = .ok v)
    (henabled : ∃ A, SendEnabled s.toRegistry I args.dstChain A)
    (hmax : s.messageSequence I ≠ BitVec.allOnes 64) (mem' : ℕ → Byte) :
    ∃ replies t log, exec E s (.mk ⟨I, v.toNat⟩ (.sendMessage args mem') replies) = .ok (t, log) ∧
      QuotesPrices P (fromAddress I, s.messageSequence I) log := by
  obtain ⟨l, hl, hchain, hquoted, hv⟩ := (quoteDeliveryPriceAt_eq_ok hsend hreg).1 h
  let infos := s.perChainSendAdapterArray I args.dstChain
  let replies := infos.map (P.reply args.dstChain l)
  have hbehaved : ∀ reply ∈ replies, reply.WellBehaved ∧ reply.calls = [] := by
    intro reply hreply
    obtain ⟨info, -, rfl⟩ := List.mem_map.1 hreply
    exact ⟨⟨rfl, rfl⟩, rfl⟩
  have hlength : replies.length = infos.length := List.length_map ..
  have hsufficient : Sufficient E (s.opened ⟨I, v.toNat⟩) (replies.take infos.length) := by
    have hprices : replies.map Reply.price = infos.map fun info =>
        amount (P.quote args.dstChain l info) := List.map_map ..
    rw [← hlength, List.take_length, sufficient_iff fun reply hreply => (hbehaved reply hreply).2,
      hprices]
    exact hv.ge.trans (Nat.le_add_left ..)
  obtain ⟨t, log, hexec⟩ : ∃ t log,
      exec E s (.mk ⟨I, v.toNat⟩ (.sendMessage args mem') replies) = .ok (t, log) :=
    (exec_sendMessage_iff hsend hreg (fun reply hreply => (hbehaved reply hreply).1) hlength.ge).2
      ⟨⟨l, hl⟩, hchain, henabled, hmax, hsufficient⟩
  refine ⟨replies, t, log, hexec, ?_⟩
  obtain ⟨inst, body, hinst, -, -, -, hloop, rfl⟩ := exec_sendMessage_eq_ok.1 hexec
  obtain ⟨l', hl', rfl⟩ := parseInstructions_eq_ok_iff.1 hinst
  obtain rfl := hl.unique hl'
  have hbody : QuotesPrices P (fromAddress I, s.messageSequence I) body :=
    quotesPrices_of_sendLoop rfl (fun info => index_lt_of_mem_sendArray hsend hreg) hquoted hloop
  refine List.forall_mem_cons.2 ⟨trivial, fun c hc => ?_⟩
  rcases List.mem_append.1 hc with hc | hc
  · exact hbody c hc
  · rw [List.mem_singleton.1 hc]
    exact trivial

/-! ## The order of the send array -/

/-- The entries are the enabled adapters, at their indices in the list of registered adapters. -/
theorem mem_sendArray_iff (hsend : SendInv s.toRegistry) (hreg : RegistryInv s)
    {info : PerSendAdapterInfo} : info ∈ s.perChainSendAdapterArray I chain ↔
      SendEnabled s.toRegistry I chain info.addr ∧
        (s.registeredAdapters I)[info.index.toNat]? = some info.addr := by
  constructor
  · exact fun hinfo => ⟨List.mem_map_of_mem hinfo, getElem?_of_mem_sendArray hsend hreg hinfo⟩
  · rintro ⟨henabled, hindex⟩
    obtain ⟨⟨addr, index⟩, hother, rfl⟩ := List.mem_map.1 henabled
    have hget := getElem?_of_mem_sendArray hsend hreg hother
    have hsame := (List.getElem?_inj (List.getElem?_eq_some_iff.1 hget).1 (hreg.nodup I)).1
      (hget.trans hindex.symm)
    obtain rfl : index = info.index := BitVec.eq_of_toNat_eq hsame
    exact hother

/-- The same adapters, registered in the same order, are in the array in some order. -/
theorem sendArray_perm (hsend : SendInv s.toRegistry) (hreg : RegistryInv s)
    (hsend' : SendInv s'.toRegistry) (hreg' : RegistryInv s')
    (hsame : s'.registeredAdapters I = s.registeredAdapters I)
    (henabled : ∀ A, SendEnabled s'.toRegistry I chain A ↔ SendEnabled s.toRegistry I chain A) :
    (s'.perChainSendAdapterArray I chain).Perm (s.perChainSendAdapterArray I chain) := by
  refine (List.perm_ext_iff_of_nodup (hsend'.nodup I chain).of_map (hsend.nodup I chain).of_map).2
    fun info => ?_
  rw [mem_sendArray_iff hsend hreg, mem_sendArray_iff hsend' hreg', hsame, henabled]

/-! ## The main result -/

/-- A call of `sendMessage` by the integrator with the value succeeds, and attaches the total to the
messages for its adapters, which quote the prices to it. -/
def Pays (E : Env) (P : Prices) (s : State) (I : Address) (args : SendMessageArgs)
    (value total : ℕ) : Prop :=
  ∃ mem replies t log, exec E s (.mk ⟨I, value⟩ (.sendMessage args mem) replies) = .ok (t, log) ∧
    QuotesPrices P (fromAddress I, s.messageSequence I) log ∧
    forwarded (fromAddress I, s.messageSequence I) log = total

/-- **The quoted price is the price that is paid.** Let the adapters quote the prices `P`. In every
state reached, for every integrator and arguments:

* when `sendMessage` succeeds, the total that it pays to its adapters, as a word, is what both
  overloads of `quoteDeliveryPrice` return in the same state; when a word does not hold it the
  quotes panic, which needs as much value in the contract and in the calls that are made meanwhile;
* both reject the instructions that denote nothing for the number of registered adapters, and no
  others; when an adapter is enabled and the sequence is not exhausted, `sendMessage` succeeds with
  the price that is quoted, and neither ever succeeds for chain zero;
* in another state with the same registered adapters, of which the same are enabled for the chain,
  both have the same results, whatever the order of the send array. -/
theorem quoted_price (E : Env) (P : Prices) {log₀ : Log} (h₀ : (machine E).Path .init log₀ s)
    (I : Address) (args : SendMessageArgs) :
    let quote := fun s mem => quoteDeliveryPriceOf P s I args.dstChain args.adapterInstructions mem
    let send := fun value mem replies =>
      exec E s (.mk ⟨I, value⟩ (.sendMessage args mem) replies)
    let denotes := ∃ l, Denotes args.adapterInstructions (s.registeredAdapters I).length l
    (∀ value total, Pays E P s I args value total → ∀ mem, quote s mem = checked total ∧
      quoteDeliveryPrice P s I args.dstChain args.adapterInstructions mem = checked total) ∧
    (∀ value mem replies t log, send value mem replies = .ok (t, log) →
      forwarded (fromAddress I, s.messageSequence I) log ≤
        s.balance + (log.map fun c => c.input.received).sum) ∧
    (∀ value mem replies, Rejects (send value mem replies) ↔ ¬ denotes) ∧
    (∀ mem, Rejects (quote s mem) ↔ ¬ denotes) ∧
    ((∃ A, SendEnabled s.toRegistry I args.dstChain A) → s.messageSequence I ≠ BitVec.allOnes 64 →
      ∀ mem v, quote s mem = .ok v → Pays E P s I args v.toNat v.toNat) ∧
    (args.dstChain = 0#16 → (∀ value mem replies x, send value mem replies ≠ .ok x) ∧
      ∀ mem v, quote s mem ≠ .ok v) ∧
    ∀ log₁ s', (machine E).Path .init log₁ s' →
      s'.registeredAdapters I = s.registeredAdapters I →
      (∀ A, SendEnabled s'.toRegistry I args.dstChain A ↔
        SendEnabled s.toRegistry I args.dstChain A) →
      (∀ mem mem' v, quote s' mem' = .ok v ↔ quote s mem = .ok v) ∧
      ∀ value total value' total', Pays E P s I args value total →
        Pays E P s' I args value' total' → total' = total := by
  have hsend := h₀.invariant (SendInv.invariant E) .init
  have hreg := h₀.invariant (RegistryInv.invariant E) .init
  have hpaid : ∀ value total, Pays E P s I args value total → ∀ mem,
      quoteDeliveryPriceAt P s I args.dstChain args.adapterInstructions mem = checked total := by
    rintro value total ⟨mem, replies, t, log, hexec, hprices, rfl⟩ mem'
    obtain ⟨l, hl, hchain, hquoted, hforwarded⟩ := forwarded_of_exec h₀ hexec hprices
    rw [quoteDeliveryPriceAt_eq hsend hreg hl hchain hquoted, hforwarded]
  refine ⟨fun value total h mem => ⟨hpaid value total h mem, hpaid value total h mem⟩,
    fun value mem replies t log hexec => forwarded_le (exec_trace E _ hexec).path,
    fun value mem replies => rejects_send_iff, fun mem => rejects_quote_iff,
    fun henabled hmax mem v hv => ?_, fun hzero =>
      ⟨fun value mem replies x hx => ?_, fun mem v hv => ?_⟩,
    fun log₁ s' h₁ hsame henabled => ?_⟩
  · obtain ⟨replies, t, log, hexec, hprices⟩ := exists_send_of_quote hsend hreg hv henabled hmax mem
    refine ⟨mem, replies, t, log, hexec, hprices, ?_⟩
    have hquote := hpaid _ _ ⟨mem, replies, t, log, hexec, hprices, rfl⟩ mem
    exact (checked_eq_ok.1 (hquote.symm.trans hv)).symm
  · obtain ⟨t, log⟩ := x
    obtain ⟨-, -, -, hchain, -⟩ := exec_sendMessage_eq_ok.1 hx
    exact hchain hzero
  · obtain ⟨-, -, hchain, -⟩ := (quoteDeliveryPriceAt_eq_ok hsend hreg).1 hv
    exact hchain hzero
  · have hsend' := h₁.invariant (SendInv.invariant E) .init
    have hreg' := h₁.invariant (RegistryInv.invariant E) .init
    have hperm := sendArray_perm hsend hreg hsend' hreg' hsame henabled
    refine ⟨fun mem mem' v => ?_, fun value total value' total' h h' => ?_⟩
    · have hquote : quoteDeliveryPriceAt P s' I args.dstChain args.adapterInstructions mem' =
          .ok v ↔ _ := quoteDeliveryPriceAt_eq_ok hsend' hreg'
      simp only [hsame, Prices.total_perm hperm, Prices.quoted_perm hperm] at hquote
      exact hquote.trans (quoteDeliveryPriceAt_eq_ok hsend hreg).symm
    · obtain ⟨mem, replies, t, log, hexec, hprices, rfl⟩ := h
      obtain ⟨mem', replies', t', log', hexec', hprices', rfl⟩ := h'
      obtain ⟨l, hl, -, -, hforwarded⟩ := forwarded_of_exec h₀ hexec hprices
      obtain ⟨l', hl', -, -, hforwarded'⟩ := forwarded_of_exec h₁ hexec' hprices'
      rw [hsame] at hl'
      obtain rfl := hl.unique hl'
      rw [hforwarded, hforwarded', Prices.total_perm hperm]

/-- The adapters charge their address and the length of the payload. -/
def samplePrices : Prices := fun adapter _ payload =>
  some (BitVec.ofNat 256 (adapter.toNat + payload.length))

/-- The adapters of the integrator at address 10, enabled in the order of their indices. -/
def reorderedTxs : List Tx :=
  registryTxs ++
    [.mk ⟨11#160, 0⟩ (.configure 10#160 (.addAdapter 14#160)) [],
      .mk ⟨11#160, 0⟩ (.configure 10#160 (.enableSendAdapter 1#16 13#160)) [],
      .mk ⟨11#160, 0⟩ (.configure 10#160 (.enableSendAdapter 1#16 14#160)) []]

theorem quoted_price_sample :
    let s := (execAll ⟨id, 2#16⟩ .init sendTxs).1
    let s' := (execAll ⟨id, 2#16⟩ .init reorderedTxs).1
    Pays ⟨id, 2#16⟩ samplePrices s 10#160 routedArgs 28 28 ∧
      quoteDeliveryPrice samplePrices s 10#160 1#16 routedArgs.adapterInstructions (fun _ => 0#8) =
        checked 28 ∧
      quoteDeliveryPriceOf samplePrices s' 10#160 1#16 routedArgs.adapterInstructions
        (fun _ => 1#8) = .ok 28#256 := by
  intro s s'
  have hpath : (machine ⟨id, 2#16⟩).Path .init _ s := execAll_path ⟨id, 2#16⟩ State.init sendTxs
  have hpath' : (machine ⟨id, 2#16⟩).Path .init _ s' :=
    execAll_path ⟨id, 2#16⟩ State.init reorderedTxs
  have hquote : quoteDeliveryPriceOf samplePrices s 10#160 1#16 routedArgs.adapterInstructions
      (fun _ => 0#8) = .ok 28#256 := by
    decide +kernel
  have henabled : SendEnabled s.toRegistry 10#160 1#16 14#160 :=
    isSendAdapterEnabledForChain_iff.1 (by decide +kernel)
  have hmax : s.messageSequence 10#160 ≠ BitVec.allOnes 64 := by decide +kernel
  have hsame : s'.registeredAdapters 10#160 = s.registeredAdapters 10#160 := by decide +kernel
  have hadapters : s'.perChainSendAdapterArray 10#160 routedArgs.dstChain =
      (s.perChainSendAdapterArray 10#160 routedArgs.dstChain).reverse := by
    decide +kernel
  clear_value s s'
  obtain ⟨hpaid, -, -, -, hpays, -, horder⟩ :=
    quoted_price ⟨id, 2#16⟩ samplePrices hpath 10#160 routedArgs
  have hsend := hpays ⟨_, henabled⟩ hmax _ _ hquote
  refine ⟨hsend, (hpaid _ _ hsend _).2, ((horder _ s' hpath' hsame fun A => ?_).1 _ _ _).2 hquote⟩
  rw [SendEnabled, SendEnabled, hadapters, List.map_reverse, List.mem_reverse]

/-- The adapters 12 and 13 charge half of the words, and the adapter 14 nothing. -/
def overflowPrices : Prices := fun adapter _ _ =>
  some (if adapter = 14#160 then 0#256 else BitVec.twoPow 256 255)

/-- The integrator at address 10 sends through the adapters 12 and 13. The adapter 12 is itself an
integrator, which sends through the adapter 14. -/
def overflowTxs : List Tx :=
  registryTxs ++
    [.mk ⟨11#160, 0⟩ (.configure 10#160 (.enableSendAdapter 4#16 12#160)) [],
      .mk ⟨11#160, 0⟩ (.configure 10#160 (.enableSendAdapter 4#16 13#160)) [],
      .mk ⟨12#160, 0⟩ (.register 12#160) [],
      .mk ⟨12#160, 0⟩ (.configure 12#160 (.addAdapter 14#160)) [],
      .mk ⟨12#160, 0⟩ (.configure 12#160 (.enableSendAdapter 4#16 14#160)) []]

def overflowArgs : SendMessageArgs := ⟨4#16, 77#256, 5#256, 10#160, []⟩

/-- The adapter 12 returns the value that it is paid to the contract, with a message of its own,
before the adapter 13 is paid. -/
def overflowReplies : List Reply :=
  [.mk (some (2 ^ 255)) [.mk ⟨12#160, 2 ^ 255⟩ (.sendMessage overflowArgs fun _ => 0#8)
      [.mk (some 0) [] true]] true,
    .mk (some (2 ^ 255)) [] true]

/-- **A price that no word holds** is paid and not quoted. -/
theorem quoted_price_overflow :
    let s := (execAll ⟨id, 2#16⟩ .init overflowTxs).1
    Pays ⟨id, 2#16⟩ overflowPrices s 10#160 overflowArgs (2 ^ 255) (2 ^ 256) ∧
      quoteDeliveryPriceOf overflowPrices s 10#160 4#16 [] (fun _ => 0#8) = .error .panic ∧
      quoteDeliveryPrice overflowPrices s 10#160 4#16 [] (fun _ => 0#8) = .error .panic := by
  intro s
  let tx : Tx := .mk ⟨10#160, 2 ^ 255⟩ (.sendMessage overflowArgs fun _ => 0#8) overflowReplies
  have hquote : quoteDeliveryPriceAt overflowPrices s 10#160 4#16 [] (fun _ => 0#8) =
      .error .panic := by
    decide +kernel
  have hprices : QuotesPrices overflowPrices (fromAddress 10#160, s.messageSequence 10#160)
      (execAll ⟨id, 2#16⟩ s [tx]).2 := by
    unfold QuotesPrices
    decide +kernel
  have htotal : forwarded (fromAddress 10#160, s.messageSequence 10#160)
      (execAll ⟨id, 2#16⟩ s [tx]).2 = 2 ^ 256 := by
    decide +kernel
  obtain ⟨⟨t, log⟩, hexec⟩ : ∃ r, exec ⟨id, 2#16⟩ s tx = .ok r := isOk_iff.1 (by decide +kernel)
  have hlog : (execAll ⟨id, 2#16⟩ s [tx]).2 = log := by
    rw [execAll, hexec]
    exact List.append_nil _
  rw [hlog] at hprices htotal
  exact ⟨⟨_, _, t, log, hexec, hprices, htotal⟩, hquote, hquote⟩

end GmpRouter.Evm
