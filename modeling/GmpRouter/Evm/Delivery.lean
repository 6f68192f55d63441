import GmpRouter.Evm.Attestation

/-!
# Delivery between two EVM endpoints

Two endpoints with the same hash function, one on the chain `s` where messages are sent and one on
the chain `d` where they are received. A joint execution interleaves transactions of the two chains
in any order. Relays are not part of the contracts: that they are honest is the hypothesis
`HonestRelay` on the joint log, which lets them reorder, duplicate and lose messages.

On the source, the sequence numbers of an integrator are used once each (`latch_used`). On the
destination, a received message was attested and is received once. Hence every receipt is of exactly
one sent message, and no sent message is received twice (`delivery_at_most_once`).
-/

namespace GmpRouter.Evm

open Endpoint

variable {E : Env} {s t : State} {op : Op} {r : Receipt}

/-! ## Sequence numbers -/

/-- The commit is a `sendMessage` of the integrator that uses the sequence number. -/
def uses (sender : Address) (sequence : BitVec 64) (c : Commit State Op Receipt) : Bool :=
  match c.input, c.output.ret with
  | .call msg (.sendMessage _ _), .sending frame => msg.sender = sender ∧ frame.sequence = sequence
  | _, _ => false

/-- A sequence number is below the next one exactly when it was used. -/
theorem latch_used (E : Env) (sender : Address) (sequence : BitVec 64) :
    (machine E).Latch (fun _ => True) (fun s => sequence < s.messageSequence sender)
      (fun c => uses sender sequence c = true) where
  invariant _ _ _ _ _ _ := trivial
  step := by
    intro s op r t hstep _
    cases step_effect hstep with
    | admin h => cases h <;> simp [uses]
    | inbox h => cases h <;> simp [uses, State.credit]
    | configure | forward | sent => simp [uses]
    | @send msg args mem inst _ _ _ hmax =>
      by_cases hs : sender = msg.sender
      · subst hs
        have hne := mt BitVec.eq_of_toNat_eq hmax
        have hlt := (s.messageSequence msg.sender).isLt
        rw [BitVec.toNat_allOnes] at hne
        simp only [uses, Function.update_self, true_and, decide_eq_true_eq, BitVec.lt_def,
          BitVec.toNat_add, BitVec.toNat_ofNat, ← BitVec.toNat_inj]
        omega
      · simp [uses, Function.update_of_ne hs, Ne.symm hs]

theorem not_lt_of_uses {sender : Address} {sequence : BitVec 64}
    (hstep : step E s op = .ok (t, r)) (huse : uses sender sequence ⟨s, op, r, t⟩ = true) :
    ¬ sequence < s.messageSequence sender := by
  cases step_effect hstep with
  | admin h => cases h <;> simp [uses] at huse
  | inbox h => cases h <;> simp [uses] at huse
  | configure | forward | sent => simp [uses] at huse
  | send =>
    obtain ⟨rfl, rfl⟩ : _ ∧ _ := by simpa [uses] using huse
    exact BitVec.lt_irrefl _

/-- The commit is the `sendMessage` of a message: its caller, the sequence number it returns and its
arguments are those of the message. -/
def carries (m : Message) (c : Commit State Op Receipt) : Bool :=
  match c.input, c.output.ret with
  | .call msg (.sendMessage args _), .sending frame =>
    fromAddress msg.sender = m.srcAddr ∧ frame.sequence = m.sequence ∧
      args.dstChain = m.dstChain ∧ args.dstAddr = m.dstAddr ∧ args.payloadHash = m.payloadHash
  | _, _ => false

/-- A commit that returns a frame is the `sendMessage` of the message that the frame holds. -/
theorem carries_of_sending {c : Commit State Op Receipt} (hc : (machine E).Valid c)
    {frame : Sending} (hret : c.output.ret = .sending frame) {m : Message}
    (hm : frame.sender = m.srcAddr ∧ frame.sequence = m.sequence ∧
      frame.args.dstChain = m.dstChain ∧ frame.args.dstAddr = m.dstAddr ∧
      frame.args.payloadHash = m.payloadHash) : carries m c = true := by
  obtain ⟨s, op, r, t⟩ := c
  have he : Effect E s op t r := step_effect hc
  cases he with
  | admin => simp at hret
  | inbox h => cases h <;> simp at hret
  | forward | sent => simp at hret
  | configure _ hrun => exact absurd hret (AdapterRegistry.Change.run_ret_ne_sending hrun frame)
  | send =>
    obtain rfl := Return.sending.inj hret
    simpa [carries] using hm

/-! ## Joint executions -/

/-- A log of the two chains: the commits of the source on the left. -/
abbrev JointLog := List (Commit State Op Receipt ⊕ Commit State Op Receipt)

/-- Run transactions of the two chains in the given order. -/
def execJoint (S D : Env) (s d : State) : List (Tx ⊕ Tx) → State × State × JointLog
  | [] => (s, d, [])
  | .inl tx :: txs =>
    match exec S s tx with
    | .ok (t, log) =>
      let (u, v, joint) := execJoint S D t d txs
      (u, v, log.map .inl ++ joint)
    | .error _ => execJoint S D s d txs
  | .inr tx :: txs =>
    match exec D d tx with
    | .ok (t, log) =>
      let (u, v, joint) := execJoint S D s t txs
      (u, v, log.map .inr ++ joint)
    | .error _ => execJoint S D s d txs

/-- The commits of a joint log on the source. -/
def onSource (joint : JointLog) : Log := joint.filterMap Sum.getLeft?

/-- The commits of a joint log on the destination. -/
def onDestination (joint : JointLog) : Log := joint.filterMap Sum.getRight?

section Projections

variable (joint joint' : JointLog) (log : Log)

@[simp] theorem onSource_inl (c) : onSource (.inl c :: joint) = c :: onSource joint := rfl

@[simp] theorem onSource_inr (c) : onSource (.inr c :: joint) = onSource joint := rfl

@[simp] theorem onDestination_inl (c) :
    onDestination (.inl c :: joint) = onDestination joint := rfl

@[simp] theorem onDestination_inr (c) :
    onDestination (.inr c :: joint) = c :: onDestination joint := rfl

@[simp] theorem onSource_append :
    onSource (joint ++ joint') = onSource joint ++ onSource joint' := List.filterMap_append ..

@[simp] theorem onDestination_append :
    onDestination (joint ++ joint') = onDestination joint ++ onDestination joint' :=
  List.filterMap_append ..

@[simp] theorem onSource_map_inl : onSource (log.map .inl) = log := by
  rw [onSource, List.filterMap_map]
  exact List.filterMap_some

@[simp] theorem onDestination_map_inr : onDestination (log.map .inr) = log := by
  rw [onDestination, List.filterMap_map]
  exact List.filterMap_some

@[simp] theorem onSource_map_inr : onSource (log.map .inr) = [] := by
  simp [onSource]

@[simp] theorem onDestination_map_inl : onDestination (log.map .inl) = [] := by
  simp [onDestination]

end Projections

/-- Each chain sees its own transactions only. -/
theorem execJoint_eq (S D : Env) (s d : State) (txs : List (Tx ⊕ Tx)) :
    execAll S s (txs.filterMap Sum.getLeft?) =
        ((execJoint S D s d txs).1, onSource (execJoint S D s d txs).2.2) ∧
      execAll D d (txs.filterMap Sum.getRight?) =
        ((execJoint S D s d txs).2.1, onDestination (execJoint S D s d txs).2.2) := by
  induction txs generalizing s d with
  | nil => exact ⟨rfl, rfl⟩
  | cons tx txs ih =>
    cases tx with
    | inl tx =>
      simp only [List.filterMap_cons, Sum.getLeft?, Sum.getRight?, execAll, execJoint]
      cases exec S s tx with
      | error e => exact ih s d
      | ok result =>
        obtain ⟨hleft, hright⟩ := ih result.1 d
        simp [hleft, hright]
    | inr tx =>
      simp only [List.filterMap_cons, Sum.getLeft?, Sum.getRight?, execAll, execJoint]
      cases exec D d tx with
      | error e => exact ih s d
      | ok result =>
        obtain ⟨hleft, hright⟩ := ih s result.1
        simp [hleft, hright]

/-- The entry is a call of an adapter on the source that passes it the message. -/
def forwards (m : Message) : Commit State Op Receipt ⊕ Commit State Op Receipt → Bool
  | .inl c =>
    match c.input with
    | .forward _ frame _ _ =>
      frame.sender = m.srcAddr ∧ frame.sequence = m.sequence ∧
        frame.args.dstChain = m.dstChain ∧ frame.args.dstAddr = m.dstAddr ∧
        frame.args.payloadHash = m.payloadHash
    | _ => false
  | .inr _ => false

/-- An attestation on the destination of a message from the source is backed by the earlier
entries. -/
def backed (S : Env) (earlier : JointLog) :
    Commit State Op Receipt ⊕ Commit State Op Receipt → Bool
  | .inr c =>
    match c.input with
    | .call _ (.attestMessage m) => m.srcChain ≠ S.ourChain || earlier.any (forwards m)
    | _ => true
  | .inl _ => true

/-- The adapters on the destination attest, of the messages from the source, only those that the
source passed to an adapter before, in a `sendMessage` that was committed. -/
def HonestRelay (S : Env) (joint : JointLog) : Prop :=
  ∀ i (h : i < joint.length), backed S (joint.take i) joint[i] = true

instance (S : Env) (joint : JointLog) : Decidable (HonestRelay S joint) :=
  inferInstanceAs (Decidable (∀ i (h : i < joint.length), backed S (joint.take i) joint[i] = true))

theorem HonestRelay.exists_forward {S : Env} {joint l₁ l₂ : JointLog} (h : HonestRelay S joint)
    {c : Commit State Op Receipt} (hjoint : joint = l₁ ++ .inr c :: l₂) {msg : Msg} {m : Message}
    (hc : c.input = .call msg (.attestMessage m)) (hchain : m.srcChain = S.ourChain) :
    ∃ c', .inl c' ∈ l₁ ∧ ∃ adapter frame payload deliveryPrice,
      c'.input = .forward adapter frame payload deliveryPrice ∧
        frame.sender = m.srcAddr ∧ frame.sequence = m.sequence ∧
        frame.args.dstChain = m.dstChain ∧ frame.args.dstAddr = m.dstAddr ∧
        frame.args.payloadHash = m.payloadHash := by
  have hbacked := h l₁.length (by simp [hjoint])
  simp only [hjoint, List.take_left', List.getElem_append_right, Nat.le_refl, Nat.sub_self,
    List.getElem_cons_zero, backed, hc, hchain, ne_eq, not_true_eq_false, decide_false,
    Bool.false_or, List.any_eq_true] at hbacked
  obtain ⟨e, he, hforward⟩ := hbacked
  cases e with
  | inr c' => simp [forwards] at hforward
  | inl c' =>
    refine ⟨c', he, ?_⟩
    simp only [forwards] at hforward
    split at hforward
    · next adapter frame payload price hin =>
      exact ⟨adapter, frame, payload, price, hin, of_decide_eq_true hforward⟩
    · cases hforward

/-- The commit is a `recvMessage` on the destination that receives the message which the commit `c`
on the source sent. -/
def receives (S D : Env) (c c' : Commit State Op Receipt) : Bool :=
  match c'.input with
  | .call msg (.recvMessage args) =>
    args.srcChain = S.ourChain && carries (inbound D msg.sender args) c
  | _ => false

/-! ## At-most-once delivery -/

section Delivery

variable {S D : Env} {txs : List (Tx ⊕ Tx)}

/-- The log of a joint execution from the deployment of both endpoints. -/
def jointLog (S D : Env) (txs : List (Tx ⊕ Tx)) : JointLog := (execJoint S D .init .init txs).2.2

theorem jointLog_source (S D : Env) (txs : List (Tx ⊕ Tx)) :
    Trace S (fun _ => False) .init (onSource (jointLog S D txs))
      (execJoint S D .init .init txs).1 := by
  have htrace := execAll_trace S .init (txs.filterMap Sum.getLeft?)
  rwa [(execJoint_eq S D .init .init txs).1] at htrace

theorem jointLog_destination (S D : Env) (txs : List (Tx ⊕ Tx)) :
    (machine D).Path .init (onDestination (jointLog S D txs))
      (execJoint S D .init .init txs).2.1 := by
  have hpath := execAll_path D .init (txs.filterMap Sum.getRight?)
  rwa [(execJoint_eq S D .init .init txs).2] at hpath

/-- A received message was sent before. -/
theorem exists_carries (hk : CollisionFree D.keccak) (hrelay : HonestRelay S (jointLog S D txs))
    {l₁ l₂ : JointLog} {c : Commit State Op Receipt}
    (hjoint : jointLog S D txs = l₁ ++ .inr c :: l₂)
    {msg : Msg} {args : RecvMessageArgs} (hc : c.input = .call msg (.recvMessage args))
    (hchain : args.srcChain = S.ourChain) :
    ∃ c' ∈ onSource l₁, carries (inbound D msg.sender args) c' = true := by
  -- some adapter attested the message on the destination
  have hpath := jointLog_destination S D txs
  rw [hjoint, onDestination_append] at hpath
  obtain ⟨hbefore, hvalid, -⟩ := hpath.of_append_cons (c := c)
  have hstep : step D c.pre c.input = .ok (c.post, c.output) := hvalid
  rw [hc] at hstep
  obtain ⟨i, hi⟩ := Bitmap.ne_zero_iff.1 (recvMessage_attested hstep).1
  obtain ⟨adapter, -, c₁, hc₁, hatt⟩ := (mem_attested_iff hk hbefore msg.sender args i).1 hi
  obtain ⟨value, hattest⟩ := hatt.input_eq
  -- hence the source passed it to an adapter before
  have hmem : Sum.inr c₁ ∈ l₁ := by simpa [onDestination] using hc₁
  obtain ⟨k₁, k₂, rfl⟩ := List.append_of_mem hmem
  obtain ⟨c₂, hc₂, adapter₂, frame, payload, price, hforward, hframe⟩ :=
    hrelay.exists_forward
      (show jointLog S D txs = k₁ ++ .inr c₁ :: (k₂ ++ .inr c :: l₂) by simp [hjoint])
        hattest hchain
  -- in the loop of a `sendMessage` that began earlier
  obtain ⟨j₁, j₂, rfl⟩ := List.append_of_mem hc₂
  have htrace := jointLog_source S D txs
  rw [hjoint] at htrace
  have hsource : onSource (j₁ ++ .inl c₂ :: j₂ ++ .inr c₁ :: k₂ ++ .inr c :: l₂) =
      onSource j₁ ++ c₂ :: onSource (j₂ ++ .inr c₁ :: (k₂ ++ .inr c :: l₂)) := by simp
  have hopen : frame ∈ c₂.input.frame? := by simp [hforward, Op.frame?]
  obtain ⟨c', hc', hret⟩ := (htrace.exists_sending hsource hopen).resolve_left id
  refine ⟨c', by simp [hc'], carries_of_sending (htrace.path.valid (by simp [hc'])) hret hframe⟩

theorem carries_iff {m : Message} {c : Commit State Op Receipt} : carries m c = true ↔
    ∃ msg args mem frame, c.input = .call msg (.sendMessage args mem) ∧
      c.output.ret = .sending frame ∧ fromAddress msg.sender = m.srcAddr ∧
      frame.sequence = m.sequence ∧ args.dstChain = m.dstChain ∧ args.dstAddr = m.dstAddr ∧
      args.payloadHash = m.payloadHash := by
  unfold carries
  split
  · next msg args mem frame hin hret => simp [hin, hret]
  · next hno =>
    simp only [Bool.false_eq_true, false_iff]
    rintro ⟨msg, args, mem, frame, hin, hret, -⟩
    exact hno msg args mem frame hin hret

theorem exists_uses_of_carries {m : Message} {c : Commit State Op Receipt}
    (h : carries m c = true) :
    ∃ sender, fromAddress sender = m.srcAddr ∧ uses sender m.sequence c = true := by
  obtain ⟨msg, args, mem, frame, hin, hret, hsender, hseq, -⟩ := carries_iff.1 h
  exact ⟨msg.sender, hsender, by simp [uses, hin, hret, hseq]⟩

/-- At most one commit carries a message. -/
theorem countP_carries_le_one {E : Env} {log : Log} (h : (machine E).Path .init log t)
    (m : Message) : log.countP (carries m) ≤ 1 := by
  by_cases hex : ∃ c ∈ log, carries m c = true
  · obtain ⟨c, -, hc⟩ := hex
    obtain ⟨sender, hsender, -⟩ := exists_uses_of_carries hc
    refine le_trans (List.countP_mono_left (q := uses sender m.sequence) fun c' _ hc' => ?_) ?_
    · obtain ⟨sender', hsender', huse⟩ := exists_uses_of_carries hc'
      rwa [fromAddress_injective (hsender.trans hsender'.symm)]
    · simpa using (latch_used E sender m.sequence).countP_le_one
        (fun s op r t hstep _ => not_lt_of_uses hstep) h trivial
  · have hzero : log.countP (carries m) = 0 :=
      List.countP_eq_zero.2 fun c hc hm => hex ⟨c, hc, hm⟩
    omega

/-- Two receipts of one sent message are the same call. -/
theorem consumes_of_receives {c c' : Commit State Op Receipt} (h : receives S D c c' = true) :
    ∃ integrator args, c'.input.consumes integrator args = true ∧ args.srcChain = S.ourChain ∧
      carries (inbound D integrator args) c = true := by
  unfold receives at h
  split at h
  · next msg args hin =>
    rw [Bool.and_eq_true, decide_eq_true_eq] at h
    exact ⟨msg.sender, args, by simp [hin, Op.consumes], h⟩
  · cases h

/-- A commit carries at most one message from the source to the destination. -/
theorem carries_inj {c : Commit State Op Receipt} {I I' : Address} {args args' : RecvMessageArgs}
    (h : carries (inbound D I args) c = true) (h' : carries (inbound D I' args') c = true)
    (hchain : args.srcChain = args'.srcChain) : I = I' ∧ args = args' := by
  obtain ⟨msg, a, mem, frame, hin, hret, hsrc, hseq, -, hdst, hpay⟩ := carries_iff.1 h
  obtain ⟨msg', a', mem', frame', hin', hret', hsrc', hseq', -, hdst', hpay'⟩ := carries_iff.1 h'
  obtain ⟨rfl, rfl, rfl⟩ : msg = msg' ∧ a = a' ∧ mem = mem' := by simpa [hin] using hin'
  obtain rfl : frame = frame' := by simpa [hret] using hret'
  refine ⟨fromAddress_injective (hdst.symm.trans hdst'), ?_⟩
  cases args
  cases args'
  simp_all [inbound]

/-- No sent message is received twice. -/
theorem countP_receives_le_one (hk : CollisionFree D.keccak) {log : Log} {d : State}
    (h : (machine D).Path .init log d) (c : Commit State Op Receipt) :
    log.countP (receives S D c) ≤ 1 := by
  by_cases hex : ∃ c' ∈ log, receives S D c c' = true
  · obtain ⟨c', -, hc'⟩ := hex
    obtain ⟨I, args, -, hchain, hcarries⟩ := consumes_of_receives hc'
    refine le_trans (List.countP_mono_left (q := fun c' => c'.input.consumes I args)
      fun c'' _ hc'' => ?_) ?_
    · obtain ⟨I', args', hconsumes, hchain', hcarries'⟩ := consumes_of_receives hc''
      obtain ⟨rfl, rfl⟩ := carries_inj hcarries hcarries' (hchain.trans hchain'.symm)
      exact hconsumes
    · simpa using (latch_executed hk I args).countP_le_one
        (fun s op r t hstep _ => not_executed_of_consumes hstep) h trivial
  · have hzero : log.countP (receives S D c) = 0 :=
      List.countP_eq_zero.2 fun c' hc' hr => hex ⟨c', hc', hr⟩
    omega

/-- **At-most-once delivery.** In every joint execution with an honest relay, every successful
`recvMessage` of a message from the source chain is of exactly one `sendMessage` committed on the
source, and that one came before; and every `sendMessage` is received at most once. -/
theorem delivery_at_most_once (hk : CollisionFree D.keccak)
    (hrelay : HonestRelay S (jointLog S D txs)) :
    (∀ l₁ c l₂ msg args, jointLog S D txs = l₁ ++ .inr c :: l₂ →
      c.input = .call msg (.recvMessage args) → args.srcChain = S.ourChain →
      (onSource l₁).countP (carries (inbound D msg.sender args)) = 1 ∧
        (onSource (jointLog S D txs)).countP (carries (inbound D msg.sender args)) = 1) ∧
    ∀ c ∈ onSource (jointLog S D txs),
      (onDestination (jointLog S D txs)).countP (receives S D c) ≤ 1 := by
  refine ⟨fun l₁ c l₂ msg args hjoint hc hchain => ?_,
    fun c _ => countP_receives_le_one hk (jointLog_destination S D txs) c⟩
  obtain ⟨c', hc', hcarries⟩ := exists_carries hk hrelay hjoint hc hchain
  have hpos : 0 < (onSource l₁).countP (carries (inbound D msg.sender args)) :=
    List.countP_pos_iff.2 ⟨c', hc', hcarries⟩
  have hle := countP_carries_le_one (jointLog_source S D txs).path (inbound D msg.sender args)
  have hsplit : (onSource (jointLog S D txs)).countP (carries (inbound D msg.sender args)) =
      (onSource l₁).countP (carries (inbound D msg.sender args)) +
        (onSource l₂).countP (carries (inbound D msg.sender args)) := by
    rw [hjoint, onSource_append, onSource_inr, List.countP_append]
  omega

/-- The source is chain 1, with the integrator 10 and its adapter 12, which returns without calling
back; the destination is chain 2, with the integrator 20 and its adapter 22. One message is sent,
attested, received, and received again. -/
def deliveryTxs : List (Tx ⊕ Tx) :=
  let message : Message := ⟨1#16, 10#256, 0#64, 2#16, 20#256, 5#256⟩
  [.inl (.mk ⟨10#160, 0⟩ (.register 11#160) []),
    .inl (.mk ⟨11#160, 0⟩ (.configure 10#160 (.addAdapter 12#160)) []),
    .inl (.mk ⟨11#160, 0⟩ (.configure 10#160 (.enableSendAdapter 2#16 12#160)) []),
    .inr (.mk ⟨20#160, 0⟩ (.register 21#160) []),
    .inr (.mk ⟨21#160, 0⟩ (.configure 20#160 (.addAdapter 22#160)) []),
    .inr (.mk ⟨21#160, 0⟩ (.configure 20#160 (.enableRecvAdapter 1#16 22#160)) []),
    .inl (.mk ⟨10#160, 7⟩ (.sendMessage ⟨2#16, 20#256, 5#256, 10#160, []⟩ fun _ => 0)
      [.mk (some 7) [] true]),
    .inr (.mk ⟨22#160, 0⟩ (.attestMessage message) []),
    .inr (.mk ⟨20#160, 0⟩ (.recvMessage ⟨1#16, 10#256, 0#64, 5#256⟩) []),
    .inr (.mk ⟨20#160, 0⟩ (.recvMessage ⟨1#16, 10#256, 0#64, 5#256⟩) [])]

theorem delivery_at_most_once_sample :
    let joint := jointLog ⟨id, 1#16⟩ ⟨id, 2#16⟩ deliveryTxs
    joint.length = 11 ∧ ∀ c ∈ onSource joint,
      (onDestination joint).countP (receives ⟨id, 1#16⟩ ⟨id, 2#16⟩ c) ≤ 1 :=
  ⟨by decide +kernel, (delivery_at_most_once (S := ⟨id, 1#16⟩) (D := ⟨id, 2#16⟩) collisionFree_id
    (by decide +kernel)).2⟩

end Delivery

end GmpRouter.Evm
