import GmpRouter.Evm.Receive

/-!
# The status of messages

The views `getMessageStatus` of the EVM endpoint, which read the record of a message. The counter in
the record is the number of the set bits in every state reached, and a repeated attestation is the
only one that an enabled adapter is refused (`num_attested`).
-/

namespace GmpRouter.Evm

open AdapterRegistry
open GmpRouter.Bitmap (indices)

/-- What `getMessageStatus` returns. -/
structure MessageStatus where
  enabledBitmap : BitVec 128
  attestedBitmap : BitVec 128
  numAttested : BitVec 8
  executed : Bool
  deriving DecidableEq

namespace Endpoint

variable {E : Env} {s : State}

/-- `_getMessageStatus`, with the destination in both formats. -/
def getMessageStatusAt (E : Env) (s : State) (args : RecvMessageArgs) (dstUAddr : UniversalAddress)
    (dstAddr : Address) : Except Error MessageStatus := do
  let enabledBitmap ← getEnabledRecvAdaptersBitmapForChain s.toRegistry dstAddr args.srcChain
  let messageDigest := computeMessageDigest E
    ⟨args.srcChain, args.srcAddr, args.sequence, E.ourChain, dstUAddr, args.payloadHash⟩
  let attestationInfo := s.attestationInfo dstAddr messageDigest
  pure ⟨enabledBitmap, attestationInfo.attestedAdapters, attestationInfo.numAttested,
    attestationInfo.executed⟩

/-- `getMessageStatus`, for the caller. -/
def getMessageStatus (E : Env) (s : State) (sender : Address) (args : RecvMessageArgs) :
    Except Error MessageStatus :=
  getMessageStatusAt E s args (fromAddress sender) sender

/-- `getMessageStatus`, for an explicit destination. -/
def getMessageStatusOf (E : Env) (s : State) (args : RecvMessageArgs) (dstAddr : UniversalAddress) :
    Except Error MessageStatus := do
  let addr ← toAddress dstAddr
  getMessageStatusAt E s args dstAddr addr

theorem getMessageStatus_eq_ok {sender : Address} {args : RecvMessageArgs}
    {status : MessageStatus} : getMessageStatus E s sender args = .ok status ↔
      args.srcChain ≠ 0#16 ∧
        let info := record E s sender (inbound E sender args)
        status = ⟨s.perChainRecvAdapterBitmap sender args.srcChain, info.attestedAdapters,
          info.numAttested, info.executed⟩ := by
  simp only [getMessageStatus, getMessageStatusAt, bind_eq_ok,
    getEnabledRecvAdaptersBitmapForChain_eq_ok, pure_eq_ok]
  constructor
  · rintro ⟨_, ⟨hc, rfl⟩, rfl⟩
    exact ⟨hc, rfl⟩
  · rintro ⟨hc, rfl⟩
    exact ⟨_, ⟨hc, rfl⟩, rfl⟩

/-- The two views agree on the address of the integrator, and the explicit one has no other. -/
theorem getMessageStatusOf_eq_ok {dstAddr : UniversalAddress} {args : RecvMessageArgs}
    {status : MessageStatus} : getMessageStatusOf E s args dstAddr = .ok status ↔
      ∃ I, dstAddr = fromAddress I ∧ getMessageStatus E s I args = .ok status := by
  simp only [getMessageStatusOf, bind_eq_ok, toAddress_eq_ok]
  constructor
  · rintro ⟨I, rfl, h⟩
    exact ⟨I, rfl, h⟩
  · rintro ⟨I, rfl, h⟩
    exact ⟨I, rfl, h⟩

end Endpoint

open Endpoint

variable {E : Env} {s t : State} {msg : Msg} {m : Message} {I : Address} {r : Receipt}

/-- The caller is an adapter that may attest the message to the integrator, but may have done so. -/
structure MayAttest (E : Env) (s : State) (msg : Msg) (m : Message) (I : Address) : Prop where
  value_eq : msg.value = 0
  dstAddr_eq : m.dstAddr = fromAddress I
  dstChain_eq : m.dstChain = E.ourChain
  registered : Registered s.toRegistry I m.srcChain msg.sender
  enabled : RecvEnabled s.toRegistry I m.srcChain msg.sender

theorem toAddress_ne_error {uAddr : UniversalAddress} {e : Error}
    (he : e ≠ .notAnEvmAddress uAddr) : toAddress uAddr ≠ .error e := by
  refine require_bind_ne_error he.symm fun _ => pure_ne_error

theorem isRecvAdapterEnabledForChainWithCheck_eq_ok {s : Registry} {A : Address} {chain : ChainId}
    {b : Bool} : isRecvAdapterEnabledForChainWithCheck s I chain A = .ok b ↔
      Registered s I chain A ∧ (b = true ↔ RecvEnabled s I chain A) := by
  simp only [isRecvAdapterEnabledForChainWithCheck, bind_eq_ok, onlyRegisteredAdapter_eq_ok,
    isRecvAdapterEnabledForChain_eq_ok]
  exact ⟨fun ⟨_, hreg, _, hb⟩ => ⟨hreg, hb⟩, fun ⟨hreg, hb⟩ => ⟨(), hreg, hreg.chain_ne, hb⟩⟩

theorem isRecvAdapterEnabledForChainWithCheck_ne_error {s : Registry} {A : Address}
    {chain : ChainId} {e : Error} (hzero : e ≠ .invalidAdapterZeroAddress)
    (hchain : e ≠ .invalidChain chain) (hadapter : e ≠ .nonRegisteredAdapter A) :
    isRecvAdapterEnabledForChainWithCheck s I chain A ≠ .error e := by
  simp only [isRecvAdapterEnabledForChainWithCheck, onlyRegisteredAdapter,
    isRecvAdapterEnabledForChain, getEnabledRecvAdaptersBitmapForChain, ne_eq, bind_eq_error,
    require_eq_error, hzero.symm, hchain.symm, hadapter.symm, pure_ne_error, and_false,
    exists_false, or_self, not_false_eq_true]

/-- A repeated attestation is what an adapter that may attest is refused. -/
theorem attestMessage_eq_duplicate (hs : RegistryInv s) :
    step E s (.call msg (.attestMessage m)) = .error .duplicateMessageAttestation ↔
      ∃ I, MayAttest E s msg m I ∧ (s.adapterInfos I msg.sender).index.toNat ∈
        indices (record E s I m).attestedAdapters := by
  have hfresh : ∀ {I}, (s.adapterInfos I msg.sender).registered = true →
      ((record E s I m).attestedAdapters ||| bit (s.adapterInfos I msg.sender).index ≠
          (record E s I m).attestedAdapters ↔ _) := fun hreg => hs.or_bit_ne_iff hreg
  rw [step, dispatch, require_bind_eq_error]
  simp only [Call.payable, Call.body, attestMessage, bind_eq_error, require_eq_error, require_eq_ok,
    reduceCtorEq, and_false, false_or, toAddress_eq_ok, toAddress_ne_error,
    isRecvAdapterEnabledForChainWithCheck_eq_ok, isRecvAdapterEnabledForChainWithCheck_ne_error,
    pure_ne_error, exists_false, or_false, and_true, Bool.false_eq_true, ne_eq, not_false_eq_true]
  constructor
  · rintro ⟨hvalue, I, hI, -, hd, -, hreg, enabled, ⟨hr, he⟩, -, hen, hdup⟩
    rw [hvalue, credit_zero] at hdup hr he
    exact ⟨I, ⟨hvalue, hI, hd, hr, he.1 hen⟩, not_not.1 (mt (hfresh hr.registered).2 hdup)⟩
  · rintro ⟨I, hmay, hbit⟩
    rw [hmay.value_eq, credit_zero]
    refine ⟨rfl, I, hmay.dstAddr_eq, (), hmay.dstChain_eq, (), hmay.registered.registered, true,
      ⟨hmay.registered, iff_of_true rfl hmay.enabled⟩, (), rfl, ?_⟩
    exact fun hne => (hfresh hmay.registered.registered).1 hne hbit

/-- An adapter that may attest and has not is accepted. -/
theorem MayAttest.attests (hs : Counted s) (h : MayAttest E s msg m I)
    (hnew : (s.adapterInfos I msg.sender).index.toNat ∉ indices (record E s I m).attestedAdapters) :
    Attests E s msg.sender m I :=
  ⟨h.dstAddr_eq, h.dstChain_eq, h.registered, h.enabled,
    (hs.registry.or_bit_ne_iff h.registered.registered).2 hnew, hs.numAttested_ne _⟩

theorem MayAttest.exists_step (hs : Counted s) (h : MayAttest E s msg m I)
    (hnew : (s.adapterInfos I msg.sender).index.toNat ∉ indices (record E s I m).attestedAdapters) :
    ∃ t r, step E s (.call msg (.attestMessage m)) = .ok (t, r) := by
  obtain ⟨sender, value⟩ := msg
  obtain rfl : value = 0 := h.value_eq
  exact ⟨_, _, dispatch_eq_ok.2 ⟨.inr rfl,
    attestMessage_eq_ok.2 ⟨I, h.attests hs hnew, rfl, rfl⟩⟩⟩

/-- What a successful attestation does to the records. -/
structure AttestedOnce (E : Env) (s t : State) (msg : Msg) (m : Message) (I : Address) : Prop where
  mayAttest : MayAttest E s msg m I
  notMem : (s.adapterInfos I msg.sender).index.toNat ∉ indices (record E s I m).attestedAdapters
  indices_eq : indices (record E t I m).attestedAdapters =
    insert (s.adapterInfos I msg.sender).index.toNat (indices (record E s I m).attestedAdapters)
  numAttested_eq :
    (record E t I m).numAttested.toNat = (record E s I m).numAttested.toNat + 1
  executed_eq : (record E t I m).executed = (record E s I m).executed
  others : ∀ J digest, ¬ (J = I ∧ digest = computeMessageDigest E m) →
    t.attestationInfo J digest = s.attestationInfo J digest

theorem attestedOnce_of_step (hs : Counted s)
    (hstep : step E s (.call msg (.attestMessage m)) = .ok (t, r)) :
    ∃ I, AttestedOnce E s t msg m I := by
  obtain ⟨hvalue, hbody⟩ := body_of_dispatch hstep rfl
  obtain ⟨I, hatt, rfl, -⟩ := attestMessage_eq_ok.1 hbody
  have hreg := hatt.registered.registered
  have hnew := (hs.registry.or_bit_ne_iff hreg).1 hatt.fresh
  refine ⟨I, ⟨hvalue, hatt.dstAddr_eq, hatt.dstChain_eq, hatt.registered, hatt.enabled⟩, hnew,
    ?_, ?_, ?_, fun J digest hne => update₂_of_ne hne⟩
  · simp only [record, update₂_self]
    exact indices_attest hs.registry.wellFormed hreg _
  · simp only [record, update₂_self]
    rw [hs.attest hatt, indices_attest hs.registry.wellFormed hreg,
      Finset.card_insert_of_notMem hnew, hs.toNat_eq]
  · simp only [record, update₂_self]
    rfl

/-- The increment of the counter does not overflow. -/
theorem attestMessage_ne_panic (hs : Counted s) :
    step E s (.call msg (.attestMessage m)) ≠ .error .panic := by
  refine require_bind_ne_error (by simp) fun _ =>
    bind_ne_error (toAddress_ne_error (by simp)) fun I _ =>
    require_bind_ne_error (by simp) fun _ => require_bind_ne_error (by simp) fun _ =>
    bind_ne_error ?_ fun _ _ => require_bind_ne_error (by simp) fun _ =>
    require_bind_ne_error (by simp) fun _ => ?_
  · exact isRecvAdapterEnabledForChainWithCheck_ne_error (by simp) (by simp) (by simp)
  · rw [Ne, require_bind_eq_error]
    rintro (⟨hmax, -⟩ | ⟨-, h⟩)
    · exact hmax (hs.numAttested_ne _)
    · exact pure_ne_error h

theorem recvMessage_received {args : RecvMessageArgs}
    (hstep : step E s (.call msg (.recvMessage args)) = .ok (t, r)) :
    ∃ info, info = record E s msg.sender (inbound E msg.sender args) ∧ r.ret = .received
      (s.perChainRecvAdapterBitmap msg.sender args.srcChain) info.attestedAdapters
        info.numAttested := by
  obtain ⟨-, -, -, -, -, rfl⟩ := recvMessage_eq_ok.1 (dispatch_eq_ok.1 hstep).2
  exact ⟨_, rfl, rfl⟩

/-- **The number of attestations.** In every state reached the counter of every record is the number
of the set bits, at most 128, and the increment of `attestMessage` never overflows. An adapter that
may attest is refused as a duplicate exactly when its bit is set; otherwise it succeeds, and every
success sets its bit, which was clear, counts it and changes no other record. The numbers that
`recvMessage` and both overloads of `getMessageStatus` return are the numbers of the bits that they
return. -/
theorem num_attested (E : Env) {log : Log} (h : (machine E).Path .init log s) :
    (∀ I digest, (s.attestationInfo I digest).numAttested.toNat =
        (indices (s.attestationInfo I digest).attestedAdapters).card ∧
      (s.attestationInfo I digest).numAttested.toNat ≤ 128) ∧
    (∀ msg m, step E s (.call msg (.attestMessage m)) ≠ .error .panic) ∧
    (∀ msg m, step E s (.call msg (.attestMessage m)) = .error .duplicateMessageAttestation ↔
      ∃ I, MayAttest E s msg m I ∧
        (s.adapterInfos I msg.sender).index.toNat ∈ indices (record E s I m).attestedAdapters) ∧
    (∀ msg m I, MayAttest E s msg m I →
      (s.adapterInfos I msg.sender).index.toNat ∉ indices (record E s I m).attestedAdapters →
      ∃ t r, step E s (.call msg (.attestMessage m)) = .ok (t, r)) ∧
    (∀ msg m t r, step E s (.call msg (.attestMessage m)) = .ok (t, r) →
      ∃ I, AttestedOnce E s t msg m I) ∧
    (∀ msg args t r, step E s (.call msg (.recvMessage args)) = .ok (t, r) →
      ∃ enabledBitmap attestedBitmap numAttested,
        r.ret = .received enabledBitmap attestedBitmap numAttested ∧
          numAttested.toNat = (indices attestedBitmap).card) ∧
    (∀ sender args status, getMessageStatus E s sender args = .ok status →
      status.numAttested.toNat = (indices status.attestedBitmap).card) ∧
    ∀ args dstAddr status, getMessageStatusOf E s args dstAddr = .ok status →
      status.numAttested.toNat = (indices status.attestedBitmap).card := by
  have hs := h.invariant (Counted.invariant E) .init
  have hstatus : ∀ sender args status, getMessageStatus E s sender args = .ok status →
      status.numAttested.toNat = (indices status.attestedBitmap).card := by
    intro sender args status hok
    obtain ⟨-, rfl⟩ := getMessageStatus_eq_ok.1 hok
    exact hs.toNat_eq _ _
  refine ⟨fun I digest => ⟨hs.toNat_eq I digest, ?_⟩, fun msg m => attestMessage_ne_panic hs,
    fun msg m => attestMessage_eq_duplicate hs.registry, fun msg m I hmay => hmay.exists_step hs,
    fun msg m t r => attestedOnce_of_step hs, fun msg args t r hstep => ?_, hstatus,
    fun args dstAddr status hok => ?_⟩
  · rw [hs.toNat_eq]
    exact Bitmap.card_indices_le _
  · obtain ⟨info, rfl, hret⟩ := recvMessage_received hstep
    exact ⟨_, _, _, hret, hs.toNat_eq _ _⟩
  · obtain ⟨I, -, hok⟩ := getMessageStatusOf_eq_ok.1 hok
    exact hstatus I args status hok

/-- The adapter of the sample history cannot attest its message again. -/
theorem num_attested_sample :
    let s := (execAll sampleEnv State.init sampleTxs).1
    step sampleEnv s (.call ⟨12#160, 0⟩ (.attestMessage (inbound sampleEnv 10#160 sampleArgs))) =
      .error .duplicateMessageAttestation := by
  refine ((num_attested sampleEnv (execAll_path sampleEnv State.init sampleTxs)).2.2.1 _ _).2
    ⟨10#160, ⟨rfl, rfl, rfl, ⟨by decide, by decide, by decide +kernel⟩,
      Bitmap.mem_indices.2 (by decide +kernel)⟩, Bitmap.mem_indices.2 (by decide +kernel)⟩

/-! ## Receiving -/

variable {args : RecvMessageArgs} {status : MessageStatus}

/-- With an adapter enabled, a message is received exactly when its status is that it is attested
and not executed. -/
theorem exists_recv_iff (hne : s.perChainRecvAdapterBitmap msg.sender args.srcChain ≠ 0#128) :
    (∃ t r, step E s (.call msg (.recvMessage args)) = .ok (t, r)) ↔
      ∃ status, getMessageStatus E s msg.sender args = .ok status ∧ status.executed = false ∧
        status.attestedBitmap ≠ 0#128 := by
  rw [← Prod.exists' (p := fun t r => step E s (.call msg (.recvMessage args)) = .ok (t, r)),
    exists_recvMessage_iff]
  simp only [getMessageStatus_eq_ok]
  constructor
  · rintro ⟨hsrc, -, hattested, hexecuted⟩
    exact ⟨_, ⟨hsrc, rfl⟩, hexecuted, hattested⟩
  · rintro ⟨_, ⟨hsrc, rfl⟩, hexecuted, hattested⟩
    exact ⟨hsrc, hne, hattested, hexecuted⟩

/-- What a successful `recvMessage` shows: it returns the status of the message before the call,
from either overload, which is attested and not executed; and it does what `execMessage` does, to
set the flag in the record of the message. Only `recvMessage` is payable, and keeps the value. -/
structure Received (E : Env) (s t : State) (r : Receipt) (msg : Msg) (args : RecvMessageArgs)
    (status : MessageStatus) : Prop where
  status_eq : getMessageStatus E s msg.sender args = .ok status
  statusOf_eq : getMessageStatusOf E s args (fromAddress msg.sender) = .ok status
  executed_eq : status.executed = false
  attested_ne : status.attestedBitmap ≠ 0#128
  ret_eq : r.ret = .received status.enabledBitmap status.attestedBitmap status.numAttested
  exec_eq : ∃ u r', step E s (.call ⟨msg.sender, 0⟩ (.execMessage args)) = .ok (u, r') ∧
    t = u.credit msg.value
  post_eq : ∃ digest info, digest = computeMessageDigest E (inbound E msg.sender args) ∧
    info = s.attestationInfo msg.sender digest ∧ info.executed = false ∧
    t = { s.credit msg.value with
      attestationInfo :=
        update₂ s.attestationInfo msg.sender digest { info with executed := true } }

theorem received_of_step (hstep : step E s (.call msg (.recvMessage args)) = .ok (t, r)) :
    ∃ status, Received E s t r msg args status := by
  obtain ⟨hsrc, -, hattested, hexecuted, rfl, rfl⟩ :=
    recvMessage_eq_ok.1 (dispatch_eq_ok.1 hstep).2
  have hstatus : getMessageStatus E s msg.sender args = .ok _ :=
    getMessageStatus_eq_ok.2 ⟨hsrc, rfl⟩
  have hexec : step E s (.call ⟨msg.sender, 0⟩ (.execMessage args)) = .ok _ :=
    dispatch_eq_ok.2 ⟨.inr rfl, execMessage_eq_ok.2 ⟨hexecuted, rfl, rfl⟩⟩
  exact ⟨_, hstatus, getMessageStatusOf_eq_ok.2 ⟨_, rfl, hstatus⟩, hexecuted, hattested, rfl,
    ⟨_, _, hexec, rfl⟩, ⟨_, _, rfl, rfl, hexecuted, rfl⟩⟩

end GmpRouter.Evm
