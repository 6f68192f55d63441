import GmpRouter.Aptos.Attestation

/-!
# The status of messages

The view `get_message_status` of the Aptos endpoint. It pads its destination to the address whose
adapters it looks up, and hashes it as it is, so that it only returns for the 32 bytes of an address
(`dstAddr_of_status`). `recvMessage` hashes the bytes of its signer, borrows the same entry and
returns what the view does (`exists_recv_iff`); its effect is that of `execMessage`, which takes a
missing entry for an empty one (`received_of_step`).
-/

namespace GmpRouter.Aptos

/-- What `get_message_status` returns. -/
structure MessageStatus where
  enabledRecvAdapters : BitVec 128
  attestedAdapters : BitVec 128
  executed : Bool
  deriving DecidableEq

namespace Endpoint

def getMessageStatus (keccak256 : List Byte → Digest) (s : State) (srcChain : ChainId)
    (srcAddr : List Byte) (sequence : BitVec 64) (dstChain : ChainId)
    (dstAddr payloadHash : List Byte) : Except Error MessageStatus := do
  let universalAddress ← UniversalAddress.fromBytes dstAddr
  let integratorAddr := universalAddress.toAddress
  let enabledRecvAdapters ← Integrator.getEnabledRecvAdapters s integratorAddr srcChain
  let messageHash ←
    computeMessageHash keccak256 srcChain srcAddr sequence dstChain dstAddr payloadHash
  let info ← s.attestationInfos.borrow messageHash
  pure ⟨enabledRecvAdapters, info.attestedAdapters, info.executed⟩

end Endpoint

variable {keccak256 : List Byte → Digest} {s t : State} {l : Log} {a : Router.State} {I : Address}
  {f : Fields} {o : Output} {status : MessageStatus}

/-! ## The functions of the fields -/

namespace Fields

/-- The status of the message with the fields. -/
def getMessageStatus (keccak256 : List Byte → Digest) (s : State) (f : Fields) :
    Except Error MessageStatus :=
  Endpoint.getMessageStatus keccak256 s f.srcChain f.srcAddr f.sequence f.dstChain f.dstAddr
    f.payloadHash

/-- The integrator receives the message with the fields. -/
def recv (f : Fields) (I : Address) : Call :=
  .recvMessage I f.srcChain f.srcAddr f.sequence f.dstChain f.payloadHash

/-- The integrator executes the message with the fields. -/
def exec (f : Fields) (I : Address) : Call :=
  .execMessage I f.srcChain f.srcAddr f.sequence f.dstChain f.payloadHash

/-- The fields have the address of the integrator as destination. -/
def IsTo (f : Fields) (I : Address) : Prop :=
  f.dstAddr = (UniversalAddress.fromAddress I).universalAddress

/-- The message of these fields is the one that `recvMessage` and `execMessage` hash. -/
theorem IsTo.message_eq (h : f.IsTo I) : f.message =
    Endpoint.messageTo f.srcChain f.srcAddr f.sequence f.dstChain I f.payloadHash := by
  rw [message, h, Endpoint.messageOf_fromAddress]

theorem IsTo.valid_iff (h : f.IsTo I) :
    f.Valid ↔ f.srcAddr.length = 32 ∧ f.payloadHash.length = 32 := by
  constructor
  · exact fun hf => ⟨hf.srcAddr, hf.payloadHash⟩
  · rintro ⟨hsrc, hpayload⟩
    refine ⟨hsrc, ?_, hpayload⟩
    rw [h]
    exact (UniversalAddress.fromAddress I).length_eq

theorem getMessageStatus_eq_ok : f.getMessageStatus keccak256 s = .ok status ↔
    f.Valid ∧ ∃ info table,
      s.attestationInfos (Aptos.messageHash keccak256 f.message) = some info ∧
      (s.accounts f.message.dstAddr).adapterStore .recv = some ⟨table⟩ ∧
      status = ⟨table.borrowWithDefault f.srcChain 0#128, info.attestedAdapters,
        info.executed⟩ := by
  simp only [Fields.getMessageStatus, Endpoint.getMessageStatus, Integrator.getEnabledRecvAdapters,
    bind_eq_ok (x := UniversalAddress.fromBytes f.dstAddr),
    Integrator.getEnabledAdapters_bind_eq_ok,
    Endpoint.computeMessageHash_bind_eq_ok, Table.borrow_bind_eq_ok, pure_eq_ok]
  constructor
  · rintro ⟨universalAddress, haddr, table, htable, hsrc, hdst, hpayload, info, hinfo, hstatus⟩
    rw [UniversalAddress.fromBytes_of_length hdst] at haddr
    cases haddr
    exact ⟨⟨hsrc, hdst, hpayload⟩, info, table, hinfo, htable, hstatus⟩
  · rintro ⟨hf, info, table, hinfo, htable, hstatus⟩
    exact ⟨_, UniversalAddress.fromBytes_of_length hf.dstAddr, table, htable, hf.srcAddr,
      hf.dstAddr, hf.payloadHash, info, hinfo, hstatus⟩

/-- The view only returns for the bytes of an address. -/
theorem dstAddr_of_status (h : f.getMessageStatus keccak256 s = .ok status) : ∃ I, f.IsTo I :=
  ⟨f.message.dstAddr, (getMessageStatus_eq_ok.1 h).1.fromAddress_message.symm⟩

theorem process_recv_eq_ok (hI : f.IsTo I) : process keccak256 s (f.recv I) = .ok (t, o) ↔
    f.Valid ∧ ∃ info table,
      s.attestationInfos (Aptos.messageHash keccak256 f.message) = some info ∧
      info.executed = false ∧ (s.accounts I).adapterStore .recv = some ⟨table⟩ ∧
      o = .adapters (table.borrowWithDefault f.srcChain 0#128) info.attestedAdapters ∧
      t = { s with
        attestationInfos := s.attestationInfos.upsert (Aptos.messageHash keccak256 f.message)
          { info with executed := true } } := by
  rw [recv, process, bind_eq_ok, hI.valid_iff, hI.message_eq]
  constructor
  · rintro ⟨⟨⟨enabled, attested⟩, u⟩, hrecv, hu⟩
    obtain ⟨rfl, rfl⟩ := Prod.mk.inj (pure_eq_ok.1 hu)
    obtain ⟨hsrc, hpayload, _, info, table, rfl, hinfo, hexecuted, htable, rfl, rfl, ht⟩ :=
      Endpoint.recvMessage_eq_ok.1 hrecv
    exact ⟨⟨hsrc, hpayload⟩, info, table, hinfo, hexecuted, htable, rfl, ht⟩
  · rintro ⟨⟨hsrc, hpayload⟩, info, table, hinfo, hexecuted, htable, rfl, ht⟩
    exact ⟨_, Endpoint.recvMessage_eq_ok.2
      ⟨hsrc, hpayload, _, info, table, rfl, hinfo, hexecuted, htable, rfl, rfl, ht⟩, rfl⟩

theorem process_exec_eq_ok (hI : f.IsTo I) : process keccak256 s (f.exec I) = .ok (t, o) ↔
    f.Valid ∧ ∃ info,
      info = s.attestationInfos.borrowWithDefault (Aptos.messageHash keccak256 f.message) {} ∧
      info.executed = false ∧ o = .unit ∧
      t = { s with
        attestationInfos := s.attestationInfos.upsert (Aptos.messageHash keccak256 f.message)
          { info with executed := true } } := by
  rw [exec, process, noOutput_eq_ok, Endpoint.execMessage_eq_ok, hI.valid_iff, hI.message_eq]
  constructor
  · rintro ⟨⟨hsrc, hpayload, _, info, rfl, hinfo, hexecuted, ht⟩, ho⟩
    exact ⟨⟨hsrc, hpayload⟩, info, hinfo, hexecuted, ho, ht⟩
  · rintro ⟨⟨hsrc, hpayload⟩, info, hinfo, hexecuted, ho, ht⟩
    exact ⟨⟨hsrc, hpayload, _, info, rfl, hinfo, hexecuted, ht⟩, ho⟩

/-! ## Receiving -/

/-- A message is received exactly when its status is that it is not executed. -/
theorem exists_recv_iff (hI : f.IsTo I) : (∃ t o, process keccak256 s (f.recv I) = .ok (t, o)) ↔
    ∃ status, f.getMessageStatus keccak256 s = .ok status ∧ status.executed = false := by
  have hdst : f.message.dstAddr = I := by
    rw [hI.message_eq]
    rfl
  simp only [process_recv_eq_ok hI, getMessageStatus_eq_ok, hdst]
  constructor
  · rintro ⟨t, o, hf, info, table, hinfo, hexecuted, htable, -, -⟩
    exact ⟨_, ⟨hf, info, table, hinfo, htable, rfl⟩, hexecuted⟩
  · rintro ⟨_, ⟨hf, info, table, hinfo, htable, rfl⟩, hexecuted⟩
    exact ⟨_, _, hf, info, table, hinfo, hexecuted, htable, rfl, rfl⟩

/-- What a successful `recvMessage` shows: it returns the status of the message before the call,
which has an attestation and is not executed, and does what `execMessage` does, to set the flag in
the entry of the message. -/
structure Received (keccak256 : List Byte → Digest) (s t : State) (o : Output) (I : Address)
    (f : Fields) (status : MessageStatus) : Prop where
  status_eq : f.getMessageStatus keccak256 s = .ok status
  executed_eq : status.executed = false
  attested_ne : status.attestedAdapters ≠ 0#128
  output_eq : o = .adapters status.enabledRecvAdapters status.attestedAdapters
  exec_eq : process keccak256 s (f.exec I) = .ok (t, .unit)
  post_eq : ∃ digest info, f.messageHash keccak256 = .ok digest ∧
    s.attestationInfos digest = some info ∧ info.executed = false ∧
    t = { s with
      attestationInfos := s.attestationInfos.upsert digest { info with executed := true } }

theorem received_of_step (h : Refines s a) (hI : f.IsTo I)
    (hstep : process keccak256 s (f.recv I) = .ok (t, o)) :
    ∃ status, Received keccak256 s t o I f status := by
  obtain ⟨hf, info, table, hinfo, hexecuted, htable, rfl, rfl⟩ := (process_recv_eq_ok hI).1 hstep
  have hdst : f.message.dstAddr = I := by
    rw [hI.message_eq]
    rfl
  have hstatus := getMessageStatus_eq_ok.2 ⟨hf, info, table, hinfo, by rwa [hdst], rfl⟩
  have hborrow : info =
      s.attestationInfos.borrowWithDefault (Aptos.messageHash keccak256 f.message) {} := by
    rw [Table.borrowWithDefault, hinfo, Option.getD_some]
  exact ⟨_, hstatus, hexecuted, recvMessage_attested h hstep, rfl,
    (process_exec_eq_ok hI).2 ⟨hf, info, hborrow, hexecuted, rfl, rfl⟩,
    ⟨_, info, messageHash_eq_ok.2 ⟨hf, rfl⟩, hinfo, hexecuted, rfl⟩⟩

end Fields

end GmpRouter.Aptos
