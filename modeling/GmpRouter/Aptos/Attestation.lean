import GmpRouter.Aptos.Registry

/-!
# The attestation table of the Aptos endpoint

Every bit of an entry is that of an adapter which attested the fields that are hashed to its key, as
byte strings of 32 bytes: the address that `attest_message` pads for its look-up is the one that it
hashes. An entry is only made with a bit or as executed, which is why `recvMessage` may take its
existence for an attestation.
-/

namespace GmpRouter.Aptos

open GmpRouter.Bitmap (indices)

variable {keccak256 : List Byte → Digest} {s t : State} {l : Log} {a : Router.State}
  {I A : Address} {o : Output} {i : ℕ} {call : Call}

/-! ## Fields of a message -/

/-- The fields of a message as `attest_message` takes them, of any lengths. -/
structure Fields where
  srcChain : ChainId
  srcAddr : List Byte
  sequence : BitVec 64
  dstChain : ChainId
  dstAddr : List Byte
  payloadHash : List Byte
  deriving DecidableEq

/-- The fields that `recvMessage` and `execMessage` hash, for the address of the signer. -/
def Fields.to (I : Address) (srcChain : ChainId) (srcAddr : List Byte) (sequence : BitVec 64)
    (dstChain : ChainId) (payloadHash : List Byte) : Fields :=
  ⟨srcChain, srcAddr, sequence, dstChain, (UniversalAddress.fromAddress I).universalAddress,
    payloadHash⟩

/-- The call receives or executes the message with the fields. -/
def Call.consumes (f : Fields) : Call → Bool
  | .recvMessage I srcChain srcAddr sequence dstChain payloadHash =>
    Fields.to I srcChain srcAddr sequence dstChain payloadHash = f
  | .execMessage I srcChain srcAddr sequence dstChain payloadHash =>
    Fields.to I srcChain srcAddr sequence dstChain payloadHash = f
  | _ => false

namespace Fields

variable {f f' : Fields} {digest : Digest}

def messageHash (keccak256 : List Byte → Digest) (f : Fields) : Except Error Digest :=
  Endpoint.computeMessageHash keccak256 f.srcChain f.srcAddr f.sequence f.dstChain f.dstAddr
    f.payloadHash

/-- The adapter attests the fields. -/
def attest (f : Fields) (A : Address) : Call :=
  .attestMessage A f.srcChain f.srcAddr f.sequence f.dstChain f.dstAddr f.payloadHash

/-- The message with the fields. -/
def message (f : Fields) : Message :=
  Endpoint.messageOf f.srcChain f.srcAddr f.sequence f.dstChain f.dstAddr f.payloadHash

/-- The byte strings are those of words. -/
structure Valid (f : Fields) : Prop where
  srcAddr : f.srcAddr.length = 32
  dstAddr : f.dstAddr.length = 32
  payloadHash : f.payloadHash.length = 32

theorem messageHash_eq_ok : f.messageHash keccak256 = .ok digest ↔
    f.Valid ∧ digest = Aptos.messageHash keccak256 f.message := by
  rw [← bind_pure (f.messageHash keccak256), messageHash,
    Endpoint.computeMessageHash_bind_eq_ok, pure_eq_ok]
  constructor
  · rintro ⟨hsrc, hdst, hpayload, h⟩
    exact ⟨⟨hsrc, hdst, hpayload⟩, h⟩
  · rintro ⟨hf, h⟩
    exact ⟨hf.srcAddr, hf.dstAddr, hf.payloadHash, h⟩

theorem Valid.eq_of_message (hf : f.Valid) (hf' : f'.Valid) (h : f.message = f'.message) :
    f = f' := by
  obtain ⟨hchain, hsrc, hsequence, hdstChain, hdst, hpayload⟩ := Message.mk.inj h
  have hsrc' := beWord_inj (hf.srcAddr.trans hf'.srcAddr.symm) (by rw [hf.srcAddr]) hsrc
  have hdst' := beWord_inj (hf.dstAddr.trans hf'.dstAddr.symm) (by rw [hf.dstAddr]) hdst
  have hpayload' := beWord_inj (hf.payloadHash.trans hf'.payloadHash.symm)
    (by rw [hf.payloadHash]) hpayload
  cases f
  cases f'
  simp_all

/-- The address that the destination bytes are looked up under has these bytes. -/
theorem Valid.fromAddress_message (hf : f.Valid) :
    (UniversalAddress.fromAddress f.message.dstAddr).universalAddress = f.dstAddr := by
  have hword : beBytes f.dstAddr.length (beWord 256 f.dstAddr) = f.dstAddr :=
    beBytes_beWord (by rw [hf.dstAddr])
  rwa [hf.dstAddr] at hword

end Fields

theorem op_eq_attest {m : Message} :
    call.op = .attest A m ↔ ∃ f : Fields, call = f.attest A ∧ f.message = m := by
  constructor
  · intro h
    cases call with
    | attestMessage A' srcChain srcAddr sequence dstChain dstAddr payloadHash =>
      obtain ⟨rfl, rfl⟩ := Router.Op.attest.inj h
      exact ⟨⟨srcChain, srcAddr, sequence, dstChain, dstAddr, payloadHash⟩, rfl, rfl⟩
    | _ => cases h
  · rintro ⟨f, rfl, rfl⟩
    rfl

theorem op_consumes {f : Fields} (h : call.consumes f = true) :
    call.op.consumes (messageHash keccak256) (messageHash keccak256 f.message) = true := by
  cases call <;> simp only [Call.consumes, Bool.false_eq_true, decide_eq_true_eq] at h
  all_goals
    subst h
    simp [Call.op, Router.Op.consumes, Fields.message, Fields.to, Endpoint.messageOf_fromAddress]

/-! ## Attestations -/

/-- The adapter with the index attests the fields, while it is enabled for the source chain. -/
structure AttestedBy (f : Fields) (I : Address) (i : ℕ) (A : Address)
    (c : Commit State Call Output) : Prop where
  input_eq : c.input = f.attest A
  adapter : ∃ adapters, Integrator.getAdapters c.pre I = .ok adapters ∧ adapters[i]? = some A
  enabled : ∃ bitmap, Integrator.getEnabledRecvAdapters c.pre I f.srcChain = .ok bitmap ∧
    i ∈ indices bitmap

/-- An attestation that the router sees is one of the fields. -/
theorem AttestedBy.of_router {c : Commit State Call Output}
    {d : Commit Router.State Router.Op Router.Out} {m : Message} (hcd : Matches keccak256 c d)
    (h : Router.AttestedBy m i A d) :
    ∃ f : Fields, f.Valid ∧ f.message = m ∧ AttestedBy f m.dstAddr i A c := by
  have hstep : process keccak256 c.pre c.input = .ok (c.post, c.output) := hcd.left
  have hop := hcd.label.1
  rw [h.input_eq] at hop
  obtain ⟨f, hinput, rfl⟩ := op_eq_attest.1 hop.symm
  obtain ⟨e, he, hindex, henabled⟩ := h.enabled
  obtain ⟨hguard, -⟩ := hcd.pre.step hstep
  rw [hinput] at hguard
  have hx := hcd.pre.represents.published he
  obtain ⟨hlt, hget, -⟩ := List.idxOf?_eq_some_iff.1 hindex
  obtain ⟨table, htable, heq⟩ := hx.enabled .recv
  have hbitmap : Integrator.getEnabledRecvAdapters c.pre f.message.dstAddr f.srcChain =
      .ok (table.borrowWithDefault f.srcChain 0#128) :=
    Integrator.getEnabledAdapters_eq_ok.2 ⟨table, htable, rfl⟩
  refine ⟨f, ⟨hguard.1, hguard.2.1, hguard.2.2⟩, rfl, hinput, ⟨e.adapters, ?_, ?_⟩,
    ⟨_, hbitmap, ?_⟩⟩
  · exact hcd.pre.getAdapters_eq he
  · rw [List.getElem?_eq_getElem hlt, hget]
  · exact heq f.srcChain ▸ henabled

/-- A set bit of an entry, and the adapter that set it. -/
theorem exists_attestedBy (h : (machine keccak256).Path .init l s) {digest : Digest}
    {info : AttestationInfo} (hinfo : s.attestationInfos digest = some info)
    (hi : i ∈ indices info.attestedAdapters) :
    ∃ f I A, f.messageHash keccak256 = .ok digest ∧
      (UniversalAddress.fromAddress I).universalAddress = f.dstAddr ∧
      (∃ c ∈ l, AttestedBy f I i A c) ∧
      ∃ adapters, Integrator.getAdapters s I = .ok adapters ∧ adapters[i]? = some A := by
  obtain ⟨l', a, hpath, ha, hmatches⟩ := (simulation keccak256).path h refines_init
  have hrecord := ha.represents.inbox digest
  rw [Table.borrowWithDefault, hinfo, Option.getD_some] at hrecord
  have hmem : i ∈ (a.inbox digest).attested := by
    rw [← hrecord]
    exact hi
  obtain ⟨d, hd, m, A, rfl, hatt⟩ := (Router.mem_attested_iff hpath digest i).1 hmem
  obtain ⟨c, hc, hcd⟩ := Machine.Matches.exists_left hmatches hd
  obtain ⟨f, hf, rfl, hattested⟩ := AttestedBy.of_router hcd hatt
  refine ⟨f, f.message.dstAddr, A, Fields.messageHash_eq_ok.2 ⟨hf, rfl⟩, hf.fromAddress_message,
    ⟨c, hc, hattested⟩, ?_⟩
  obtain ⟨adapters, hadapters, hget⟩ := hattested.adapter
  obtain ⟨l₁, l₂, rfl, hbefore, hvalid, hafter⟩ := h.split hc
  have hlater := (Machine.Path.nil.snoc hvalid).append hafter
  obtain ⟨adapters', hadapters', hprefix⟩ := adapters_of_path hbefore hlater hadapters
  refine ⟨adapters', hadapters', ?_⟩
  obtain ⟨hlt, -⟩ := List.getElem?_eq_some_iff.1 hget
  rw [List.prefix_iff_getElem?.1 hprefix i hlt, ← hget, List.getElem?_eq_getElem hlt]

/-- Attested bits are not lost, and executed messages stay so. -/
theorem attestationInfos_mono (h : (machine keccak256).Path .init l s) {l' : Log}
    (h' : (machine keccak256).Path s l' t) {digest : Digest} {info : AttestationInfo}
    (hinfo : s.attestationInfos digest = some info) :
    ∃ info', t.attestationInfos digest = some info' ∧
      indices info.attestedAdapters ⊆ indices info'.attestedAdapters ∧
      (info.executed = true → info'.executed = true) := by
  obtain ⟨a, ha⟩ := exists_refines h
  obtain ⟨l₂, b, hpath, hb, -⟩ := (simulation keccak256).path h' ha
  have hold := ha.represents.inbox digest
  rw [Table.borrowWithDefault, hinfo, Option.getD_some] at hold
  have hnew := hb.represents.inbox digest
  obtain ⟨hsub, hexecuted⟩ := Router.record_mono hpath ha.inv digest
  rw [← hold, ← hnew] at hsub hexecuted
  cases hinfo' : t.attestationInfos digest with
  | some info' =>
    rw [Table.borrowWithDefault, hinfo', Option.getD_some] at hsub hexecuted
    exact ⟨info', rfl, hsub, hexecuted⟩
  | none =>
    -- the entry has a bit or is executed, which the default is not
    rw [Table.borrowWithDefault, hinfo', Option.getD_none] at hsub hexecuted
    rcases ha.represents.live digest info hinfo with hlive | hlive
    · exact absurd (hexecuted hlive) Bool.false_ne_true
    · obtain ⟨i, hi⟩ := GmpRouter.Bitmap.ne_zero_iff.1 hlive
      have hempty : i ∈ indices 0#128 := hsub hi
      simp at hempty

theorem consumed_le_one (h : (machine keccak256).Path .init l s) (f : Fields) :
    l.countP (fun c => c.input.consumes f) ≤ 1 := by
  obtain ⟨l', a, hpath, -, hmatches⟩ := (simulation keccak256).path h refines_init
  have hle := Machine.Matches.countP_le (p := fun c => c.input.consumes f = true)
    (q := fun d => d.input.consumes (messageHash keccak256)
      (messageHash keccak256 f.message) = true)
    (fun c d hcd hc => by rw [hcd.label.1]; exact op_consumes hc) hmatches
  simp only [Bool.decide_eq_true] at hle
  exact hle.trans (Router.consumed_le_one hpath Router.inv_init _)

/-- What `recvMessage` takes for an attestation is one. -/
theorem recvMessage_attested (h : Refines s a) {srcChain : ChainId} {srcAddr : List Byte}
    {sequence : BitVec 64} {dstChain : ChainId} {payloadHash : List Byte}
    {enabledRecvAdapters attestedAdapters : BitVec 128}
    (hstep : process keccak256 s (.recvMessage I srcChain srcAddr sequence dstChain payloadHash) =
      .ok (t, .adapters enabledRecvAdapters attestedAdapters)) : attestedAdapters ≠ 0#128 := by
  obtain ⟨-, b, hstep', -⟩ := h.step hstep
  obtain ⟨c, -, hne, -, -, hout⟩ := Router.recv_eq_ok.1 hstep'
  obtain ⟨-, hattested⟩ := Router.Out.received.inj hout
  rintro rfl
  rw [← hattested] at hne
  exact hne GmpRouter.Bitmap.indices_zero

/-- What an attestation looks up is what it hashes. -/
theorem valid_of_attest (h : Refines s a) {f : Fields}
    (hstep : process keccak256 s (f.attest A) = .ok (t, o)) :
    f.Valid ∧ ∃ addr : UniversalAddress, UniversalAddress.fromBytes f.dstAddr = .ok addr ∧
      addr.universalAddress = f.dstAddr ∧ UniversalAddress.fromAddress addr.toAddress = addr := by
  obtain ⟨hguard, -⟩ := h.step hstep
  have hf : f.Valid := ⟨hguard.1, hguard.2.1, hguard.2.2⟩
  refine ⟨hf, _, UniversalAddress.fromBytes_of_length hf.dstAddr, rfl, ?_⟩
  rw [UniversalAddress.mk.injEq]
  exact hf.fromAddress_message

/-- **The attestation table.** In every state that the endpoint reaches, an entry is executed or has
a bit. Each of its bits stems from a successful attestation, by the adapter with that index of the
integrator whose address is the destination, while it was enabled for the source chain, of the only
fields that are hashed to the key. Byte strings of other lengths are never attested. Bits and
executed flags are never lost, a message is received or executed at most once, and what
`recvMessage` returns has a bit. -/
theorem attestation_table (hK : CollisionFree keccak256) (h : (machine keccak256).Path .init l s) :
    (∀ digest info, s.attestationInfos digest = some info →
      info.executed = true ∨ info.attestedAdapters ≠ 0#128) ∧
    (∀ digest info i, s.attestationInfos digest = some info → i ∈ indices info.attestedAdapters →
      ∃ (f : Fields) (I A : Address), f.messageHash keccak256 = .ok digest ∧
        (∀ f', f'.messageHash keccak256 = .ok digest → f' = f) ∧
        (UniversalAddress.fromAddress I).universalAddress = f.dstAddr ∧
        (∃ c ∈ l, AttestedBy f I i A c) ∧
        ∃ adapters, Integrator.getAdapters s I = .ok adapters ∧ adapters[i]? = some A) ∧
    (∀ c ∈ l, ∀ (f : Fields) (A : Address), c.input = f.attest A →
      f.Valid ∧ ∃ addr : UniversalAddress, UniversalAddress.fromBytes f.dstAddr = .ok addr ∧
        addr.universalAddress = f.dstAddr ∧ UniversalAddress.fromAddress addr.toAddress = addr) ∧
    (∀ l' t digest info, (machine keccak256).Path s l' t → s.attestationInfos digest = some info →
      ∃ info', t.attestationInfos digest = some info' ∧
        indices info.attestedAdapters ⊆ indices info'.attestedAdapters ∧
        (info.executed = true → info'.executed = true)) ∧
    (∀ f, l.countP (fun c => c.input.consumes f) ≤ 1) ∧
    (∀ c ∈ l, ∀ I srcChain srcAddr sequence dstChain payloadHash,
      c.input = .recvMessage I srcChain srcAddr sequence dstChain payloadHash →
        ∃ enabledRecvAdapters attestedAdapters,
          c.output = .adapters enabledRecvAdapters attestedAdapters ∧
            attestedAdapters ≠ 0#128) := by
  obtain ⟨a, ha⟩ := exists_refines h
  refine ⟨ha.represents.live, fun digest info i hinfo hi => ?_, fun c hc f A hinput => ?_,
    fun l' t digest info h' hinfo => attestationInfos_mono h h' hinfo, consumed_le_one h,
    fun c hc I srcChain srcAddr sequence dstChain payloadHash hinput => ?_⟩
  · obtain ⟨f, I, A, hf, hI, hattested, hadapters⟩ := exists_attestedBy h hinfo hi
    refine ⟨f, I, A, hf, fun f' hf' => ?_, hI, hattested, hadapters⟩
    obtain ⟨hvalid, hdigest⟩ := Fields.messageHash_eq_ok.1 hf
    obtain ⟨hvalid', hdigest'⟩ := Fields.messageHash_eq_ok.1 hf'
    exact hvalid'.eq_of_message hvalid (hK.eq (hdigest'.symm.trans hdigest))
  · obtain ⟨l₁, l₂, -, hbefore, hvalid, -⟩ := h.split hc
    obtain ⟨b, hb⟩ := exists_refines hbefore
    have hstep : process keccak256 c.pre (f.attest A) = .ok (c.post, c.output) := hinput ▸ hvalid
    exact valid_of_attest hb hstep
  · obtain ⟨l₁, l₂, -, hbefore, hvalid, -⟩ := h.split hc
    obtain ⟨b, hb⟩ := exists_refines hbefore
    have hstep : process keccak256 c.pre (.recvMessage I srcChain srcAddr sequence dstChain
        payloadHash) = .ok (c.post, c.output) := hinput ▸ hvalid
    obtain ⟨⟨⟨enabled, attested⟩, u⟩, -, hu⟩ := bind_eq_ok.1 hstep
    obtain ⟨hpost, hout⟩ := Prod.mk.inj (pure_eq_ok.1 hu)
    exact ⟨enabled, attested, hout, recvMessage_attested hb (hout ▸ hstep)⟩

/-! ## A run -/

/-- A message from chain 4 to the integrator 10. -/
def sampleFields : Fields :=
  .to 10#256 4#16 (List.replicate 32 7#8) 3#64 2#16 (List.replicate 32 6#8)

/-- Adapter 12 attests it, first with a shorter destination address and twice, and it is received
and executed. -/
def sampleAttestation : List Call :=
  [{ sampleFields with dstAddr := [10#8] }.attest 12#256, sampleFields.attest 12#256,
    sampleFields.attest 12#256, .recvMessage 10#256 4#16 (List.replicate 32 7#8) 3#64 2#16
      (List.replicate 32 6#8),
    .execMessage 10#256 4#16 (List.replicate 32 7#8) 3#64 2#16 (List.replicate 32 6#8),
    sampleFields.attest 13#256]

example : (((machine id).run .init (sampleSetup ++ sampleAttestation)).2.map (·.output)).drop 7 =
    [.unit, .adapters 3#128 1#128, .unit] := by
  decide +kernel

theorem attestation_table_sample :
    ((machine id).run .init (sampleSetup ++ sampleAttestation)).2.countP
      (fun c => c.input.consumes sampleFields) ≤ 1 := by
  obtain ⟨-, -, -, -, hle, -⟩ :=
    attestation_table collisionFree_id
      ((machine id).run_path .init (sampleSetup ++ sampleAttestation))
  exact hle sampleFields

end GmpRouter.Aptos
