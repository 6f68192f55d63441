import GmpRouter.Svm.Messaging

/-!
# Specifications of the SVM instructions

One lemma for each instruction says exactly when it succeeds, and with which state and output. The
proofs about the program below use these lemmas and never the instructions themselves.
-/

namespace GmpRouter.Svm

variable {E : Env} {s t : State} {o : Output}

/-- The account at the address, which is derived from the seeds with the bump. -/
def Derived (s : State) (address : Address) (seeds : Seeds) (bump : Byte)
    (account : Account) : Prop :=
  s.accounts address = some account ∧ address = .pda seeds.bytes bump

/-- The configuration of the integrator is at the address, the signer is its admin, and no transfer
is pending. -/
structure ByAdmin (s : State) (address : Address) (integrator signer : Pubkey)
    (config : IntegratorConfig) : Prop where
  derived : Derived s address (.integratorConfig integrator) config.bump (.integratorConfig config)
  admin_eq : config.admin = some signer
  pendingAdmin_eq : config.pendingAdmin = none

theorem IntegratorConfig.checkAdmin_bind_eq_ok {β : Type} {config : IntegratorConfig}
    {signer : Pubkey} {f : Unit → Except Error β} {b : β} :
    (config.checkAdmin signer >>= f) = .ok b ↔
      config.admin = some signer ∧ config.pendingAdmin = none ∧ f () = .ok b := by
  simp only [checkAdmin, bind_assoc, require_bind_eq_ok]

theorem IntegratorConfig.addAdapter_bind_eq_ok {β : Type} {config : IntegratorConfig}
    {adapter : Pubkey} {f : IntegratorConfig → Except Error β} {b : β} :
    (config.addAdapter adapter >>= f) = .ok b ↔ config.adapterInfos.length < 128 ∧
      f { config with adapterInfos := config.adapterInfos ++ [adapter] } = .ok b := by
  rw [addAdapter, bind_assoc, require_bind_eq_ok, pure_bind]
  exact Iff.rfl

theorem SequenceTracker.nextSequence_bind_eq_ok {β : Type} {tracker : SequenceTracker}
    {f : BitVec 64 × SequenceTracker → Except Error β} {b : β} :
    (tracker.nextSequence >>= f) = .ok b ↔ tracker.sequence ≠ BitVec.allOnes 64 ∧
      f (tracker.sequence, { tracker with sequence := tracker.sequence + 1#64 }) = .ok b := by
  rw [nextSequence, bind_assoc, require_bind_eq_ok, pure_bind]

/-! ## Configuration -/

theorem register_eq_ok {ctx : Register} {args : RegisterArgs} :
    register E s ctx args = .ok (t, o) ↔
      ctx.integratorConfig = E.pda (.integratorConfig args.integratorProgramId) ∧
      s.accounts ctx.integratorConfig = none ∧
      ctx.sequenceTracker = E.pda (.sequenceTracker args.integratorProgramId) ∧
      s.accounts ctx.sequenceTracker = none ∧
      ctx.integratorProgramPda =
        integratorProgramPda args.integratorProgramId args.integratorProgramPdaBump ∧
      t = (s.set ctx.integratorConfig (.integratorConfig
          { bump := E.canonicalBump (Seeds.integratorConfig args.integratorProgramId).bytes
            integratorProgramId := args.integratorProgramId
            admin := some args.admin
            pendingAdmin := none
            adapterInfos := [] })).set ctx.sequenceTracker (.sequenceTracker
          { bump := E.canonicalBump (Seeds.sequenceTracker args.integratorProgramId).bytes
            integratorProgramId := args.integratorProgramId
            sequence := 0#64 }) ∧
      o = { event := .integratorRegistered args.integratorProgramId args.admin } := by
  simp only [register, init, require_bind_eq_ok, pure_eq_ok, Prod.mk.injEq]

theorem addAdapter_eq_ok {ctx : AddAdapter} {args : AddAdapterArgs} :
    addAdapter E s ctx args = .ok (t, o) ↔ ∃ config,
      ByAdmin s ctx.integratorConfig args.integratorProgramId ctx.admin config ∧
      ctx.adapterInfo = E.pda (.adapterInfo args.integratorProgramId args.adapterProgramId) ∧
      s.accounts ctx.adapterInfo = none ∧
      config.adapterInfos.length < 128 ∧
      t = (s.set ctx.integratorConfig (.integratorConfig
          { config with adapterInfos := config.adapterInfos ++ [args.adapterProgramId] })).set
          ctx.adapterInfo (.adapterInfo
          { bump := E.canonicalBump
              (Seeds.adapterInfo args.integratorProgramId args.adapterProgramId).bytes
            index := BitVec.ofNat 8 config.adapterInfos.length
            integratorProgramId := args.integratorProgramId
            adapterProgramId := args.adapterProgramId }) ∧
      o = { event := .adapterAdded args.integratorProgramId args.adapterProgramId
              (BitVec.ofNat 8 config.adapterInfos.length) } := by
  simp only [addAdapter, load_bind_eq_ok, init, require_bind_eq_ok,
    IntegratorConfig.checkAdmin_bind_eq_ok, IntegratorConfig.addAdapter_bind_eq_ok, pure_eq_ok,
    Prod.mk.injEq]
  constructor
  · rintro ⟨config, hconfig, hinfo, hnone, hseeds, hadmin, hpending, hrest⟩
    exact ⟨config, ⟨⟨hconfig, hseeds⟩, hadmin, hpending⟩, hinfo, hnone, hrest⟩
  · rintro ⟨config, ⟨⟨hconfig, hseeds⟩, hadmin, hpending⟩, hinfo, hnone, hrest⟩
    exact ⟨config, hconfig, hinfo, hnone, hseeds, hadmin, hpending, hrest⟩

theorem enableAdapter_eq_ok {d : Direction} {ctx : SetAdapter} {args : AdapterInfoArgs} :
    enableAdapter d E s ctx args = .ok (t, o) ↔
      ∃ (config : IntegratorConfig) (info : AdapterInfo)
        (chainConfig chainConfig' : IntegratorChainConfig),
      ByAdmin s ctx.integratorConfig args.integratorProgramId ctx.admin config ∧
      Derived s ctx.adapterInfo (.adapterInfo args.integratorProgramId args.adapterProgramId)
        info.bump (.adapterInfo info) ∧
      ctx.integratorChainConfig =
        E.pda (.integratorChainConfig args.integratorProgramId args.chainId) ∧
      LoadsOrNew s ctx.integratorChainConfig {} chainConfig ∧
      args.chainId ≠ 0#16 ∧
      chainConfig' = chainConfig.orNew E args.integratorProgramId args.chainId ∧
      info.index.toNat < 128 ∧
      info.index.toNat ∉ GmpRouter.Bitmap.indices (chainConfig'.bitmap d) ∧
      t = s.set ctx.integratorChainConfig (.integratorChainConfig
        (chainConfig'.setBitmap (Bitmap.put (chainConfig'.bitmap d) info.index true) d)) ∧
      o = { event :=
        enabledEvent d args.integratorProgramId args.chainId args.adapterProgramId } := by
  simp only [enableAdapter, load_bind_eq_ok, initIfNeeded_bind_eq_ok, require_bind_eq_ok,
    IntegratorConfig.checkAdmin_bind_eq_ok, Bitmap.get_bind_eq_ok, Bitmap.set_bind_eq_ok,
    pure_eq_ok,
    Prod.mk.injEq, decide_eq_false_iff_not]
  constructor
  · rintro ⟨config, hconfig, info, hinfo, hchain, chainConfig, hnew, hseeds, hseeds', hadmin,
      hpending, hne, hlt, hmem, -, ht, ho⟩
    exact ⟨config, info, chainConfig, _, ⟨⟨hconfig, hseeds⟩, hadmin, hpending⟩, ⟨hinfo, hseeds'⟩,
      hchain, hnew, hne, rfl, hlt, hmem, ht, ho⟩
  · rintro ⟨config, info, chainConfig, _, ⟨⟨hconfig, hseeds⟩, hadmin, hpending⟩, ⟨hinfo, hseeds'⟩,
      hchain, hnew, hne, rfl, hlt, hmem, ht, ho⟩
    exact ⟨config, hconfig, info, hinfo, hchain, chainConfig, hnew, hseeds, hseeds', hadmin,
      hpending, hne, hlt, hmem, hlt, ht, ho⟩

theorem disableAdapter_eq_ok {d : Direction} {ctx : SetAdapter} {args : AdapterInfoArgs} :
    disableAdapter d E s ctx args = .ok (t, o) ↔
      ∃ (config : IntegratorConfig) (info : AdapterInfo) (chainConfig : IntegratorChainConfig),
      ByAdmin s ctx.integratorConfig args.integratorProgramId ctx.admin config ∧
      Derived s ctx.adapterInfo (.adapterInfo args.integratorProgramId args.adapterProgramId)
        info.bump (.adapterInfo info) ∧
      ctx.integratorChainConfig =
        E.pda (.integratorChainConfig args.integratorProgramId args.chainId) ∧
      s.accounts ctx.integratorChainConfig = some (.integratorChainConfig chainConfig) ∧
      info.index.toNat < 128 ∧
      info.index.toNat ∈ GmpRouter.Bitmap.indices (chainConfig.bitmap d) ∧
      t = s.set ctx.integratorChainConfig (.integratorChainConfig
        (chainConfig.setBitmap (Bitmap.put (chainConfig.bitmap d) info.index false) d)) ∧
      o = { event :=
        disabledEvent d args.integratorProgramId args.chainId args.adapterProgramId } := by
  simp only [disableAdapter, load_bind_eq_ok, require_bind_eq_ok,
    IntegratorConfig.checkAdmin_bind_eq_ok, Bitmap.get_bind_eq_ok, Bitmap.set_bind_eq_ok,
    pure_eq_ok,
    Prod.mk.injEq, decide_eq_true_eq]
  constructor
  · rintro ⟨config, hconfig, chainConfig, hload, info, hinfo, hseeds, hchain, hseeds', hadmin,
      hpending, hlt, hmem, -, ht, ho⟩
    exact ⟨config, info, chainConfig, ⟨⟨hconfig, hseeds⟩, hadmin, hpending⟩, ⟨hinfo, hseeds'⟩,
      hchain, hload, hlt, hmem, ht, ho⟩
  · rintro ⟨config, info, chainConfig, ⟨⟨hconfig, hseeds⟩, hadmin, hpending⟩, ⟨hinfo, hseeds'⟩,
      hchain, hload, hlt, hmem, ht, ho⟩
    exact ⟨config, hconfig, chainConfig, hload, info, hinfo, hseeds, hchain, hseeds', hadmin,
      hpending, hlt, hmem, hlt, ht, ho⟩

theorem updateAdmin_eq_ok {ctx : AdminContext} {args : NewAdminArgs} :
    updateAdmin s ctx args = .ok (t, o) ↔ ∃ config,
      ByAdmin s ctx.integratorConfig args.integratorProgramId ctx.admin config ∧
      t = s.set ctx.integratorConfig
        (.integratorConfig { config with admin := some args.newAdmin }) ∧
      o = { event := .adminUpdated args.integratorProgramId args.newAdmin args.newAdmin } := by
  simp only [updateAdmin, load_bind_eq_ok, require_bind_eq_ok,
    IntegratorConfig.checkAdmin_bind_eq_ok, orFail_bind_eq_ok, pure_eq_ok, Prod.mk.injEq]
  constructor
  · rintro ⟨config, hconfig, hseeds, hadmin, hpending, _, ⟨⟩, ht, ho⟩
    exact ⟨config, ⟨⟨hconfig, hseeds⟩, hadmin, hpending⟩, ht, ho⟩
  · rintro ⟨config, ⟨⟨hconfig, hseeds⟩, hadmin, hpending⟩, ht, ho⟩
    exact ⟨config, hconfig, hseeds, hadmin, hpending, _, rfl, ht, ho⟩

theorem transferAdmin_eq_ok {ctx : AdminContext} {args : NewAdminArgs} :
    transferAdmin s ctx args = .ok (t, o) ↔ ∃ config,
      ByAdmin s ctx.integratorConfig args.integratorProgramId ctx.admin config ∧
      t = s.set ctx.integratorConfig
        (.integratorConfig { config with pendingAdmin := some args.newAdmin }) ∧
      o = { event := .adminUpdateRequested args.integratorProgramId ctx.admin args.newAdmin } := by
  simp only [transferAdmin, load_bind_eq_ok, require_bind_eq_ok,
    IntegratorConfig.checkAdmin_bind_eq_ok, pure_eq_ok, Prod.mk.injEq]
  constructor
  · rintro ⟨config, hconfig, hseeds, hadmin, hpending, ht, ho⟩
    exact ⟨config, ⟨⟨hconfig, hseeds⟩, hadmin, hpending⟩, ht, ho⟩
  · rintro ⟨config, ⟨⟨hconfig, hseeds⟩, hadmin, hpending⟩, ht, ho⟩
    exact ⟨config, hconfig, hseeds, hadmin, hpending, ht, ho⟩

theorem discardAdmin_eq_ok {ctx : AdminContext} :
    discardAdmin s ctx = .ok (t, o) ↔ ∃ config,
      ByAdmin s ctx.integratorConfig config.integratorProgramId ctx.admin config ∧
      t = s.set ctx.integratorConfig (.integratorConfig { config with admin := none }) ∧
      o = { event := .adminDiscarded config.integratorProgramId } := by
  simp only [discardAdmin, load_bind_eq_ok, require_bind_eq_ok,
    IntegratorConfig.checkAdmin_bind_eq_ok, pure_eq_ok, Prod.mk.injEq]
  constructor
  · rintro ⟨config, hconfig, hseeds, hadmin, hpending, ht, ho⟩
    exact ⟨config, ⟨⟨hconfig, hseeds⟩, hadmin, hpending⟩, ht, ho⟩
  · rintro ⟨config, ⟨⟨hconfig, hseeds⟩, hadmin, hpending⟩, ht, ho⟩
    exact ⟨config, hconfig, hseeds, hadmin, hpending, ht, ho⟩

theorem claimAdmin_eq_ok {ctx : ClaimAdmin} :
    claimAdmin s ctx = .ok (t, o) ↔ ∃ config,
      s.accounts ctx.integratorConfig = some (.integratorConfig config) ∧
      config.admin ≠ none ∧ config.pendingAdmin ≠ none ∧
      (config.pendingAdmin = some ctx.newAdmin ∨ config.admin = some ctx.newAdmin) ∧
      t = s.set ctx.integratorConfig (.integratorConfig
        { config with admin := some ctx.newAdmin, pendingAdmin := none }) ∧
      o = { event := .adminUpdated config.integratorProgramId ctx.newAdmin ctx.newAdmin } := by
  simp only [claimAdmin, load_bind_eq_ok, require_bind_eq_ok, orFail_bind_eq_ok, pure_eq_ok,
    Prod.mk.injEq]
  constructor
  · rintro ⟨config, hconfig, hadmin, hpending, hsigner, _, ⟨⟩, ht, ho⟩
    exact ⟨config, hconfig, hadmin, hpending, hsigner, ht, ho⟩
  · rintro ⟨config, hconfig, hadmin, hpending, hsigner, ht, ho⟩
    exact ⟨config, hconfig, hadmin, hpending, hsigner, _, rfl, ht, ho⟩

/-! ## Messages -/

theorem sendMessage_eq_ok {ctx : SendMessage} {args : SendMessageArgs} :
    sendMessage s ctx args = .ok (t, o) ↔
      ∃ (chainConfig : IntegratorChainConfig) (tracker : SequenceTracker),
      Derived s ctx.integratorChainConfig
        (.integratorChainConfig args.integratorProgramId args.dstChain)
        chainConfig.bump (.integratorChainConfig chainConfig) ∧
      Derived s ctx.sequenceTracker (.sequenceTracker args.integratorProgramId) tracker.bump
        (.sequenceTracker tracker) ∧
      ctx.outboxMessage ≠ ctx.payer ∧
      s.accounts (.external ctx.outboxMessage) = none ∧
      ctx.integratorProgramPda =
        integratorProgramPda args.integratorProgramId args.integratorProgramPdaBump ∧
      chainConfig.sendAdapterBitmap ≠ 0#128 ∧
      tracker.sequence ≠ BitVec.allOnes 64 ∧
      t = (s.set ctx.sequenceTracker
          (.sequenceTracker { tracker with sequence := tracker.sequence + 1#64 })).set
          (.external ctx.outboxMessage) (.outboxMessage
          { srcAddr := args.integratorProgramId
            sequence := tracker.sequence
            dstChain := args.dstChain
            dstAddr := args.dstAddr
            payloadHash := args.payloadHash
            outstandingAdapters := chainConfig.sendAdapterBitmap
            refundRecipient := ctx.payer }) ∧
      o = { event := .messageSent args.integratorProgramId (tracker.sequence + 1#64) args.dstAddr
              args.dstChain args.payloadHash } := by
  simp only [sendMessage, load_bind_eq_ok, init, require_bind_eq_ok,
    SequenceTracker.nextSequence_bind_eq_ok, pure_eq_ok, Prod.mk.injEq]
  constructor
  · rintro ⟨chainConfig, hload, tracker, hload', hpayer, hnone, hpda, hseeds, hseeds', hrest⟩
    exact ⟨chainConfig, tracker, ⟨hload, hseeds⟩, ⟨hload', hseeds'⟩, hpayer, hnone, hpda, hrest⟩
  · rintro ⟨chainConfig, tracker, ⟨hload, hseeds⟩, ⟨hload', hseeds'⟩, hpayer, hnone, hpda, hrest⟩
    exact ⟨chainConfig, hload, tracker, hload', hpayer, hnone, hpda, hseeds, hseeds', hrest⟩

/-- The message once the adapter with the index has picked it up. -/
def OutboxMessage.pickUp (message : OutboxMessage) (index : BitVec 8) : OutboxMessage :=
  { message with outstandingAdapters := Bitmap.put message.outstandingAdapters index false }

theorem pickUpMessage_eq_ok {ctx : PickUpMessage} {args : PickUpMessageArgs} :
    pickUpMessage s ctx args = .ok (t, o) ↔
      ∃ (message : OutboxMessage) (info : AdapterInfo),
      s.accounts ctx.outboxMessage = some (.outboxMessage message) ∧
      Derived s ctx.adapterInfo (.adapterInfo message.srcAddr args.adapterProgramId) info.bump
        (.adapterInfo info) ∧
      message.refundRecipient = ctx.refundRecipient ∧
      ctx.adapterPda = adapterPda args.adapterProgramId args.adapterPdaBump ∧
      info.index.toNat ∈ GmpRouter.Bitmap.indices message.outstandingAdapters ∧
      t = (if (message.pickUp info.index).outstandingAdapters = 0#128 then s.close ctx.outboxMessage
        else s.set ctx.outboxMessage (.outboxMessage (message.pickUp info.index))) ∧
      o = { event := .messagePickedUp message.srcAddr message.sequence message.dstChain
              message.dstAddr message.payloadHash args.adapterProgramId
              (message.pickUp info.index).outstandingAdapters
            refund := if (message.pickUp info.index).outstandingAdapters = 0#128
              then some ctx.refundRecipient else none } := by
  simp only [pickUpMessage, load_bind_eq_ok, require_bind_eq_ok, Bitmap.getOrFalse_eq,
    decide_eq_true_eq, Bitmap.set_bind_eq_ok, pure_eq_ok, Prod.mk.injEq]
  constructor
  · rintro ⟨message, hload, info, hinfo, hrefund, hseeds, hpda, hmem, -, ht, ho⟩
    exact ⟨message, info, hload, ⟨hinfo, hseeds⟩, hrefund, hpda, hmem, ht, ho⟩
  · rintro ⟨message, info, hload, ⟨hinfo, hseeds⟩, hrefund, hpda, hmem, ht, ho⟩
    exact ⟨message, hload, info, hinfo, hrefund, hseeds, hpda, hmem,
      GmpRouter.Bitmap.lt_of_mem_indices hmem, ht, ho⟩

/-- The data of a new attestation account. -/
def AttestationInfo.fresh (E : Env) (bump : Byte) (m : Message) : AttestationInfo where
  bump := bump
  srcChain := m.srcChain
  srcAddr := m.srcAddr
  sequence := m.sequence
  dstChain := m.dstChain
  dstAddr := m.dstAddr
  payloadHash := m.payloadHash
  messageHash := computeMessageHash E m

theorem AttestationInfo.orNew_eq_ok {info info' : AttestationInfo} {bump : Byte} {m : Message} :
    info.orNew E bump m = .ok info' ↔
      info.srcChain = 0#16 ∧ (m.srcChain ≠ 0#16 ∧ m.dstChain ≠ 0#16) ∧ info' = fresh E bump m ∨
      info.srcChain ≠ 0#16 ∧ info' = info := by
  unfold orNew
  split
  · next h => simp only [h, new, require_bind_eq_ok, pure_eq_ok, fresh, true_and, not_true, ne_eq,
      false_and, or_false]
  · next h => simp only [h, pure_eq_ok, ne_eq, not_false_eq_true, true_and, false_and, false_or]

theorem attestMessage_eq_ok {ctx : AttestMessage} {args : AttestMessageArgs} :
    attestMessage E s ctx args = .ok (t, o) ↔
      ∃ (adapter : AdapterInfo) (chainConfig : IntegratorChainConfig)
        (info info' : AttestationInfo),
      Derived s ctx.adapterInfo (.adapterInfo args.integratorProgramId args.adapterProgramId)
        adapter.bump (.adapterInfo adapter) ∧
      ctx.adapterPda = adapterPda args.adapterProgramId args.adapterPdaBump ∧
      Derived s ctx.integratorChainConfig
        (.integratorChainConfig args.integratorProgramId args.srcChain)
        chainConfig.bump (.integratorChainConfig chainConfig) ∧
      ctx.attestationInfo = E.pda (attestationSeeds E args.message) ∧
      LoadsOrNew s ctx.attestationInfo {} info ∧
      args.dstChain = CHAIN_ID ∧
      adapter.index.toNat ∈ GmpRouter.Bitmap.indices chainConfig.recvAdapterBitmap ∧
      info.orNew E (E.canonicalBump (attestationSeeds E args.message).bytes) args.message =
        .ok info' ∧
      adapter.index.toNat ∉ GmpRouter.Bitmap.indices info'.attestedAdapters ∧
      t = s.set ctx.attestationInfo (.attestationInfo
        { info' with attestedAdapters := Bitmap.put info'.attestedAdapters adapter.index true }) ∧
      o = { event := .messageAttestedTo info'.messageHash args.message
              (Bitmap.put info'.attestedAdapters adapter.index true) args.adapterProgramId } := by
  simp only [attestMessage, load_bind_eq_ok, initIfNeeded_bind_eq_ok, require_bind_eq_ok,
    Bitmap.getOrFalse_eq, decide_eq_true_eq]
  simp only [bind_eq_ok (x := AttestationInfo.orNew ..), require_bind_eq_ok, Bitmap.set_bind_eq_ok,
    pure_eq_ok, Prod.mk.injEq, decide_eq_false_iff_not]
  constructor
  · rintro ⟨adapter, hload, chainConfig, hload', hattestation, info, hnew, hseeds, hpda,
      hseeds', hdst, hmem, info', hinfo', hmem', -, ht, ho⟩
    exact ⟨adapter, chainConfig, info, info', ⟨hload, hseeds⟩, hpda, ⟨hload', hseeds'⟩,
      hattestation, hnew, hdst, hmem, hinfo', hmem', ht, ho⟩
  · rintro ⟨adapter, chainConfig, info, info', ⟨hload, hseeds⟩, hpda, ⟨hload', hseeds'⟩,
      hattestation, hnew, hdst, hmem, hinfo', hmem', ht, ho⟩
    exact ⟨adapter, hload, chainConfig, hload', hattestation, info, hnew, hseeds, hpda,
      hseeds', hdst, hmem, info', hinfo', hmem', GmpRouter.Bitmap.lt_of_mem_indices hmem, ht, ho⟩

theorem recvMessage_eq_ok {ctx : RecvMessage} {args : RecvMessageArgs} :
    recvMessage E s ctx args = .ok (t, o) ↔
      ∃ (chainConfig : IntegratorChainConfig) (info : AttestationInfo),
      ctx.integratorProgramPda =
        integratorProgramPda args.integratorProgramId args.integratorProgramPdaBump ∧
      Derived s ctx.integratorChainConfig
        (.integratorChainConfig args.integratorProgramId args.srcChain)
        chainConfig.bump (.integratorChainConfig chainConfig) ∧
      Derived s ctx.attestationInfo (attestationSeeds E args.message) info.bump
        (.attestationInfo info) ∧
      info.executed = false ∧
      t = s.set ctx.attestationInfo (.attestationInfo { info with executed := true }) ∧
      o = { event := .messageReceived info.messageHash info.message chainConfig.recvAdapterBitmap
              info.attestedAdapters } := by
  simp only [recvMessage, load_bind_eq_ok, require_bind_eq_ok, pure_eq_ok, Prod.mk.injEq]
  constructor
  · rintro ⟨chainConfig, hload, info, hload', hpda, hseeds, hseeds', hrest⟩
    exact ⟨chainConfig, info, hpda, ⟨hload, hseeds⟩, ⟨hload', hseeds'⟩, hrest⟩
  · rintro ⟨chainConfig, info, hpda, ⟨hload, hseeds⟩, ⟨hload', hseeds'⟩, hrest⟩
    exact ⟨chainConfig, hload, info, hload', hpda, hseeds, hseeds', hrest⟩

theorem execMessage_eq_ok {ctx : ExecMessage} {args : RecvMessageArgs} :
    execMessage E s ctx args = .ok (t, o) ↔
      ∃ info info' : AttestationInfo,
      ctx.attestationInfo = E.pda (attestationSeeds E args.message) ∧
      LoadsOrNew s ctx.attestationInfo {} info ∧
      ctx.integratorProgramPda =
        integratorProgramPda args.integratorProgramId args.integratorProgramPdaBump ∧
      info.executed = false ∧
      info.orNew E (E.canonicalBump (attestationSeeds E args.message).bytes) args.message =
        .ok info' ∧
      t = s.set ctx.attestationInfo (.attestationInfo { info' with executed := true }) ∧
      o = { event := .messageExecuted info'.messageHash args.message } := by
  simp only [execMessage, initIfNeeded_bind_eq_ok, require_bind_eq_ok]
  simp only [bind_eq_ok, pure_eq_ok, Prod.mk.injEq]
  constructor
  · rintro ⟨hattestation, info, hnew, hpda, hexecuted, info', hrest⟩
    exact ⟨info, info', hattestation, hnew, hpda, hexecuted, hrest⟩
  · rintro ⟨info, info', hattestation, hnew, hpda, hexecuted, hrest⟩
    exact ⟨hattestation, info, hnew, hpda, hexecuted, info', hrest⟩

end GmpRouter.Svm
