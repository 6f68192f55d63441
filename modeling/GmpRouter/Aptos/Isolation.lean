import GmpRouter.Aptos.Simulation
import GmpRouter.Foundations.Partition

/-!
# The isolation of integrators on Aptos

A call reads and writes the resources of one integrator, its messages of the outbox and the
attestations of messages to it (`SameFor`), which are distinct entries of the two tables of the
module account: the hash that is the key of an attestation covers the destination. So the endpoint
is a machine in independent parts, one for each integrator (`partition`), and calls for different
integrators can be reordered (`integrators_independent`).
-/

namespace GmpRouter.Aptos

open GmpRouter.Bitmap (indices)

variable {keccak256 : List Byte → Digest} {s t u v : State} {I J A admin newAdmin : Address}
  {x : Account} {o p : Output} {call : Call}

/-! ## The parts -/

/-- The integrator whose part of the state the call is about. -/
def Call.integrator : Call → Address
  | .register I _ | .updateAdmin _ I _ | .transferAdmin _ I _ | .claimAdmin _ I | .discardAdmin _ I
  | .addAdapter _ I _ | .enableSendAdapter _ I _ _ | .disableSendAdapter _ I _ _
  | .enableRecvAdapter _ I _ _ | .disableRecvAdapter _ I _ _ | .sendMessage I _ _ _
  | .pickUpMessage _ I _ | .recvMessage I _ _ _ _ _ | .execMessage I _ _ _ _ _ => I
  | .attestMessage _ _ _ _ _ dstAddr _ => beWord 256 dstAddr

/-- The digest is of messages to the integrator at most. -/
def DigestFor (keccak256 : List Byte → Digest) (I : Address) (digest : Digest) : Prop :=
  ∀ m, messageHash keccak256 m = digest → m.dstAddr = I

/-- The two states have the same part for the integrator. -/
structure SameFor (keccak256 : List Byte → Digest) (I : Address) (s u : State) : Prop where
  account : u.accounts I = s.accounts I
  outbox : ∀ sequence, u.outboxMessages ⟨I, sequence⟩ = s.outboxMessages ⟨I, sequence⟩
  inbox : ∀ digest, DigestFor keccak256 I digest →
    u.attestationInfos digest = s.attestationInfos digest

theorem sameFor_equivalence (keccak256 : List Byte → Digest) (I : Address) :
    Equivalence (SameFor keccak256 I) where
  refl _ := ⟨rfl, fun _ => rfl, fun _ _ => rfl⟩
  symm h := ⟨h.account.symm, fun n => (h.outbox n).symm, fun d hd => (h.inbox d hd).symm⟩
  trans h h' := ⟨h'.account.trans h.account, fun n => (h'.outbox n).trans (h.outbox n),
    fun d hd => (h'.inbox d hd).trans (h.inbox d hd)⟩

theorem digestFor_messageHash (hK : CollisionFree keccak256) (m : Message) :
    DigestFor keccak256 m.dstAddr (messageHash keccak256 m) :=
  fun _ h => congrArg Message.dstAddr (hK.eq h)

/-- States with the same parts are equal. -/
theorem eq_of_sameFor (hK : CollisionFree keccak256) (h : ∀ I, SameFor keccak256 I s u) :
    s = u := by
  obtain ⟨accounts, outboxMessages, attestationInfos⟩ := s
  obtain ⟨accounts', outboxMessages', attestationInfos'⟩ := u
  obtain rfl : accounts' = accounts := funext fun I => (h I).account
  obtain rfl : outboxMessages' = outboxMessages := funext fun key => (h key.integratorAddr).outbox _
  obtain rfl : attestationInfos' = attestationInfos := by
    funext digest
    by_cases hdigest : ∃ m, messageHash keccak256 m = digest
    · obtain ⟨m, rfl⟩ := hdigest
      exact (h m.dstAddr).inbox _ (digestFor_messageHash hK m)
    · exact (h 0#256).inbox _ fun m hm => absurd ⟨m, hm⟩ hdigest
  rfl

/-! ## Writing a part -/

/-- The second pair of states is the first with one part rewritten, in the same way. -/
structure Rewrites (keccak256 : List Byte → Digest) (I : Address) (s u t v : State) : Prop where
  same : SameFor keccak256 I t v
  others : ∀ J, J ≠ I → SameFor keccak256 J s t

namespace Rewrites

theorem setAccount (h : SameFor keccak256 I s u) (x : Account) :
    Rewrites keccak256 I s u (s.setAccount I x) (u.setAccount I x) where
  same := by
    refine ⟨?_, h.outbox, h.inbox⟩
    simp only [State.setAccount, Function.update_self]
  others J hJ := ⟨Function.update_of_ne hJ .., fun _ => rfl, fun _ _ => rfl⟩

theorem setOutbox (h : SameFor keccak256 I s u) (sequence : BitVec 64) (m : Option OutboxMessage) :
    Rewrites keccak256 I s u
      { s with outboxMessages := Function.update s.outboxMessages ⟨I, sequence⟩ m }
      { u with outboxMessages := Function.update u.outboxMessages ⟨I, sequence⟩ m } where
  same := by
    refine ⟨h.account, fun n => ?_, h.inbox⟩
    simp only [Function.update_apply, h.outbox]
  others J hJ := by
    refine ⟨rfl, fun n => ?_, fun _ _ => rfl⟩
    exact Function.update_of_ne (fun hkey => hJ (OutboxMessageKey.mk.inj hkey).1) ..

theorem setAttestation (h : SameFor keccak256 I s u) {m : Message} (hm : m.dstAddr = I)
    (info : AttestationInfo) : Rewrites keccak256 I s u
      { s with attestationInfos := s.attestationInfos.upsert (messageHash keccak256 m) info }
      { u with attestationInfos := u.attestationInfos.upsert (messageHash keccak256 m) info } where
  same := by
    refine ⟨h.account, h.outbox, fun digest hdigest => ?_⟩
    simp only [Table.upsert, Function.update_apply, h.inbox digest hdigest]
  others J hJ := by
    refine ⟨rfl, fun _ => rfl, fun digest hdigest => Table.upsert_of_ne ?_ _ _⟩
    rintro rfl
    exact hJ ((hdigest m rfl).symm.trans hm)

theorem trans {t' v' : State} (h : Rewrites keccak256 I s u t v)
    (h' : Rewrites keccak256 I t v t' v') : Rewrites keccak256 I s u t' v' where
  same := h'.same
  others J hJ := (sameFor_equivalence keccak256 J).trans (h.others J hJ) (h'.others J hJ)

end Rewrites

/-! ## The functions of the module `integrator` -/

/-- The function writes the resources of the integrator, as they are. -/
def WritesAccount (I : Address) (f : State → Except Error State) : Prop :=
  ∀ s t, f s = .ok t → ∃ x, t = s.setAccount I x ∧
    ∀ u, u.accounts I = s.accounts I → f u = .ok (u.setAccount I x)

namespace Integrator

theorem newIntegrator_writesAccount : WritesAccount I (newIntegrator · I admin) := by
  intro s t h
  obtain ⟨h₁, h₂, h₃, h₄, h₅, h₆, h₇, rfl⟩ := newIntegrator_eq_ok.1 h
  refine ⟨_, rfl, fun u hu => newIntegrator_eq_ok.2 ?_⟩
  rw [hu]
  exact ⟨h₁, h₂, h₃, h₄, h₅, h₆, h₇, rfl⟩

theorem updateAdmin_writesAccount : WritesAccount I (updateAdmin · admin I newAdmin) := by
  intro s t h
  obtain ⟨hconfig, hne, rfl⟩ := updateAdmin_eq_ok.1 h
  refine ⟨_, rfl, fun u hu => updateAdmin_eq_ok.2 ?_⟩
  rw [setAdminConfig, hu]
  exact ⟨hconfig, hne, rfl⟩

theorem transferAdmin_writesAccount : WritesAccount I (transferAdmin · admin I newAdmin) := by
  intro s t h
  obtain ⟨hconfig, hne, rfl⟩ := transferAdmin_eq_ok.1 h
  refine ⟨_, rfl, fun u hu => transferAdmin_eq_ok.2 ?_⟩
  rw [setAdminConfig, hu]
  exact ⟨hconfig, hne, rfl⟩

theorem discardAdmin_writesAccount : WritesAccount I (discardAdmin · admin I) := by
  intro s t h
  obtain ⟨hconfig, rfl⟩ := discardAdmin_eq_ok.1 h
  refine ⟨_, rfl, fun u hu => discardAdmin_eq_ok.2 ?_⟩
  rw [setAdminConfig, hu]
  exact ⟨hconfig, rfl⟩

theorem claimAdmin_writesAccount : WritesAccount I (claimAdmin · newAdmin I) := by
  intro s t h
  obtain ⟨config, hconfig, hpending, hcaller, hadmin, rfl⟩ := claimAdmin_eq_ok.1 h
  refine ⟨_, rfl, fun u hu => claimAdmin_eq_ok.2 ?_⟩
  rw [setAdminConfig, hu]
  exact ⟨config, hconfig, hpending, hcaller, hadmin, rfl⟩

theorem addAdapter_writesAccount : WritesAccount I (addAdapter · admin I A) := by
  intro s t h
  obtain ⟨hconfig, adapters, table, hadapters, hnew, hlt, htable, hnone, rfl⟩ :=
    addAdapter_eq_ok.1 h
  refine ⟨_, rfl, fun u hu => addAdapter_eq_ok.2 ?_⟩
  rw [hu]
  exact ⟨hconfig, adapters, table, hadapters, hnew, hlt, htable, hnone, rfl⟩

theorem setAdapter_writesAccount {change : BitVec 128 → BitVec 8 → Except Error (BitVec 128)}
    {direction : Direction} {chain : ChainId} :
    WritesAccount I (setAdapter change direction · admin I chain A) := by
  intro s t h
  obtain ⟨hconfig, table, index, bitmaps, bitmap, htable, hindex, hbitmaps, hchange, rfl⟩ :=
    setAdapter_eq_ok.1 h
  refine ⟨_, rfl, fun u hu => setAdapter_eq_ok.2 ?_⟩
  rw [hu]
  exact ⟨hconfig, table, index, bitmaps, bitmap, htable, hindex, hbitmaps, hchange, rfl⟩

end Integrator

/-! ## Calls -/

/-- A call that succeeds does so in every state with the same part, and rewrites it in the same
way. -/
def Local (keccak256 : List Byte → Digest) (call : Call) : Prop :=
  ∀ s t o u, process keccak256 s call = .ok (t, o) → SameFor keccak256 call.integrator s u →
    ∃ v, process keccak256 u call = .ok (v, o) ∧ Rewrites keccak256 call.integrator s u t v

theorem WritesAccount.local {f : State → Except Error State} (hf : WritesAccount call.integrator f)
    (hcall : ∀ s, process keccak256 s call = noOutput (f s)) : Local keccak256 call := by
  intro s t o u h hsame
  rw [hcall] at h
  obtain ⟨hfs, rfl⟩ := noOutput_eq_ok.1 h
  obtain ⟨x, rfl, hwrites⟩ := hf s t hfs
  exact ⟨_, (hcall u).trans (noOutput_eq_ok.2 ⟨hwrites u hsame.account, rfl⟩), .setAccount hsame x⟩

theorem sendMessage_local {dstChain : ChainId} {dstAddr : UniversalAddress}
    {payloadHash : List Byte} : Local keccak256 (.sendMessage I dstChain dstAddr payloadHash) := by
  intro s t o u h hsame
  have hsame : SameFor keccak256 I s u := hsame
  obtain ⟨⟨sequence, t'⟩, hsend, h⟩ := bind_eq_ok.1 h
  obtain ⟨rfl, rfl⟩ := Prod.mk.inj (pure_eq_ok.1 h)
  obtain ⟨hlength, table, htable, hne, hcapability, hmax, hnone, rfl⟩ :=
    Endpoint.sendMessage_eq_ok.1 hsend
  have haccount := Rewrites.setAccount hsame
    { s.accounts I with integratorCapability := some ⟨sequence + 1#64⟩ }
  refine ⟨_, bind_eq_ok.2 ⟨⟨sequence, _⟩, ?_, rfl⟩,
    haccount.trans (.setOutbox haccount.same sequence (some _))⟩
  refine Endpoint.sendMessage_eq_ok.2 ⟨hlength, table, ?_⟩
  rw [hsame.account, hsame.outbox]
  exact ⟨htable, hne, hcapability, hmax, hnone, rfl⟩

theorem pickUpMessage_local {sequence : BitVec 64} :
    Local keccak256 (.pickUpMessage A I sequence) := by
  intro s t o u h hsame
  have hsame : SameFor keccak256 I s u := hsame
  obtain ⟨⟨message', t'⟩, hpickUp, h⟩ := bind_eq_ok.1 h
  obtain ⟨rfl, rfl⟩ := Prod.mk.inj (pure_eq_ok.1 h)
  obtain ⟨message, table, index, hm, htable, hindex, hlt, hmem, hmessage, rfl⟩ :=
    Endpoint.pickUpMessage_eq_ok.1 hpickUp
  have hupdate : ∀ w : State, (if message'.outstandingAdapters = 0#128
      then w.outboxMessages.remove ⟨I, sequence⟩
      else w.outboxMessages.upsert ⟨I, sequence⟩ message') =
        Function.update w.outboxMessages ⟨I, sequence⟩
          (if message'.outstandingAdapters = 0#128 then none else some message') := by
    intro w
    split <;> rfl
  rw [hupdate]
  refine ⟨_, bind_eq_ok.2 ⟨⟨message', _⟩, ?_, rfl⟩, .setOutbox hsame sequence _⟩
  refine Endpoint.pickUpMessage_eq_ok.2 ⟨message, table, index, ?_⟩
  rw [hsame.account, hsame.outbox, hupdate]
  exact ⟨hm, htable, hindex, hlt, hmem, hmessage, rfl⟩

theorem attestMessage_local (hK : CollisionFree keccak256) {srcChain dstChain : ChainId}
    {srcAddr dstAddr payloadHash : List Byte} {sequence : BitVec 64} :
    Local keccak256 (.attestMessage A srcChain srcAddr sequence dstChain dstAddr payloadHash) := by
  intro s t o u h hsame
  obtain ⟨hattest, rfl⟩ := noOutput_eq_ok.1 h
  obtain ⟨hsrc, hdst, hpayload, m, table, index, bitmaps, info, rfl, htable, hindex, hbitmaps,
    hlt, hmem,
    rfl, hnew, rfl⟩ := Endpoint.attestMessage_eq_ok.1 hattest
  have hinbox := hsame.inbox _ (digestFor_messageHash hK
    (Endpoint.messageOf srcChain srcAddr sequence dstChain dstAddr payloadHash))
  have hinfo : u.attestationInfos.borrowWithDefault (messageHash keccak256
      (Endpoint.messageOf srcChain srcAddr sequence dstChain dstAddr payloadHash)) {} =
        s.attestationInfos.borrowWithDefault (messageHash keccak256
          (Endpoint.messageOf srcChain srcAddr sequence dstChain dstAddr payloadHash)) {} := by
    rw [Table.borrowWithDefault, hinbox, Table.borrowWithDefault]
  refine ⟨_, noOutput_eq_ok.2 ⟨Endpoint.attestMessage_eq_ok.2 ⟨hsrc, hdst, hpayload, _,
    table, index, bitmaps, _, rfl, hsame.account ▸ htable, hindex, hsame.account ▸ hbitmaps, hlt,
    hmem, hinfo.symm, hnew, rfl⟩, rfl⟩, ?_⟩
  exact .setAttestation hsame rfl _

theorem recvMessage_local (hK : CollisionFree keccak256) {srcChain dstChain : ChainId}
    {srcAddr payloadHash : List Byte} {sequence : BitVec 64} :
    Local keccak256 (.recvMessage I srcChain srcAddr sequence dstChain payloadHash) := by
  intro s t o u h hsame
  have hsame : SameFor keccak256 I s u := hsame
  obtain ⟨⟨⟨enabled, attested⟩, t'⟩, hrecv, h⟩ := bind_eq_ok.1 h
  obtain ⟨rfl, rfl⟩ := Prod.mk.inj (pure_eq_ok.1 h)
  obtain ⟨hsrc, hpayload, m, info, table, rfl, hinfo, hexecuted, htable, rfl, rfl, rfl⟩ :=
    Endpoint.recvMessage_eq_ok.1 hrecv
  have hinbox := hsame.inbox _ (digestFor_messageHash hK
    (Endpoint.messageTo srcChain srcAddr sequence dstChain I payloadHash))
  refine ⟨_, bind_eq_ok.2 ⟨_, Endpoint.recvMessage_eq_ok.2 ⟨hsrc, hpayload, _, info, table, rfl,
    hinbox.trans hinfo, hexecuted, hsame.account ▸ htable, rfl, rfl, rfl⟩, rfl⟩, ?_⟩
  exact .setAttestation hsame rfl _

theorem execMessage_local (hK : CollisionFree keccak256) {srcChain dstChain : ChainId}
    {srcAddr payloadHash : List Byte} {sequence : BitVec 64} :
    Local keccak256 (.execMessage I srcChain srcAddr sequence dstChain payloadHash) := by
  intro s t o u h hsame
  have hsame : SameFor keccak256 I s u := hsame
  obtain ⟨hexec, rfl⟩ := noOutput_eq_ok.1 h
  obtain ⟨hsrc, hpayload, m, info, rfl, rfl, hexecuted, rfl⟩ := Endpoint.execMessage_eq_ok.1 hexec
  have hinbox := hsame.inbox _ (digestFor_messageHash hK
    (Endpoint.messageTo srcChain srcAddr sequence dstChain I payloadHash))
  have hinfo : u.attestationInfos.borrowWithDefault (messageHash keccak256
      (Endpoint.messageTo srcChain srcAddr sequence dstChain I payloadHash)) {} =
        s.attestationInfos.borrowWithDefault (messageHash keccak256
          (Endpoint.messageTo srcChain srcAddr sequence dstChain I payloadHash)) {} := by
    rw [Table.borrowWithDefault, hinbox, Table.borrowWithDefault]
  refine ⟨_, noOutput_eq_ok.2 ⟨Endpoint.execMessage_eq_ok.2 ⟨hsrc, hpayload, _, _, rfl, hinfo.symm,
    hexecuted, rfl⟩, rfl⟩, ?_⟩
  exact .setAttestation hsame rfl _

theorem process_local (hK : CollisionFree keccak256) (call : Call) : Local keccak256 call := by
  cases call with
  | register => exact Integrator.newIntegrator_writesAccount.local fun _ => rfl
  | updateAdmin => exact Integrator.updateAdmin_writesAccount.local fun _ => rfl
  | transferAdmin => exact Integrator.transferAdmin_writesAccount.local fun _ => rfl
  | claimAdmin => exact Integrator.claimAdmin_writesAccount.local fun _ => rfl
  | discardAdmin => exact Integrator.discardAdmin_writesAccount.local fun _ => rfl
  | addAdapter => exact Integrator.addAdapter_writesAccount.local fun _ => rfl
  | enableSendAdapter => exact Integrator.setAdapter_writesAccount.local fun _ => rfl
  | disableSendAdapter => exact Integrator.setAdapter_writesAccount.local fun _ => rfl
  | enableRecvAdapter => exact Integrator.setAdapter_writesAccount.local fun _ => rfl
  | disableRecvAdapter => exact Integrator.setAdapter_writesAccount.local fun _ => rfl
  | sendMessage => exact sendMessage_local
  | pickUpMessage => exact pickUpMessage_local
  | attestMessage => exact attestMessage_local hK
  | recvMessage => exact recvMessage_local hK
  | execMessage => exact execMessage_local hK

/-! ## Runs -/

theorem partition (hK : CollisionFree keccak256) :
    (machine keccak256).Partition Call.integrator (SameFor keccak256) where
  equivalence := sameFor_equivalence keccak256
  others s call t o hstep J hJ := by
    obtain ⟨v, -, hrewrites⟩ :=
      process_local hK call s t o s hstep ((sameFor_equivalence keccak256 _).refl s)
    exact hrewrites.others J hJ
  own s call t o u v p hstep hstep' hsame := by
    obtain ⟨v', hprocess, hrewrites⟩ := process_local hK call s t o u hstep hsame
    obtain ⟨rfl, rfl⟩ := Prod.mk.inj (Except.ok.inj (hstep'.symm.trans hprocess))
    exact ⟨rfl, hrewrites.same⟩

theorem decidedBy (hK : CollisionFree keccak256) :
    (machine keccak256).DecidedBy Call.integrator (SameFor keccak256) := by
  intro s call t o u hstep hsame
  obtain ⟨v, hprocess, -⟩ := process_local hK call s t o u hstep hsame
  exact ⟨v, o, hprocess⟩

/-- **Integrators do not interfere on Aptos.** In every run, the calls for an integrator leave its
resources, messages and attestations as they would alone, and have the same results. Two runs with
the same calls for each integrator, in the same order, end in the same state and give each call the
same result, however the calls for different integrators are interleaved. -/
theorem integrators_independent (hK : CollisionFree keccak256) (s : State) (calls : List Call) :
    (∀ I, SameFor keccak256 I ((machine keccak256).run s calls).1
        ((machine keccak256).run s (calls.filter (·.integrator = I))).1 ∧
      ((machine keccak256).answers s calls).filter (·.1.integrator = I) =
        (machine keccak256).answers s (calls.filter (·.integrator = I))) ∧
    ∀ calls', (∀ I : Address, calls.filter (·.integrator = I) = calls'.filter (·.integrator = I)) →
      ((machine keccak256).run s calls).1 = ((machine keccak256).run s calls').1 ∧
        ∀ I : Address, ((machine keccak256).answers s calls).filter (·.1.integrator = I) =
          ((machine keccak256).answers s calls').filter (·.1.integrator = I) := by
  have P := partition hK
  have D := decidedBy hK
  refine ⟨fun I => P.run D ((sameFor_equivalence keccak256 I).refl s) calls,
    fun calls' hcalls => ?_⟩
  exact ⟨eq_of_sameFor hK fun I => (P.run_of_filter D hcalls I).1,
    fun I => (P.run_of_filter D hcalls I).2⟩

/-- Two integrators register, and their admins add the same adapter; in the second list integrator
20 does so first, and the admin of integrator 10 tries to add its own adapter to it. -/
def sampleConfiguring : List Call :=
  [.register 10#256 11#256, .addAdapter 11#256 10#256 12#256, .register 20#256 21#256,
    .addAdapter 11#256 20#256 11#256, .addAdapter 21#256 20#256 12#256]

def sampleReordered : List Call :=
  [.register 20#256 21#256, .addAdapter 11#256 20#256 11#256, .register 10#256 11#256,
    .addAdapter 21#256 20#256 12#256, .addAdapter 11#256 10#256 12#256]

theorem integrators_independent_sample :
    ((machine id).run .init sampleConfiguring).2.length = 4 ∧
      ((machine id).run .init sampleConfiguring).1 =
        ((machine id).run .init sampleReordered).1 := by
  refine ⟨by decide +kernel,
    ((integrators_independent collisionFree_id .init sampleConfiguring).2 sampleReordered ?_).1⟩
  intro I
  simp only [sampleConfiguring, sampleReordered, List.filter_cons, Call.integrator, List.filter_nil]
  by_cases hI : 10#256 = I
  · subst hI
    decide
  · simp [hI]

end GmpRouter.Aptos
