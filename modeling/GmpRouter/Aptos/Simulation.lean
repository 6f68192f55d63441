import GmpRouter.Aptos.Refinement

/-!
# Calls of the Aptos endpoint are steps of the router

For each function, that it is sound (when it returns, the router makes the step of the call, with
the same output) and complete (when the router makes the step and the guards of the call hold, it
returns). The swaps, fills and extractions of options need the invariant of the router here: a
pending admin implies an admin.
-/

namespace GmpRouter.Aptos

open GmpRouter.Bitmap (indices)

variable {s t : State} {a : Router.State} {keccak256 : List Byte → Digest}

/-! ## The correspondence -/

def messageHash (keccak256 : List Byte → Digest) (m : Message) : Digest := keccak256 m.encodePacked

/-- The operation of the router that the call makes. -/
def Call.op : Call → Router.Op
  | .register integratorAcct adminAddr => .register integratorAcct adminAddr
  | .updateAdmin admin I newAdmin => .configure admin I (.updateAdmin newAdmin)
  | .transferAdmin admin I newAdmin => .configure admin I (.transferAdmin newAdmin)
  | .claimAdmin newAdmin I => .claimAdmin newAdmin I
  | .discardAdmin admin I => .configure admin I .discardAdmin
  | .addAdapter admin I A => .configure admin I (.addAdapter A)
  | .enableSendAdapter admin I chain A => .configure admin I (.setAdapter .send true chain A)
  | .disableSendAdapter admin I chain A => .configure admin I (.setAdapter .send false chain A)
  | .enableRecvAdapter admin I chain A => .configure admin I (.setAdapter .recv true chain A)
  | .disableRecvAdapter admin I chain A => .configure admin I (.setAdapter .recv false chain A)
  | .sendMessage I dstChain dstAddr payloadHash =>
    .send I dstChain dstAddr.toAddress (beWord 256 payloadHash)
  | .pickUpMessage A I sequence => .pickUp A I sequence
  | .attestMessage A srcChain srcAddr sequence dstChain dstAddr payloadHash =>
    .attest A (Endpoint.messageOf srcChain srcAddr sequence dstChain dstAddr payloadHash)
  | .recvMessage I srcChain srcAddr sequence dstChain payloadHash =>
    .recv (Endpoint.messageTo srcChain srcAddr sequence dstChain I payloadHash)
  | .execMessage I srcChain srcAddr sequence dstChain payloadHash =>
    .exec (Endpoint.messageTo srcChain srcAddr sequence dstChain I payloadHash)

/-- The guards that the router does not have. -/
def Call.Guard : Call → Prop
  | .register _ newAdmin | .updateAdmin _ _ newAdmin | .transferAdmin _ _ newAdmin =>
    newAdmin ≠ 0#256
  | .sendMessage _ _ _ payloadHash => payloadHash.length = 32
  | .attestMessage _ _ srcAddr _ _ dstAddr payloadHash =>
    srcAddr.length = 32 ∧ dstAddr.length = 32 ∧ payloadHash.length = 32
  | .recvMessage _ _ srcAddr _ _ payloadHash | .execMessage _ _ srcAddr _ _ payloadHash =>
    srcAddr.length = 32 ∧ payloadHash.length = 32
  | _ => True

def Output.out : Output → Router.Out
  | .unit => .unit
  | .sequence n => .sequence n
  | .message m => .pickedUp m.outgoing
  | .adapters enabled attested => .received (indices enabled) (indices attested)

/-- The call returns exactly when the router makes the step of the operation and the guard holds,
and then it is that step. -/
structure Simulates (keccak256 : List Byte → Digest) (a : Router.State)
    (x : Except Error (State × Output)) (guard : Prop) (op : Router.Op) : Prop where
  sound : ∀ {t o}, x = .ok (t, o) → guard ∧
    ∃ b, Router.step (messageHash keccak256) a op = .ok (b, o.out) ∧ Represents t b
  complete : ∀ {r}, guard → Router.step (messageHash keccak256) a op = .ok r → ∃ r', x = .ok r'

/-- A function without a value. -/
theorem Simulates.of_noOutput {x : Except Error State} {guard : Prop} {op : Router.Op}
    (sound : ∀ {t}, x = .ok t → guard ∧
      ∃ b, Router.step (messageHash keccak256) a op = .ok (b, .unit) ∧ Represents t b)
    (complete : ∀ {r}, guard → Router.step (messageHash keccak256) a op = .ok r → ∃ t, x = .ok t) :
    Simulates keccak256 a (noOutput x) guard op where
  sound h := by
    obtain ⟨hx, rfl⟩ := noOutput_eq_ok.1 h
    exact sound hx
  complete hguard hstep := by
    obtain ⟨t, ht⟩ := complete hguard hstep
    exact ⟨_, noOutput_eq_ok.2 ⟨ht, rfl⟩⟩

namespace Refines

variable {I A admin newAdmin : Address} {chain : ChainId} {direction : Direction}
  {c : Router.Integrator}

/-! ## The module `integrator` -/

theorem newIntegrator (h : Refines s a) : Simulates keccak256 a
    (noOutput (Integrator.newIntegrator s I admin)) (admin ≠ 0#256) (.register I admin) := by
  refine .of_noOutput (fun ht => ?_) fun hguard hstep => ?_
  · obtain ⟨hnone, hadmin, -, -, -, -, -, rfl⟩ := Integrator.newIntegrator_eq_ok.1 ht
    have hI : a.integrators I = none := by
      by_contra hI
      obtain ⟨c, hc⟩ := Option.ne_none_iff_exists'.1 hI
      rw [(h.represents.published hc).capability] at hnone
      cases hnone
    exact ⟨hadmin, _, Router.register_eq_ok.2 ⟨hI, rfl, rfl⟩,
      h.represents.setAccount (Integrator.newAccount_published admin)⟩
  · obtain ⟨hI, -, -⟩ := Router.register_eq_ok.1 hstep
    have hx := h.represents.accounts I
    rw [hI] at hx
    have hx : s.accounts I = {} := hx
    refine ⟨_, Integrator.newIntegrator_eq_ok.2 ⟨?_, hguard, ?_, ?_, ?_, ?_, ?_, rfl⟩⟩ <;> rw [hx]

/-- A function of the admin of a registered integrator, which changes the resources as the router
changes the configuration. -/
theorem configure {x : Except Error State} {guard : Prop} {change : Router.Change} (h : Refines s a)
    (sound : ∀ {t}, x = .ok t → guard ∧ (s.accounts I).adminConfig = some ⟨some admin, none⟩ ∧
      ∀ c, Router.ByAdmin a admin I c → ∃ y c', change.apply c = .ok c' ∧ t = s.setAccount I y ∧
        y.Published c')
    (complete : ∀ {c c'}, guard → (s.accounts I).adminConfig = some ⟨some admin, none⟩ →
      Router.ByAdmin a admin I c → change.apply c = .ok c' → ∃ t, x = .ok t) :
    Simulates keccak256 a (noOutput x) guard (.configure admin I change) := by
  refine .of_noOutput (fun ht => ?_) fun hguard hstep => ?_
  · obtain ⟨hguard, hconfig, hchange⟩ := sound ht
    obtain ⟨c, hby⟩ := h.represents.byAdmin_iff.1 hconfig
    obtain ⟨y, c', happly, rfl, hy⟩ := hchange c hby
    exact ⟨hguard, _, Router.configure_eq_ok.2 ⟨c, c', hby, happly, rfl, rfl⟩,
      h.represents.setAccount hy⟩
  · obtain ⟨c, c', hby, happly, -, -⟩ := Router.configure_eq_ok.1 hstep
    exact complete hguard (h.represents.byAdmin_iff.2 ⟨c, hby⟩) hby happly

theorem updateAdmin (h : Refines s a) : Simulates keccak256 a
    (noOutput (Integrator.updateAdmin s admin I newAdmin)) (newAdmin ≠ 0#256)
    (.configure admin I (.updateAdmin newAdmin)) := by
  refine h.configure (fun ht => ?_) fun hguard hconfig hby _ =>
    ⟨_, Integrator.updateAdmin_eq_ok.2 ⟨hconfig, hguard, rfl⟩⟩
  obtain ⟨hconfig, hguard, rfl⟩ := Integrator.updateAdmin_eq_ok.1 ht
  refine ⟨hguard, hconfig, fun c hby => ⟨_, _, rfl, rfl, ?_⟩⟩
  exact { h.represents.published hby.integrator_eq with
    adminConfig := by rw [hby.pendingAdmin_eq] }

theorem transferAdmin (h : Refines s a) : Simulates keccak256 a
    (noOutput (Integrator.transferAdmin s admin I newAdmin)) (newAdmin ≠ 0#256)
    (.configure admin I (.transferAdmin newAdmin)) := by
  refine h.configure (fun ht => ?_) fun hguard hconfig hby _ =>
    ⟨_, Integrator.transferAdmin_eq_ok.2 ⟨hconfig, hguard, rfl⟩⟩
  obtain ⟨hconfig, hguard, rfl⟩ := Integrator.transferAdmin_eq_ok.1 ht
  refine ⟨hguard, hconfig, fun c hby => ⟨_, _, rfl, rfl, ?_⟩⟩
  exact { h.represents.published hby.integrator_eq with
    adminConfig := by rw [hby.admin_eq] }

theorem discardAdmin (h : Refines s a) : Simulates keccak256 a
    (noOutput (Integrator.discardAdmin s admin I)) True (.configure admin I .discardAdmin) := by
  refine h.configure (fun ht => ?_) fun hguard hconfig hby _ =>
    ⟨_, Integrator.discardAdmin_eq_ok.2 ⟨hconfig, rfl⟩⟩
  obtain ⟨hconfig, rfl⟩ := Integrator.discardAdmin_eq_ok.1 ht
  refine ⟨trivial, hconfig, fun c hby => ⟨_, _, rfl, rfl, ?_⟩⟩
  exact { h.represents.published hby.integrator_eq with
    adminConfig := by rw [hby.pendingAdmin_eq] }

/-- The option of the admin is set when it is swapped, since a pending admin implies an admin. -/
theorem claimAdmin (h : Refines s a) : Simulates keccak256 a
    (noOutput (Integrator.claimAdmin s newAdmin I)) True (.claimAdmin newAdmin I) := by
  refine .of_noOutput (fun ht => ?_) fun _ hstep => ?_
  · obtain ⟨config, hconfig, hpending, hcaller, -, rfl⟩ := Integrator.claimAdmin_eq_ok.1 ht
    obtain ⟨c, hc, rfl⟩ := h.represents.adminConfig_eq.1 hconfig
    refine ⟨trivial, _, Router.claimAdmin_eq_ok.2 ⟨c, hc, ?_, hcaller, rfl, rfl⟩, ?_⟩
    · exact Option.isSome_iff_ne_none.1 hpending
    · exact h.represents.setAccount { h.represents.published hc with adminConfig := rfl }
  · obtain ⟨c, hc, hpending, hcaller, -, -⟩ := Router.claimAdmin_eq_ok.1 hstep
    have hadmin := (h.inv.integrators _ _ hc).admin_ne_none hpending
    exact ⟨_, Integrator.claimAdmin_eq_ok.2 ⟨_, (h.represents.published hc).adminConfig,
      Option.isSome_iff_ne_none.2 hpending, hcaller, Option.isSome_iff_ne_none.2 hadmin, rfl⟩⟩

theorem addAdapter (h : Refines s a) : Simulates keccak256 a
    (noOutput (Integrator.addAdapter s admin I A)) True
    (.configure admin I (.addAdapter A)) := by
  refine h.configure (fun ht => ?_) fun {c c'} _ hconfig hby happly => ?_
  · obtain ⟨hconfig, adapters, index, hadapters, hnew, hlt, hindex, -, rfl⟩ :=
      Integrator.addAdapter_eq_ok.1 ht
    refine ⟨trivial, hconfig, fun c hby => ?_⟩
    have hx := h.represents.published hby.integrator_eq
    obtain rfl : adapters = c.adapters := by simpa using hadapters.symm.trans hx.adapters
    exact ⟨_, _, Router.addAdapter_eq_ok.2 ⟨hnew, hlt, rfl⟩, rfl, hx.addAdapter hnew hindex⟩
  · obtain ⟨hnew, hlt, -⟩ := Router.addAdapter_eq_ok.1 happly
    have hx := h.represents.published hby.integrator_eq
    obtain ⟨table, htable, hindex⟩ := hx.index
    have hnone : table A = none := by
      rw [hindex, List.idxOf?_eq_none_iff.2 hnew, Option.map_none]
    exact ⟨_, Integrator.addAdapter_eq_ok.2 ⟨hconfig, _, table, hx.adapters, hnew, hlt,
      htable, hnone,
      rfl⟩⟩

/-- The function enables the bit of an index, or disables it. -/
def SetsBit (change : BitVec 128 → BitVec 8 → Except Error (BitVec 128)) (on : Bool) : Prop :=
  ∀ bitmap index bitmap', change bitmap index = .ok bitmap' ↔ index.toNat < 128 ∧
    decide (index.toNat ∈ indices bitmap) ≠ on ∧ indices bitmap' =
      if on then insert index.toNat (indices bitmap) else (indices bitmap).erase index.toNat

theorem enable_setsBit : SetsBit Bitmap.enable true := by
  intro bitmap index bitmap'
  rw [Bitmap.enable_eq_ok]
  refine and_congr_right fun hlt => ?_
  rw [if_pos rfl, ← GmpRouter.Bitmap.indices_or_twoPow bitmap hlt,
    GmpRouter.Bitmap.indices_injective.eq_iff]
  simp

theorem disable_setsBit : SetsBit Bitmap.disable false := by
  intro bitmap index bitmap'
  rw [Bitmap.disable_eq_ok]
  refine and_congr_right fun _ => ?_
  rw [if_neg Bool.false_ne_true, ← GmpRouter.Bitmap.indices_and_not_twoPow,
    GmpRouter.Bitmap.indices_injective.eq_iff]
  simp

theorem SetsBit.exists_eq_ok {change : BitVec 128 → BitVec 8 → Except Error (BitVec 128)}
    {on : Bool} (hset : SetsBit change on) {bitmap : BitVec 128} {index : BitVec 8}
    (hlt : index.toNat < 128)
    (hne : decide (index.toNat ∈ indices bitmap) ≠ on) :
    ∃ bitmap', change bitmap index = .ok bitmap' := by
  cases on with
  | true => exact ⟨_, (hset _ _ _).2 ⟨hlt, hne, GmpRouter.Bitmap.indices_or_twoPow _ hlt⟩⟩
  | false => exact ⟨_, (hset _ _ _).2 ⟨hlt, hne, GmpRouter.Bitmap.indices_and_not_twoPow _ _⟩⟩

theorem setAdapter {change : BitVec 128 → BitVec 8 → Except Error (BitVec 128)} {on : Bool}
    (h : Refines s a) (hset : SetsBit change on) : Simulates keccak256 a
    (noOutput (Integrator.setAdapter change direction s admin I chain A)) True
    (.configure admin I (.setAdapter direction on chain A)) := by
  refine h.configure (fun ht => ?_) fun {c c'} _ hconfig hby happly => ?_
  · obtain ⟨hconfig, indexTable, index, table, bitmap, hindexTable, hindex, htable, hchange, rfl⟩ :=
      Integrator.setAdapter_eq_ok.1 ht
    refine ⟨trivial, hconfig, fun c hby => ?_⟩
    have hx := h.represents.published hby.integrator_eq
    have hc := h.inv.integrators _ _ hby.integrator_eq
    obtain ⟨hlt, hne, hbitmap⟩ := (hset _ _ _).1 hchange
    rw [← hx.enabled_eq htable] at hne hbitmap
    have hi := (hx.exists_index hc hindexTable).2 ⟨index, hindex, rfl, hlt⟩
    refine ⟨_, _, Router.setAdapter_eq_ok.2 ⟨_, hi, hne, rfl⟩, rfl, ?_⟩
    rw [← hbitmap]
    exact hx.setBitmap htable chain bitmap
  · obtain ⟨i, hi, hne, -⟩ := Router.setAdapter_eq_ok.1 happly
    have hx := h.represents.published hby.integrator_eq
    have hc := h.inv.integrators _ _ hby.integrator_eq
    obtain ⟨indexTable, hindexTable, -⟩ := hx.index
    obtain ⟨table, htable, -⟩ := hx.enabled direction
    obtain ⟨index, hindex, rfl, hlt⟩ := (hx.exists_index hc hindexTable).1 hi
    rw [hx.enabled_eq htable] at hne
    obtain ⟨bitmap, hchange⟩ := hset.exists_eq_ok hlt hne
    exact ⟨_, Integrator.setAdapter_eq_ok.2 ⟨hconfig, indexTable, index, table, bitmap, hindexTable,
      hindex, htable, hchange, rfl⟩⟩

/-! ## The module `endpoint` -/

variable {sequence : BitVec 64} {srcChain dstChain : ChainId} {srcAddr payloadHash : List Byte}

/-- The messages of the outbox have old sequence numbers. -/
theorem outboxMessages_nextSequence (h : Refines s a) (hc : a.integrators I = some c) :
    s.outboxMessages ⟨I, c.nextSequence⟩ = none := by
  by_contra hsome
  obtain ⟨message, hm⟩ := Option.ne_none_iff_exists'.1 hsome
  have hout := h.represents.outbox I c.nextSequence
  rw [hm, Option.map_some] at hout
  obtain ⟨-, c', hc', hlt, -⟩ := h.inv.outbox _ _ _ hout.symm
  obtain rfl : c = c' := Option.some.inj (hc.symm.trans hc')
  exact BitVec.lt_irrefl _ hlt

theorem sendMessage {dstAddr : UniversalAddress} (h : Refines s a) : Simulates keccak256 a
    (process keccak256 s (.sendMessage I dstChain dstAddr payloadHash)) (payloadHash.length = 32)
    (.send I dstChain dstAddr.toAddress (beWord 256 payloadHash)) where
  sound {t o} ht := by
    obtain ⟨⟨sequence, t⟩, hsend, ht⟩ := bind_eq_ok.1 ht
    obtain ⟨rfl, rfl⟩ := Prod.mk.inj (pure_eq_ok.1 ht)
    obtain ⟨hlength, table, htable, hne, hcapability, hmax, hnone, rfl⟩ :=
      Endpoint.sendMessage_eq_ok.1 hsend
    obtain ⟨c, hc, hx⟩ :=
      h.represents.exists_integrator (I := I) (by rintro hI; simp [hI] at htable)
    obtain rfl : sequence = c.nextSequence := by simpa using hcapability.symm.trans hx.capability
    have henabled := hx.enabled_eq htable dstChain
    refine ⟨hlength, _, Router.send_eq_ok.2 ⟨c, hc, ?_, hmax, rfl, rfl⟩, ?_⟩
    · rw [henabled]
      exact mt GmpRouter.Bitmap.indices_eq_empty.1 hne
    · rw [henabled]
      exact (h.represents.setAccount (hx.setSequence _)).setOutbox rfl (by
        rintro message ⟨⟩
        exact ⟨rfl, rfl, hlength⟩)
  complete {r} hlength hstep := by
    obtain ⟨c, hc, hne, hmax, -, -⟩ := Router.send_eq_ok.1 hstep
    have hx := h.represents.published hc
    obtain ⟨table, htable, henabled⟩ := hx.enabled .send
    have hnone := h.outboxMessages_nextSequence hc
    rw [henabled] at hne
    have hsend : Endpoint.sendMessage s I dstChain dstAddr payloadHash = .ok _ :=
      Endpoint.sendMessage_eq_ok.2 ⟨hlength, table, htable,
        mt GmpRouter.Bitmap.indices_eq_empty.2 hne, hx.capability, hmax, hnone, rfl⟩
    exact ⟨_, bind_eq_ok.2 ⟨_, hsend, rfl⟩⟩

theorem pickUpMessage (h : Refines s a) : Simulates keccak256 a
    (process keccak256 s (.pickUpMessage A I sequence)) True (.pickUp A I sequence) where
  sound {t o} ht := by
    obtain ⟨⟨message', t⟩, hpick, ht⟩ := bind_eq_ok.1 ht
    obtain ⟨rfl, rfl⟩ := Prod.mk.inj (pure_eq_ok.1 ht)
    obtain ⟨message, indexTable, index, hm, hindexTable, hindex, hlt, hmem, rfl, rfl⟩ :=
      Endpoint.pickUpMessage_eq_ok.1 hpick
    obtain ⟨c, hc, hx⟩ :=
      h.represents.exists_integrator (I := I) (by rintro hI; simp [hI] at hindexTable)
    have hout := h.represents.outbox I sequence
    rw [hm, Option.map_some] at hout
    have hi := (hx.exists_index (h.inv.integrators _ _ hc) hindexTable).2 ⟨index, hindex, rfl, hlt⟩
    have herase := GmpRouter.Bitmap.indices_and_not_twoPow message.outstandingAdapters index.toNat
    refine ⟨trivial, _, Router.pickUp_eq_ok.2 ⟨c, _, _, hc, hout.symm, hi, hmem, rfl, ?_⟩, ?_⟩
    · simp only [Output.out, OutboxMessage.outgoing, herase]
    · have hkey := h.represents.key I sequence message hm
      have hempty : message.outstandingAdapters &&& ~~~BitVec.twoPow 128 index.toNat = 0#128 ↔
          (message.outgoing.outstanding.erase index.toNat) = ∅ := by
        rw [← GmpRouter.Bitmap.indices_eq_empty, herase]
        exact Iff.rfl
      by_cases hlast : message.outgoing.outstanding.erase index.toNat = ∅
      · rw [if_pos hlast, if_pos (hempty.2 hlast)]
        exact h.represents.setOutbox (m := none) rfl (by simp)
      · rw [if_neg hlast, if_neg (mt hempty.1 hlast)]
        have houtgoing : { message.outgoing with
              outstanding := message.outgoing.outstanding.erase index.toNat } =
            OutboxMessage.outgoing { message with outstandingAdapters :=
              message.outstandingAdapters &&& ~~~BitVec.twoPow 128 index.toNat } := by
          simp only [OutboxMessage.outgoing, herase]
        rw [houtgoing]
        exact h.represents.setOutbox (m := some _) rfl (by
          rintro message' ⟨⟩
          exact hkey)
  complete {r} _ hstep := by
    obtain ⟨c, outgoing, i, hc, hout, hi, hmem, -, -⟩ := Router.pickUp_eq_ok.1 hstep
    obtain ⟨message, hm, rfl⟩ :=
      Option.map_eq_some_iff.1 ((h.represents.outbox I sequence).trans hout)
    have hx := h.represents.published hc
    obtain ⟨indexTable, hindexTable, -⟩ := hx.index
    obtain ⟨index, hindex, rfl, hlt⟩ :=
      (hx.exists_index (h.inv.integrators _ _ hc) hindexTable).1 hi
    have hpick : Endpoint.pickUpMessage s A I sequence = .ok _ :=
      Endpoint.pickUpMessage_eq_ok.2 ⟨message, indexTable, index, hm, hindexTable, hindex,
        hlt, hmem,
        rfl, rfl⟩
    exact ⟨_, bind_eq_ok.2 ⟨_, hpick, rfl⟩⟩

theorem attestMessage {dstAddr : List Byte} (h : Refines s a) : Simulates keccak256 a
    (noOutput (Endpoint.attestMessage keccak256 s A srcChain srcAddr sequence dstChain dstAddr
      payloadHash))
    (srcAddr.length = 32 ∧ dstAddr.length = 32 ∧ payloadHash.length = 32)
    (.attest A (Endpoint.messageOf srcChain srcAddr sequence dstChain dstAddr payloadHash)) := by
  refine .of_noOutput (fun ht => ?_) fun hguard hstep => ?_
  · obtain ⟨hsrc, hdst, hpayload, m, indexTable, index, table, info, rfl, hindexTable,
      hindex, htable, hlt, hmem, rfl, hnew, rfl⟩ := Endpoint.attestMessage_eq_ok.1 ht
    obtain ⟨c, hc, hx⟩ := h.represents.exists_integrator
      (I := (Endpoint.messageOf srcChain srcAddr sequence dstChain dstAddr payloadHash).dstAddr)
      (by rintro hI; simp [hI] at hindexTable)
    have hi := (hx.exists_index (h.inv.integrators _ _ hc) hindexTable).2 ⟨index, hindex, rfl, hlt⟩
    rw [← hx.enabled_eq htable] at hmem
    have hinbox := h.represents.inbox (messageHash keccak256
      (Endpoint.messageOf srcChain srcAddr sequence dstChain dstAddr payloadHash))
    refine ⟨⟨hsrc, hdst, hpayload⟩, _, Router.attest_eq_ok.2 ⟨c, _, hc, hi, hmem, ?_, rfl, rfl⟩, ?_⟩
    · rw [← hinbox]
      exact hnew
    · have hinsert := GmpRouter.Bitmap.indices_or_twoPow (s.attestationInfos.borrowWithDefault
        (messageHash keccak256 (Endpoint.messageOf srcChain srcAddr sequence dstChain dstAddr
          payloadHash)) {}).attestedAdapters hlt
      rw [← hinbox]
      simp only [AttestationInfo.record]
      rw [← hinsert]
      refine h.represents.setAttestation (.inr ?_)
      exact GmpRouter.Bitmap.ne_zero_iff.2 ⟨index.toNat, hinsert ▸ Finset.mem_insert_self _ _⟩
  · obtain ⟨c, i, hc, hi, hmem, hnew, -, -⟩ := Router.attest_eq_ok.1 hstep
    have hx := h.represents.published hc
    obtain ⟨indexTable, hindexTable, -⟩ := hx.index
    obtain ⟨table, htable, henabled⟩ := hx.enabled .recv
    obtain ⟨index, hindex, rfl, hlt⟩ :=
      (hx.exists_index (h.inv.integrators _ _ hc) hindexTable).1 hi
    rw [henabled] at hmem
    rw [← h.represents.inbox] at hnew
    exact ⟨_, Endpoint.attestMessage_eq_ok.2 ⟨hguard.1, hguard.2.1, hguard.2.2, _,
      indexTable, index, table, _, rfl, hindexTable, hindex, htable, hlt, hmem, rfl, hnew, rfl⟩⟩

/-- A message that is in the table and not executed has an attestation. -/
theorem recvMessage (h : Refines s a) : Simulates keccak256 a
    (process keccak256 s (.recvMessage I srcChain srcAddr sequence dstChain payloadHash))
    (srcAddr.length = 32 ∧ payloadHash.length = 32)
    (.recv (Endpoint.messageTo srcChain srcAddr sequence dstChain I payloadHash)) where
  sound {t o} ht := by
    obtain ⟨⟨⟨enabled, attested⟩, t⟩, hrecv, ht⟩ := bind_eq_ok.1 ht
    obtain ⟨rfl, rfl⟩ := Prod.mk.inj (pure_eq_ok.1 ht)
    obtain ⟨hsrc, hpayload, m, info, table, rfl, hinfo, hexecuted, htable, rfl, rfl, rfl⟩ :=
      Endpoint.recvMessage_eq_ok.1 hrecv
    obtain ⟨c, hc, hx⟩ :=
      h.represents.exists_integrator (I := I) (by rintro hI; simp [hI] at htable)
    have hinbox := h.represents.inbox (messageHash keccak256
      (Endpoint.messageTo srcChain srcAddr sequence dstChain I payloadHash))
    have hold : s.attestationInfos.borrowWithDefault (messageHash keccak256
        (Endpoint.messageTo srcChain srcAddr sequence dstChain I payloadHash)) {} = info := by
      rw [Table.borrowWithDefault, messageHash, hinfo, Option.getD_some]
    rw [hold] at hinbox
    refine ⟨⟨hsrc, hpayload⟩, _, Router.recv_eq_ok.2 ⟨c, hc, ?_, ?_, rfl, ?_⟩, ?_⟩
    · rw [← hinbox]
      refine mt GmpRouter.Bitmap.indices_eq_empty.1 ?_
      exact (h.represents.live _ _ hinfo).resolve_left (by simp [hexecuted])
    · rw [← hinbox]
      exact hexecuted
    · rw [← hinbox, hx.enabled_eq htable]
      rfl
    · rw [← hinbox]
      exact h.represents.setAttestation (.inl rfl)
  complete {r} hguard hstep := by
    obtain ⟨c, hc, hne, hexecuted, -, -⟩ := Router.recv_eq_ok.1 hstep
    obtain ⟨table, htable, -⟩ := (h.represents.published hc).enabled .recv
    rw [← h.represents.inbox] at hne hexecuted
    cases hinfo : s.attestationInfos (messageHash keccak256
      (Endpoint.messageTo srcChain srcAddr sequence dstChain I payloadHash)) with
    | none =>
      refine absurd ?_ hne
      rw [Table.borrowWithDefault, hinfo]
      exact GmpRouter.Bitmap.indices_zero
    | some info =>
      rw [Table.borrowWithDefault, hinfo] at hexecuted
      have hrecv : Endpoint.recvMessage keccak256 s I srcChain srcAddr sequence dstChain
          payloadHash = .ok _ :=
        Endpoint.recvMessage_eq_ok.2 ⟨hguard.1, hguard.2, _, info, table, rfl, hinfo,
          hexecuted, htable,
          rfl, rfl, rfl⟩
      exact ⟨_, bind_eq_ok.2 ⟨_, hrecv, rfl⟩⟩

theorem execMessage (h : Refines s a) : Simulates keccak256 a
    (noOutput (Endpoint.execMessage keccak256 s I srcChain srcAddr sequence dstChain payloadHash))
    (srcAddr.length = 32 ∧ payloadHash.length = 32)
    (.exec (Endpoint.messageTo srcChain srcAddr sequence dstChain I payloadHash)) := by
  have hinbox := h.represents.inbox (messageHash keccak256
    (Endpoint.messageTo srcChain srcAddr sequence dstChain I payloadHash))
  refine .of_noOutput (fun ht => ?_) fun hguard hstep => ?_
  · obtain ⟨hsrc, hpayload, m, info, rfl, rfl, hexecuted, rfl⟩ := Endpoint.execMessage_eq_ok.1 ht
    refine ⟨⟨hsrc, hpayload⟩, _, Router.exec_eq_ok.2 ⟨?_, rfl, rfl⟩, ?_⟩
    · rw [← hinbox]
      exact hexecuted
    · rw [← hinbox]
      exact h.represents.setAttestation (.inl rfl)
  · obtain ⟨hexecuted, -, -⟩ := Router.exec_eq_ok.1 hstep
    rw [← hinbox] at hexecuted
    exact ⟨_, Endpoint.execMessage_eq_ok.2 ⟨hguard.1, hguard.2, _, _, rfl, rfl, hexecuted, rfl⟩⟩

/-! ## Every call -/

theorem process (h : Refines s a) (call : Call) :
    Simulates keccak256 a (process keccak256 s call) call.Guard call.op := by
  cases call with
  | register => exact h.newIntegrator
  | updateAdmin => exact h.updateAdmin
  | transferAdmin => exact h.transferAdmin
  | claimAdmin => exact h.claimAdmin
  | discardAdmin => exact h.discardAdmin
  | addAdapter => exact h.addAdapter
  | enableSendAdapter => exact h.setAdapter enable_setsBit
  | disableSendAdapter => exact h.setAdapter disable_setsBit
  | enableRecvAdapter => exact h.setAdapter enable_setsBit
  | disableRecvAdapter => exact h.setAdapter disable_setsBit
  | sendMessage => exact h.sendMessage
  | pickUpMessage => exact h.pickUpMessage
  | attestMessage => exact h.attestMessage
  | recvMessage => exact h.recvMessage
  | execMessage => exact h.execMessage

theorem step {call : Call} {o : Output} (h : Refines s a)
    (hstep : Aptos.process keccak256 s call = .ok (t, o)) : call.Guard ∧
      ∃ b, Router.step (messageHash keccak256) a call.op = .ok (b, o.out) ∧ Refines t b := by
  obtain ⟨hguard, b, hstep', hb⟩ := (h.process call).sound hstep
  exact ⟨hguard, b, hstep', hb, Router.inv_invariant hstep' h.inv⟩

end Refines

/-- The endpoint is simulated by the router. -/
theorem simulation (keccak256 : List Byte → Digest) :
    Machine.Simulation (machine keccak256) (Router.machine (messageHash keccak256)) Refines
      (fun _ call o op out => op = call.op ∧ out = o.out) where
  step s a call t o h hstep := by
    obtain ⟨-, b, hstep', hb⟩ := h.step hstep
    exact ⟨_, b, _, ⟨rfl, rfl⟩, hstep', hb⟩

abbrev Log := List (Commit State Call Output)

/-- Every state that the endpoint reaches represents a state of the router. -/
theorem exists_refines {l : Log} (h : (machine keccak256).Path .init l t) : ∃ a, Refines t a := by
  obtain ⟨-, b, -, hb, -⟩ := (simulation keccak256).path h refines_init
  exact ⟨b, hb⟩

end GmpRouter.Aptos
