import GmpRouter.Aptos.Specification
import GmpRouter.Foundations.Simulation
import GmpRouter.Router.Invariant

/-!
# The Aptos endpoint refines the router

The resources of an integrator are published together (`Account.Published`), and say what the router
knows of it; the two tables of the module account hold the outbox and the inbox (`Represents`). A
call succeeds exactly when the router's step does and the guards hold that only this endpoint has,
on zero admins and on the lengths of byte strings, and then it is that step (`Refines.process`).
-/

namespace GmpRouter.Aptos

open GmpRouter.Bitmap (indices)

variable {s t : State} {a : Router.State} {keccak256 : List Byte → Digest} {I A admin : Address}
  {c : Router.Integrator} {x : Account} {direction : Direction} {chain : ChainId}

/-! ## The relation -/

/-- The resources say what the router knows of the integrator. -/
structure Account.Published (x : Account) (c : Router.Integrator) : Prop where
  capability : x.integratorCapability = some ⟨c.nextSequence⟩
  adminConfig : x.adminConfig = some ⟨c.admin, c.pendingAdmin⟩
  adapters : x.adaptersStore = some ⟨c.adapters⟩
  index : ∃ table, x.adapterToIndexStore = some ⟨table⟩ ∧
    ∀ A, table A = (c.adapters.idxOf? A).map (BitVec.ofNat 8)
  enabled : ∀ direction, ∃ table, x.adapterStore direction = some ⟨table⟩ ∧
    ∀ chain, c.enabled direction chain = indices (table.borrowWithDefault chain 0#128)

def Account.Represents (x : Account) : Option Router.Integrator → Prop
  | none => x = {}
  | some c => x.Published c

def OutboxMessage.outgoing (message : OutboxMessage) : Router.Outgoing :=
  ⟨message.dstChain, message.dstAddr.toAddress, beWord 256 message.payloadHash,
    indices message.outstandingAdapters⟩

def AttestationInfo.record (info : AttestationInfo) : Router.Record :=
  ⟨indices info.attestedAdapters, info.executed⟩

structure Represents (s : State) (a : Router.State) : Prop where
  accounts : ∀ I, (s.accounts I).Represents (a.integrators I)
  outbox : ∀ I sequence,
    (s.outboxMessages ⟨I, sequence⟩).map OutboxMessage.outgoing = a.outbox I sequence
  key : ∀ I sequence message, s.outboxMessages ⟨I, sequence⟩ = some message →
    message.srcAddr = UniversalAddress.fromAddress I ∧ message.sequence = sequence ∧
      message.payloadHash.length = 32
  inbox : ∀ digest, (s.attestationInfos.borrowWithDefault digest {}).record = a.inbox digest
  live : ∀ digest info, s.attestationInfos digest = some info →
    info.executed = true ∨ info.attestedAdapters ≠ 0#128

/-- The storage represents a state of the router that satisfies its invariant. -/
structure Refines (s : State) (a : Router.State) : Prop where
  represents : Represents s a
  inv : Router.Inv a

theorem refines_init : Refines .init {} where
  represents := {
    accounts := fun _ => rfl
    outbox := fun _ _ => rfl
    key := fun _ _ _ h => by cases h
    inbox := fun _ => congrArg₂ Router.Record.mk GmpRouter.Bitmap.indices_zero rfl
    live := fun _ _ h => by cases h }
  inv := Router.inv_init

/-! ## Reading the resources -/

theorem Account.Published.exists_index (hx : x.Published c) (hc : c.WellFormed)
    {table : Table Address (BitVec 8)} (htable : x.adapterToIndexStore = some ⟨table⟩) {i : ℕ} :
    c.adapters.idxOf? A = some i ↔ ∃ index, table A = some index ∧ index.toNat = i ∧ i < 128 := by
  obtain ⟨table', htable', hindex⟩ := hx.index
  obtain rfl : table = table' := by simpa using htable.symm.trans htable'
  have hlt : ∀ j, c.adapters.idxOf? A = some j → j < 128 := by
    intro j hj
    have := (List.idxOf?_eq_some_iff.1 hj).1
    have := hc.length_le
    omega
  rw [hindex]
  constructor
  · intro hi
    have hi' := hlt i hi
    refine ⟨BitVec.ofNat 8 i, by rw [hi, Option.map_some], ?_, hi'⟩
    rw [BitVec.toNat_ofNat]
    omega
  · rintro ⟨index, h, rfl, -⟩
    obtain ⟨j, hj, rfl⟩ := Option.map_eq_some_iff.1 h
    have hj' := hlt j hj
    rw [hj, BitVec.toNat_ofNat]
    congr 1
    omega

/-- An index that the table contains is less than the width of the bitmaps. -/
theorem Account.Published.index_lt (hx : x.Published c) (hc : c.WellFormed)
    {table : Table Address (BitVec 8)} (htable : x.adapterToIndexStore = some ⟨table⟩)
    {index : BitVec 8} (hA : table A = some index) : index.toNat < 128 := by
  obtain ⟨table', htable', hindex⟩ := hx.index
  obtain rfl : table = table' := by simpa using htable.symm.trans htable'
  rw [hindex] at hA
  obtain ⟨i, hi, rfl⟩ := Option.map_eq_some_iff.1 hA
  have hlt := (List.idxOf?_eq_some_iff.1 hi).1
  have hle := hc.length_le
  rw [BitVec.toNat_ofNat]
  omega

theorem Account.Published.enabled_eq (hx : x.Published c) {table : Table ChainId (BitVec 128)}
    (htable : x.adapterStore direction = some ⟨table⟩) (chain : ChainId) :
    c.enabled direction chain = indices (table.borrowWithDefault chain 0#128) := by
  obtain ⟨table', htable', henabled⟩ := hx.enabled direction
  obtain rfl : table = table' := by simpa using htable.symm.trans htable'
  exact henabled chain

namespace Represents

theorem published (h : Represents s a) (hc : a.integrators I = some c) :
    (s.accounts I).Published c := by
  have hI := h.accounts I
  rwa [hc] at hI

/-- An account with a resource is that of an integrator. -/
theorem exists_integrator (h : Represents s a) (hne : s.accounts I ≠ {}) :
    ∃ c, a.integrators I = some c ∧ (s.accounts I).Published c := by
  have hI := h.accounts I
  cases hc : a.integrators I with
  | none =>
    rw [hc] at hI
    exact absurd hI hne
  | some c => exact ⟨c, rfl, h.published hc⟩

theorem adminConfig_eq {config : AdminConfig} (h : Represents s a) :
    (s.accounts I).adminConfig = some config ↔
      ∃ c, a.integrators I = some c ∧ config = ⟨c.admin, c.pendingAdmin⟩ := by
  constructor
  · intro hconfig
    obtain ⟨c, hc, hx⟩ := h.exists_integrator (I := I) (by rintro hI; simp [hI] at hconfig)
    exact ⟨c, hc, Option.some.inj (hconfig.symm.trans hx.adminConfig)⟩
  · rintro ⟨c, hc, rfl⟩
    exact (h.published hc).adminConfig

theorem byAdmin_iff (h : Represents s a) : (s.accounts I).adminConfig = some ⟨some admin, none⟩ ↔
    ∃ c, Router.ByAdmin a admin I c := by
  rw [h.adminConfig_eq]
  constructor
  · rintro ⟨c, hc, hconfig⟩
    obtain ⟨hadmin, hpending⟩ := AdminConfig.mk.inj hconfig
    exact ⟨c, hc, hadmin.symm, hpending.symm⟩
  · rintro ⟨c, hc, hadmin, hpending⟩
    exact ⟨c, hc, by rw [hadmin, hpending]⟩

/-! ## Writing the state -/

theorem setAccount (h : Represents s a) (hx : x.Published c) :
    Represents (s.setAccount I x) (a.setIntegrator I c) where
  accounts I' := by
    by_cases hI : I' = I
    · subst hI
      rw [Router.setIntegrator_self]
      have hself : (s.setAccount I' x).accounts I' = x := Function.update_self ..
      rw [hself]
      exact hx
    · rw [Router.setIntegrator_of_ne hI]
      have hold : (s.setAccount I x).accounts I' = s.accounts I' := Function.update_of_ne hI ..
      rw [hold]
      exact h.accounts I'
  outbox := h.outbox
  key := h.key
  inbox := h.inbox
  live := h.live

/-- Writing the message, or removing it. -/
theorem setOutbox (h : Represents s a) {sequence : BitVec 64} {m : Option OutboxMessage}
    {messages : Table OutboxMessageKey OutboxMessage}
    (hmessages : messages = Function.update s.outboxMessages ⟨I, sequence⟩ m)
    (hkey : ∀ message, m = some message → message.srcAddr = UniversalAddress.fromAddress I ∧
      message.sequence = sequence ∧ message.payloadHash.length = 32) :
    Represents { s with outboxMessages := messages }
      { a with outbox := update₂ a.outbox I sequence (m.map OutboxMessage.outgoing) } where
  accounts := h.accounts
  outbox I' sequence' := by
    subst hmessages
    by_cases hI : I' = I ∧ sequence' = sequence
    · obtain ⟨rfl, rfl⟩ := hI
      simp only [Function.update_self, update₂_self]
    · have hne : (⟨I', sequence'⟩ : OutboxMessageKey) ≠ ⟨I, sequence⟩ := by
        simpa [OutboxMessageKey.mk.injEq] using hI
      simp only [Function.update_of_ne hne, update₂_of_ne hI]
      exact h.outbox I' sequence'
  key I' sequence' message hm := by
    have hm : messages ⟨I', sequence'⟩ = some message := hm
    rw [hmessages] at hm
    by_cases hI : (⟨I', sequence'⟩ : OutboxMessageKey) = ⟨I, sequence⟩
    · obtain ⟨rfl, rfl⟩ := OutboxMessageKey.mk.inj hI
      rw [Function.update_self] at hm
      exact hkey message hm
    · rw [Function.update_of_ne hI] at hm
      exact h.key I' sequence' message hm
  inbox := h.inbox
  live := h.live

theorem setAttestation (h : Represents s a) {digest : Digest} {info : AttestationInfo}
    (hlive : info.executed = true ∨ info.attestedAdapters ≠ 0#128) :
    Represents { s with attestationInfos := s.attestationInfos.upsert digest info }
      (a.setRecord digest info.record) where
  accounts := h.accounts
  outbox := h.outbox
  key := h.key
  inbox digest' := by
    by_cases hd : digest' = digest
    · subst hd
      rw [Router.setRecord_self, Table.borrowWithDefault_upsert_self]
    · rw [Router.setRecord_of_ne hd, Table.borrowWithDefault_upsert_of_ne hd]
      exact h.inbox digest'
  live digest' info' hinfo := by
    by_cases hd : digest' = digest
    · subst hd
      obtain rfl := Option.some.inj ((Table.upsert_self ..).symm.trans hinfo)
      exact hlive
    · exact h.live digest' info' ((Table.upsert_of_ne hd ..).symm.trans hinfo)

end Represents

/-! ## Changes of an account -/

theorem Integrator.newAccount_published (admin : Address) :
    (Integrator.newAccount admin).Published { admin := some admin } where
  capability := rfl
  adminConfig := rfl
  adapters := rfl
  index := ⟨Table.empty, rfl, fun _ => rfl⟩
  enabled direction := by
    have hempty : ∀ chain : ChainId,
        indices ((Table.empty : Table ChainId (BitVec 128)).borrowWithDefault chain 0#128) = ∅ :=
      fun _ => GmpRouter.Bitmap.indices_zero
    cases direction
    · exact ⟨Table.empty, rfl, fun chain => (hempty chain).symm⟩
    · exact ⟨Table.empty, rfl, fun chain => (hempty chain).symm⟩

namespace Account.Published

theorem setSequence (hx : x.Published c) (sequence : BitVec 64) :
    { x with integratorCapability := some ⟨sequence⟩ : Account }.Published
      { c with nextSequence := sequence } :=
  { hx with capability := rfl }

theorem addAdapter (hx : x.Published c) (hnew : A ∉ c.adapters)
    {table : Table Address (BitVec 8)} (htable : x.adapterToIndexStore = some ⟨table⟩) :
    { x with
      adaptersStore := some ⟨c.adapters ++ [A]⟩
      adapterToIndexStore := some ⟨table.upsert A (BitVec.ofNat 8 c.adapters.length)⟩
      : Account }.Published { c with adapters := c.adapters ++ [A] } := by
  refine { hx with adapters := rfl, index := ⟨_, rfl, fun A' => ?_⟩ }
  obtain ⟨table', htable', hindex⟩ := hx.index
  obtain rfl : table = table' := by simpa using htable.symm.trans htable'
  by_cases hA : A' = A
  · subst hA
    rw [Table.upsert_self, Router.idxOf?_concat_self hnew, Option.map_some]
  · rw [Table.upsert_of_ne hA, Router.idxOf?_concat_of_ne hA]
    exact hindex A'

theorem setBitmap (hx : x.Published c) {table : Table ChainId (BitVec 128)}
    (htable : x.adapterStore direction = some ⟨table⟩) (chain : ChainId) (bitmap : BitVec 128) :
    { x with
      adapterStore := Function.update x.adapterStore direction (some ⟨table.upsert chain bitmap⟩)
      : Account }.Published
      { c with enabled := update₂ c.enabled direction chain (indices bitmap) } := by
  refine { hx with enabled := fun direction' => ?_ }
  by_cases hd : direction' = direction
  · subst hd
    refine ⟨_, Function.update_self .., fun chain' => ?_⟩
    by_cases hchain : chain' = chain
    · subst hchain
      simp only [update₂_self, Table.borrowWithDefault_upsert_self]
    · simp only [update₂_of_ne fun h : _ ∧ _ => hchain h.2,
        Table.borrowWithDefault_upsert_of_ne hchain]
      exact hx.enabled_eq htable chain'
  · obtain ⟨table', htable', henabled⟩ := hx.enabled direction'
    refine ⟨table', (Function.update_of_ne hd ..).trans htable', fun chain' => ?_⟩
    simp only [update₂_left hd]
    exact henabled chain'

end Account.Published

end GmpRouter.Aptos
