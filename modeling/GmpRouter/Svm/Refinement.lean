import GmpRouter.Svm.View
import GmpRouter.Router.Invariant

/-!
# The SVM endpoint refines the router

`Represents` relates the accounts of the program to a state of the abstract router. A configuration
account and a sequence tracker exist exactly for the registered integrators, an adapter account
exactly for the adapters of the list, with their index, and each waiting message is in one outbox
account. The accounts that are created when needed, of chain configurations and attestations, may
exist with empty contents.

`Refines` adds the invariants of both sides. The modules below show that every successful
instruction is a step of the router (`Refines.step`), and that an instruction with the right
accounts and signers succeeds when the router's step does and the guards that the program adds hold
(`Calls.complete`).
-/

namespace GmpRouter.Svm

open GmpRouter.Bitmap (indices)

variable {E : Env} {v : View} {s t : State} {a : Router.State} {o : Output}

/-! ## The relation -/

/-- The bitmap of the adapters of an integrator for a chain. -/
def View.bitmap (v : View) (I : Pubkey) (chain : ChainId) (d : Direction) : BitVec 128 :=
  match v.chainConfig I chain with
  | some config => config.bitmap d
  | none => 0#128

/-- What is known of the message with the digest. -/
def View.record (v : View) (digest : Digest) : Router.Record :=
  match v.attestation digest with
  | some info => ⟨indices info.attestedAdapters, info.executed⟩
  | none => {}

theorem chainConfigOf_bitmap (E : Env) (s : State) (I : Pubkey) (chain : ChainId) (d : Direction) :
    (s.chainConfigOf E I chain).bitmap d = (s.view E).bitmap I chain d := by
  unfold State.chainConfigOf View.bitmap
  cases hconfig : s.find (α := IntegratorChainConfig) (E.pda (.integratorChainConfig I chain)) with
  | none =>
    have hview : (s.view E).chainConfig I chain = none := hconfig
    rw [hview]
    cases d <;> rfl
  | some config =>
    have hview : (s.view E).chainConfig I chain = some config := hconfig
    rw [hview]
    rfl

theorem view_record (E : Env) (s : State) (m : Message) :
    (s.view E).record (AttestationInfo.computeMessageHash E m) =
      ⟨indices (s.attestationOf E m).attestedAdapters, (s.attestationOf E m).executed⟩ := by
  unfold State.attestationOf View.record
  cases hinfo : s.find (α := AttestationInfo) (E.pda (attestationSeeds E m)) with
  | none =>
    have hview : (s.view E).attestation (AttestationInfo.computeMessageHash E m) = none := hinfo
    rw [hview]
    simp [AttestationInfo.fresh]
  | some info =>
    have hview : (s.view E).attestation (AttestationInfo.computeMessageHash E m) =
      some info := hinfo
    rw [hview]
    rfl

def configOf (E : Env) (I : Pubkey) (c : Router.Integrator) : IntegratorConfig where
  bump := E.canonicalBump (Seeds.integratorConfig I).bytes
  integratorProgramId := I
  admin := c.admin
  pendingAdmin := c.pendingAdmin
  adapterInfos := c.adapters

def trackerOf (E : Env) (I : Pubkey) (c : Router.Integrator) : SequenceTracker where
  bump := E.canonicalBump (Seeds.sequenceTracker I).bytes
  integratorProgramId := I
  sequence := c.nextSequence

def adapterInfoOf (E : Env) (I A : Pubkey) (i : ℕ) : AdapterInfo where
  bump := E.canonicalBump (Seeds.adapterInfo I A).bytes
  integratorProgramId := I
  adapterProgramId := A
  index := BitVec.ofNat 8 i

def OutboxMessage.outgoing (message : OutboxMessage) : Router.Outgoing where
  dstChain := message.dstChain
  dstAddr := message.dstAddr
  payloadHash := message.payloadHash
  outstanding := indices message.outstandingAdapters

/-- The accounts of one integrator. -/
structure RepresentsIntegrator (E : Env) (v : View) (I : Pubkey) (x : Option Router.Integrator) :
    Prop where
  config : v.config I = x.map (configOf E I)
  tracker : v.tracker I = x.map (trackerOf E I)
  adapterInfo : ∀ A, v.adapterInfo I A =
    x.bind fun c => (c.adapters.idxOf? A).map (adapterInfoOf E I A)
  enabled : ∀ c, x = some c → ∀ d chain, c.enabled d chain = indices (v.bitmap I chain d)
  chainConfig : ∀ chain, v.chainConfig I chain ≠ none → x ≠ none

/-- The accounts of the outbox. -/
structure RepresentsOutbox (v : View) (outbox : Pubkey → BitVec 64 → Option Router.Outgoing) :
    Prop where
  exists_iff : ∀ I sequence outgoing, outbox I sequence = some outgoing ↔
    ∃ k message, v.outbox k = some message ∧ message.srcAddr = I ∧ message.sequence = sequence ∧
      outgoing = message.outgoing
  unique : ∀ k k' message message', v.outbox k = some message → v.outbox k' = some message' →
    message.srcAddr = message'.srcAddr → message.sequence = message'.sequence → k = k'

/-- The accounts hold the state of the router. -/
structure Represents (E : Env) (v : View) (a : Router.State) : Prop where
  integrator : ∀ I, RepresentsIntegrator E v I (a.integrators I)
  inbox : ∀ digest, a.inbox digest = v.record digest
  outbox : RepresentsOutbox v a.outbox

/-- The relation that the instructions preserve. -/
structure Refines (E : Env) (s : State) (a : Router.State) : Prop where
  canonical : Canonical E s
  represents : Represents E (s.view E) a
  inv : Router.Inv a

theorem represents_init : Represents E ((State.init).view E) {} where
  integrator I :=
    { config := rfl
      tracker := rfl
      adapterInfo := fun _ => rfl
      enabled := fun _ h => by simp at h
      chainConfig := fun _ h => absurd rfl h }
  inbox _ := rfl
  outbox :=
    { exists_iff := fun I sequence outgoing => by
        constructor
        · intro h
          simp at h
        · rintro ⟨k, message, h, -⟩
          simp [State.view, State.find, State.init] at h
      unique := fun _ _ _ _ h => by simp [State.view, State.find, State.init] at h }

theorem refines_init : Refines E .init {} where
  canonical _ _ h := by simp [State.init] at h
  represents := represents_init
  inv := Router.inv_init

/-! ## Changes of the view -/

/-- The two views have the same accounts of the integrator. -/
structure View.SameAt (v v' : View) (I : Pubkey) : Prop where
  config : v'.config I = v.config I
  tracker : v'.tracker I = v.tracker I
  adapterInfo : v'.adapterInfo I = v.adapterInfo I
  chainConfig : v'.chainConfig I = v.chainConfig I

theorem View.SameAt.bitmap_eq {v' : View} {I : Pubkey} (h : v.SameAt v' I) (chain : ChainId)
    (d : Direction) : v'.bitmap I chain d = v.bitmap I chain d := by
  rw [View.bitmap, View.bitmap, h.chainConfig]

theorem RepresentsIntegrator.congr {v' : View} {I : Pubkey} {x : Option Router.Integrator}
    (h : RepresentsIntegrator E v I x) (hsame : v.SameAt v' I) : RepresentsIntegrator E v' I x where
  config := hsame.config.trans h.config
  tracker := hsame.tracker.trans h.tracker
  adapterInfo A := by rw [hsame.adapterInfo, h.adapterInfo]
  enabled c hc d chain := by rw [hsame.bitmap_eq, h.enabled c hc]
  chainConfig chain hne := h.chainConfig chain (by rwa [← hsame.chainConfig])

namespace Represents

variable {v' : View} {I : Pubkey} {c c' : Router.Integrator}

/-- A change of the accounts of one integrator. -/
theorem setIntegrator (h : Represents E v a) (hI : RepresentsIntegrator E v' I (some c'))
    (hsame : ∀ I', I' ≠ I → v.SameAt v' I')
    (hattestation : v'.attestation = v.attestation) (houtbox : v'.outbox = v.outbox) :
    Represents E v' (a.setIntegrator I c') where
  integrator I' := by
    by_cases hI' : I' = I
    · subst hI'
      rwa [Router.setIntegrator_self]
    · rw [Router.setIntegrator_of_ne hI']
      exact (h.integrator I').congr (hsame I' hI')
  inbox digest := by
    rw [View.record, hattestation]
    exact h.inbox digest
  outbox :=
    { exists_iff := by
        rw [houtbox]
        exact h.outbox.exists_iff
      unique := by
        rw [houtbox]
        exact h.outbox.unique }

/-- A change of the admin state. -/
theorem setAdmin (h : Represents E v a) (hc : a.integrators I = some c)
    (hadapters : c'.adapters = c.adapters) (henabled : c'.enabled = c.enabled)
    (hsequence : c'.nextSequence = c.nextSequence) :
    Represents E { v with config := Function.update v.config I (some (configOf E I c')) }
      (a.setIntegrator I c') := by
  have hI := hc ▸ h.integrator I
  refine h.setIntegrator ⟨?_, ?_, ?_, ?_, ?_⟩ (fun I' hI' => ?_) rfl rfl
  · exact Function.update_self ..
  · rw [hI.tracker, Option.map_some, Option.map_some, trackerOf, trackerOf, hsequence]
  · intro A
    rw [hI.adapterInfo, Option.bind_some, Option.bind_some, hadapters]
  · rintro _ ⟨⟩ d chain
    rw [henabled]
    exact hI.enabled c rfl d chain
  · exact fun _ _ => Option.some_ne_none _
  · exact ⟨Function.update_of_ne hI' .., rfl, rfl, rfl⟩

/-- The use of a sequence number. -/
theorem useSequence (h : Represents E v a) (hc : a.integrators I = some c)
    (hc' : c' = { c with nextSequence := c.nextSequence + 1#64 }) :
    Represents E { v with tracker := Function.update v.tracker I (some (trackerOf E I c')) }
      (a.setIntegrator I c') := by
  subst hc'
  have hI := hc ▸ h.integrator I
  refine h.setIntegrator ⟨?_, ?_, ?_, ?_, ?_⟩ (fun I' hI' => ?_) rfl rfl
  · exact hI.config
  · exact Function.update_self ..
  · exact hI.adapterInfo
  · rintro _ ⟨⟩ d chain
    exact hI.enabled c rfl d chain
  · exact fun _ _ => Option.some_ne_none _
  · exact ⟨rfl, Function.update_of_ne hI' .., rfl, rfl⟩

theorem register (h : Represents E v a) (hnone : a.integrators I = none) (admin : Pubkey) :
    Represents E
      { v with
        config := Function.update v.config I (some (configOf E I { admin := some admin }))
        tracker := Function.update v.tracker I (some (trackerOf E I { admin := some admin })) }
      (a.setIntegrator I { admin := some admin }) := by
  have hI := hnone ▸ h.integrator I
  refine h.setIntegrator ⟨?_, ?_, ?_, ?_, ?_⟩ (fun I' hI' => ?_) rfl rfl
  · exact Function.update_self ..
  · exact Function.update_self ..
  · exact fun A => hI.adapterInfo A
  · rintro _ ⟨⟩ d chain
    have hchain : v.chainConfig I chain = none := by_contra fun hne => hI.chainConfig chain hne rfl
    simp [View.bitmap, hchain]
  · exact fun _ _ => Option.some_ne_none _
  · exact ⟨Function.update_of_ne hI' .., Function.update_of_ne hI' .., rfl, rfl⟩

/-- A new adapter, at the end of the list. -/
theorem addAdapter (h : Represents E v a) (hc : a.integrators I = some c) {A : Pubkey}
    (hA : A ∉ c.adapters) (hc' : c' = { c with adapters := c.adapters ++ [A] }) :
    Represents E
      { v with
        config := Function.update v.config I (some (configOf E I c'))
        adapterInfo := update₂ v.adapterInfo I A (some (adapterInfoOf E I A c.adapters.length)) }
      (a.setIntegrator I c') := by
  subst hc'
  have hI := hc ▸ h.integrator I
  refine h.setIntegrator ⟨?_, ?_, ?_, ?_, ?_⟩ (fun I' hI' => ?_) rfl rfl
  · exact Function.update_self ..
  · exact hI.tracker
  · intro A'
    dsimp only
    rw [Option.bind_some]
    by_cases hA' : A' = A
    · subst hA'
      rw [update₂_self, Router.idxOf?_concat_self hA, Option.map_some]
    · rw [update₂_of_ne fun h' => hA' h'.2, Router.idxOf?_concat_of_ne hA', hI.adapterInfo,
        Option.bind_some]
  · rintro _ ⟨⟩ d chain
    exact hI.enabled c rfl d chain
  · exact fun _ _ => Option.some_ne_none _
  · exact ⟨Function.update_of_ne hI' .., rfl, update₂_left hI', rfl⟩

/-- The bitmap of one direction and chain. -/
theorem setAdapter (h : Represents E v a) (hc : a.integrators I = some c) {chain : ChainId}
    {d : Direction} {config : IntegratorChainConfig} {enabled : Finset ℕ}
    (hself : indices (config.bitmap d) = enabled)
    (hother : ∀ d', d' ≠ d → config.bitmap d' = v.bitmap I chain d')
    (hc' : c' = { c with enabled := update₂ c.enabled d chain enabled }) :
    Represents E { v with chainConfig := update₂ v.chainConfig I chain (some config) }
      (a.setIntegrator I c') := by
  subst hc'
  have hI := hc ▸ h.integrator I
  refine h.setIntegrator ⟨?_, ?_, ?_, ?_, ?_⟩ (fun I' hI' => ?_) rfl rfl
  · exact hI.config
  · exact hI.tracker
  · exact hI.adapterInfo
  · rintro _ ⟨⟩ d' chain'
    by_cases hchain : chain' = chain
    · subst hchain
      simp only [View.bitmap, update₂_self]
      by_cases hd : d' = d
      · subst hd
        rw [update₂_self, hself]
      · rw [update₂_of_ne fun h' => hd h'.1, hI.enabled c rfl, hother d' hd]
    · simp only [View.bitmap]
      rw [update₂_of_ne fun h' => hchain h'.2, update₂_of_ne fun h' => hchain h'.2,
        hI.enabled c rfl]
      rfl
  · exact fun _ _ => Option.some_ne_none _
  · exact ⟨rfl, rfl, rfl, update₂_left hI'⟩

/-- The record of one message. -/
theorem setRecord (h : Represents E v a) {digest : Digest} {info : AttestationInfo}
    {record : Router.Record} (hrecord : record = ⟨indices info.attestedAdapters, info.executed⟩) :
    Represents E { v with attestation := Function.update v.attestation digest (some info) }
      (a.setRecord digest record) where
  integrator I := (h.integrator I).congr ⟨rfl, rfl, rfl, rfl⟩
  inbox digest' := by
    by_cases heq : digest' = digest
    · subst heq
      simp only [Router.setRecord_self, hrecord, View.record, Function.update_self]
    · rw [Router.setRecord_of_ne heq, h.inbox]
      simp only [View.record, Function.update_of_ne heq]
  outbox := ⟨h.outbox.exists_iff, h.outbox.unique⟩

end Represents

/-- The account of one message of the outbox, which may be removed. -/
theorem RepresentsOutbox.update {outbox : Pubkey → BitVec 64 → Option Router.Outgoing}
    (h : RepresentsOutbox v outbox) {k I : Pubkey} {sequence : BitVec 64} (x : Option OutboxMessage)
    (hx : ∀ message, x = some message → message.srcAddr = I ∧ message.sequence = sequence)
    (hold : ∀ message, v.outbox k = some message →
      message.srcAddr = I ∧ message.sequence = sequence)
    (hfree : ∀ k', k' ≠ k → ∀ message, v.outbox k' = some message →
      ¬ (message.srcAddr = I ∧ message.sequence = sequence)) :
    RepresentsOutbox { v with outbox := Function.update v.outbox k x }
      (update₂ outbox I sequence (x.map OutboxMessage.outgoing)) where
  exists_iff I' sequence' outgoing := by
    by_cases heq : I' = I ∧ sequence' = sequence
    · obtain ⟨rfl, rfl⟩ := heq
      rw [update₂_self, Option.map_eq_some_iff]
      constructor
      · rintro ⟨message, rfl, rfl⟩
        exact ⟨k, message, Function.update_self .., (hx _ rfl).1, (hx _ rfl).2, rfl⟩
      · rintro ⟨k', message, hk', hI, hsequence, rfl⟩
        by_cases hkk : k' = k
        · subst hkk
          simp only [Function.update_self] at hk'
          exact ⟨message, hk', rfl⟩
        · exact absurd ⟨hI, hsequence⟩
            (hfree k' hkk message ((Function.update_of_ne hkk ..).symm.trans hk'))
    · rw [update₂_of_ne heq, h.exists_iff]
      constructor
      · rintro ⟨k', message, hk', hI, hsequence, rfl⟩
        have hkk : k' ≠ k := by
          rintro rfl
          obtain ⟨hI', hsequence'⟩ := hold message hk'
          exact heq ⟨hI.symm.trans hI', hsequence.symm.trans hsequence'⟩
        exact ⟨k', message, (Function.update_of_ne hkk ..).trans hk', hI, hsequence, rfl⟩
      · rintro ⟨k', message, hk', hI, hsequence, rfl⟩
        have hkk : k' ≠ k := by
          rintro rfl
          simp only [Function.update_self] at hk'
          obtain ⟨hI', hsequence'⟩ := hx message hk'
          exact heq ⟨hI.symm.trans hI', hsequence.symm.trans hsequence'⟩
        exact ⟨k', message, (Function.update_of_ne hkk ..).symm.trans hk', hI, hsequence, rfl⟩
  unique k₁ k₂ message₁ message₂ h₁ h₂ hI hsequence := by
    dsimp only at h₁ h₂
    by_cases hk₁ : k₁ = k
    · by_cases hk₂ : k₂ = k
      · exact hk₁.trans hk₂.symm
      · subst hk₁
        rw [Function.update_self] at h₁
        rw [Function.update_of_ne hk₂] at h₂
        obtain ⟨hI₁, hsequence₁⟩ := hx _ h₁
        exact absurd ⟨hI.symm.trans hI₁, hsequence.symm.trans hsequence₁⟩ (hfree k₂ hk₂ _ h₂)
    · rw [Function.update_of_ne hk₁] at h₁
      by_cases hk₂ : k₂ = k
      · subst hk₂
        rw [Function.update_self] at h₂
        obtain ⟨hI₂, hsequence₂⟩ := hx _ h₂
        exact absurd ⟨hI.trans hI₂, hsequence.trans hsequence₂⟩ (hfree k₁ hk₁ _ h₁)
      · rw [Function.update_of_ne hk₂] at h₂
        exact h.unique _ _ _ _ h₁ h₂ hI hsequence

theorem Represents.setOutbox (h : Represents E v a) {k I : Pubkey} {sequence : BitVec 64}
    (x : Option OutboxMessage)
    (hx : ∀ message, x = some message → message.srcAddr = I ∧ message.sequence = sequence)
    (hold : ∀ message, v.outbox k = some message →
      message.srcAddr = I ∧ message.sequence = sequence)
    (hfree : ∀ k', k' ≠ k → ∀ message, v.outbox k' = some message →
      ¬ (message.srcAddr = I ∧ message.sequence = sequence)) :
    Represents E { v with outbox := Function.update v.outbox k x }
      { a with outbox := update₂ a.outbox I sequence (x.map OutboxMessage.outgoing) } where
  integrator I' := (h.integrator I').congr ⟨rfl, rfl, rfl, rfl⟩
  inbox := h.inbox
  outbox := h.outbox.update x hx hold hfree

end GmpRouter.Svm
