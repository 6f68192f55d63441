import GmpRouter.Message
import GmpRouter.Foundations.Machine
import Mathlib.Data.Finset.Basic
import Mathlib.Data.Finset.Insert

/-!
# The router

What an endpoint is for, without the chain it runs on. An integrator registers with an admin; the
admin maintains a list of adapters and, for each direction and chain, the set of the indices of
those that are enabled, and hands over its role in two steps. Sent messages wait in an outbox until
each adapter that was enabled when they were sent has picked them up; messages from other chains
collect the attestations of the enabled adapters and are then consumed once.

The endpoints on SVM and Aptos are shown to refine this machine, each with further guards of its
own. Messages of the inbox are known by their digest, and the hash function is a parameter.
-/

namespace GmpRouter.Router

/-! ## States -/

/-- The configuration of a registered integrator. -/
structure Integrator where
  admin : Option UniversalAddress
  pendingAdmin : Option UniversalAddress := none
  adapters : List UniversalAddress := []
  /-- The indices of the adapters that are enabled in a direction for a chain. -/
  enabled : Direction → ChainId → Finset ℕ := fun _ _ => ∅
  nextSequence : BitVec 64 := 0#64

/-- A sent message, with the indices of the adapters that have not picked it up. -/
structure Outgoing where
  dstChain : ChainId
  dstAddr : UniversalAddress
  payloadHash : Bytes32
  outstanding : Finset ℕ
  deriving DecidableEq

/-- What is known of a message to an integrator of this chain. -/
structure Record where
  attested : Finset ℕ := ∅
  executed : Bool := false
  deriving DecidableEq

structure State where
  integrators : UniversalAddress → Option Integrator := fun _ => none
  outbox : UniversalAddress → BitVec 64 → Option Outgoing := fun _ _ => none
  inbox : Digest → Record := fun _ => {}

/-! ## Operations -/

/-- What the admin of an integrator can change. -/
inductive Change
  | updateAdmin (newAdmin : UniversalAddress)
  | transferAdmin (newAdmin : UniversalAddress)
  | discardAdmin
  | addAdapter (adapter : UniversalAddress)
  /-- Enable the adapter in the direction for the chain, or disable it. -/
  | setAdapter (direction : Direction) (on : Bool) (chain : ChainId) (adapter : UniversalAddress)
  deriving DecidableEq

inductive Op
  | register (integrator admin : UniversalAddress)
  | configure (caller integrator : UniversalAddress) (change : Change)
  | claimAdmin (caller integrator : UniversalAddress)
  | send (integrator : UniversalAddress) (dstChain : ChainId) (dstAddr : UniversalAddress)
      (payloadHash : Bytes32)
  | pickUp (adapter integrator : UniversalAddress) (sequence : BitVec 64)
  | attest (adapter : UniversalAddress) (m : Message)
  /-- The integrator to which the message is addressed receives it. -/
  | recv (m : Message)
  | exec (m : Message)
  deriving DecidableEq

inductive Out
  | unit
  | sequence (sequence : BitVec 64)
  /-- The message, with the adapters that remain. -/
  | pickedUp (message : Outgoing)
  | received (enabled attested : Finset ℕ)
  deriving DecidableEq

/-- The enabled and the attested adapters of a message that is received. -/
def Out.receivedSets : Out → Option (Finset ℕ × Finset ℕ)
  | .received enabled attested => some (enabled, attested)
  | _ => none

/-- The adapters that remain when a message is picked up. -/
def Out.remainingSet : Out → Option (Finset ℕ)
  | .pickedUp message => some message.outstanding
  | _ => none

/-- The sequence number of a message that is sent. -/
def Out.sentSequence : Out → Option (BitVec 64)
  | .sequence n => some n
  | _ => none

def Change.apply (c : Integrator) : Change → Except Unit Integrator
  | .updateAdmin newAdmin => pure { c with admin := some newAdmin }
  | .transferAdmin newAdmin => pure { c with pendingAdmin := some newAdmin }
  | .discardAdmin => pure { c with admin := none }
  | .addAdapter adapter => do
    require (adapter ∉ c.adapters) ()
    require (c.adapters.length < 128) ()
    pure { c with adapters := c.adapters ++ [adapter] }
  | .setAdapter direction on chain adapter => do
    let i ← orFail (c.adapters.idxOf? adapter) ()
    require (decide (i ∈ c.enabled direction chain) ≠ on) ()
    let enabled := if on then insert i (c.enabled direction chain)
      else (c.enabled direction chain).erase i
    pure { c with enabled := update₂ c.enabled direction chain enabled }

def State.setIntegrator (s : State) (integrator : UniversalAddress) (c : Integrator) : State :=
  { s with integrators := Function.update s.integrators integrator (some c) }

def State.setRecord (s : State) (digest : Digest) (record : Record) : State :=
  { s with inbox := Function.update s.inbox digest record }

def step (hash : Message → Digest) (s : State) : Op → Except Unit (State × Out)
  | .register integrator admin => do
    require (s.integrators integrator = none) ()
    pure (s.setIntegrator integrator { admin := some admin }, .unit)
  | .configure caller integrator change => do
    let c ← orFail (s.integrators integrator) ()
    require (c.admin = some caller) ()
    require (c.pendingAdmin = none) ()
    let c' ← change.apply c
    pure (s.setIntegrator integrator c', .unit)
  | .claimAdmin caller integrator => do
    let c ← orFail (s.integrators integrator) ()
    require (c.pendingAdmin ≠ none) ()
    require (c.admin = some caller ∨ c.pendingAdmin = some caller) ()
    pure (s.setIntegrator integrator { c with admin := some caller, pendingAdmin := none }, .unit)
  | .send integrator dstChain dstAddr payloadHash => do
    let c ← orFail (s.integrators integrator) ()
    require (c.enabled .send dstChain ≠ ∅) ()
    require (c.nextSequence ≠ BitVec.allOnes 64) ()
    let s' := s.setIntegrator integrator { c with nextSequence := c.nextSequence + 1#64 }
    pure ({ s' with
      outbox := update₂ s.outbox integrator c.nextSequence
        (some ⟨dstChain, dstAddr, payloadHash, c.enabled .send dstChain⟩) },
      .sequence c.nextSequence)
  | .pickUp adapter integrator sequence => do
    let c ← orFail (s.integrators integrator) ()
    let message ← orFail (s.outbox integrator sequence) ()
    let i ← orFail (c.adapters.idxOf? adapter) ()
    require (i ∈ message.outstanding) ()
    let message' := { message with outstanding := message.outstanding.erase i }
    pure ({ s with
      outbox := update₂ s.outbox integrator sequence
        (if message'.outstanding = ∅ then none else some message') },
      .pickedUp message')
  | .attest adapter m => do
    let c ← orFail (s.integrators m.dstAddr) ()
    let i ← orFail (c.adapters.idxOf? adapter) ()
    require (i ∈ c.enabled .recv m.srcChain) ()
    let record := s.inbox (hash m)
    require (i ∉ record.attested) ()
    pure (s.setRecord (hash m) { record with attested := insert i record.attested }, .unit)
  | .recv m => do
    let c ← orFail (s.integrators m.dstAddr) ()
    let record := s.inbox (hash m)
    require (record.attested ≠ ∅) ()
    require (record.executed = false) ()
    pure (s.setRecord (hash m) { record with executed := true },
      .received (c.enabled .recv m.srcChain) record.attested)
  | .exec m => do
    let record := s.inbox (hash m)
    require (record.executed = false) ()
    pure (s.setRecord (hash m) { record with executed := true }, .unit)

def machine (hash : Message → Digest) : Machine State Op Unit Out := ⟨step hash⟩

/-! ## Specifications -/

variable {hash : Message → Digest} {s t : State} {o : Out}

theorem register_eq_ok {I a : UniversalAddress} : step hash s (.register I a) = .ok (t, o) ↔
    s.integrators I = none ∧ t = s.setIntegrator I { admin := some a } ∧ o = .unit := by
  simp only [step, require_bind_eq_ok, pure_eq_ok, Prod.mk.injEq]

/-- The caller is the admin, and no transfer is pending. -/
structure ByAdmin (s : State) (caller I : UniversalAddress) (c : Integrator) : Prop where
  integrator_eq : s.integrators I = some c
  admin_eq : c.admin = some caller
  pendingAdmin_eq : c.pendingAdmin = none

theorem configure_eq_ok {caller I : UniversalAddress} {change : Change} :
    step hash s (.configure caller I change) = .ok (t, o) ↔
      ∃ c c', ByAdmin s caller I c ∧ change.apply c = .ok c' ∧ t = s.setIntegrator I c' ∧
        o = .unit := by
  simp only [step, orFail_bind_eq_ok, require_bind_eq_ok]
  simp only [bind_eq_ok, pure_eq_ok, Prod.mk.injEq]
  constructor
  · rintro ⟨c, hc, ha, hp, c', happly, ht, ho⟩
    exact ⟨c, c', ⟨hc, ha, hp⟩, happly, ht, ho⟩
  · rintro ⟨c, c', ⟨hc, ha, hp⟩, happly, ht, ho⟩
    exact ⟨c, hc, ha, hp, c', happly, ht, ho⟩

theorem claimAdmin_eq_ok {caller I : UniversalAddress} :
    step hash s (.claimAdmin caller I) = .ok (t, o) ↔
      ∃ c, s.integrators I = some c ∧ c.pendingAdmin ≠ none ∧
        (c.admin = some caller ∨ c.pendingAdmin = some caller) ∧
        t = s.setIntegrator I { c with admin := some caller, pendingAdmin := none } ∧
        o = .unit := by
  simp only [step, orFail_bind_eq_ok, require_bind_eq_ok, pure_eq_ok, Prod.mk.injEq]

theorem send_eq_ok {I : UniversalAddress} {dstChain : ChainId} {dstAddr : UniversalAddress}
    {payloadHash : Bytes32} : step hash s (.send I dstChain dstAddr payloadHash) = .ok (t, o) ↔
      ∃ c, s.integrators I = some c ∧ c.enabled .send dstChain ≠ ∅ ∧
        c.nextSequence ≠ BitVec.allOnes 64 ∧
        t = { s.setIntegrator I { c with nextSequence := c.nextSequence + 1#64 } with
          outbox := update₂ s.outbox I c.nextSequence
            (some ⟨dstChain, dstAddr, payloadHash, c.enabled .send dstChain⟩) } ∧
        o = .sequence c.nextSequence := by
  simp only [step, orFail_bind_eq_ok, require_bind_eq_ok, pure_eq_ok, Prod.mk.injEq]

theorem pickUp_eq_ok {adapter I : UniversalAddress} {sequence : BitVec 64} :
    step hash s (.pickUp adapter I sequence) = .ok (t, o) ↔
      ∃ c message i, s.integrators I = some c ∧ s.outbox I sequence = some message ∧
        c.adapters.idxOf? adapter = some i ∧ i ∈ message.outstanding ∧
        t = { s with
          outbox := update₂ s.outbox I sequence
            (if message.outstanding.erase i = ∅ then none
              else some { message with outstanding := message.outstanding.erase i }) } ∧
        o = .pickedUp { message with outstanding := message.outstanding.erase i } := by
  simp only [step, orFail_bind_eq_ok, require_bind_eq_ok, pure_eq_ok, Prod.mk.injEq]
  constructor
  · rintro ⟨c, hc, message, hm, i, hi, h⟩
    exact ⟨c, message, i, hc, hm, hi, h⟩
  · rintro ⟨c, message, i, hc, hm, hi, h⟩
    exact ⟨c, hc, message, hm, i, hi, h⟩

theorem attest_eq_ok {adapter : UniversalAddress} {m : Message} :
    step hash s (.attest adapter m) = .ok (t, o) ↔
      ∃ c i, s.integrators m.dstAddr = some c ∧ c.adapters.idxOf? adapter = some i ∧
        i ∈ c.enabled .recv m.srcChain ∧ i ∉ (s.inbox (hash m)).attested ∧
        t = s.setRecord (hash m)
          { s.inbox (hash m) with attested := insert i (s.inbox (hash m)).attested } ∧
        o = .unit := by
  simp only [step, orFail_bind_eq_ok, require_bind_eq_ok, pure_eq_ok, Prod.mk.injEq]
  constructor
  · rintro ⟨c, hc, i, hi, h⟩
    exact ⟨c, i, hc, hi, h⟩
  · rintro ⟨c, i, hc, hi, h⟩
    exact ⟨c, hc, i, hi, h⟩

theorem recv_eq_ok {m : Message} : step hash s (.recv m) = .ok (t, o) ↔
    ∃ c, s.integrators m.dstAddr = some c ∧ (s.inbox (hash m)).attested ≠ ∅ ∧
      (s.inbox (hash m)).executed = false ∧
      t = s.setRecord (hash m) { s.inbox (hash m) with executed := true } ∧
      o = .received (c.enabled .recv m.srcChain) (s.inbox (hash m)).attested := by
  simp only [step, orFail_bind_eq_ok, require_bind_eq_ok, pure_eq_ok, Prod.mk.injEq]

theorem exec_eq_ok {m : Message} : step hash s (.exec m) = .ok (t, o) ↔
    (s.inbox (hash m)).executed = false ∧
      t = s.setRecord (hash m) { s.inbox (hash m) with executed := true } ∧ o = .unit := by
  simp only [step, require_bind_eq_ok, pure_eq_ok, Prod.mk.injEq]

theorem addAdapter_eq_ok {c c' : Integrator} {adapter : UniversalAddress} :
    Change.apply c (.addAdapter adapter) = .ok c' ↔
      adapter ∉ c.adapters ∧ c.adapters.length < 128 ∧
        c' = { c with adapters := c.adapters ++ [adapter] } := by
  simp only [Change.apply, require_bind_eq_ok, pure_eq_ok]

theorem setAdapter_eq_ok {c c' : Integrator} {direction : Direction} {on : Bool} {chain : ChainId}
    {adapter : UniversalAddress} :
    Change.apply c (.setAdapter direction on chain adapter) = .ok c' ↔
      ∃ i, c.adapters.idxOf? adapter = some i ∧
        decide (i ∈ c.enabled direction chain) ≠ on ∧
        c' = { c with
          enabled := update₂ c.enabled direction chain
            (if on then insert i (c.enabled direction chain)
              else (c.enabled direction chain).erase i) } := by
  simp only [Change.apply, orFail_bind_eq_ok, require_bind_eq_ok, pure_eq_ok]

/-! ## Frame lemmas -/

@[simp] theorem setIntegrator_self (I : UniversalAddress) (c : Integrator) :
    (s.setIntegrator I c).integrators I = some c := Function.update_self ..

theorem setIntegrator_of_ne {I I' : UniversalAddress} (h : I' ≠ I) (c : Integrator) :
    (s.setIntegrator I c).integrators I' = s.integrators I' := Function.update_of_ne h ..

@[simp] theorem setRecord_self (d : Digest) (record : Record) :
    (s.setRecord d record).inbox d = record := Function.update_self ..

theorem setRecord_of_ne {d d' : Digest} (h : d' ≠ d) (record : Record) :
    (s.setRecord d record).inbox d' = s.inbox d' := Function.update_of_ne h ..

end GmpRouter.Router
