import GmpRouter.Evm.Availability
import GmpRouter.Parity.EvmAptos
import GmpRouter.Router.Availability

/-!
# Messages that nothing stops on the three endpoints

The SVM program and the Aptos endpoint make the steps of the router by which a message is attested
and received, so that the attestations of a message deliver on both, as on the EVM endpoint
(`attestations_deliver`).
-/

namespace GmpRouter

open Evm (fromAddress)
open GmpRouter.Bitmap (indices)

variable {E : Svm.Env} {m : Message}

/-! ## SVM -/

namespace Svm

/-- The instruction by which the adapter attests the message, signed with the bump. -/
def attestInstruction (E : Env) (m : Message) (bump : Pubkey → Byte) (A : Pubkey) : Instruction :=
  .attestMessage ⟨E.pda (.adapterInfo m.dstAddr A), adapterPda A (bump A),
      E.pda (.integratorChainConfig m.dstAddr m.srcChain), E.pda (attestationSeeds E m)⟩
    ⟨A, bump A, m.srcChain, m.srcAddr, m.sequence, m.dstChain, m.dstAddr, m.payloadHash⟩

/-- The instruction by which the integrator receives the message. -/
def recvInstruction (E : Env) (m : Message) (bump : Pubkey → Byte) : Instruction :=
  .recvMessage ⟨integratorProgramPda m.dstAddr (bump m.dstAddr),
      E.pda (.integratorChainConfig m.dstAddr m.srcChain), E.pda (attestationSeeds E m)⟩
    ⟨bump m.dstAddr, m.srcChain, m.srcAddr, m.sequence, m.dstChain, m.dstAddr, m.payloadHash⟩

def ballot (E : Env) (m : Message) (bump : Pubkey → Byte) :
    Ballot State Instruction Output Pubkey :=
  Router.ballot Instruction.op (State.configuration E) m (attestInstruction E m bump)
    (recvInstruction E m bump) fun o => o.event.received.map (Prod.map indices indices)

theorem delivers (hK : CollisionFree E.keccak) (hdst : m.dstChain = CHAIN_ID)
    (bump : Pubkey → Byte) : (ballot E m bump).Delivers (machine E) .init := by
  refine Router.delivers_of_simulation (simulation E) (computeMessageHash_injective hK) refines_init
    (fun _ _ h => h.inv) (fun _ _ h => h.shows) (fun s a h => h.inbox_attestation _) ?_ ?_ ?_
  · rintro s i o j p ⟨hop, rfl⟩
    exact ⟨hop, (Event.receivedSets_out _).symm⟩
  · intro l s a A r hpath h hrouter
    have hcall : Calls E s (attestInstruction E m bump A) (.attest A m) := .attest A (bump A) m
    obtain ⟨⟨t, o⟩, hstep⟩ := hcall.complete hK hpath h hdst hrouter
    exact ⟨t, o, hstep, hcall.op_eq h hstep⟩
  · intro l s a r hpath h hrouter
    have hcall : Calls E s (recvInstruction E m bump) (.recv m) := .recv (bump m.dstAddr) m
    obtain ⟨⟨t, o⟩, hstep⟩ := hcall.complete hK hpath h trivial hrouter
    exact ⟨t, o, hstep, hcall.op_eq h hstep⟩

end Svm

/-! ## Aptos -/

namespace Aptos

variable {keccak256 : List Byte → Digest}

/-- The call by which the adapter attests the message. -/
def attestCall (m : Message) (A : Address) : Call :=
  .attestMessage A m.srcChain (beBytes 32 m.srcAddr) m.sequence m.dstChain (beBytes 32 m.dstAddr)
    (beBytes 32 m.payloadHash)

/-- The call by which the integrator receives the message. -/
def recvCall (m : Message) : Call :=
  .recvMessage m.dstAddr m.srcChain (beBytes 32 m.srcAddr) m.sequence m.dstChain
    (beBytes 32 m.payloadHash)

def ballot (m : Message) : Ballot State Call Output Address :=
  Router.ballot (fun _ call => some call.op) State.configuration m (attestCall m) (recvCall m)
    fun o => o.received.map (Prod.map indices indices)

theorem op_attestCall (m : Message) (A : Address) : (attestCall m A).op = .attest A m := by
  simp [attestCall, Call.op, Endpoint.messageOf, beWord_beBytes_32]

theorem op_recvCall (m : Message) : (recvCall m).op = .recv m := by
  simp [recvCall, Call.op, Endpoint.messageTo, beWord_beBytes_32]

theorem delivers (hK : CollisionFree keccak256) (m : Message) :
    (ballot m).Delivers (machine keccak256) .init := by
  have hlength : ∀ x : BitVec 256, (beBytes 32 x).length = 32 := length_beBytes 32
  have hinj : Function.Injective (messageHash keccak256) := fun _ _ h => hK.eq h
  refine Router.delivers_of_simulation (simulation keccak256) hinj refines_init
    (fun _ _ h => h.inv) (fun _ _ h => h.shows) (fun u b h => h.inbox_attestation _) ?_ ?_ ?_
  · rintro s call o j p ⟨rfl, rfl⟩
    refine ⟨rfl, ?_⟩
    cases o <;> rfl
  · intro l s a A r _ h hrouter
    obtain ⟨⟨t, o⟩, hstep⟩ := (h.process (attestCall m A)).complete
      ⟨hlength _, hlength _, hlength _⟩ ((op_attestCall m A).symm ▸ hrouter)
    exact ⟨t, o, hstep, congrArg some (op_attestCall m A)⟩
  · intro l s a r _ h hrouter
    obtain ⟨⟨t, o⟩, hstep⟩ := (h.process (recvCall m)).complete ⟨hlength _, hlength _⟩
      ((op_recvCall m).symm ▸ hrouter)
    exact ⟨t, o, hstep, congrArg some (op_recvCall m)⟩

end Aptos

/-! ## The three endpoints -/

/-- **Nothing stops a message that is attested.** On each endpoint, take adapters that are enabled
for the source chain of a message that is not consumed, in any state reached, and any run from there
in which each of them tries to attest the message, whatever else is tried by anyone. Unless the
admin disables one of these adapters or the integrator consumes the message during the run, the
integrator can receive the message after it, and all these adapters are reported as enabled and
attested. -/
theorem attestations_deliver (hK : CollisionFree E.keccak) (m : Message) :
    (∀ bump, m.dstChain = Svm.CHAIN_ID → (Svm.ballot E m bump).Delivers (Svm.machine E) .init) ∧
      (Aptos.ballot m).Delivers (Aptos.machine E.keccak) .init ∧
      ∀ D I args value, D.keccak = E.keccak → m = Evm.Endpoint.inbound D I args →
        m.srcChain ≠ 0#16 → (Evm.ballot D I args value).Delivers (Evm.txMachine D) .init := by
  refine ⟨fun bump hdst => Svm.delivers hK hdst bump, Aptos.delivers hK m, ?_⟩
  rintro D I args value hD rfl hchain
  exact Evm.delivers (hD ▸ hK) I args hchain value

/-- Adapter 12 of integrator 10 attests the sample message twice, and a stranger once, before and
after which the integrator is registered again; then the message is received. -/
def sampleVotes : List Aptos.Call :=
  [.register 10#256 9#256, Aptos.attestCall Svm.sampleMessage 13#256,
    Aptos.attestCall Svm.sampleMessage 12#256, Aptos.attestCall Svm.sampleMessage 12#256,
    .register 10#256 9#256]

theorem attestations_deliver_sample :
    let s := ((Aptos.machine id).run .init (sampleCalls.take 3)).1
    ∃ t o, Aptos.process id ((Aptos.machine id).run s sampleVotes).1
      (Aptos.recvCall Svm.sampleMessage) = .ok (t, o) := by
  obtain ⟨-, hdelivers, -⟩ :=
    attestations_deliver (E := Svm.sampleEnv) collisionFree_id Svm.sampleMessage
  have hquiet : ∀ {s : Aptos.State} {calls : List Aptos.Call},
      (∀ call ∈ calls, call.op ≠ .recv Svm.sampleMessage ∧ call.op ≠ .exec Svm.sampleMessage) →
      ∀ c ∈ ((Aptos.machine id).run s calls).2, ¬ (Aptos.ballot Svm.sampleMessage).consumes c := by
    intro s calls hcalls c hc hconsumes
    obtain ⟨before, after, rfl, -⟩ := Machine.mem_run_iff.1 hc
    obtain ⟨hrecv, hexec⟩ := hcalls c.input (by simp)
    exact hconsumes.elim (mt Option.some.inj hrecv) (mt Option.some.inj hexec)
  have hconfigure : ∀ call ∈ sampleVotes, ∀ signer change,
      call.op ≠ .configure signer 10#256 change := by
    simp [sampleVotes, Aptos.attestCall, Aptos.Call.op]
  have hcounts : let s := ((Aptos.machine id).run .init (sampleCalls.take 3)).1
      Router.indexOf Aptos.State.configuration Svm.sampleMessage s 12#256 = some 0 ∧
        0 ∈ Router.enabledIndices Aptos.State.configuration Svm.sampleMessage s := by decide +kernel
  have hallowed : ∀ c ∈ ((Aptos.machine id).run
      ((Aptos.machine id).run .init (sampleCalls.take 3)).1 sampleVotes).2,
      ∀ A, ¬ (Aptos.ballot Svm.sampleMessage).excludes A c := by
    rintro c hc A ⟨signer, hop⟩
    obtain ⟨before, after, hvotes, -⟩ := Machine.mem_run_iff.1 hc
    exact hconfigure c.input (by rw [hvotes]; simp) signer _ (Option.some.inj hop)
  obtain ⟨t, o, -, -, hstep, -⟩ := hdelivers _ _ sampleVotes [12#256] (fun _ => 0)
    ((Aptos.machine id).run_path .init (sampleCalls.take 3)) (hquiet (by decide +kernel)) (by simp)
    (fun A hA => List.mem_singleton.1 hA ▸ hcounts)
    (by simp [sampleVotes, Aptos.ballot, Router.ballot])
    (fun c hc => ⟨hquiet (by decide +kernel) c hc, fun A _ => hallowed c hc A⟩)
  exact ⟨t, o, hstep⟩

end GmpRouter
