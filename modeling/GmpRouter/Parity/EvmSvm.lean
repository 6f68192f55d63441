import GmpRouter.Evm.Receive
import GmpRouter.Parity.SvmAptos

/-!
# The receive path of the EVM endpoint and of the SVM program

An integrator has the same adapters on both endpoints, the same of them are enabled for receiving,
and the records of its messages are the same (`EvmSvm.Related`) exactly when both represent the
receive path of one state of the router (`related_iff`). Corresponding calls keep this, and succeed
on both or on neither, except that `recvMessage` of the EVM endpoint also needs an adapter to be
enabled at the moment: a message that was attested before the adapters were disabled is stranded
there.
-/

namespace GmpRouter

open Evm (fromAddress fromAddress_injective Receives)
open GmpRouter.Bitmap (indices indices_injective)

variable {E : Svm.Env} {u v : Evm.State} {s t : Svm.State} {a b : Router.State}

/-! ## The data -/

/-- The adapters of an integrator, none when it is not registered. -/
def Svm.State.adapters (E : Svm.Env) (s : Svm.State) (I : Svm.Pubkey) : List Svm.Pubkey :=
  ((s.find (α := Svm.IntegratorConfig) (E.pda (.integratorConfig I))).map
    Svm.IntegratorConfig.adapterInfos).getD []

def Svm.State.adapterIndex (E : Svm.Env) (s : Svm.State) (I A : Svm.Pubkey) : Option (BitVec 8) :=
  (s.find (α := Svm.AdapterInfo) (E.pda (.adapterInfo I A))).map Svm.AdapterInfo.index

def Evm.State.adapterIndex (u : Evm.State) (I A : Evm.Address) : Option (BitVec 8) :=
  if (u.adapterInfos I A).registered then some (u.adapterInfos I A).index else none

/-- The EVM endpoint on the chain of the SVM program, with the same hash function. -/
def evmEnv (E : Svm.Env) : Evm.Env := ⟨E.keccak, Svm.CHAIN_ID⟩

/-- The bitmap of the attestations of a message, and whether it is executed. -/
def Evm.State.attestation (E : Svm.Env) (u : Evm.State) (I : Evm.Address) (m : Message) :
    BitVec 128 × Bool :=
  let info := Evm.record (evmEnv E) u I m
  (info.attestedAdapters, info.executed)

/-- **Both endpoints keep the same data of the receive path**, of the integrators and the adapters
that have an address on both chains. -/
structure EvmSvm.Related (E : Svm.Env) (u : Evm.State) (s : Svm.State) : Prop where
  adapters : ∀ I, s.adapters E (fromAddress I) = (u.registeredAdapters I).map fromAddress
  adapterIndex : ∀ I A, s.adapterIndex E (fromAddress I) (fromAddress A) = u.adapterIndex I A
  bitmap : ∀ I chain, (s.chainConfigOf E (fromAddress I) chain).recvAdapterBitmap =
    u.perChainRecvAdapterBitmap I chain
  inbox : ∀ I m, m.dstAddr = fromAddress I →
    s.attestation E (Svm.AttestationInfo.computeMessageHash E m) = u.attestation E I m

/-! ## The data and the state of the router -/

namespace Svm.Refines

variable {I A : Svm.Pubkey}

theorem adapters_eq (h : Svm.Refines E s a) (I : Svm.Pubkey) :
    s.adapters E I = ((a.integrators I).map Router.Integrator.adapters).getD [] := by
  have hconfig : s.find (E.pda (.integratorConfig I)) = (a.integrators I).map (configOf E I) :=
    (h.represents.integrator I).config
  rw [State.adapters, hconfig, Option.map_map]
  rfl

theorem adapterIndex_eq (h : Svm.Refines E s a) (I A : Svm.Pubkey) :
    s.adapterIndex E I A = ((s.adapters E I).idxOf? A).map (BitVec.ofNat 8) := by
  have hinfo : s.find (α := AdapterInfo) (E.pda (.adapterInfo I A)) =
      (a.integrators I).bind fun c => (c.adapters.idxOf? A).map (adapterInfoOf E I A) :=
    (h.represents.integrator I).adapterInfo A
  rw [State.adapterIndex, hinfo, h.adapters_eq]
  cases a.integrators I with
  | none => rfl
  | some c =>
    rw [Option.bind_some, Option.map_map]
    rfl

theorem indices_recvAdapterBitmap (h : Svm.Refines E s a) (I : Svm.Pubkey) (chain : ChainId) :
    indices (s.chainConfigOf E I chain).recvAdapterBitmap =
      ((a.integrators I).map fun c => c.enabled .recv chain).getD ∅ := by
  cases hc : a.integrators I with
  | some c => exact (h.enabled_eq hc .recv chain).symm
  | none =>
    have hchain := (h.represents.integrator I).chainConfig chain
    rw [hc, not_imp_not] at hchain
    have hnone : s.find (α := IntegratorChainConfig) (E.pda (.integratorChainConfig I chain)) =
        none :=
      hchain rfl
    rw [State.chainConfigOf, hnone]
    exact GmpRouter.Bitmap.indices_zero

/-- The integrator of a message with attestations is registered. -/
theorem exists_integrator_of_attested (hK : CollisionFree E.keccak) {l : Svm.Log}
    (hpath : (Svm.machine E).Path .init l s) (h : Svm.Refines E s a) {m : Message}
    (hne : (a.inbox (AttestationInfo.computeMessageHash E m)).attested ≠ ∅) :
    ∃ c, a.integrators m.dstAddr = some c := by
  rw [h.inbox_eq] at hne
  obtain ⟨i, hi⟩ := Finset.nonempty_iff_ne_empty.2 hne
  obtain ⟨config, -, hconfig, -⟩ := attestedBy_of_mem hK hpath hi
  have hview := view_config.2 hconfig
  rw [(h.represents.integrator m.dstAddr).config, Option.map_eq_some_iff] at hview
  obtain ⟨c, hc, -⟩ := hview
  exact ⟨c, hc⟩

end Svm.Refines

theorem Evm.RegistryInv.adapterIndex_eq (h : Evm.RegistryInv u) (I A : Evm.Address) :
    u.adapterIndex I A =
      (((u.registeredAdapters I).map fromAddress).idxOf? (fromAddress A)).map (BitVec.ofNat 8) := by
  rw [Evm.State.adapterIndex]
  split
  · next hreg =>
    rw [h.idxOf?_eq_some.2 ⟨hreg, rfl⟩, Option.map_some, BitVec.ofNat_toNat, BitVec.setWidth_eq]
  · next hreg =>
    have hnone : ((u.registeredAdapters I).map fromAddress).idxOf? (fromAddress A) = none := by
      rwa [List.idxOf?_eq_none_iff, List.mem_map_of_injective fromAddress_injective, h.mem_iff]
    rw [hnone, Option.map_none]

theorem computeMessageDigest_evmEnv (E : Svm.Env) :
    Evm.Endpoint.computeMessageDigest (evmEnv E) = Svm.AttestationInfo.computeMessageHash E := by
  funext m
  rw [Evm.Endpoint.computeMessageDigest_eq, Svm.AttestationInfo.computeMessageHash_eq]
  rfl

namespace EvmSvm

/-- **The data of the receive path are the same exactly when they represent the same state of the
router.** -/
theorem related_iff (h : Svm.Refines E s a) (hu : Evm.RegistryInv u) :
    Related E u s ↔ Receives (evmEnv E) u a := by
  constructor
  · intro hrelated
    constructor
    · exact fun I => (h.adapters_eq _).symm.trans (hrelated.adapters I)
    · intro I chain
      rw [← h.indices_recvAdapterBitmap, hrelated.bitmap]
    · intro I m hm
      rw [computeMessageDigest_evmEnv, h.inbox_attestation, hrelated.inbox I m hm]
      rfl
  · intro hreceives
    have hadapters : ∀ I, s.adapters E (fromAddress I) = (u.registeredAdapters I).map fromAddress :=
      fun I => (h.adapters_eq _).trans (hreceives.adapters I)
    constructor
    · exact hadapters
    · intro I A
      rw [h.adapterIndex_eq, hadapters, hu.adapterIndex_eq]
    · intro I chain
      apply indices_injective
      rw [h.indices_recvAdapterBitmap, hreceives.enabled]
    · intro I m hm
      apply recordOf_injective
      rw [← h.inbox_attestation, ← computeMessageDigest_evmEnv, hreceives.inbox I m hm]
      rfl

theorem related_init : Related E .init .init := by
  refine (related_iff Svm.refines_init .init).2 ⟨fun I => rfl, fun I chain => ?_, fun I m _ => ?_⟩
  · exact GmpRouter.Bitmap.indices_zero.symm
  · exact congrArg (Router.Record.mk · false) GmpRouter.Bitmap.indices_zero.symm

/-! ## Corresponding calls -/

/-- The sender of the EVM call and the signer of the SVM instruction are the admins of the
integrator on their chains, and no transfer is pending. -/
structure Authorised (E : Svm.Env) (u : Evm.State) (s : Svm.State) (msg : Evm.Msg) (I : Evm.Address)
    (signer : Svm.Pubkey) : Prop where
  value_eq : msg.value = 0
  evm : Evm.Endpoint.OnlyAdmin u I msg.sender
  svm : ∃ config, Svm.ByAdmin s (E.pda (.integratorConfig (fromAddress I)))
    (fromAddress I) signer config

/-- Calls of the receive path, for the same integrator, adapter, chain and message. Chain IDs and
new adapters are not 0, and attested messages are for this chain. -/
inductive Corresponds (E : Svm.Env) (u : Evm.State) (s : Svm.State) :
    Evm.Op → Svm.Instruction → Prop
  | addAdapter {msg : Evm.Msg} {I A : Evm.Address} {signer : Svm.Pubkey} {i : Svm.Instruction}
      (hadmin : Authorised E u s msg I signer) (hA : A ≠ 0#160)
      (hcall : Svm.Calls E s i (.configure signer (fromAddress I) (.addAdapter (fromAddress A)))) :
      Corresponds E u s (.call msg (.configure I (.addAdapter A))) i
  | enableRecvAdapter {msg : Evm.Msg} {I A : Evm.Address} {chain : ChainId} {signer : Svm.Pubkey}
      {i : Svm.Instruction} (hadmin : Authorised E u s msg I signer) (hchain : chain ≠ 0#16)
      (hcall : Svm.Calls E s i
        (.configure signer (fromAddress I) (.setAdapter .recv true chain (fromAddress A)))) :
      Corresponds E u s (.call msg (.configure I (.enableRecvAdapter chain A))) i
  | disableRecvAdapter {msg : Evm.Msg} {I A : Evm.Address} {chain : ChainId} {signer : Svm.Pubkey}
      {i : Svm.Instruction} (hadmin : Authorised E u s msg I signer) (hchain : chain ≠ 0#16)
      (hcall : Svm.Calls E s i
        (.configure signer (fromAddress I) (.setAdapter .recv false chain (fromAddress A)))) :
      Corresponds E u s (.call msg (.configure I (.disableRecvAdapter chain A))) i
  | attest {msg : Evm.Msg} {I : Evm.Address} {m : Message} {i : Svm.Instruction}
      (hvalue : msg.value = 0) (hI : m.dstAddr = fromAddress I) (hsrc : m.srcChain ≠ 0#16)
      (hdst : m.dstChain = Svm.CHAIN_ID)
      (hcall : Svm.Calls E s i (.attest (fromAddress msg.sender) m)) :
      Corresponds E u s (.call msg (.attestMessage m)) i
  | recv {msg : Evm.Msg} {args : Evm.RecvMessageArgs} {i : Svm.Instruction}
      (hsrc : args.srcChain ≠ 0#16)
      (hcall : Svm.Calls E s i (.recv (Evm.Endpoint.inbound (evmEnv E) msg.sender args))) :
      Corresponds E u s (.call msg (.recvMessage args)) i
  | exec {msg : Evm.Msg} {args : Evm.RecvMessageArgs} {i : Svm.Instruction} (hvalue : msg.value = 0)
      (hsrc : args.srcChain ≠ 0#16)
      (hcall : Svm.Calls E s i (.exec (Evm.Endpoint.inbound (evmEnv E) msg.sender args))) :
      Corresponds E u s (.call msg (.execMessage args)) i

/-- A message that was attested and not executed is received while no adapter is enabled. -/
def Stranded (E : Svm.Env) (u : Evm.State) : Evm.Op → Prop
  | .call msg (.recvMessage args) =>
    let info := Evm.record (evmEnv E) u msg.sender (Evm.Endpoint.inbound (evmEnv E) msg.sender args)
    u.perChainRecvAdapterBitmap msg.sender args.srcChain = 0#128 ∧ info.attestedAdapters ≠ 0#128 ∧
      info.executed = false
  | _ => False

variable {op : Evm.Op} {i : Svm.Instruction} {r : Evm.Receipt} {o : Svm.Output}

/-- Corresponding calls make one step of the router. -/
theorem Corresponds.exists_simulates (hK : CollisionFree E.keccak) (h : Corresponds E u s op i)
    (hs : Svm.Refines E s a) (hu : Evm.Counted u) (hreceives : Receives (evmEnv E) u a) :
    ∃ rop guard, Svm.Calls E s i rop ∧ Svm.Guards rop ∧
      Evm.Simulates (evmEnv E) u a op guard rop ∧
      ∀ x, ¬ Stranded E u op →
        Router.step (Svm.AttestationInfo.computeMessageHash E) a rop = .ok x → guard := by
  have hauthorised : ∀ {msg I signer}, Authorised E u s msg I signer →
      ∃ c, Router.ByAdmin a signer (fromAddress I) c := by
    intro msg I signer hadmin
    obtain ⟨config, hby⟩ := hadmin.svm
    obtain ⟨-, c, hc, -⟩ := hs.byAdmin hby
    exact ⟨c, hc⟩
  cases h with
  | addAdapter hadmin hA hcall =>
    obtain ⟨c, hby⟩ := hauthorised hadmin
    exact ⟨_, _, hcall, trivial, hreceives.addAdapter hu.registry hadmin.evm hadmin.value_eq hby,
      fun _ _ _ => hA⟩
  | enableRecvAdapter hadmin hchain hcall =>
    obtain ⟨c, hby⟩ := hauthorised hadmin
    exact ⟨_, _, hcall, hchain,
      hreceives.enableRecvAdapter hu.registry hadmin.evm hadmin.value_eq hby, fun _ _ _ => hchain⟩
  | disableRecvAdapter hadmin hchain hcall =>
    obtain ⟨c, hby⟩ := hauthorised hadmin
    exact ⟨_, _, hcall, trivial,
      hreceives.disableRecvAdapter hu.registry hadmin.evm hadmin.value_eq hby, fun _ _ _ => hchain⟩
  | attest hvalue hI hsrc hdst hcall =>
    exact ⟨_, _, hcall, hdst, hreceives.attestMessage hK hu hI, fun _ _ _ => ⟨hvalue, hsrc, hdst⟩⟩
  | @recv msg args i hsrc hcall =>
    refine ⟨_, _, hcall, trivial, hreceives.recvMessage hK,
      fun x hstranded hstep => ⟨hsrc, fun hzero => ?_⟩⟩
    obtain ⟨c, -, hattested, hexecuted, -⟩ := Router.recv_eq_ok.1 hstep
    rw [← computeMessageDigest_evmEnv, hreceives.inbox msg.sender _ rfl] at hattested hexecuted
    exact hstranded ⟨hzero, mt GmpRouter.Bitmap.indices_eq_empty.2 hattested, hexecuted⟩
  | exec hvalue hsrc hcall =>
    exact ⟨_, _, hcall, ⟨hsrc, show Svm.CHAIN_ID ≠ 0#16 by decide⟩, hreceives.execMessage hK,
      fun _ _ _ => hvalue⟩

/-! ## The bisimulation -/

/-- Related states of histories of the two endpoints. -/
structure Reached (E : Svm.Env) (u : Evm.State) (s : Svm.State) : Prop where
  evm : ∃ l, (Evm.machine (evmEnv E)).Path .init l u
  svm : ∃ l, (Svm.machine E).Path .init l s
  related : Related E u s

theorem Reached.counted (h : Reached E u s) : Evm.Counted u := by
  obtain ⟨l, hu⟩ := h.evm
  exact hu.invariant (Evm.Counted.invariant _) .init

theorem Reached.exists_receives (h : Reached E u s) :
    ∃ a, Svm.Refines E s a ∧ Receives (evmEnv E) u a := by
  obtain ⟨l, hs⟩ := h.svm
  obtain ⟨a, ha⟩ := Svm.exists_refines hs
  exact ⟨a, ha, (related_iff ha h.counted.registry).1 h.related⟩

/-- Steps of both endpoints lead to related states, if these represent the same state of the
router. -/
theorem Reached.of_step (h : Reached E u s) (hevm : Evm.step (evmEnv E) u op = .ok (v, r))
    (hsvm : Svm.process E s i = .ok (t, o)) (hb : Svm.Refines E t b)
    (hreceives : Receives (evmEnv E) v b) : Reached E v t := by
  obtain ⟨l, hu⟩ := h.evm
  obtain ⟨l', hs⟩ := h.svm
  exact ⟨⟨_, hu.append (.single hevm)⟩, ⟨_, hs.append (.single hsvm)⟩,
    (related_iff hb (Evm.RegistryInv.invariant _ hevm h.counted.registry)).2 hreceives⟩

/-- Corresponding calls that succeed report the same bitmaps and lead to related states. -/
theorem Reached.step (hK : CollisionFree E.keccak) (h : Reached E u s)
    (hcall : Corresponds E u s op i)
    (hevm : Evm.step (evmEnv E) u op = .ok (v, r)) (hsvm : Svm.process E s i = .ok (t, o)) :
    Reached E v t ∧ r.received = o.event.received := by
  obtain ⟨a, ha, hreceives⟩ := h.exists_receives
  obtain ⟨rop, guard, hcalls, -, hsimulates, -⟩ :=
    hcall.exists_simulates hK ha h.counted hreceives
  obtain ⟨-, b, out, hstep, hv, hout⟩ := hsimulates.sound hevm
  obtain ⟨rop', hop, c, hstep', hc⟩ := ha.step hsvm
  obtain rfl : rop' = rop := Option.some.inj (hop.symm.trans (hcalls.op_eq ha hsvm))
  rw [computeMessageDigest_evmEnv, hstep'] at hstep
  obtain ⟨rfl, rfl⟩ := Prod.mk.inj (Except.ok.inj hstep)
  refine ⟨h.of_step hevm hsvm hc hv, ?_⟩
  apply Option.map_injective (indices_injective.prodMap indices_injective)
  rw [hout, Svm.Event.receivedSets_out]

theorem bisimulation (hK : CollisionFree E.keccak) :
    Machine.Bisimulation (Evm.machine (evmEnv E)) (Svm.machine E) (Reached E)
      (fun u s op i => Corresponds E u s op i ∧ ¬ Stranded E u op)
      (fun r o => r.received = o.event.received) where
  forth u s op i v r h hcall hevm := by
    obtain ⟨a, ha, hreceives⟩ := h.exists_receives
    obtain ⟨rop, guard, hcalls, hguards, hsimulates, -⟩ :=
      hcall.1.exists_simulates hK ha h.counted hreceives
    obtain ⟨-, b, out, hstep, -, -⟩ := hsimulates.sound hevm
    rw [computeMessageDigest_evmEnv] at hstep
    obtain ⟨l, hs⟩ := h.svm
    obtain ⟨⟨t, o⟩, hsvm⟩ := hcalls.complete hK hs ha hguards hstep
    exact ⟨t, o, hsvm, h.step hK hcall.1 hevm hsvm⟩
  back u s op i t o h hcall hsvm := by
    obtain ⟨a, ha, hreceives⟩ := h.exists_receives
    obtain ⟨rop, guard, hcalls, -, hsimulates, hguard⟩ :=
      hcall.1.exists_simulates hK ha h.counted hreceives
    obtain ⟨rop', hop, c, hstep, -⟩ := ha.step hsvm
    obtain rfl : rop' = rop := Option.some.inj (hop.symm.trans (hcalls.op_eq ha hsvm))
    have hguard := hguard _ hcall.2 hstep
    rw [← computeMessageDigest_evmEnv] at hstep
    obtain ⟨⟨v, r⟩, hevm⟩ := hsimulates.complete hguard hstep
    exact ⟨v, r, hevm, h.step hK hcall.1 hevm hsvm⟩

/-- The SVM program receives a message exactly when it was attested and is not executed. -/
theorem Reached.exists_recv_iff (hK : CollisionFree E.keccak) (h : Reached E u s) {I : Evm.Address}
    {m : Message} (hI : m.dstAddr = fromAddress I) (hcall : Svm.Calls E s i (.recv m)) :
    (∃ x, Svm.process E s i = .ok x) ↔
      (Evm.record (evmEnv E) u I m).attestedAdapters ≠ 0#128 ∧
        (Evm.record (evmEnv E) u I m).executed = false := by
  obtain ⟨a, ha, hreceives⟩ := h.exists_receives
  have hinbox := hreceives.inbox I m hI
  rw [computeMessageDigest_evmEnv] at hinbox
  have hattested : (a.inbox (Svm.AttestationInfo.computeMessageHash E m)).attested ≠ ∅ ↔
      (Evm.record (evmEnv E) u I m).attestedAdapters ≠ 0#128 := by
    rw [hinbox]
    exact not_congr GmpRouter.Bitmap.indices_eq_empty
  have hexecuted : (a.inbox (Svm.AttestationInfo.computeMessageHash E m)).executed =
      (Evm.record (evmEnv E) u I m).executed := by
    rw [hinbox]
    rfl
  rw [← hattested, ← hexecuted]
  constructor
  · rintro ⟨⟨t, o⟩, hsvm⟩
    obtain ⟨op, hop, b, hstep, -⟩ := ha.step hsvm
    obtain rfl : op = .recv m := Option.some.inj (hop.symm.trans (hcall.op_eq ha hsvm))
    obtain ⟨c, -, hne, hnot, -⟩ := Router.recv_eq_ok.1 hstep
    exact ⟨hne, hnot⟩
  · rintro ⟨hne, hnot⟩
    obtain ⟨l, hs⟩ := h.svm
    obtain ⟨c, hc⟩ := ha.exists_integrator_of_attested hK hs hne
    exact hcall.complete hK hs ha trivial (Router.recv_eq_ok.2 ⟨c, hc, hne, hnot, rfl, rfl⟩)

end EvmSvm

open EvmSvm

/-- **The receive path of the EVM endpoint and of the SVM program.** From related states of their
histories, after every sequence of corresponding calls in which no stranded message is received, the
states are related; the next corresponding calls, unless they receive a stranded message, both
succeed or both fail, and when they succeed the states stay related and the calls report the same
bitmaps. A message is received on SVM exactly when it was attested and is not executed, and on EVM
when, besides, an adapter is enabled for its source chain. -/
theorem evm_svm_receive_path (hK : CollisionFree E.keccak) {l : Evm.Log} {l' : Svm.Log}
    (hu : (Evm.machine (evmEnv E)).Path .init l u) (hs : (Svm.machine E).Path .init l' s)
    (hrelated : Related E u s)
    (hruns : Machine.Runs (Evm.machine (evmEnv E)) (Svm.machine E)
      (fun u s op i => Corresponds E u s op i ∧ ¬ Stranded E u op) u s v t) :
    Related E v t ∧
    (∀ op i, Corresponds E v t op i → ¬ Stranded E v op →
      ((∃ x, Evm.step (evmEnv E) v op = .ok x) ↔ ∃ x, Svm.process E t i = .ok x) ∧
      ∀ v' r t' o, Evm.step (evmEnv E) v op = .ok (v', r) → Svm.process E t i = .ok (t', o) →
        Related E v' t' ∧ r.received = o.event.received) ∧
    ∀ msg args i, Corresponds E v t (.call msg (.recvMessage args)) i →
      let info := Evm.record (evmEnv E) v msg.sender
        (Evm.Endpoint.inbound (evmEnv E) msg.sender args)
      ((∃ x, Svm.process E t i = .ok x) ↔ info.attestedAdapters ≠ 0#128 ∧ info.executed = false) ∧
      ((∃ x, Evm.step (evmEnv E) v (.call msg (.recvMessage args)) = .ok x) ↔
        v.perChainRecvAdapterBitmap msg.sender args.srcChain ≠ 0#128 ∧
          info.attestedAdapters ≠ 0#128 ∧ info.executed = false) := by
  have hreached := (bisimulation hK).runs hruns ⟨⟨l, hu⟩, ⟨l', hs⟩, hrelated⟩
  refine ⟨hreached.related, fun op i hcall hstranded => ⟨?_, ?_⟩, fun msg args i hcall => ⟨?_, ?_⟩⟩
  · exact (bisimulation hK).isOk_iff hreached ⟨hcall, hstranded⟩
  · intro v' r t' o hevm hsvm
    obtain ⟨hreached', hreceived⟩ := hreached.step hK hcall hevm hsvm
    exact ⟨hreached'.related, hreceived⟩
  · cases hcall with
    | recv hsrc hcalls => exact hreached.exists_recv_iff hK rfl hcalls
  · cases hcall with
    | recv hsrc hcalls =>
      rw [Evm.exists_recvMessage_iff]
      exact and_iff_right hsrc

/-! ## A run -/

/-- The registration of an integrator on each endpoint does not affect the receive path. -/
theorem EvmSvm.related_register (hs : Svm.Refines E s a) (hu : Evm.RegistryInv u)
    (hrelated : Related E u s) {msg : Evm.Msg} {admin : Evm.Address} {r : Evm.Receipt}
    {ctx : Svm.Register} {args : Svm.RegisterArgs} {o : Svm.Output}
    (hevm : Evm.step (evmEnv E) u (.call msg (.register admin)) = .ok (v, r))
    (hsvm : Svm.process E s (.register ctx args) = .ok (t, o)) : Related E v t := by
  obtain ⟨op, hop, b, hstep, hb⟩ := hs.step hsvm
  obtain rfl := Option.some.inj hop
  obtain ⟨hnone, rfl, -⟩ := Router.register_eq_ok.1 hstep
  have hstep : (Evm.machine (evmEnv E)).step u (.call msg (.register admin)) = .ok (v, r) := hevm
  have hv := Evm.RegistryInv.invariant (evmEnv E) hstep hu
  refine (related_iff hb hv).2 ?_
  have h := (related_iff hs hu).1 hrelated
  obtain ⟨-, -, rfl, -⟩ := Evm.Endpoint.register_eq_ok.1 (Evm.body_of_dispatch hevm rfl).2
  constructor
  · intro I
    rw [← h.adapters]
    by_cases hI : fromAddress I = args.integratorProgramId
    · rw [hI, Router.setIntegrator_self, hnone]
      rfl
    · rw [Router.setIntegrator_of_ne hI]
  · intro I chain
    rw [← h.enabled]
    by_cases hI : fromAddress I = args.integratorProgramId
    · rw [hI, Router.setIntegrator_self, hnone]
      rfl
    · rw [Router.setIntegrator_of_ne hI]
  · exact h.inbox

namespace EvmSvm

open Svm (sampleEnv)

def sampleArgs : Evm.RecvMessageArgs := ⟨2#16, 77#256, 5#64, 6#256⟩

/-- The integrator 10 of the EVM endpoint, with admin 11, adds the adapter 12 and enables it for
messages from chain 2; the adapter attests a message. -/
def sampleOps : List Evm.Op :=
  [.call ⟨10#160, 0⟩ (.register 11#160),
    .call ⟨11#160, 0⟩ (.configure 10#160 (.addAdapter 12#160)),
    .call ⟨11#160, 0⟩ (.configure 10#160 (.enableRecvAdapter 2#16 12#160)),
    .call ⟨12#160, 0⟩ (.attestMessage (Evm.Endpoint.inbound (evmEnv sampleEnv) 10#160 sampleArgs))]

/-- The admin disables the adapter again, and the message is received. -/
def sampleDisable : Evm.Op :=
  .call ⟨11#160, 0⟩ (.configure 10#160 (.disableRecvAdapter 2#16 12#160))

def sampleRecv : Evm.Op := .call ⟨10#160, 0⟩ (.recvMessage sampleArgs)

def evmAfter (ops : List Evm.Op) : Evm.State :=
  ops.foldl (Evm.machine (evmEnv sampleEnv)).next .init

def svmAfter (instructions : List Svm.Instruction) : Svm.State :=
  instructions.foldl (Svm.machine sampleEnv).next .init

def sampleDisableInstruction : Svm.Instruction :=
  .disableRecvAdapter ⟨11#256, Svm.samplePda (.integratorConfig 10#256),
    Svm.samplePda (.integratorChainConfig 10#256 2#16), Svm.samplePda (.adapterInfo 10#256 12#256)⟩
    ⟨2#16, 12#256, 10#256⟩

def sampleRecvInstruction : Svm.Instruction :=
  .recvMessage ⟨Svm.integratorProgramPda 10#256 1#8,
    Svm.samplePda (.integratorChainConfig 10#256 2#16),
    Svm.samplePda (Svm.attestationSeeds sampleEnv Svm.sampleMessage)⟩
    ⟨1#8, 2#16, 77#256, 5#64, Svm.CHAIN_ID, 10#256, 6#256⟩

/-- The configuration of the integrator with these adapters. -/
def sampleConfig (adapters : List Svm.Pubkey) : Svm.IntegratorConfig :=
  ⟨255#8, 10#256, some 11#256, none, adapters⟩

theorem authorised_sample {u : Evm.State} {s : Svm.State} (adapters : List Svm.Pubkey)
    (hu : u.integratorConfigs 10#160 = ⟨true, 11#160, 0#160⟩)
    (hs : s.accounts (Svm.samplePda (.integratorConfig 10#256)) =
      some (.integratorConfig (sampleConfig adapters))) :
    Authorised sampleEnv u s ⟨11#160, 0⟩ 10#160 11#256 :=
  ⟨rfl, ⟨by rw [hu], by rw [hu]⟩, sampleConfig adapters, ⟨hs, rfl⟩, rfl, rfl⟩

theorem related_sample :
    Related sampleEnv (evmAfter (sampleOps.take 1)) (svmAfter (Svm.sampleInstructions.take 1)) := by
  obtain ⟨⟨v, r⟩, hevm⟩ : ∃ x, (Evm.machine (evmEnv sampleEnv)).step .init
      (.call ⟨10#160, 0⟩ (.register 11#160)) = .ok x := isOk_iff.1 (by decide +kernel)
  obtain ⟨⟨t, o⟩, hsvm⟩ : ∃ x, (Svm.machine sampleEnv).step .init (.register
      ⟨Svm.samplePda (.integratorConfig 10#256), Svm.samplePda (.sequenceTracker 10#256),
        Svm.integratorProgramPda 10#256 1#8⟩ ⟨10#256, 1#8, 11#256⟩) = .ok x :=
    isOk_iff.1 (by decide +kernel)
  have hu : evmAfter (sampleOps.take 1) = v :=
    Machine.next_of_ok hevm
  have hs : svmAfter (Svm.sampleInstructions.take 1) = t :=
    Machine.next_of_ok hsvm
  rw [hu, hs]
  exact related_register Svm.refines_init .init related_init hevm hsvm

theorem evmAfter_path (ops : List Evm.Op) :
    ∃ l, (Evm.machine (evmEnv sampleEnv)).Path .init l (evmAfter ops) := by
  rw [evmAfter, ← Machine.run_fst]
  exact ⟨_, Machine.run_path ..⟩

theorem svmAfter_path (instructions : List Svm.Instruction) :
    ∃ l, (Svm.machine sampleEnv).Path .init l (svmAfter instructions) := by
  rw [svmAfter, ← Machine.run_fst]
  exact ⟨_, Machine.run_path ..⟩

theorem runs_snoc {P : Evm.State → Svm.State → Evm.Op → Svm.Instruction → Prop} {ops : List Evm.Op}
    {instructions : List Svm.Instruction} {op : Evm.Op} {i : Svm.Instruction}
    (h : Machine.Runs (Evm.machine (evmEnv sampleEnv)) (Svm.machine sampleEnv) P u s
      (evmAfter ops) (svmAfter instructions)) (hP : P (evmAfter ops) (svmAfter instructions) op i) :
    Machine.Runs (Evm.machine (evmEnv sampleEnv)) (Svm.machine sampleEnv) P u s
      (evmAfter (ops ++ [op])) (svmAfter (instructions ++ [i])) := by
  rw [evmAfter, svmAfter, List.foldl_append, List.foldl_append]
  exact h.snoc hP

/-- The calls after the registration correspond. -/
theorem runs_sample :
    Machine.Runs (Evm.machine (evmEnv sampleEnv)) (Svm.machine sampleEnv)
      (fun u s op i => Corresponds sampleEnv u s op i ∧ ¬ Stranded sampleEnv u op)
      (evmAfter (sampleOps.take 1)) (svmAfter (Svm.sampleInstructions.take 1))
      (evmAfter sampleOps) (svmAfter (Svm.sampleInstructions.take 4)) := by
  have hadd : Corresponds sampleEnv (evmAfter (sampleOps.take 1))
      (svmAfter (Svm.sampleInstructions.take 1))
      (.call ⟨11#160, 0⟩ (.configure 10#160 (.addAdapter 12#160)))
      (.addAdapter ⟨11#256, Svm.samplePda (.integratorConfig 10#256),
        Svm.samplePda (.adapterInfo 10#256 12#256)⟩ ⟨10#256, 12#256⟩) :=
    .addAdapter (authorised_sample [] (by decide +kernel) (by decide +kernel)) (by decide)
      (.addAdapter _ _ _)
  have henable : Corresponds sampleEnv (evmAfter (sampleOps.take 2))
      (svmAfter (Svm.sampleInstructions.take 2))
      (.call ⟨11#160, 0⟩ (.configure 10#160 (.enableRecvAdapter 2#16 12#160)))
      (.enableRecvAdapter ⟨11#256, Svm.samplePda (.integratorConfig 10#256),
        Svm.samplePda (.integratorChainConfig 10#256 2#16),
        Svm.samplePda (.adapterInfo 10#256 12#256)⟩
        ⟨2#16, 12#256, 10#256⟩) :=
    .enableRecvAdapter (authorised_sample [12#256] (by decide +kernel) (by decide +kernel))
      (by decide) (.setAdapter .recv true _ _ _ _)
  have hattest : Corresponds sampleEnv (evmAfter (sampleOps.take 3))
      (svmAfter (Svm.sampleInstructions.take 3))
      (.call ⟨12#160, 0⟩ (.attestMessage (Evm.Endpoint.inbound
        (evmEnv sampleEnv) 10#160 sampleArgs)))
      (.attestMessage ⟨Svm.samplePda (.adapterInfo 10#256 12#256), Svm.adapterPda 12#256 2#8,
        Svm.samplePda (.integratorChainConfig 10#256 2#16),
        Svm.samplePda (Svm.attestationSeeds sampleEnv Svm.sampleMessage)⟩
        ⟨12#256, 2#8, 2#16, 77#256, 5#64, Svm.CHAIN_ID, 10#256, 6#256⟩) :=
    .attest rfl rfl (by decide) rfl (.attest 12#256 2#8 Svm.sampleMessage)
  exact runs_snoc (runs_snoc (runs_snoc .nil ⟨hadd, id⟩) ⟨henable, id⟩) ⟨hattest, id⟩

/-- The admin disables the adapter after it attested. -/
theorem runs_disable :
    Machine.Runs (Evm.machine (evmEnv sampleEnv)) (Svm.machine sampleEnv) (Corresponds sampleEnv)
      (evmAfter (sampleOps.take 1)) (svmAfter (Svm.sampleInstructions.take 1))
      (evmAfter (sampleOps ++ [sampleDisable]))
      (svmAfter (Svm.sampleInstructions.take 4 ++ [sampleDisableInstruction])) := by
  refine runs_snoc (runs_sample.mono fun _ _ _ _ h => h.1) ?_
  exact .disableRecvAdapter (authorised_sample [12#256] (by decide +kernel) (by decide +kernel))
    (by decide) (.setAdapter .recv false _ _ _ _)

end EvmSvm

theorem evm_svm_receive_path_sample :
    Related Svm.sampleEnv (evmAfter sampleOps) (svmAfter (Svm.sampleInstructions.take 4)) := by
  obtain ⟨l, hu⟩ := evmAfter_path (sampleOps.take 1)
  obtain ⟨l', hs⟩ := svmAfter_path (Svm.sampleInstructions.take 1)
  exact (evm_svm_receive_path collisionFree_id hu hs related_sample runs_sample).1

/-- A message that was attested before its adapter was disabled is received on SVM and not on
EVM. -/
theorem evm_svm_receive_path_stranded :
    Related Svm.sampleEnv (evmAfter (sampleOps.take 1)) (svmAfter (Svm.sampleInstructions.take 1)) ∧
    Machine.Runs (Evm.machine (evmEnv Svm.sampleEnv)) (Svm.machine Svm.sampleEnv)
      (Corresponds Svm.sampleEnv) (evmAfter (sampleOps.take 1))
      (svmAfter (Svm.sampleInstructions.take 1)) (evmAfter (sampleOps ++ [sampleDisable]))
      (svmAfter (Svm.sampleInstructions.take 4 ++ [sampleDisableInstruction])) ∧
    Corresponds Svm.sampleEnv (evmAfter (sampleOps ++ [sampleDisable]))
      (svmAfter (Svm.sampleInstructions.take 4 ++ [sampleDisableInstruction])) sampleRecv
      sampleRecvInstruction ∧
    (Evm.State.attestation Svm.sampleEnv (evmAfter (sampleOps ++ [sampleDisable])) 10#160
      Svm.sampleMessage) = (1#128, false) ∧
    (Svm.process Svm.sampleEnv
      (svmAfter (Svm.sampleInstructions.take 4 ++ [sampleDisableInstruction]))
      sampleRecvInstruction).isOk = true ∧
    (Evm.step (evmEnv Svm.sampleEnv) (evmAfter (sampleOps ++ [sampleDisable])) sampleRecv).isOk =
      false :=
  ⟨related_sample, runs_disable, .recv (by decide) (.recv 1#8 Svm.sampleMessage), by decide +kernel,
    by decide +kernel, by decide +kernel⟩

end GmpRouter
