import GmpRouter.Evm.Progress
import GmpRouter.Network.Delivery
import GmpRouter.Parity.Availability
import GmpRouter.Router.Progress

/-!
# Progress in a network of endpoints

Nothing that happens in a network makes a message undeliverable for good. As long as it is not
consumed and its integrator has some adapter enabled for its source chain, a few steps deliver it:
it is handed over at its source, unless it was already, the adapter attests it, unless it has
already, and it is received (`network_progress`). None of these steps forges anything.
-/

namespace GmpRouter

variable {m : Message}

/-! ## SVM -/

namespace Svm

variable {E : Env} {l : Log} {s : State} {A : Pubkey} {bump : Pubkey → Byte}

theorem exists_receives (hK : CollisionFree E.keccak) (hdst : m.dstChain = CHAIN_ID)
    (hpath : (machine E).Path .init l s) (hready : (ballot E m bump).Ready l s A) :
    ∃ ext t, (machine E).Path .init (l ++ ext) t ∧ Network.Delivers A m (ext.map event) := by
  refine Router.exists_receives (delivers hK hdst bump) (fun _ => rfl) ?_ ?_ hpath hready
  · rintro ⟨u, i, o, t⟩ hinput
    obtain rfl : i = attestInstruction E m bump A := hinput
    rfl
  · rintro ⟨u, i, ⟨e, refund⟩, t⟩ enabled attested hinput hreported
    obtain rfl : i = recvInstruction E m bump := hinput
    obtain ⟨⟨b, b'⟩, hb, heq⟩ := Option.map_eq_some_iff.1 hreported
    obtain ⟨rfl, rfl⟩ := Prod.mk.inj heq
    cases e <;> cases hb
    rfl

/-- A message that the router can pick up has an account, and an instruction picks it up. -/
theorem exists_pickUp {a : Router.State} {I : Pubkey} {sequence : BitVec 64}
    {r : Router.State × Router.Out} (h : Refines E s a)
    (hstep : Router.step (AttestationInfo.computeMessageHash E) a (.pickUp A I sequence) = .ok r) :
    ∃ i r', process E s i = .ok r' ∧ i.op s = some (.pickUp A I sequence) := by
  obtain ⟨c, outgoing, j, hc, houtbox, hindex, hmem, -⟩ := Router.pickUp_eq_ok.1 hstep
  obtain ⟨k, message, hk, rfl, rfl, rfl⟩ := (h.represents.outbox.exists_iff _ _ _).1 houtbox
  have hload := view_outbox.1 hk
  have hfind : s.find (.external k) = some message := State.find_eq_some.2 hload
  let ctx : PickUpMessage := ⟨.external k, E.pda (.adapterInfo message.srcAddr A), adapterPda A 0#8,
    message.refundRecipient⟩
  have hprocess : ∃ r', pickUpMessage s ctx ⟨A, 0#8⟩ = .ok r' :=
    h.pickUpMessage_ok hload rfl rfl rfl hc hindex hmem
  refine ⟨.pickUpMessage ctx ⟨A, 0#8⟩, hprocess.choose, hprocess.choose_spec, ?_⟩
  rw [Instruction.op, show s.find ctx.outboxMessage = some message from hfind, Option.map_some]

theorem exists_handsOver (hpath : (machine E).Path .init l s) (hm : .sends m ∈ l.map event) :
    .handsOver m ∈ l.map event ∨
      Router.CanHandOver (machine E) Instruction.op (State.configuration E) event s m :=
  Router.exists_handsOver_of_simulation (simulation E) refines_init (fun _ _ h => h.inv)
    (fun _ _ h => h.shows) (fun _ _ _ _ _ hlabel => hlabel.1) (fun _ _ => event_eq)
    (fun _ _ _ _ _ _ => exists_pickUp) hpath hm

end Svm

/-! ## Aptos -/

namespace Aptos

variable {keccak256 : List Byte → Digest} {l : Log} {s : State} {A : Address} {chain : ChainId}

theorem exists_receives (chain : ChainId) (hK : CollisionFree keccak256)
    (hpath : (machine keccak256).Path .init l s) (hready : (ballot m).Ready l s A) :
    ∃ ext t, (machine keccak256).Path .init (l ++ ext) t ∧
      Network.Delivers A m (ext.map (event chain)) := by
  refine Router.exists_receives (delivers hK m) (fun _ => congrArg some (op_attestCall m A))
    ?_ ?_ hpath hready
  · rintro ⟨u, call, o, t⟩ hinput
    obtain rfl : call = attestCall m A := hinput
    have hm := Router.Op.attest.inj (op_attestCall m A)
    exact congrArg (Network.Event.attests A) hm.2
  · rintro ⟨u, call, o, t⟩ enabled attested hinput hreported
    obtain rfl : call = recvCall m := hinput
    have hm := Router.Op.recv.inj (op_recvCall m)
    obtain ⟨⟨b, b'⟩, hb, heq⟩ := Option.map_eq_some_iff.1 hreported
    obtain ⟨rfl, rfl⟩ := Prod.mk.inj heq
    cases o <;> cases hb
    exact congrArg (Network.Event.receives · _) hm

theorem exists_handsOver (hpath : (machine keccak256).Path .init l s)
    (hm : .sends m ∈ l.map (event chain)) : .handsOver m ∈ l.map (event chain) ∨
      Router.CanHandOver (machine keccak256) (fun _ call => some call.op) State.configuration
        (event chain) s m := by
  refine Router.exists_handsOver_of_simulation (simulation keccak256) refines_init
    (fun _ _ h => h.inv) (fun _ _ h => h.shows)
    (fun _ _ _ _ _ hlabel => congrArg some hlabel.1.symm) (fun _ _ => event_eq)
    (fun s a A I sequence r h hstep => ?_) hpath hm
  obtain ⟨r', hprocess⟩ := (h.process (.pickUpMessage A I sequence)).complete trivial hstep
  exact ⟨.pickUpMessage A I sequence, r', hprocess, rfl⟩

end Aptos

namespace Network

/-! ## Nodes -/

namespace Node

variable {n : Node} {chain : ChainId} {log : List Entry} {A : UniversalAddress}

/-- After the log of the endpoint, the message is not consumed, and the adapter is one that its
integrator has enabled for its source chain. -/
inductive Ready : Node → List Entry → Message → UniversalAddress → Prop
  | evm {E : Evm.Env} {l : List (Commit Evm.State Evm.Tx Evm.Log)} {s : Evm.State}
      {I A : Evm.Address} {args : Evm.RecvMessageArgs} :
    (Evm.txMachine E).Path .init l s → (Evm.ballot E I args 0).Ready l s A →
      Ready (.evm E) ((l.flatMap Commit.output).map .evm) (Evm.Endpoint.inbound E I args)
        (Evm.fromAddress A)
  | svm {E : Svm.Env} {l : Svm.Log} {s : Svm.State} {m : Message} {bump : Svm.Pubkey → Byte}
      {A : Svm.Pubkey} :
    (Svm.machine E).Path .init l s → (Svm.ballot E m bump).Ready l s A →
      Ready (.svm E) (l.map .svm) m A
  | aptos {keccak256 : List Byte → Digest} {l : Aptos.Log} {s : Aptos.State} {m : Message}
      {A : Aptos.Address} :
    (Aptos.machine keccak256).Path .init l s → (Aptos.ballot m).Ready l s A →
      Ready (.aptos keccak256) (l.map .aptos) m A

/-- **A message that is ready is delivered** by the endpoint of its destination. -/
theorem Ready.exists_receives (h : n.Ready log m A) (hK : CollisionFree n.keccak)
    (hchain : n.DeployedOn m.dstChain) :
    ∃ ext, n.History (log ++ ext) ∧ Delivers A m (ext.map (n.event m.dstChain)) := by
  cases h with
  | @evm E l _ _ _ _ hpath hready =>
    obtain ⟨ext, t, hext, hdelivers⟩ := Evm.exists_receives hK hpath hready
    refine ⟨(ext.flatMap Commit.output).map .evm, ?_, ?_⟩
    · have hhistory := History.evm E ((l ++ ext).map Commit.input)
      rw [Evm.execAll_of_path hext, List.flatMap_append, List.map_append] at hhistory
      exact hhistory
    · rwa [List.map_map]
  | svm hpath hready =>
    obtain ⟨ext, t, hext, hdelivers⟩ := Svm.exists_receives hK hchain.symm hpath hready
    refine ⟨ext.map .svm, ?_, ?_⟩
    · rw [← List.map_append]
      exact .svm hext
    · rwa [List.map_map]
  | aptos hpath hready =>
    obtain ⟨ext, t, hext, hdelivers⟩ := Aptos.exists_receives m.dstChain hK hpath hready
    refine ⟨ext.map .aptos, ?_, ?_⟩
    · rw [← List.map_append]
      exact .aptos hext
    · rwa [List.map_map]

/-- **A message that was sent is handed over, or can be** by one more entry, which leaves all
messages ready that were. -/
theorem History.exists_handsOver (h : n.History log) (hm : .sends m ∈ log.map (n.event chain)) :
    .handsOver m ∈ log.map (n.event chain) ∨ ∃ e, n.History (log ++ [e]) ∧
      n.event chain e = .handsOver m ∧ ∀ m' A, n.Ready log m' A → n.Ready (log ++ [e]) m' A := by
  cases h with
  | evm E txs =>
    rw [List.map_map] at hm ⊢
    exact .inl (Evm.execAll_handsOver E .init txs m hm)
  | svm hpath =>
    rw [List.map_map] at hm ⊢
    refine (Svm.exists_handsOver hpath hm).imp_right ?_
    rintro ⟨i, t, o, B, hstep, hop, hevent, hconf⟩
    have hext := hpath.append (.single hstep)
    refine ⟨.svm ⟨_, i, o, t⟩, ?_, hevent, fun m' A hready => ?_⟩
    · rw [← List.map_singleton, ← List.map_append]
      exact .svm hext
    · generalize hlog : List.map Entry.svm _ = log at hready
      cases hready with
      | svm hpath' hready =>
        obtain rfl := List.map_injective_iff.2 (fun _ _ => Entry.svm.inj) hlog
        obtain rfl := hpath.unique hpath'
        rw [← List.map_singleton, ← List.map_append]
        exact .svm hext (Router.ready_snoc hready hop hconf)
  | aptos hpath =>
    rw [List.map_map] at hm ⊢
    refine (Aptos.exists_handsOver hpath hm).imp_right ?_
    rintro ⟨call, t, o, B, hstep, hop, hevent, hconf⟩
    have hext := hpath.append (.single hstep)
    refine ⟨.aptos ⟨_, call, o, t⟩, ?_, hevent, fun m' A hready => ?_⟩
    · rw [← List.map_singleton, ← List.map_append]
      exact .aptos hext
    · generalize hlog : List.map Entry.aptos _ = log at hready
      cases hready with
      | aptos hpath' hready =>
        obtain rfl := List.map_injective_iff.2 (fun _ _ => Entry.aptos.inj) hlog
        obtain rfl := hpath.unique hpath'
        rw [← List.map_singleton, ← List.map_append]
        exact .aptos hext (Router.ready_snoc hready hop hconf)

end Node

/-! ## The network -/

namespace Deployment

variable {D : Deployment} {joint : List (ChainId × Entry)} {chain : ChainId} {n : Node}
  {A : UniversalAddress}

/-- The endpoint of one chain goes on. -/
theorem Interleaves.append (h : D.Interleaves joint) (hn : D.node chain = some n) {ext : List Entry}
    (hext : n.History (onNode chain joint ++ ext)) :
    D.Interleaves (joint ++ ext.map (Prod.mk chain)) := by
  intro chain'
  rw [onNode_append, onNode_map_mk]
  by_cases hchain : chain = chain'
  · subst hchain
    rw [hn, if_pos rfl]
    exact hext
  · rw [if_neg hchain, List.append_nil]
    exact h chain'

theorem trace_append_map (hn : D.node chain = some n) (ext : List Entry) :
    D.trace (joint ++ ext.map (Prod.mk chain)) =
      D.trace joint ++ (ext.map (n.event chain)).map (Prod.mk chain) := by
  rw [trace, List.map_append, List.map_map, List.map_map]
  refine congrArg (D.trace joint ++ ·) (List.map_congr_left fun e _ => ?_)
  simp only [Function.comp_apply, event, hn]

/-- An adapter that attests messages at their destination after they were handed over forges
none. -/
theorem Forges.of_append {t₁ t₂ : JointTrace ChainId Message UniversalAddress}
    (h : D.Forges (t₁ ++ t₂) chain m A) (hhonest : (chain, .attests A m) ∈ t₂ →
      m.dstChain = chain ∧ (m.srcChain, .handsOver m) ∈ t₁) : D.Forges t₁ chain m A := by
  obtain ⟨j₁, j₂, heq, hforged⟩ := h
  have hsplit : (∃ rest, j₁ = t₁ ++ rest ∧ t₂ = rest ++ (chain, .attests A m) :: j₂) ∨
      ∃ rest, t₁ = j₁ ++ (chain, .attests A m) :: rest := by
    rcases List.append_eq_append_iff.1 heq with ⟨rest, hj₁, ht₂⟩ | ⟨rest, ht₁, hrest⟩
    · exact .inl ⟨rest, hj₁, ht₂⟩
    · cases rest with
      | nil => exact .inl ⟨[], by rw [ht₁, List.append_nil, List.append_nil], hrest.symm⟩
      | cons e rest =>
        obtain ⟨rfl, -⟩ := List.cons.inj hrest
        exact .inr ⟨rest, ht₁⟩
  rcases hsplit with ⟨rest, rfl, ht₂⟩ | ⟨rest, ht₁⟩
  · -- the attestation is a new one
    obtain ⟨hdst, hhanded⟩ := hhonest (ht₂ ▸ List.mem_append_right _ (List.mem_cons_self ..))
    rcases hforged with ⟨-, hnot⟩ | ⟨-, hne⟩
    · exact absurd (List.mem_append_left _ hhanded) hnot
    · exact absurd hdst hne
  · exact ⟨j₁, rest, ht₁, hforged⟩

/-- Until the message is received, more entries at its source hand it over, unless it was
already. -/
theorem Interleaves.exists_handsOver (h : D.Interleaves joint)
    (hsent : (m.srcChain, .sends m) ∈ D.trace joint) (hn : D.node m.dstChain = some n)
    (hready : n.Ready (onNode m.dstChain joint) m A) :
    ∃ ext, D.Interleaves (joint ++ ext) ∧ (m.srcChain, .handsOver m) ∈ D.trace (joint ++ ext) ∧
      n.Ready (onNode m.dstChain (joint ++ ext)) m A ∧
      ∀ chain m' A', D.Forges (D.trace (joint ++ ext)) chain m' A' →
        D.Forges (D.trace joint) chain m' A' := by
  rcases h.onNode_trace m.srcChain with ⟨hnil, -⟩ | ⟨n', hn', hlog, htrace⟩
  · have hmem := mem_onNode.2 hsent
    rw [hnil] at hmem
    cases hmem
  · have hmem := mem_onNode.2 hsent
    rw [htrace] at hmem
    rcases hlog.exists_handsOver hmem with hhanded | ⟨e, hext, hevent, hkeeps⟩
    · refine ⟨[], ?_, ?_, ?_, fun chain m' A' => ?_⟩
      · rwa [List.append_nil]
      · rw [List.append_nil, ← mem_onNode, htrace]
        exact hhanded
      · rwa [List.append_nil]
      · rw [List.append_nil]
        exact id
    · refine ⟨[e].map (Prod.mk m.srcChain), h.append hn' hext, ?_, ?_,
        fun chain m' A' hforges => ?_⟩
      · rw [trace_append_map hn', List.map_singleton, hevent]
        exact List.mem_append_right _ (List.mem_singleton_self _)
      · rw [onNode_append, onNode_map_mk]
        split
        · next heq =>
          rw [heq] at hn' hkeeps
          obtain rfl := Option.some.inj (hn.symm.trans hn')
          exact hkeeps m A hready
        · rwa [List.append_nil]
      · rw [trace_append_map hn', List.map_singleton, hevent] at hforges
        refine hforges.of_append fun hmem => ?_
        simp at hmem

end Deployment

/-- **Progress in a network.** Take a joint log in which a message was sent, which its destination
has not consumed, and an adapter that its integrator has enabled there. Whatever has happened, the
log can go on so that the message is received, and so that no adapter forges any message that it has
not forged before. -/
theorem network_progress (D : Deployment) {joint : List (ChainId × Entry)} (h : D.Interleaves joint)
    {n : Node} {A : UniversalAddress} (hsent : (m.srcChain, .sends m) ∈ D.trace joint)
    (hn : D.node m.dstChain = some n) (hready : n.Ready (onNode m.dstChain joint) m A) :
    ∃ ext, D.Interleaves (joint ++ ext) ∧
      (∃ k, 0 < k ∧ (m.dstChain, .receives m k) ∈ D.trace ext) ∧
      ∀ chain m' A', D.Forges (D.trace (joint ++ ext)) chain m' A' →
        D.Forges (D.trace joint) chain m' A' := by
  obtain ⟨ext, hext, hhanded, hready', hforges⟩ := h.exists_handsOver hsent hn hready
  obtain ⟨ext', hhistory, votes, k, hevents, hk, hvotes⟩ :=
    hready'.exists_receives (D.collisionFree _ _ hn) (D.deployedOn _ _ hn)
  refine ⟨ext ++ ext'.map (Prod.mk m.dstChain), ?_, ⟨k, hk, ?_⟩, fun chain m' A' hnew => ?_⟩
  · rw [← List.append_assoc]
    exact hext.append hn hhistory
  · rw [Deployment.trace_append_map hn, hevents]
    simp
  · rw [← List.append_assoc, Deployment.trace_append_map hn, hevents] at hnew
    refine hforges chain m' A' (hnew.of_append fun hmem => ?_)
    obtain ⟨e, he, heq⟩ := List.mem_map.1 hmem
    obtain ⟨rfl, rfl⟩ := Prod.mk.inj heq
    rcases List.mem_append.1 he with hvote | hlast
    · obtain ⟨-, rfl⟩ := Event.attests.inj (hvotes _ hvote)
      exact ⟨rfl, hhanded⟩
    · simp at hlast

/-- The message is sent on chain 2, and the adapter enabled on chain 1. -/
def sampleReady : List (ChainId × Entry) :=
  ((Evm.execAll Evm.sampleEnv .init sampleTxs).2.map .evm).map (Prod.mk 2#16) ++
    (((Svm.machine Svm.sampleEnv).run .init (Svm.sampleInstructions.take 3)).2.map .svm).map
      (Prod.mk 1#16)

theorem network_progress_sample :
    ∃ ext, sampleDeployment.Interleaves (sampleReady ++ ext) ∧
      ∃ k, 0 < k ∧ (1#16, .receives sampleMessage k) ∈ sampleDeployment.trace ext := by
  have hinterleaves : sampleDeployment.Interleaves sampleReady :=
    sampleDeployment_interleaves (.svm ((Svm.machine Svm.sampleEnv).run_path ..))
      (.evm Evm.sampleEnv sampleTxs)
  have hready : (Node.svm Svm.sampleEnv).Ready (onNode 1#16 sampleReady) sampleMessage 12#256 := by
    have hlog : onNode 1#16 sampleReady =
        ((Svm.machine Svm.sampleEnv).run .init (Svm.sampleInstructions.take 3)).2.map .svm := by
      rw [sampleReady, onNode_append, onNode_map_mk, onNode_map_mk]
      simp
    have hfresh : ∀ c ∈ ((Svm.machine Svm.sampleEnv).run .init (Svm.sampleInstructions.take 3)).2,
        c.input.op c.pre ≠ some (.recv sampleMessage) ∧
          c.input.op c.pre ≠ some (.exec sampleMessage) := by
      decide +kernel
    have hcounts : let s := ((Svm.machine Svm.sampleEnv).run
        .init (Svm.sampleInstructions.take 3)).1
        Router.indexOf (Svm.State.configuration Svm.sampleEnv) sampleMessage s 12#256 = some 0 ∧
          0 ∈ Router.enabledIndices (Svm.State.configuration Svm.sampleEnv) sampleMessage s := by
      decide +kernel
    rw [hlog]
    have hballot : (Svm.ballot Svm.sampleEnv sampleMessage fun _ => 0#8).Ready
        ((Svm.machine Svm.sampleEnv).run .init (Svm.sampleInstructions.take 3)).2
        ((Svm.machine Svm.sampleEnv).run .init (Svm.sampleInstructions.take 3)).1 12#256 :=
      ⟨fun c hc => not_or.2 (hfresh c hc), 0, hcounts⟩
    exact .svm ((Svm.machine Svm.sampleEnv).run_path ..) hballot
  have hsent : (2#16, .sends sampleMessage) ∈
    sampleDeployment.trace sampleReady := by decide +kernel
  obtain ⟨ext, hext, hreceives, -⟩ := network_progress sampleDeployment hinterleaves
    (m := sampleMessage) hsent rfl hready
  exact ⟨ext, hext, hreceives⟩

end Network

end GmpRouter
