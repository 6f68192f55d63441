import GmpRouter.Aptos.Network
import GmpRouter.Evm.Network
import GmpRouter.Svm.Network
import GmpRouter.Svm.Commutation

/-!
# Delivery in a network of endpoints

Endpoints of the three kinds, one on each chain of a network, with messages in flight between any
two. Each runs for itself, and a joint log interleaves their logs (`Interleaves`); what passes
between the chains passes through adapters, and they can do what they like.

An adapter forges a message when it attests to it although the endpoint of its source chain has not
handed it over, or, at an Aptos endpoint, although it is for another chain, which only that endpoint
does not check (`Forges`). A message that is received with more attestations than adapters forge it
was sent, once, to the chain where it is received, and it is received so once in the whole network
(`network_delivery`). This is what an integrator relies on that sets a threshold above the number of
its adapters which it has to distrust.
-/

namespace GmpRouter.Network

/-! ## Nodes -/

/-- The endpoint of a chain. -/
inductive Node
  | evm (E : Evm.Env)
  | svm (E : Svm.Env)
  | aptos (keccak256 : List Byte → Digest)

/-- A commit of an endpoint. -/
inductive Entry
  | evm (c : Commit Evm.State Evm.Op Evm.Receipt)
  | svm (c : Commit Svm.State Svm.Instruction Svm.Output)
  | aptos (c : Commit Aptos.State Aptos.Call Aptos.Output)

namespace Node

/-- The chain of an EVM endpoint is set when it is deployed, that of the SVM program is a
constant. -/
def DeployedOn (chain : ChainId) : Node → Prop
  | .evm E => E.ourChain = chain
  | .svm _ => Svm.CHAIN_ID = chain
  | .aptos _ => True

def keccak : Node → List Byte → Digest
  | .evm E => E.keccak
  | .svm E => E.keccak
  | .aptos keccak256 => keccak256

/-- Whether the endpoint checks that an attested message is for its chain. -/
def checksDestination : Node → Bool
  | .aptos _ => false
  | _ => true

def event (chain : ChainId) : Node → Entry → Event Message UniversalAddress
  | .evm E, .evm c => Evm.event E c
  | .svm _, .svm c => Svm.event c
  | .aptos _, .aptos c => Aptos.event chain c
  | _, _ => .internal

/-- The logs of the endpoint since its deployment. -/
inductive History : Node → List Entry → Prop
  | evm (E : Evm.Env) (txs : List Evm.Tx) :
    History (.evm E) ((Evm.execAll E .init txs).2.map .evm)
  | svm {E : Svm.Env} {l : Svm.Log} {s : Svm.State} : (Svm.machine E).Path .init l s →
    History (.svm E) (l.map .svm)
  | aptos {keccak256 : List Byte → Digest} {l : Aptos.Log} {s : Aptos.State} :
    (Aptos.machine keccak256).Path .init l s → History (.aptos keccak256) (l.map .aptos)

variable {node : Node} {chain : ChainId} {log : List Entry} {m : Message}

theorem History.lawful (h : node.History log) (hK : CollisionFree node.keccak) :
    Lawful (log.map (node.event chain)) := by
  cases h with
  | evm E txs =>
    rw [List.map_map]
    exact Evm.lawful_of_trace hK (Evm.execAll_trace E .init txs)
  | svm hpath =>
    rw [List.map_map]
    exact Svm.lawful_of_path hK hpath
  | aptos hpath =>
    rw [List.map_map]
    exact (Aptos.lawful_of_path hK hpath).1

theorem History.srcChain_of_sends (h : node.History log) (hK : CollisionFree node.keccak)
    (hchain : node.DeployedOn chain) (hm : .sends m ∈ log.map (node.event chain)) :
    m.srcChain = chain := by
  cases h with
  | evm E txs =>
    rw [List.map_map] at hm
    exact (Evm.srcChain_of_sends hm).trans hchain
  | svm hpath =>
    rw [List.map_map] at hm
    exact (Svm.srcChain_of_sends hpath hm).trans hchain
  | aptos hpath =>
    rw [List.map_map] at hm
    exact (Aptos.lawful_of_path hK hpath).2 m hm

theorem History.dstChain_of_attests (h : node.History log) (hchain : node.DeployedOn chain)
    (hchecks : node.checksDestination = true) {A : UniversalAddress}
    (hm : .attests A m ∈ log.map (node.event chain)) : m.dstChain = chain := by
  cases h with
  | evm E txs =>
    rw [List.map_map] at hm
    exact (Evm.dstChain_of_attests (Evm.execAll_path E .init txs) hm).trans hchain
  | svm hpath =>
    rw [List.map_map] at hm
    exact (Svm.dstChain_of_attests hpath hm).trans hchain
  | aptos => cases hchecks

end Node

/-! ## The network -/

/-- The endpoints of a network, on chains that they are deployed on, with collision-free hashes. -/
structure Deployment where
  node : ChainId → Option Node
  deployedOn : ∀ chain n, node chain = some n → n.DeployedOn chain
  collisionFree : ∀ chain n, node chain = some n → CollisionFree n.keccak

namespace Deployment

variable (D : Deployment)

/-- The entries of each chain are a log of its endpoint. -/
def Interleaves (joint : List (ChainId × Entry)) : Prop :=
  ∀ chain, match D.node chain with
    | some n => n.History (onNode chain joint)
    | none => onNode chain joint = []

def event (chain : ChainId) (entry : Entry) : Event Message UniversalAddress :=
  match D.node chain with
  | some n => n.event chain entry
  | none => .internal

def trace (joint : List (ChainId × Entry)) : JointTrace ChainId Message UniversalAddress :=
  joint.map fun e => (e.1, D.event e.1 e.2)

/-- The chains of the network. -/
def chains : Set ChainId := {chain | (D.node chain).isSome}

/-- The adapter attests to the message before the endpoint of its source has handed it over; or it
is for another chain, and the endpoint does not check that. -/
def Forges (joint : JointTrace ChainId Message UniversalAddress) (chain : ChainId) (m : Message)
    (A : UniversalAddress) : Prop :=
  ∃ j₁ j₂, joint = j₁ ++ (chain, .attests A m) :: j₂ ∧
    (m.srcChain ∈ D.chains ∧ (m.srcChain, .handsOver m) ∉ j₁ ∨
      (∀ n, D.node chain = some n → n.checksDestination = false) ∧ m.dstChain ≠ chain)

variable {D} {joint : List (ChainId × Entry)} {chain : ChainId} {m : Message}

theorem Interleaves.onNode_trace (h : D.Interleaves joint) (chain : ChainId) :
    onNode chain (D.trace joint) = [] ∧ D.node chain = none ∨
      ∃ n, D.node chain = some n ∧ n.History (onNode chain joint) ∧
        onNode chain (D.trace joint) = (onNode chain joint).map (n.event chain) := by
  have hchain := h chain
  rw [trace, onNode_map D.event]
  cases hn : D.node chain with
  | none =>
    rw [hn] at hchain
    rw [show onNode chain joint = [] from hchain]
    exact .inl ⟨rfl, rfl⟩
  | some n =>
    rw [hn] at hchain
    refine .inr ⟨n, rfl, hchain, List.map_congr_left fun e _ => ?_⟩
    rw [event, hn]

theorem Interleaves.lawful (h : D.Interleaves joint) (chain : ChainId) :
    Lawful (onNode chain (D.trace joint)) := by
  rcases h.onNode_trace chain with ⟨hnil, -⟩ | ⟨n, hn, hlog, htrace⟩
  · exact hnil ▸ Lawful.nil
  · exact htrace ▸ hlog.lawful (D.collisionFree chain n hn)

theorem Interleaves.srcChain_of_sends (h : D.Interleaves joint) (chain : ChainId) (m : Message)
    (hm : (chain, .sends m) ∈ D.trace joint) : chain = m.srcChain := by
  have hmem := mem_onNode.2 hm
  rcases h.onNode_trace chain with ⟨hnil, -⟩ | ⟨n, hn, hlog, htrace⟩
  · rw [hnil] at hmem
    cases hmem
  · rw [htrace] at hmem
    exact (hlog.srcChain_of_sends (D.collisionFree chain n hn) (D.deployedOn chain n hn) hmem).symm

/-- What an endpoint checks, no adapter can forge. -/
theorem Interleaves.forges (h : D.Interleaves joint) {A : UniversalAddress}
    (hA : Network.Forges Message.srcChain Message.dstChain D.chains (D.trace joint) chain m A) :
    D.Forges (D.trace joint) chain m A := by
  obtain ⟨j₁, j₂, hjoint, hforged⟩ := hA
  refine ⟨j₁, j₂, hjoint, ?_⟩
  by_cases hhanded : m.srcChain ∈ D.chains → (m.srcChain, .handsOver m) ∈ j₁
  · refine .inr ⟨fun n hn => Bool.eq_false_iff.2 fun hchecks => hforged ⟨?_, hhanded⟩,
      fun hdst => hforged ⟨hdst, hhanded⟩⟩
    have hmem : Event.attests A m ∈ onNode chain (D.trace joint) := by
      rw [hjoint, onNode_append_cons]
      exact List.mem_append_right _ (List.mem_cons_self ..)
    rcases h.onNode_trace chain with ⟨-, hnone⟩ | ⟨n', hn', hlog, htrace⟩
    · rw [hn] at hnone
      cases hnone
    · obtain rfl := Option.some.inj (hn.symm.trans hn')
      exact hlog.dstChain_of_attests (D.deployedOn chain n hn) hchecks (htrace ▸ hmem)
  · exact .inl (Classical.not_imp.1 hhanded)

end Deployment

/-- **Delivery in a network.** In every joint log of endpoints on distinct chains, whatever the
callers, the admins and the adapters do and in whatever order:

* a message from a chain of the network that is received with more attestations than adapters forge
  it was sent before, exactly once in the whole log, and to the chain where it is received;
* no message is received twice in the network with more attestations than are forged. -/
theorem network_delivery (D : Deployment) {joint : List (ChainId × Entry)} (h : D.Interleaves joint)
    (m : Message) (forgers : ChainId → Finset UniversalAddress)
    (hforgers : ∀ chain A, D.Forges (D.trace joint) chain m A → A ∈ forgers chain) :
    (∀ before chain n after, D.trace joint = before ++ (chain, .receives m n) :: after →
      (forgers chain).card < n → m.srcChain ∈ D.chains →
      m.dstChain = chain ∧ (m.srcChain, .sends m) ∈ before ∧
        (D.trace joint).countP (fun e => e.2 = .sends m) = 1) ∧
    (D.trace joint).countP (fun e => e.2.isReceipt m (forgers e.1).card) ≤ 1 := by
  have hforges : ∀ chain A,
      Forges Message.srcChain Message.dstChain D.chains (D.trace joint) chain m A →
      A ∈ forgers chain := fun chain A hA => hforgers chain A (h.forges hA)
  exact ⟨fun before chain n after htrace hn hsrc =>
      exists_sends_of_receives h.lawful h.srcChain_of_sends (hforges chain) htrace hn hsrc,
    countP_receipts_le_one h.lawful hforges⟩

/-- The program is on chain 1 and an EVM endpoint on chain 2. -/
def sampleDeployment : Deployment where
  node chain :=
    if chain = 1#16 then some (.svm Svm.sampleEnv)
    else if chain = 2#16 then some (.evm Evm.sampleEnv)
    else none
  deployedOn chain n hn := by
    split at hn
    · next hchain => exact Option.some.inj hn ▸ hchain.symm
    · split at hn
      · next hchain => exact Option.some.inj hn ▸ hchain.symm
      · cases hn
  collisionFree chain n hn := by
    split at hn
    · exact Option.some.inj hn ▸ collisionFree_id
    · split at hn
      · exact Option.some.inj hn ▸ collisionFree_id
      · cases hn

/-- The first message of the integrator 10 on chain 2 to the integrator 10 on chain 1. -/
def sampleMessage : Message := ⟨2#16, 10#256, 0#64, 1#16, 10#256, 6#256⟩

/-- The integrator on chain 2, with admin 11 and the adapter 12, sends the message. -/
def sampleTxs : List Evm.Tx :=
  [.mk ⟨10#160, 0⟩ (.register 11#160) [],
    .mk ⟨11#160, 0⟩ (.configure 10#160 (.addAdapter 12#160)) [],
    .mk ⟨11#160, 0⟩ (.configure 10#160 (.enableSendAdapter 1#16 12#160)) [],
    .mk ⟨10#160, 7⟩ (.sendMessage ⟨1#16, 10#256, 6#256, 10#160, []⟩ fun _ => 0)
      [.mk (some 7) [] true]]

/-- The integrator on chain 1 enables its adapter, which attests the message, and receives it. -/
def sampleInstructions : List Svm.Instruction :=
  Svm.sampleInstructions.take 3 ++
    [Svm.attestCall Svm.sampleEnv sampleMessage 12#256 2#8,
      Svm.recvCall Svm.sampleEnv sampleMessage 1#8]

/-- What is logged on chain 2, and then on chain 1. -/
def sampleJoint : List (ChainId × Entry) :=
  ((Evm.execAll Evm.sampleEnv .init sampleTxs).2.map .evm).map (Prod.mk 2#16) ++
    (((Svm.machine Svm.sampleEnv).run .init sampleInstructions).2.map .svm).map (Prod.mk 1#16)

theorem sampleDeployment_interleaves {l₁ l₂ : List Entry} (h₁ : (Node.svm Svm.sampleEnv).History l₁)
    (h₂ : (Node.evm Evm.sampleEnv).History l₂) :
    sampleDeployment.Interleaves (l₂.map (Prod.mk 2#16) ++ l₁.map (Prod.mk 1#16)) := by
  intro chain
  simp only [sampleDeployment, onNode_append, onNode_map_mk]
  by_cases hchain : chain = 1#16
  · subst hchain
    exact h₁
  · by_cases hchain' : chain = 2#16
    · subst hchain'
      simpa using h₂
    · simp [hchain, hchain', Ne.symm hchain, Ne.symm hchain']

theorem sampleJoint_interleaves : sampleDeployment.Interleaves sampleJoint :=
  sampleDeployment_interleaves (.svm ((Svm.machine Svm.sampleEnv).run_path ..))
    (.evm Evm.sampleEnv sampleTxs)

theorem network_delivery_sample :
    ∃ before after, sampleDeployment.trace sampleJoint =
        before ++ (1#16, .receives sampleMessage 1) :: after ∧
      (2#16, .sends sampleMessage) ∈ before ∧
      (sampleDeployment.trace sampleJoint).countP (fun e => e.2 = .sends sampleMessage) = 1 := by
  have htrace : sampleDeployment.trace sampleJoint =
      List.replicate 3 (2#16, .internal) ++
        [(2#16, .sends sampleMessage), (2#16, .handsOver sampleMessage), (2#16, .internal)] ++
        List.replicate 3 (1#16, .internal) ++
        [(1#16, .attests 12#256 sampleMessage), (1#16, .receives sampleMessage 1)] := by
    decide +kernel
  -- the one attestation comes after the adapter on chain 2 got the message
  have hhonest : ∀ chain A, ¬ sampleDeployment.Forges (sampleDeployment.trace sampleJoint) chain
      sampleMessage A := by
    rintro chain A ⟨j₁, j₂, hjoint, hforged⟩
    rw [htrace] at hjoint
    have hbefore : chain = 1#16 ∧ (2#16, .handsOver sampleMessage) ∈ j₁ := by
      simp [List.replicate, List.cons_eq_append_iff] at hjoint
      simp [hjoint]
    rcases hforged with ⟨-, hnot⟩ | ⟨-, hdst⟩
    · exact hnot hbefore.2
    · exact hdst hbefore.1.symm
  obtain ⟨before, after, hsplit⟩ := List.append_of_mem
    (show (1#16, .receives sampleMessage 1) ∈ sampleDeployment.trace sampleJoint by decide +kernel)
  obtain ⟨-, hsends, hcount⟩ :=
    (network_delivery sampleDeployment sampleJoint_interleaves sampleMessage
    (fun _ => ∅) fun chain A hA => absurd hA (hhonest chain A)).1 before 1#16 1 after hsplit
    (by decide) rfl
  exact ⟨before, after, hsplit, hsends, hcount⟩

end GmpRouter.Network
