import Mathlib.Data.Finset.Card
import Mathlib.Data.List.Count

/-!
# Networks with attested delivery

The nodes of a network send messages, which they hand over to carriers. On the node where a message
is to be received, attestors vouch for it, and it is received with the number of those that did.
Nothing else passes between nodes, so that a run of the network is an interleaving of their traces:
a list of events, each at a node (`JointTrace`), of which every node sees its own (`onNode`).

A node is `Lawful` when it sends no message twice, hands over what it has sent, and receives a
message at most once and only with attestations. This is a property of its own trace. What attestors
do is not up to the node; those that vouch for a message which its source has not handed over, or at
a node that is not its destination, are the ones that forge it (`Forges`). The two rules are

* `exists_sends_of_receives`: a message that is received with more attestations than there are
  forgers was sent before, once, and to this node;
* `countP_receipts_le_one`: in the whole network it is received so at most once.
-/

namespace GmpRouter.Network

/-- What happens at a node: `μ` are the messages of the network, `α` the attestors at a node. -/
inductive Event (μ α : Type*)
  | internal
  | sends (m : μ)
  /-- A carrier gets the message. -/
  | handsOver (m : μ)
  | attests (attestor : α) (m : μ)
  /-- The message is received with the given number of attestations. -/
  | receives (m : μ) (attestations : ℕ)
  deriving DecidableEq

variable {κ μ α : Type*}

/-- The message is received with more than a number of attestations. -/
def Event.isReceipt [DecidableEq μ] (m : μ) (more : ℕ) : Event μ α → Bool
  | .receives m' n => m' = m ∧ more < n
  | _ => false

theorem Event.isReceipt_iff [DecidableEq μ] {m : μ} {more : ℕ} {e : Event μ α} :
    e.isReceipt m more = true ↔ ∃ n, e = .receives m n ∧ more < n := by
  cases e <;> simp [isReceipt]

/-- The events of a delivery: the message is attested, if at all, by the one attestor, and
received. -/
def Delivers (A : α) (m : μ) (events : List (Event μ α)) : Prop :=
  ∃ votes k, events = votes ++ [.receives m k] ∧ 0 < k ∧ ∀ e ∈ votes, e = .attests A m

/-! ## Nodes -/

section Lawful

variable [DecidableEq μ] [DecidableEq α]

/-- The trace of a node that neither makes messages up nor receives one twice. -/
structure Lawful (trace : List (Event μ α)) : Prop where
  sends_le_one : ∀ m, trace.countP (fun e => e = .sends m) ≤ 1
  sends_of_handsOver : ∀ l₁ l₂ m, trace = l₁ ++ .handsOver m :: l₂ → .sends m ∈ l₁
  attests_of_receives : ∀ l₁ l₂ m n, trace = l₁ ++ .receives m n :: l₂ →
    0 < n ∧ ∃ attestors : Finset α, attestors.card = n ∧ ∀ A ∈ attestors, .attests A m ∈ l₁
  receipts_le_one : ∀ m, trace.countP (Event.isReceipt m 0) ≤ 1

theorem Lawful.nil : Lawful ([] : List (Event μ α)) where
  sends_le_one _ := Nat.zero_le _
  sends_of_handsOver l₁ _ _ h := by simp at h
  attests_of_receives l₁ _ _ _ h := by simp at h
  receipts_le_one _ := Nat.zero_le _

end Lawful

/-! ## Joint traces -/

/-- The events of all nodes, in the order in which they happen. -/
abbrev JointTrace (κ μ α : Type*) := List (κ × Event μ α)

section OnNode

variable [DecidableEq κ] {β γ : Type*}

/-- What happens at a node, of entries of any kind that are each at a node. -/
def onNode (k : κ) (joint : List (κ × β)) : List β :=
  joint.filterMap fun e => if e.1 = k then some e.2 else none

variable {k : κ} {joint j₁ j₂ : List (κ × β)} {e : β}

theorem mem_onNode : e ∈ onNode k joint ↔ (k, e) ∈ joint := by
  simp only [onNode, List.mem_filterMap, Option.ite_none_right_eq_some, Option.some.injEq]
  constructor
  · rintro ⟨⟨k', e'⟩, hmem, rfl, rfl⟩
    exact hmem
  · intro hmem
    exact ⟨(k, e), hmem, rfl, rfl⟩

theorem onNode_append : onNode k (j₁ ++ j₂) = onNode k j₁ ++ onNode k j₂ :=
  List.filterMap_append

theorem onNode_append_cons : onNode k (j₁ ++ (k, e) :: j₂) = onNode k j₁ ++ e :: onNode k j₂ := by
  simp [onNode, List.filterMap_append]

/-- The entries of a log of one node. -/
theorem onNode_map_mk (k' : κ) (l : List β) :
    onNode k (l.map (Prod.mk k')) = if k' = k then l else [] := by
  rw [onNode, List.filterMap_map]
  by_cases hk : k' = k
  · rw [if_pos hk]
    exact (List.filterMap_congr fun e _ => if_pos hk).trans List.filterMap_some
  · rw [if_neg hk]
    exact List.filterMap_eq_nil_iff.2 fun e _ => if_neg hk

/-- Reading the entries of each node in its own way. -/
theorem onNode_map (f : κ → β → γ) :
    onNode k (joint.map fun e => (e.1, f e.1 e.2)) = (onNode k joint).map (f k) := by
  rw [onNode, onNode, List.filterMap_map, List.map_filterMap]
  refine List.filterMap_congr fun e _ => ?_
  by_cases hk : e.1 = k
  · simp [hk]
  · simp [hk]

theorem countP_onNode (p : β → Bool) :
    (onNode k joint).countP p = joint.countP fun e => e.1 = k ∧ p e.2 := by
  induction joint with
  | nil => rfl
  | cons e joint ih =>
    rw [List.countP_cons, ← ih, onNode, List.filterMap_cons]
    by_cases hk : e.1 = k
    · simp [hk, onNode, List.countP_cons]
    · simp [hk, onNode]

/-- What happens at one node only is counted there. -/
theorem countP_le_onNode {p : κ × β → Bool} {q : β → Bool}
    (h : ∀ e ∈ joint, p e = true → e.1 = k ∧ q e.2 = true) :
    joint.countP p ≤ (onNode k joint).countP q := by
  rw [countP_onNode]
  exact List.countP_mono_left fun e he hp => by simpa using h e he hp

end OnNode

/-! ## Delivery -/

section Delivery

variable [DecidableEq κ] [DecidableEq μ] [DecidableEq α]

/-- The attestor vouches for the message at the node, which is not its destination or before its
source, one of the nodes `N`, has handed it over. -/
def Forges (source destination : μ → κ) (N : Set κ) (joint : JointTrace κ μ α) (k : κ) (m : μ)
    (A : α) : Prop :=
  ∃ j₁ j₂, joint = j₁ ++ (k, .attests A m) :: j₂ ∧
    ¬ (destination m = k ∧ (source m ∈ N → (source m, .handsOver m) ∈ j₁))

variable {source destination : μ → κ} {N : Set κ} {joint j₁ j₂ : JointTrace κ μ α} {k : κ} {m : μ}
  {n : ℕ} {forgers : Finset α}

/-- Among more attestors than can forge the message there is one that does not. -/
theorem exists_handsOver_of_receives (hlawful : Lawful (onNode k joint))
    (hforgers : ∀ A, Forges source destination N joint k m A → A ∈ forgers)
    (hjoint : joint = j₁ ++ (k, .receives m n) :: j₂) (hn : forgers.card < n) :
    destination m = k ∧ (source m ∈ N → (source m, .handsOver m) ∈ j₁) := by
  obtain ⟨-, attestors, rfl, hattests⟩ :=
    hlawful.attests_of_receives (onNode k j₁) (onNode k j₂) m n (by rw [hjoint, onNode_append_cons])
  obtain ⟨A, hA, hhonest⟩ := Finset.exists_mem_notMem_of_card_lt_card hn
  obtain ⟨i₁, i₂, rfl⟩ := List.append_of_mem (mem_onNode.1 (hattests A hA))
  have hnot : ¬ Forges source destination N joint k m A := mt (hforgers A) hhonest
  obtain ⟨hdestination, hhanded⟩ := not_not.1 fun hforged =>
    hnot ⟨i₁, i₂ ++ (k, .receives m attestors.card) :: j₂, by simp [hjoint], hforged⟩
  exact ⟨hdestination, fun hN => List.mem_append_left _ (hhanded hN)⟩

/-- **A message that is received with more attestations than forgers was sent before**, to this
node, and in the whole run once, by its source. -/
theorem exists_sends_of_receives (hlawful : ∀ k, Lawful (onNode k joint))
    (hsource : ∀ k m, (k, .sends m) ∈ joint → k = source m)
    (hforgers : ∀ A, Forges source destination N joint k m A → A ∈ forgers)
    (hjoint : joint = j₁ ++ (k, .receives m n) :: j₂) (hn : forgers.card < n) (hN : source m ∈ N) :
    destination m = k ∧ (source m, .sends m) ∈ j₁ ∧ joint.countP (fun e => e.2 = .sends m) = 1 := by
  obtain ⟨hdestination, hhanded⟩ :=
    exists_handsOver_of_receives (hlawful k) hforgers hjoint hn
  obtain ⟨i₁, i₂, rfl⟩ := List.append_of_mem (hhanded hN)
  have hsends : Event.sends m ∈ onNode (source m) i₁ :=
    (hlawful (source m)).sends_of_handsOver _ (onNode (source m) (i₂ ++ (k, .receives m n) :: j₂)) m
      (by rw [hjoint, List.append_assoc, List.cons_append, onNode_append_cons])
  have hmem : (source m, Event.sends m) ∈ i₁ := mem_onNode.1 hsends
  refine ⟨hdestination, List.mem_append_left _ hmem, le_antisymm ?_ ?_⟩
  · refine le_trans (countP_le_onNode (k := source m) (q := fun e => e = .sends m) ?_)
      ((hlawful (source m)).sends_le_one m)
    rintro ⟨k', e⟩ he hp
    obtain rfl : e = .sends m := of_decide_eq_true hp
    exact ⟨hsource k' m he, decide_eq_true rfl⟩
  · refine List.countP_pos_iff.2 ⟨(source m, .sends m), ?_, decide_eq_true rfl⟩
    rw [hjoint]
    exact List.mem_append_left _ (List.mem_append_left _ hmem)

/-- **A message is received at most once in the network**, with more attestations than forgers. -/
theorem countP_receipts_le_one (hlawful : ∀ k, Lawful (onNode k joint)) {forgers : κ → Finset α}
    (hforgers : ∀ k A, Forges source destination N joint k m A → A ∈ forgers k) :
    joint.countP (fun e => e.2.isReceipt m (forgers e.1).card) ≤ 1 := by
  refine le_trans (countP_le_onNode (k := destination m) (q := Event.isReceipt m 0) ?_)
    ((hlawful (destination m)).receipts_le_one m)
  rintro ⟨k, e⟩ he hp
  obtain ⟨n, rfl, hn⟩ := Event.isReceipt_iff.1 hp
  obtain ⟨j₁, j₂, hjoint⟩ := List.append_of_mem he
  obtain ⟨hdestination, -⟩ :=
    exists_handsOver_of_receives (hlawful k) (hforgers k) hjoint hn
  exact ⟨hdestination.symm, Event.isReceipt_iff.2 ⟨n, rfl, Nat.zero_lt_of_lt hn⟩⟩

end Delivery

end GmpRouter.Network
