import GmpRouter.Foundations.Bytes

/-!
# Messages

The fields of a cross-chain message, as the specification of the endpoints names them, and their
packed encoding, whose hash is the message digest. The encoding has 108 bytes and determines the
message (`Message.encodePacked_injective`).

The hash function is a parameter of the models of the three endpoints. Its values are byte strings
of unspecified length, so that the collision freeness that the results assume, injectivity on the
strings of 108 bytes, can be satisfied.
-/

namespace GmpRouter

/-- Wormhole chain IDs. -/
abbrev ChainId := BitVec 16

/-- 32-byte universal addresses. -/
abbrev UniversalAddress := BitVec 256

abbrev Bytes32 := BitVec 256

/-- The two uses of an adapter for a chain. -/
inductive Direction
  | send
  | recv
  deriving DecidableEq

/-- The hash of a message. -/
abbrev Digest := List Byte

structure Message where
  srcChain : ChainId
  srcAddr : UniversalAddress
  sequence : BitVec 64
  dstChain : ChainId
  dstAddr : UniversalAddress
  payloadHash : Bytes32
  deriving DecidableEq

/-- The fields in order, each in big-endian bytes. -/
def Message.encodePacked (m : Message) : List Byte :=
  beBytes 2 m.srcChain ++ beBytes 32 m.srcAddr ++ beBytes 8 m.sequence ++ beBytes 2 m.dstChain ++
    beBytes 32 m.dstAddr ++ beBytes 32 m.payloadHash

@[simp] theorem Message.length_encodePacked (m : Message) : m.encodePacked.length = 108 := by
  simp [encodePacked]

/-- The packed encoding is unambiguous. -/
theorem Message.encodePacked_injective : Function.Injective Message.encodePacked := by
  intro m m' h
  obtain ⟨h, h₆⟩ := List.append_inj' h (by simp)
  obtain ⟨h, h₅⟩ := List.append_inj' h (by simp)
  obtain ⟨h, h₄⟩ := List.append_inj' h (by simp)
  obtain ⟨h, h₃⟩ := List.append_inj' h (by simp)
  obtain ⟨h₁, h₂⟩ := List.append_inj' h (by simp)
  rw [beBytes_inj (by omega)] at h₁ h₂ h₃ h₄ h₅ h₆
  cases m
  cases m'
  simp_all

/-- No two preimages of a message digest have the same hash. -/
def CollisionFree (keccak : List Byte → Digest) : Prop := Set.InjOn keccak {b | b.length = 108}

theorem CollisionFree.eq {keccak : List Byte → Digest} (h : CollisionFree keccak) {m m' : Message}
    (e : keccak m.encodePacked = keccak m'.encodePacked) : m = m' :=
  Message.encodePacked_injective (h m.length_encodePacked m'.length_encodePacked e)

/-- The identity is a collision-free hash. -/
theorem collisionFree_id : CollisionFree id := Function.injective_id.injOn

end GmpRouter
