import GmpRouter.Router.Machine
import Mathlib.Data.List.Nodup

/-!
# Invariants of the router

The adapters of an integrator are distinct and at most 128, the indices that are enabled or
outstanding are theirs, waiting messages have adapters left and an old sequence number, and a
pending admin implies an admin (`Inv`). Lists of adapters and sequence numbers only grow (`Grows`).
-/

namespace GmpRouter.Router

variable {hash : Message → Digest} {s t : State} {op : Op} {o : Out}

structure Integrator.WellFormed (c : Integrator) : Prop where
  nodup : c.adapters.Nodup
  length_le : c.adapters.length ≤ 128
  enabled_lt : ∀ direction chain, ∀ i ∈ c.enabled direction chain, i < c.adapters.length
  admin_ne_none : c.pendingAdmin ≠ none → c.admin ≠ none

structure Inv (s : State) : Prop where
  integrators : ∀ I c, s.integrators I = some c → c.WellFormed
  outbox : ∀ I sequence message, s.outbox I sequence = some message →
    message.outstanding ≠ ∅ ∧ ∃ c, s.integrators I = some c ∧ sequence < c.nextSequence ∧
      ∀ i ∈ message.outstanding, i < c.adapters.length

/-- The configuration of an integrator that exists keeps its adapters and its used sequence
numbers. -/
def Grows (s t : State) : Prop :=
  ∀ I c, s.integrators I = some c → ∃ c', t.integrators I = some c' ∧ c.adapters <+: c'.adapters ∧
    c.nextSequence ≤ c'.nextSequence

theorem Grows.refl (s : State) : Grows s s :=
  fun _ c hc => ⟨c, hc, List.prefix_rfl, BitVec.le_refl _⟩

theorem Grows.of_integrators_eq (h : t.integrators = s.integrators) : Grows s t :=
  fun _ c hc => ⟨c, h ▸ hc, List.prefix_rfl, BitVec.le_refl _⟩

theorem Grows.trans {u : State} (h : Grows s t) (h' : Grows t u) : Grows s u := by
  intro I c hc
  obtain ⟨c', hc', hadapters, hsequence⟩ := h I c hc
  obtain ⟨c'', hc'', hadapters', hsequence'⟩ := h' I c' hc'
  exact ⟨c'', hc'', hadapters.trans hadapters', BitVec.le_trans hsequence hsequence'⟩

theorem Grows.setIntegrator {I : UniversalAddress} {c c' : Integrator}
    (hc : s.integrators I = some c) (hadapters : c.adapters <+: c'.adapters)
    (hsequence : c.nextSequence ≤ c'.nextSequence) : Grows s (s.setIntegrator I c') := by
  intro I' d hd
  by_cases hI : I' = I
  · subst hI
    obtain rfl : c = d := Option.some.inj (hc.symm.trans hd)
    exact ⟨c', setIntegrator_self _ _, hadapters, hsequence⟩
  · exact ⟨d, (setIntegrator_of_ne hI _).trans hd, List.prefix_rfl, BitVec.le_refl _⟩

theorem lt_add_one {x : BitVec 64} (h : x ≠ BitVec.allOnes 64) : x < x + 1#64 := by
  have hne := mt BitVec.eq_of_toNat_eq h
  have hlt := x.isLt
  rw [BitVec.toNat_allOnes] at hne
  rw [BitVec.lt_def, BitVec.toNat_add, BitVec.toNat_ofNat]
  omega

section Concat

variable {l : List UniversalAddress} {x y : UniversalAddress}

/-- The index of a new adapter. -/
theorem idxOf?_concat_self (h : x ∉ l) : (l ++ [x]).idxOf? x = some l.length := by
  have hnone : l.findIdx? (· == x) = none := List.idxOf?_eq_none_iff.2 h
  unfold List.idxOf?
  rw [List.findIdx?_append, hnone]
  simp

/-- The others keep theirs. -/
theorem idxOf?_concat_of_ne (h : y ≠ x) : (l ++ [x]).idxOf? y = l.idxOf? y := by
  unfold List.idxOf?
  rw [List.findIdx?_append]
  simp [Ne.symm h]

/-- A longer list has the same indices, as far as the list goes. -/
theorem idxOf?_of_isPrefix {l' : List UniversalAddress} (h : l <+: l') {i : ℕ} (hi : i < l.length) :
    l'.idxOf? x = some i ↔ l.idxOf? x = some i := by
  obtain ⟨l₂, rfl⟩ := h
  unfold List.idxOf?
  rw [List.findIdx?_append]
  cases l.findIdx? (· == x) with
  | none =>
    simp only [Option.none_or, Option.map_eq_some_iff, reduceCtorEq, iff_false, not_exists, not_and]
    omega
  | some j => simp

end Concat

/-! ## Changes of a configuration -/

namespace Change

variable {c c' : Integrator} {change : Change}

theorem adapters_isPrefix (h : change.apply c = .ok c') : c.adapters <+: c'.adapters := by
  cases change with
  | updateAdmin | transferAdmin | discardAdmin =>
    obtain rfl := pure_eq_ok.1 h
    exact List.prefix_rfl
  | addAdapter adapter =>
    obtain ⟨-, -, rfl⟩ := addAdapter_eq_ok.1 h
    exact List.prefix_append ..
  | setAdapter =>
    obtain ⟨i, -, -, rfl⟩ := setAdapter_eq_ok.1 h
    exact List.prefix_rfl

theorem nextSequence_eq (h : change.apply c = .ok c') : c'.nextSequence = c.nextSequence := by
  cases change with
  | updateAdmin | transferAdmin | discardAdmin =>
    obtain rfl := pure_eq_ok.1 h
    rfl
  | addAdapter adapter =>
    obtain ⟨-, -, rfl⟩ := addAdapter_eq_ok.1 h
    rfl
  | setAdapter =>
    obtain ⟨i, -, -, rfl⟩ := setAdapter_eq_ok.1 h
    rfl

theorem wellFormed (hc : c.WellFormed) (hadmin : c.admin ≠ none) (hpending : c.pendingAdmin = none)
    (h : change.apply c = .ok c') : c'.WellFormed := by
  cases change with
  | updateAdmin newAdmin =>
    obtain rfl := pure_eq_ok.1 h
    exact { hc with admin_ne_none := fun _ => by simp }
  | transferAdmin newAdmin =>
    obtain rfl := pure_eq_ok.1 h
    exact { hc with admin_ne_none := fun _ => hadmin }
  | discardAdmin =>
    obtain rfl := pure_eq_ok.1 h
    exact { hc with admin_ne_none := fun hp => absurd hpending hp }
  | addAdapter adapter =>
    obtain ⟨hnew, hlt, rfl⟩ := addAdapter_eq_ok.1 h
    refine { hc with nodup := ?_, length_le := ?_, enabled_lt := fun d ch i hi => ?_ }
    · refine List.nodup_append.2 ⟨hc.nodup, List.nodup_singleton _, fun a ha b hb => ?_⟩
      rw [List.mem_singleton.1 hb]
      exact fun heq => hnew (heq ▸ ha)
    · rw [List.length_append, List.length_singleton]
      omega
    · have := hc.enabled_lt d ch i hi
      simp only [List.length_append, List.length_singleton]
      omega
  | setAdapter direction on chain adapter =>
    obtain ⟨i, hi, -, rfl⟩ := setAdapter_eq_ok.1 h
    have hlt : i < c.adapters.length := (List.idxOf?_eq_some_iff.1 hi).1
    refine { hc with enabled_lt := fun d ch j hj => ?_ }
    simp only [update₂_apply] at hj
    split at hj
    · split at hj
      · rcases Finset.mem_insert.1 hj with rfl | hj
        · exact hlt
        · exact hc.enabled_lt _ _ j hj
      · exact hc.enabled_lt _ _ j (Finset.mem_of_mem_erase hj)
    · exact hc.enabled_lt _ _ j hj

end Change

/-! ## Preservation -/

theorem grows_of_step (h : step hash s op = .ok (t, o)) : Grows s t := by
  cases op with
  | register I a =>
    obtain ⟨hnone, rfl, -⟩ := register_eq_ok.1 h
    intro I' c hc
    have hI : I' ≠ I := by
      rintro rfl
      simp [hnone] at hc
    exact ⟨c, (setIntegrator_of_ne hI _).trans hc, List.prefix_rfl, BitVec.le_refl _⟩
  | configure caller I change =>
    obtain ⟨c, c', hby, happly, rfl, -⟩ := configure_eq_ok.1 h
    exact .setIntegrator hby.integrator_eq (Change.adapters_isPrefix happly)
      (BitVec.le_of_eq (Change.nextSequence_eq happly).symm)
  | claimAdmin caller I =>
    obtain ⟨c, hc, -, -, rfl, -⟩ := claimAdmin_eq_ok.1 h
    exact .setIntegrator hc List.prefix_rfl (BitVec.le_refl _)
  | send I dstChain dstAddr payloadHash =>
    obtain ⟨c, hc, -, hmax, rfl, -⟩ := send_eq_ok.1 h
    exact .setIntegrator hc List.prefix_rfl (BitVec.le_of_lt (lt_add_one hmax))
  | pickUp =>
    obtain ⟨c, message, i, -, -, -, -, rfl, -⟩ := pickUp_eq_ok.1 h
    exact .refl s
  | attest =>
    obtain ⟨c, i, -, -, -, -, rfl, -⟩ := attest_eq_ok.1 h
    exact .of_integrators_eq rfl
  | recv =>
    obtain ⟨c, -, -, -, rfl, -⟩ := recv_eq_ok.1 h
    exact .of_integrators_eq rfl
  | exec =>
    obtain ⟨-, rfl, -⟩ := exec_eq_ok.1 h
    exact .of_integrators_eq rfl

theorem grows_of_path {l : List (Commit State Op Out)} (h : (machine hash).Path s l t) :
    Grows s t :=
  h.rel (I := fun _ => True) (fun _ _ _ _ _ _ => trivial) Grows.refl (fun _ _ _ => Grows.trans)
    (fun _ _ _ _ hstep _ => grows_of_step hstep) trivial

/-- Every configuration of the new state is well formed. -/
theorem integrators_of_step (hs : Inv s) (h : step hash s op = .ok (t, o)) :
    ∀ I c, t.integrators I = some c → c.WellFormed := by
  have hset : ∀ I c', c'.WellFormed → ∀ I' c, (s.setIntegrator I c').integrators I' = some c →
      c.WellFormed := by
    intro I c' hc' I' c hc
    by_cases hI : I' = I
    · subst hI
      rw [setIntegrator_self] at hc
      exact Option.some.inj hc ▸ hc'
    · rw [setIntegrator_of_ne hI] at hc
      exact hs.integrators _ _ hc
  cases op with
  | register I a =>
    obtain ⟨-, rfl, -⟩ := register_eq_ok.1 h
    exact hset I _ ⟨List.nodup_nil, by simp, by simp, by simp⟩
  | configure caller I change =>
    obtain ⟨c, c', hby, happly, rfl, -⟩ := configure_eq_ok.1 h
    exact hset I c' (Change.wellFormed (hs.integrators _ _ hby.integrator_eq)
      (by simp [hby.admin_eq]) hby.pendingAdmin_eq happly)
  | claimAdmin caller I =>
    obtain ⟨c, hc, -, -, rfl, -⟩ := claimAdmin_eq_ok.1 h
    exact hset I _ { hs.integrators _ _ hc with admin_ne_none := fun hp => absurd rfl hp }
  | send I dstChain dstAddr payloadHash =>
    obtain ⟨c, hc, -, -, rfl, -⟩ := send_eq_ok.1 h
    exact hset I _ { hs.integrators _ _ hc with }
  | pickUp =>
    obtain ⟨c, message, i, -, -, -, -, rfl, -⟩ := pickUp_eq_ok.1 h
    exact hs.integrators
  | attest =>
    obtain ⟨c, i, -, -, -, -, rfl, -⟩ := attest_eq_ok.1 h
    exact hs.integrators
  | recv =>
    obtain ⟨c, -, -, -, rfl, -⟩ := recv_eq_ok.1 h
    exact hs.integrators
  | exec =>
    obtain ⟨-, rfl, -⟩ := exec_eq_ok.1 h
    exact hs.integrators

/-- A message that waits in the old state is not affected by the growth of the configuration. -/
theorem Inv.outbox_grows (hs : Inv s) (hgrows : Grows s t) {I : UniversalAddress}
    {sequence : BitVec 64} {message : Outgoing} (hm : s.outbox I sequence = some message) :
    message.outstanding ≠ ∅ ∧ ∃ c, t.integrators I = some c ∧ sequence < c.nextSequence ∧
      ∀ i ∈ message.outstanding, i < c.adapters.length := by
  obtain ⟨hne, c, hc, hseq, hlt⟩ := hs.outbox _ _ _ hm
  obtain ⟨c', hc', hadapters, hle⟩ := hgrows _ _ hc
  rw [BitVec.lt_def] at hseq
  rw [BitVec.le_def] at hle
  exact ⟨hne, c', hc', lt_of_lt_of_le hseq hle,
    fun i hi => lt_of_lt_of_le (hlt i hi) hadapters.length_le⟩

theorem outbox_of_step (hs : Inv s) (h : step hash s op = .ok (t, o)) :
    ∀ I sequence message, t.outbox I sequence = some message →
      message.outstanding ≠ ∅ ∧ ∃ c, t.integrators I = some c ∧ sequence < c.nextSequence ∧
        ∀ i ∈ message.outstanding, i < c.adapters.length := by
  have hgrows := grows_of_step h
  intro I sequence message hm
  cases op with
  | register =>
    obtain ⟨-, rfl, -⟩ := register_eq_ok.1 h
    exact hs.outbox_grows hgrows hm
  | configure =>
    obtain ⟨c, c', -, -, rfl, -⟩ := configure_eq_ok.1 h
    exact hs.outbox_grows hgrows hm
  | claimAdmin =>
    obtain ⟨c, -, -, -, rfl, -⟩ := claimAdmin_eq_ok.1 h
    exact hs.outbox_grows hgrows hm
  | send I' dstChain dstAddr payloadHash =>
    obtain ⟨c, hc, hne, hmax, rfl, -⟩ := send_eq_ok.1 h
    by_cases heq : I = I' ∧ sequence = c.nextSequence
    · obtain ⟨rfl, rfl⟩ := heq
      obtain rfl : _ = message := Option.some.inj ((update₂_self ..).symm.trans hm)
      exact ⟨hne, _, setIntegrator_self _ _, lt_add_one hmax,
        (hs.integrators _ _ hc).enabled_lt _ _⟩
    · exact hs.outbox_grows hgrows ((update₂_of_ne heq).symm.trans hm)
  | pickUp adapter I' sequence' =>
    obtain ⟨c, message', i, hc, hm', -, -, rfl, -⟩ := pickUp_eq_ok.1 h
    by_cases heq : I = I' ∧ sequence = sequence'
    · obtain ⟨rfl, rfl⟩ := heq
      simp only [update₂_self] at hm
      split at hm
      · cases hm
      · next hrest =>
        obtain rfl := Option.some.inj hm
        obtain ⟨-, d, hd, hseq, hlt⟩ := hs.outbox _ _ _ hm'
        exact ⟨hrest, d, hd, hseq, fun j hj => hlt j (Finset.mem_of_mem_erase hj)⟩
    · exact hs.outbox _ _ _ ((update₂_of_ne heq).symm.trans hm)
  | attest =>
    obtain ⟨c, i, -, -, -, -, rfl, -⟩ := attest_eq_ok.1 h
    exact hs.outbox _ _ _ hm
  | recv =>
    obtain ⟨c, -, -, -, rfl, -⟩ := recv_eq_ok.1 h
    exact hs.outbox _ _ _ hm
  | exec =>
    obtain ⟨-, rfl, -⟩ := exec_eq_ok.1 h
    exact hs.outbox _ _ _ hm

/-- **The invariant of the router is preserved.** -/
theorem inv_invariant : (machine hash).Invariant Inv := by
  intro s op o t hstep hs
  exact ⟨integrators_of_step hs hstep, outbox_of_step hs hstep⟩

theorem inv_init : Inv {} where
  integrators _ _ h := by simp at h
  outbox _ _ _ h := by simp at h

end GmpRouter.Router
