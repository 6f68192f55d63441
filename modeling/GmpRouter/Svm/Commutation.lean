import GmpRouter.Svm.Completeness
import GmpRouter.Svm.Locality
import GmpRouter.Svm.Registry

/-!
# Attestations and execution commute

Whichever call comes first initialises the attestation account of a message, and the later ones find
it. What the calls then write commutes: an attestation sets the bit of its adapter, and execution or
reception sets the flag `executed` (`apply_right_comm`). Neither is a guard of the other, so that a
set of attestations and one execution succeed in every order and leave the same account
(`attestations_commute`), also when other instructions come in between that leave the configuration
alone. Reception needs one attestation before it.
-/

namespace GmpRouter.Svm

open GmpRouter.Bitmap (indices)

variable {E : Env} {s t u : State} {l : Log} {m : Message} {i : Instruction} {o : Output}
    {A : Pubkey}

/-! ## Effects -/

/-- What a successful call writes in the attestation account of its message. -/
inductive Effect
  | attest (index : BitVec 8)
  | execute
  deriving DecidableEq

namespace AttestationInfo

def apply (info : AttestationInfo) : Effect → AttestationInfo
  | .attest index =>
    { info with attestedAdapters := Bitmap.put info.attestedAdapters index true }
  | .execute => { info with executed := true }

/-- The order of two effects does not matter. -/
theorem apply_right_comm (info : AttestationInfo) (e e' : Effect) :
    (info.apply e).apply e' = (info.apply e').apply e := by
  cases e with
  | execute => cases e' <;> rfl
  | attest index =>
    cases e' with
    | execute => rfl
    | attest index' =>
      have hcomm : ∀ x y z : BitVec 128, x ||| y ||| z = x ||| z ||| y := fun x y z => by
        rw [BitVec.or_assoc, BitVec.or_comm y, ← BitVec.or_assoc]
      simp only [apply, Bitmap.put, if_true, hcomm info.attestedAdapters]

/-- Effects only write the flag and the bitmap. -/
theorem foldl_apply (info : AttestationInfo) {effects : List Effect}
    (h : ∀ index, .attest index ∈ effects → index.toNat < 128) :
    ∃ executed attestedAdapters,
      effects.foldl apply info =
        { info with executed := executed, attestedAdapters := attestedAdapters } ∧
      (executed = true ↔ info.executed = true ∨ .execute ∈ effects) ∧
      ∀ n, n ∈ indices attestedAdapters ↔
        n ∈ indices info.attestedAdapters ∨ ∃ index, .attest index ∈ effects ∧ index.toNat = n := by
  induction effects generalizing info with
  | nil => exact ⟨_, _, rfl, by simp, by simp⟩
  | cons e effects ih =>
    obtain ⟨executed, attestedAdapters, heq, hexecuted, hattested⟩ :=
      ih (info.apply e) fun index hindex => h index (List.mem_cons_of_mem _ hindex)
    refine ⟨executed, attestedAdapters, ?_, ?_, fun n => ?_⟩
    · rw [List.foldl_cons, heq]
      cases e <;> rfl
    · rw [hexecuted]
      cases e <;> simp [apply]
    · rw [hattested]
      cases e with
      | execute => simp [apply]
      | attest index =>
        have hlt := h index (List.mem_cons_self ..)
        simp only [apply, Bitmap.indices_put hlt, if_true, Finset.mem_insert, List.mem_cons,
          Effect.attest.injEq, or_and_right, exists_or, exists_eq_left, eq_comm (a := n)]
        rw [or_assoc, or_left_comm]

end AttestationInfo

/-! ## Calls -/

/-- The adapter attests the message. -/
def attestCall (E : Env) (m : Message) (A : Pubkey) (bump : Byte) : Instruction :=
  .attestMessage ⟨E.pda (.adapterInfo m.dstAddr A), adapterPda A bump,
    E.pda (.integratorChainConfig m.dstAddr m.srcChain), E.pda (attestationSeeds E m)⟩
    ⟨A, bump, m.srcChain, m.srcAddr, m.sequence, m.dstChain, m.dstAddr, m.payloadHash⟩

/-- The integrator executes the message. -/
def execCall (E : Env) (m : Message) (bump : Byte) : Instruction :=
  .execMessage ⟨integratorProgramPda m.dstAddr bump, E.pda (attestationSeeds E m)⟩
    ⟨bump, m.srcChain, m.srcAddr, m.sequence, m.dstChain, m.dstAddr, m.payloadHash⟩

/-- The integrator receives the message. -/
def recvCall (E : Env) (m : Message) (bump : Byte) : Instruction :=
  .recvMessage ⟨integratorProgramPda m.dstAddr bump,
    E.pda (.integratorChainConfig m.dstAddr m.srcChain), E.pda (attestationSeeds E m)⟩
    ⟨bump, m.srcChain, m.srcAddr, m.sequence, m.dstChain, m.dstAddr, m.payloadHash⟩

/-- The instruction attests, receives or executes a message with the same account. -/
def Instruction.Touches (E : Env) (m : Message) (i : Instruction) : Prop :=
  i.message?.map (AttestationInfo.computeMessageHash E) =
    some (AttestationInfo.computeMessageHash E m)

instance (E : Env) (m : Message) (i : Instruction) : Decidable (i.Touches E m) :=
  inferInstanceAs (Decidable (_ = _))

/-- The adapter is registered at the index, and enabled for messages from the source chain. -/
structure EnabledAt (E : Env) (s : State) (m : Message) (A : Pubkey) (index : BitVec 8) : Prop where
  info : ∃ info : AdapterInfo,
    s.accounts (E.pda (.adapterInfo m.dstAddr A)) = some (.adapterInfo info) ∧ info.index = index
  enabled : ∃ config : IntegratorChainConfig,
    s.accounts (E.pda (.integratorChainConfig m.dstAddr m.srcChain)) =
      some (.integratorChainConfig config) ∧ index.toNat ∈ indices config.recvAdapterBitmap

/-- The call has the effect on the account of the message, once its guards hold. -/
inductive Performs (E : Env) (s : State) (m : Message) : Instruction → Effect → Prop
  | attest (A : Pubkey) (bump : Byte) (index : BitVec 8) :
    EnabledAt E s m A index → Performs E s m (attestCall E m A bump) (.attest index)
  | exec (bump : Byte) : Performs E s m (execCall E m bump) .execute
  | recv (bump : Byte) : (∃ config : IntegratorChainConfig,
      s.accounts (E.pda (.integratorChainConfig m.dstAddr m.srcChain)) =
        some (.integratorChainConfig config)) → Performs E s m (recvCall E m bump) .execute

/-- The effect has not happened. -/
def AttestationInfo.Lacks (info : AttestationInfo) : Effect → Prop
  | .attest index => index.toNat ∉ indices info.attestedAdapters
  | .execute => info.executed = false

/-- An account at a canonical address passes the constraint on it. -/
theorem derived_at (hs : Canonical E s) {seeds seeds' : Seeds} {bump : Byte} {account : Account}
    (h : s.accounts (E.pda seeds) = some account) (haccount : account.seeds = some (seeds', bump)) :
    Derived s (E.pda seeds) seeds bump account := by
  obtain ⟨bump', hseeds⟩ := seeds_eq hs h
  obtain ⟨rfl, rfl⟩ := Prod.mk.inj (Option.some.inj (haccount.symm.trans hseeds))
  exact derived_of_seeds hs h hseeds

/-- **A call whose effect has not happened succeeds.** Reception needs an attestation. -/
theorem Performs.process (hs : Canonical E s) (hdst : m.dstChain = CHAIN_ID)
    (hsrc : m.srcChain ≠ 0#16) {e : Effect} (h : Performs E s m i e)
    (hlacks : (s.attestationOf E m).Lacks e)
    (hrecv : ∀ bump, i = recvCall E m bump → (s.attestationOf E m).attestedAdapters ≠ 0#128) :
    ∃ t o, process E s i = .ok (t, o) ∧ t.attestationOf E m = (s.attestationOf E m).apply e := by
  have hset : ∀ info, (s.set (E.pda (attestationSeeds E m))
      (.attestationInfo info)).attestationOf E m =
      info := fun info => attestationOf_eq (State.set_self ..)
  have hdst' : m.dstChain ≠ 0#16 := by
    rw [hdst]
    decide
  obtain ⟨info, hinfo, hnew⟩ := exists_orNew_attestation hs ⟨hsrc, hdst'⟩
  cases h with
  | attest A bump index henabled =>
    obtain ⟨⟨adapter, hadapter, rfl⟩, config, hconfig, hmem⟩ := henabled
    exact ⟨_, _, attestMessage_eq_ok.2 ⟨adapter, config, info, _, derived_at hs hadapter rfl, rfl,
      derived_at hs hconfig rfl, rfl, hinfo, hdst, hmem, hnew, hlacks, rfl, rfl⟩, hset _⟩
  | exec bump =>
    have hexecuted := (hinfo.orNew_attestation hs hnew).2.1
    exact ⟨_, _, execMessage_eq_ok.2 ⟨info, _, rfl, hinfo, rfl, hexecuted.trans hlacks, hnew,
      rfl, rfl⟩, hset _⟩
  | recv bump hchain =>
    obtain ⟨config, hconfig⟩ := hchain
    have haccount := accounts_attestationOf (.inr (hrecv bump rfl))
    exact ⟨_, _, recvMessage_eq_ok.2 ⟨config, _, rfl, derived_at hs hconfig rfl,
      derived_at hs haccount rfl, hlacks, rfl, rfl⟩, hset _⟩

/-- An instruction that is about other messages leaves the account alone. -/
theorem attestationOf_of_not_touches (hs : Canonical E s) (hstep : process E s i = .ok (t, o))
    (h : ¬ i.Touches E m) : t.attestationOf E m = s.attestationOf E m := by
  have haccount : t.accounts (E.pda (attestationSeeds E m)) =
      s.accounts (E.pda (attestationSeeds E m)) := by
    by_cases hx : E.pda (attestationSeeds E m) ∈ i.addresses
    · obtain ⟨K, -, -, hpassed⟩ := passed_of_process hs hstep
      rcases (hpassed _ hx).place with ⟨seeds, hseeds, hderives⟩ | ⟨k, hk, -⟩
      · obtain rfl := E.pda_injective hseeds
        obtain ⟨m', hm', -, hhash⟩ := hderives
        exact absurd (by rw [Instruction.Touches, hm', Option.map_some, hhash]) h
      · exact absurd hk.symm (by simp)
    · exact accounts_of_notMem hstep hx
  unfold State.attestationOf State.find
  rw [haccount]

theorem attestationOf_of_none (h : s.accounts (E.pda (attestationSeeds E m)) = none) :
    s.attestationOf E m =
      AttestationInfo.fresh E (E.canonicalBump (attestationSeeds E m).bytes) m := by
  unfold State.attestationOf State.find
  rw [h]
  rfl

/-! ## Orders -/

/-- The state has the same configuration for the message as the earlier one. -/
def SameConfig (E : Env) (m : Message) (s t : State) : Prop :=
  t.accounts (E.pda (.integratorChainConfig m.dstAddr m.srcChain)) =
    s.accounts (E.pda (.integratorChainConfig m.dstAddr m.srcChain))

instance (E : Env) (m : Message) (s t : State) : Decidable (SameConfig E m s t) :=
  inferInstanceAs (Decidable (_ = _))

/-- The configuration that the calls read is the same in the later state. -/
theorem EnabledAt.of_path {a : Router.State} (hs : Refines E s a) (hpath : (machine E).Path s l t)
    (hconfig : SameConfig E m s t) {index : BitVec 8}
    (h : EnabledAt E s m A index) : EnabledAt E t m A index := by
  obtain ⟨⟨info, hinfo, hindex⟩, config, hchain, hmem⟩ := h
  exact ⟨⟨info, hs.adapterInfo_of_path hpath hinfo, hindex⟩, config, hconfig.trans hchain, hmem⟩

theorem Performs.of_path {a : Router.State} (hs : Refines E s a) (hpath : (machine E).Path s l t)
    (hconfig : SameConfig E m s t) {e : Effect}
    (h : Performs E s m i e) : Performs E t m i e := by
  cases h with
  | attest A bump index henabled => exact .attest A bump index (henabled.of_path hs hpath hconfig)
  | exec bump => exact .exec bump
  | recv bump hchain =>
    unfold SameConfig at hconfig
    exact .recv bump (by rwa [hconfig])

/-- The calls among the instructions have different effects, none of which has happened, and
reception is not the first of them before there is an attestation. -/
structure Ready (E : Env) (s : State) (m : Message) (effect : Instruction → Effect)
    (calls : List Instruction) : Prop where
  performs : ∀ i ∈ calls, Performs E s m i (effect i)
  nodup : (calls.map effect).Nodup
  lacks : ∀ i ∈ calls, (s.attestationOf E m).Lacks (effect i)
  recv : ∀ bump, calls.head? = some (recvCall E m bump) →
    (s.attestationOf E m).attestedAdapters ≠ 0#128

theorem Performs.index_lt {index : BitVec 8} (h : Performs E s m i (.attest index)) :
    index.toNat < 128 := by
  cases h with
  | attest A bump _ henabled =>
    obtain ⟨config, -, hmem⟩ := henabled.enabled
    exact GmpRouter.Bitmap.lt_of_mem_indices hmem

/-- An effect does not make another one happen. -/
theorem AttestationInfo.Lacks.apply {info : AttestationInfo} {e e' : Effect} (h : info.Lacks e')
    (hne : e ≠ e') (hlt : ∀ index, e = .attest index → index.toNat < 128) :
    (info.apply e).Lacks e' := by
  cases e with
  | execute =>
    cases e' with
    | attest index => exact h
    | execute => exact absurd rfl hne
  | attest index =>
    cases e' with
    | execute => exact h
    | attest index' =>
      have hne' : index'.toNat ≠ index.toNat := fun heq =>
        hne (congrArg Effect.attest (BitVec.eq_of_toNat_eq heq.symm))
      simp only [Lacks, AttestationInfo.apply, Bitmap.indices_put (hlt index rfl), if_true,
        Finset.mem_insert, not_or]
      exact ⟨hne', h⟩

namespace Ready

variable {effect : Instruction → Effect} {calls : List Instruction} {a : Router.State}

/-- An instruction about other messages does not matter. -/
theorem skip (h : Ready E s m effect calls) (hs : Refines E s a)
    (hstep : process E s i = .ok (t, o))
    (hconfig : SameConfig E m s t) (hi : ¬ i.Touches E m) : Ready E t m effect calls := by
  have hpath := Machine.Path.single (M := machine E) hstep
  have hsame := attestationOf_of_not_touches hs.canonical hstep hi
  exact ⟨fun j hj => (h.performs j hj).of_path hs hpath hconfig,
    h.nodup, by rw [hsame]; exact h.lacks, by rw [hsame]; exact h.recv⟩

/-- After a call the others are still ready. -/
theorem step (h : Ready E s m effect (i :: calls)) (hs : Refines E s a)
    (hstep : process E s i = .ok (t, o)) (hconfig : SameConfig E m s t)
    (heffect : t.attestationOf E m = (s.attestationOf E m).apply (effect i)) :
    Ready E t m effect calls := by
  have hpath := Machine.Path.single (M := machine E) hstep
  obtain ⟨hnew, hnodup⟩ := List.nodup_cons.1 h.nodup
  have hlt : ∀ index, effect i = .attest index → index.toNat < 128 := by
    intro index hindex
    exact (hindex ▸ h.performs i (List.mem_cons_self ..)).index_lt
  refine ⟨fun j hj => ?_, hnodup, fun j hj => ?_, fun bump hhead => ?_⟩
  · exact (h.performs j (List.mem_cons_of_mem _ hj)).of_path hs hpath hconfig
  · rw [heffect]
    refine (h.lacks j (List.mem_cons_of_mem _ hj)).apply (fun heq => hnew ?_) hlt
    exact heq ▸ List.mem_map_of_mem hj
  · rw [heffect]
    have hrecv : recvCall E m bump ∈ calls := List.mem_of_head? hhead
    have hexecute : effect (recvCall E m bump) = .execute := by
      cases hperforms : effect (recvCall E m bump) with
      | execute => rfl
      | attest index =>
        have hcall := h.performs _ (List.mem_cons_of_mem _ hrecv)
        rw [hperforms] at hcall
        cases hcall
    cases hi : effect i with
    | execute => exact absurd (hi ▸ hexecute ▸ List.mem_map_of_mem hrecv) hnew
    | attest index =>
      refine GmpRouter.Bitmap.ne_zero_iff.2 ⟨index.toNat, ?_⟩
      simp only [AttestationInfo.apply, Bitmap.indices_put (hlt index hi), if_true,
        Finset.mem_insert_self]

/-- **All the calls succeed**, and the account has all their effects. -/
theorem run (hdst : m.dstChain = CHAIN_ID) (hsrc : m.srcChain ≠ 0#16) {is : List Instruction}
    (hpath : (machine E).Path .init l s)
    (h : Ready E s m effect (is.filter fun i => i.Touches E m))
    (hconfig : ∀ c ∈ ((machine E).run s is).2, SameConfig E m s c.post) :
    (((machine E).run s is).2.map fun c => c.input).filter (fun i => i.Touches E m) =
        is.filter (fun i => i.Touches E m) ∧
      ((machine E).run s is).1.attestationOf E m =
        ((is.filter fun i => i.Touches E m).map effect).foldl AttestationInfo.apply
          (s.attestationOf E m) := by
  induction is generalizing s l with
  | nil => exact ⟨rfl, rfl⟩
  | cons i is ih =>
    obtain ⟨a, hs⟩ := exists_refines hpath
    by_cases hi : i.Touches E m
    · rw [List.filter_cons_of_pos (by simpa using hi)] at h ⊢
      obtain ⟨t, o, hstep, heffect⟩ :=
        (h.performs i (List.mem_cons_self ..)).process hs.canonical hdst
        hsrc (h.lacks i (List.mem_cons_self ..)) fun bump hbump => h.recv bump (hbump ▸ rfl)
      rw [Machine.run_cons_of_ok (M := machine E) hstep] at hconfig ⊢
      have hsame := hconfig _ (List.mem_cons_self ..)
      obtain ⟨hcalls, hfinal⟩ := ih (hpath.snoc (c := ⟨s, i, o, t⟩) hstep)
        (h.step hs hstep hsame heffect)
        fun c hc => (hconfig c (List.mem_cons_of_mem _ hc)).trans hsame.symm
      rw [List.map_cons, List.filter_cons_of_pos (by simpa using hi), hcalls]
      exact ⟨rfl, by rw [hfinal, List.map_cons, List.foldl_cons, heffect]⟩
    · rw [List.filter_cons_of_neg (by simpa using hi)] at h ⊢
      cases hstep : process E s i with
      | error e =>
        rw [Machine.run_cons_of_error (M := machine E) hstep] at hconfig ⊢
        exact ih hpath h hconfig
      | ok r =>
        rw [Machine.run_cons_of_ok (M := machine E) hstep] at hconfig ⊢
        have hsame := hconfig _ (List.mem_cons_self ..)
        obtain ⟨hcalls, hfinal⟩ := ih (hpath.snoc (c := ⟨s, i, r.2, r.1⟩) hstep)
          (h.skip hs hstep hsame hi)
          fun c hc => (hconfig c (List.mem_cons_of_mem _ hc)).trans hsame.symm
        rw [List.map_cons, List.filter_cons_of_neg (by simpa using hi), hcalls, hfinal,
          attestationOf_of_not_touches hs.canonical hstep hi]
        exact ⟨rfl, rfl⟩

end Ready

/-! ## The main result -/

/-- The index of an adapter. -/
def indexOf (E : Env) (s : State) (m : Message) (A : Pubkey) : BitVec 8 :=
  ((s.find (E.pda (.adapterInfo m.dstAddr A))).map AdapterInfo.index).getD 0#8

theorem EnabledAt.indexOf_eq {index : BitVec 8} (h : EnabledAt E s m A index) :
    indexOf E s m A = index := by
  obtain ⟨info, hinfo, rfl⟩ := h.info
  have hfind : s.find (E.pda (.adapterInfo m.dstAddr A)) = some info := State.find_eq_some.2 hinfo
  rw [indexOf, hfind, Option.map_some, Option.getD_some]

/-- Different adapters have different indices. -/
theorem EnabledAt.inj {a : Router.State} (hs : Refines E s a) {B : Pubkey} {index : BitVec 8}
    (h : EnabledAt E s m A index) (h' : EnabledAt E s m B index) : A = B := by
  obtain ⟨info, hinfo, rfl⟩ := h.info
  obtain ⟨info', hinfo', hindex⟩ := h'.info
  obtain ⟨hpda, c, hc, hget⟩ := hs.adapterInfo_stored hinfo
  obtain ⟨hpda', c', hc', hget'⟩ := hs.adapterInfo_stored hinfo'
  obtain ⟨hI, rfl⟩ := Seeds.adapterInfo.inj (E.pda_injective hpda)
  obtain ⟨hI', rfl⟩ := Seeds.adapterInfo.inj (E.pda_injective hpda')
  rw [← hI] at hc
  rw [← hI'] at hc'
  obtain rfl := Option.some.inj (hc.symm.trans hc')
  rw [hindex] at hget'
  obtain ⟨_, hA, -⟩ := List.idxOf?_eq_some_iff.1 hget
  obtain ⟨_, hB, -⟩ := List.idxOf?_eq_some_iff.1 hget'
  exact hA.symm.trans hB

/-- The effect of a call, with the indices in the state. -/
def effectOf (E : Env) (s : State) (m : Message) : Instruction → Effect
  | .attestMessage _ args => .attest (indexOf E s m args.adapterProgramId)
  | _ => .execute

/-- An execution and a reception have the same effect. -/
theorem effectOf_consume {consume : Instruction} {p : Prop}
    (h : ∃ bump, consume = execCall E m bump ∨ consume = recvCall E m bump ∧ p) :
    effectOf E s m consume = .execute := by
  obtain ⟨bump, rfl | ⟨rfl, -⟩⟩ := h <;> rfl

theorem EnabledAt.performs {index : BitVec 8} (h : EnabledAt E s m A index) (bump : Byte) :
    Performs E s m (attestCall E m A bump) (effectOf E s m (attestCall E m A bump)) := by
  have heffect : effectOf E s m (attestCall E m A bump) = .attest index :=
    congrArg Effect.attest h.indexOf_eq
  rw [heffect]
  exact .attest A bump index h

section Calls

variable {a : Router.State} {adapters : List (Pubkey × Byte)} {consume : Instruction}
  {calls : List Instruction}

/-- The effects of one execution or reception and of attestations. -/
theorem map_effectOf (hconsume : effectOf E s m consume = .execute) :
    (consume :: adapters.map fun p => attestCall E m p.1 p.2).map (effectOf E s m) =
      .execute :: adapters.map fun p => .attest (indexOf E s m p.1) := by
  rw [List.map_cons, hconsume, List.map_map]
  rfl

/-- The effects are different, as the adapters are. -/
theorem nodup_effects (hs : Refines E s a) (hnodup : (adapters.map Prod.fst).Nodup)
    (henabled : ∀ p ∈ adapters, ∃ index, EnabledAt E s m p.1 index) :
    (Effect.execute :: adapters.map fun p => Effect.attest (indexOf E s m p.1)).Nodup := by
  refine List.nodup_cons.2 ⟨by simp, (List.Nodup.of_map _ hnodup).map_on fun p hp q hq heq => ?_⟩
  obtain ⟨index, h⟩ := henabled p hp
  obtain ⟨index', h'⟩ := henabled q hq
  have hindex : index = index' := by
    rw [← h.indexOf_eq, ← h'.indexOf_eq]
    exact Effect.attest.inj heq
  exact List.inj_on_of_nodup_map hnodup hp hq (h.inj hs (hindex ▸ h'))

variable (henabled : ∀ p ∈ adapters, ∃ index, EnabledAt E s m p.1 index)
  (hperm : calls.Perm (consume :: adapters.map fun p => attestCall E m p.1 p.2))

include henabled hperm

/-- When the first call is an attestation, there is a configuration. -/
theorem exists_config_of_head (hhead : calls.head? ≠ some consume) :
    ∃ config : IntegratorChainConfig,
      s.accounts (E.pda (.integratorChainConfig m.dstAddr m.srcChain)) =
        some (.integratorChainConfig config) := by
  cases calls with
  | nil => exact absurd hperm.length_eq (by simp)
  | cons i rest =>
    rcases List.mem_cons.1 (hperm.mem_iff.1 (List.mem_cons_self ..)) with rfl | hi
    · exact absurd rfl hhead
    · obtain ⟨p, hp, -⟩ := List.mem_map.1 hi
      obtain ⟨index, h⟩ := henabled p hp
      obtain ⟨config, hconfig, -⟩ := h.enabled
      exact ⟨config, hconfig⟩

/-- The calls are ready in a state without an account of the message. -/
theorem Ready.of_perm (hs : Refines E s a)
    (hnone : s.accounts (E.pda (attestationSeeds E m)) = none)
    (hnodup : (adapters.map Prod.fst).Nodup)
    (hconsume : ∃ bump, consume = execCall E m bump ∨
      consume = recvCall E m bump ∧ calls.head? ≠ some consume) :
    Ready E s m (effectOf E s m) calls := by
  have hexecute : effectOf E s m consume = .execute := effectOf_consume hconsume
  refine ⟨fun i hi => ?_, ?_, fun i _ => ?_, fun bump hhead => ?_⟩
  · rcases List.mem_cons.1 (hperm.mem_iff.1 hi) with rfl | hi'
    · rw [hexecute]
      obtain ⟨bump, rfl | ⟨rfl, hhead⟩⟩ := hconsume
      · exact .exec bump
      · exact .recv bump (exists_config_of_head henabled hperm hhead)
    · obtain ⟨p, hp, rfl⟩ := List.mem_map.1 hi'
      obtain ⟨index, h⟩ := henabled p hp
      exact h.performs p.2
  · rw [(hperm.map (effectOf E s m)).nodup_iff, map_effectOf hexecute]
    exact nodup_effects hs hnodup henabled
  · rw [attestationOf_of_none hnone]
    cases effectOf E s m i with
    | execute => rfl
    | attest index => simp [AttestationInfo.Lacks, AttestationInfo.fresh]
  · -- reception is not the first call
    rcases List.mem_cons.1 (hperm.mem_iff.1 (List.mem_of_head? hhead)) with rfl | hmem
    · obtain ⟨bump', hexec | ⟨-, hhead'⟩⟩ := hconsume
      · cases hexec
      · exact absurd hhead hhead'
    · obtain ⟨p, -, hp⟩ := List.mem_map.1 hmem
      cases hp

end Calls

/-- **Attestations and execution commute.** In a state without an account of the message, the
attestations of different adapters that are enabled and one execution succeed in every order, and
leave the same account: executed, and attested by exactly these adapters. The same holds for a
reception that is not the first of the calls. Other instructions may come in between, as long as
they leave the configuration alone. -/
theorem attestations_commute (h : (machine E).Path .init l s) (hdst : m.dstChain = CHAIN_ID)
    (hsrc : m.srcChain ≠ 0#16) (hnone : s.accounts (E.pda (attestationSeeds E m)) = none)
    {adapters : List (Pubkey × Byte)} (hnodup : (adapters.map Prod.fst).Nodup)
    (henabled : ∀ p ∈ adapters, ∃ index, EnabledAt E s m p.1 index) :
    ∃ info : AttestationInfo, info.message = m ∧
      info.messageHash = AttestationInfo.computeMessageHash E m ∧ info.executed = true ∧
      (∀ n, n ∈ indices info.attestedAdapters ↔
        ∃ p ∈ adapters, ∃ index, EnabledAt E s m p.1 index ∧ index.toNat = n) ∧
      ∀ (consume : Instruction) (is : List Instruction),
        (is.filter fun i => i.Touches E m).Perm
          (consume :: adapters.map fun p => attestCall E m p.1 p.2) →
        (∃ bump, consume = execCall E m bump ∨
          consume = recvCall E m bump ∧
            (is.filter fun i => i.Touches E m).head? ≠ some consume) →
        (∀ c ∈ ((machine E).run s is).2, SameConfig E m s c.post) →
        (((machine E).run s is).2.map fun c => c.input).filter (fun i => i.Touches E m) =
            is.filter (fun i => i.Touches E m) ∧
          ((machine E).run s is).1.accounts (E.pda (attestationSeeds E m)) =
            some (.attestationInfo info) := by
  obtain ⟨a, hs⟩ := exists_refines h
  have hfresh := attestationOf_of_none hnone
  have hindex : ∀ p ∈ adapters, ∀ index, EnabledAt E s m p.1 index ↔ indexOf E s m p.1 = index := by
    intro p hp index
    refine ⟨EnabledAt.indexOf_eq, ?_⟩
    rintro rfl
    obtain ⟨index, h⟩ := henabled p hp
    rwa [h.indexOf_eq]
  have hlt : ∀ index, Effect.attest index ∈
      Effect.execute :: adapters.map (fun p => Effect.attest (indexOf E s m p.1)) →
        index.toNat < 128 := by
    intro index hmem
    obtain ⟨p, hp, heq⟩ := List.mem_map.1 ((List.mem_cons.1 hmem).resolve_left (by simp))
    obtain ⟨config, -, hmem⟩ := ((hindex p hp index).2 (Effect.attest.inj heq)).enabled
    exact GmpRouter.Bitmap.lt_of_mem_indices hmem
  obtain ⟨executed, attestedAdapters, hfold, hexecuted, hattested⟩ :=
    (s.attestationOf E m).foldl_apply hlt
  refine ⟨{ s.attestationOf E m with executed := executed, attestedAdapters := attestedAdapters },
    ?_, ?_, ?_, fun n => ?_, fun consume is hperm hconsume hconfig => ?_⟩
  · rw [hfresh]
    rfl
  · rw [hfresh]
    rfl
  · exact hexecuted.2 (.inr (List.mem_cons_self ..))
  · have hempty : n ∉ indices (s.attestationOf E m).attestedAdapters := by
      rw [hfresh]
      simp [AttestationInfo.fresh]
    rw [hattested, or_iff_right hempty]
    constructor
    · rintro ⟨index, hmem, rfl⟩
      obtain ⟨p, hp, heq⟩ := List.mem_map.1 ((List.mem_cons.1 hmem).resolve_left (by simp))
      exact ⟨p, hp, index, (hindex p hp index).2 (Effect.attest.inj heq), rfl⟩
    · rintro ⟨p, hp, index, hat, rfl⟩
      rw [← (hindex p hp index).1 hat]
      exact ⟨_, List.mem_cons_of_mem _ (List.mem_map_of_mem hp), rfl⟩
  · have hexecute : effectOf E s m consume = .execute := effectOf_consume hconsume
    obtain ⟨hcalls, hfinal⟩ :=
      (Ready.of_perm henabled hperm hs hnone hnodup hconsume).run hdst hsrc h hconfig
    refine ⟨hcalls, ?_⟩
    have heffects := (hperm.map (effectOf E s m)).foldl_eq'
      (fun e _ e' _ info => AttestationInfo.apply_right_comm info e e') (s.attestationOf E m)
    rw [map_effectOf hexecute, hfold] at heffects
    rw [heffects] at hfinal
    rw [← hfinal]
    refine accounts_attestationOf (.inl ?_)
    rw [hfinal]
    exact hexecuted.2 (.inr (List.mem_cons_self ..))

/-- The integrator 10 has the adapters 12 and 13, both enabled for messages from chain 2. -/
def sampleAdapters : List Instruction :=
  sampleInstructions.take 3 ++
    [.addAdapter ⟨11#256, samplePda (.integratorConfig 10#256),
        samplePda (.adapterInfo 10#256 13#256)⟩ ⟨10#256, 13#256⟩,
      .enableRecvAdapter ⟨11#256, samplePda (.integratorConfig 10#256),
        samplePda (.integratorChainConfig 10#256 2#16), samplePda (.adapterInfo 10#256 13#256)⟩
        ⟨2#16, 13#256, 10#256⟩]

/-- The adapters attest the message in both orders, and the integrator executes it in between, or
before, or receives it in between. -/
theorem attestations_commute_sample :
    let s := ((machine sampleEnv).run .init sampleAdapters).1
    let attest := attestCall sampleEnv sampleMessage 12#256 2#8
    let attest' := attestCall sampleEnv sampleMessage 13#256 3#8
    let exec := execCall sampleEnv sampleMessage 1#8
    let recv := recvCall sampleEnv sampleMessage 1#8
    ∃ info : AttestationInfo, info.executed = true ∧ indices info.attestedAdapters = {0, 1} ∧
      ∀ is ∈ [[attest, exec, attest'], [exec, attest', attest], [attest', recv, attest]],
        ((machine sampleEnv).run s is).1.accounts
          (sampleEnv.pda (attestationSeeds sampleEnv sampleMessage)) =
            some (.attestationInfo info) := by
  intro s attest attest' exec recv
  have hpath : (machine sampleEnv).Path .init _ s := (machine sampleEnv).run_path ..
  have hnone : s.accounts (sampleEnv.pda (attestationSeeds sampleEnv sampleMessage)) = none := by
    decide +kernel
  have hchain : s.accounts (sampleEnv.pda (.integratorChainConfig 10#256 2#16)) =
      some (.integratorChainConfig ⟨255#8, 10#256, 2#16, 0#128, 3#128⟩) := by
    decide +kernel
  have hfirst : EnabledAt sampleEnv s sampleMessage 12#256 0#8 :=
    ⟨⟨⟨255#8, 10#256, 12#256, 0#8⟩, by decide +kernel, rfl⟩, _, hchain, by decide⟩
  have hsecond : EnabledAt sampleEnv s sampleMessage 13#256 1#8 :=
    ⟨⟨⟨255#8, 10#256, 13#256, 1#8⟩, by decide +kernel, rfl⟩, _, hchain, by decide⟩
  have hconfig : ∀ is ∈ [[attest, exec, attest'], [exec, attest', attest], [attest', recv, attest]],
      ∀ c ∈ ((machine sampleEnv).run s is).2, SameConfig sampleEnv sampleMessage s c.post := by
    decide +kernel
  have htouch : ∀ is ∈ [[attest, exec, attest'], [exec, attest', attest], [attest', recv, attest]],
      (is.filter fun i => i.Touches sampleEnv sampleMessage) = is := by
    decide +kernel
  have hrecv : [attest', recv, attest].head? ≠ some recv := by decide +kernel
  have hadapters : ([(12#256, 2#8), (13#256, 3#8)].map Prod.fst : List Pubkey).Nodup := by decide
  clear_value s
  obtain ⟨info, -, -, hexecuted, hindices, hrun⟩ :=
    attestations_commute hpath (by decide) (by decide)
    hnone hadapters (List.forall_mem_cons.2 ⟨⟨0#8, hfirst⟩,
      List.forall_mem_singleton.2 ⟨1#8, hsecond⟩⟩)
  refine ⟨info, hexecuted, Finset.ext fun n => ?_, ?_⟩
  · rw [hindices, Finset.mem_insert, Finset.mem_singleton]
    constructor
    · rintro ⟨p, hp, index, hat, rfl⟩
      rcases List.mem_cons.1 hp with rfl | hp
      · exact .inl (congrArg BitVec.toNat (hat.indexOf_eq.symm.trans hfirst.indexOf_eq))
      · obtain rfl := List.mem_singleton.1 hp
        exact .inr (congrArg BitVec.toNat (hat.indexOf_eq.symm.trans hsecond.indexOf_eq))
    · rintro (rfl | rfl)
      · exact ⟨_, List.mem_cons_self .., 0#8, hfirst, rfl⟩
      · exact ⟨_, List.mem_cons_of_mem _ (List.mem_singleton_self _), 1#8, hsecond, rfl⟩
  · intro is his
    have hfinal : ∀ consume, is.Perm (consume :: [attest, attest']) →
        (∃ bump, consume = execCall sampleEnv sampleMessage bump ∨
          consume = recvCall sampleEnv sampleMessage bump ∧ is.head? ≠ some consume) →
        ((machine sampleEnv).run s is).1.accounts
          (sampleEnv.pda (attestationSeeds sampleEnv sampleMessage)) =
            some (.attestationInfo info) := by
      intro consume hperm hconsume
      refine (hrun consume is ?_ ?_ (hconfig is his)).2
      · rw [htouch is his]
        exact hperm
      · rw [htouch is his]
        exact hconsume
    simp only [List.mem_cons, List.not_mem_nil, or_false] at his
    rcases his with rfl | rfl | rfl
    · exact hfinal exec (.swap ..) ⟨1#8, .inl rfl⟩
    · exact hfinal exec (.cons _ (.swap ..)) ⟨1#8, .inl rfl⟩
    · exact hfinal recv ((List.Perm.swap ..).trans (.cons _ (.swap ..))) ⟨1#8, .inr ⟨rfl, hrecv⟩⟩

end GmpRouter.Svm
