import GmpRouter.Foundations.Availability
import GmpRouter.Foundations.Simulation
import GmpRouter.Router.Admin
import GmpRouter.Router.Messages

/-!
# Messages that nothing stops

An adapter that is enabled for the source chain of a message stays so until the admin disables it
(`EnabledAt.step`), and can then attest a message that is not consumed unless it has done so; with
its attestation the message is received. Hence the attestations of a message are a ballot that
delivers, for every machine that the router simulates and that makes these two steps whenever the
router does (`delivers_of_simulation`).
-/

namespace GmpRouter.Router

open GmpRouter.Bitmap (indices)

variable {hash : Message → Digest} {s t : State} {op : Op} {o : Out} {I A B : UniversalAddress}
  {direction : Direction} {chain : ChainId} {i : ℕ} {m : Message} {c c' : Integrator}

/-! ## Enabled adapters -/

/-- The adapter of the integrator has the index and is enabled. -/
def EnabledAt (s : State) (I : UniversalAddress) (direction : Direction) (chain : ChainId)
    (A : UniversalAddress) (i : ℕ) : Prop :=
  ∃ c, s.integrators I = some c ∧ c.adapters.idxOf? A = some i ∧ i ∈ c.enabled direction chain

theorem eq_of_idxOf? {l : List UniversalAddress} (hA : l.idxOf? A = some i)
    (hB : l.idxOf? B = some i) : A = B := by
  obtain ⟨_, hgetA, -⟩ := List.idxOf?_eq_some_iff.1 hA
  obtain ⟨_, hgetB, -⟩ := List.idxOf?_eq_some_iff.1 hB
  exact hgetA.symm.trans hgetB

/-- A change that does not disable the adapter keeps it enabled, at its index. -/
theorem Change.enabled_of_apply {change : Change} (happly : change.apply c = .ok c')
    (hchange : change ≠ .setAdapter direction false chain A) (hindex : c.adapters.idxOf? A = some i)
    (hi : i ∈ c.enabled direction chain) :
    c'.adapters.idxOf? A = some i ∧ i ∈ c'.enabled direction chain := by
  cases change with
  | updateAdmin | transferAdmin | discardAdmin =>
    obtain rfl := pure_eq_ok.1 happly
    exact ⟨hindex, hi⟩
  | addAdapter B =>
    obtain ⟨-, -, rfl⟩ := addAdapter_eq_ok.1 happly
    refine ⟨(idxOf?_of_isPrefix (List.prefix_append ..) ?_).2 hindex, hi⟩
    exact (List.idxOf?_eq_some_iff.1 hindex).1
  | setAdapter direction' on chain' B =>
    obtain ⟨j, hj, -, rfl⟩ := setAdapter_eq_ok.1 happly
    refine ⟨hindex, ?_⟩
    by_cases hset : direction = direction' ∧ chain = chain'
    · obtain ⟨rfl, rfl⟩ := hset
      simp only [update₂_self]
      cases on with
      | true => exact Finset.mem_insert_of_mem hi
      | false =>
        refine Finset.mem_erase_of_ne_of_mem ?_ hi
        rintro rfl
        exact hchange (by rw [eq_of_idxOf? hindex hj])
    · simpa only [update₂_of_ne hset] using hi

theorem EnabledAt.setIntegrator {J : UniversalAddress} (hc : s.integrators J = some c)
    (h : EnabledAt s I direction chain A i)
    (hset : I = J → c.adapters.idxOf? A = some i → i ∈ c.enabled direction chain →
      c'.adapters.idxOf? A = some i ∧ i ∈ c'.enabled direction chain) :
    EnabledAt (s.setIntegrator J c') I direction chain A i := by
  obtain ⟨d, hd, hindex, hi⟩ := h
  by_cases hI : I = J
  · subst hI
    obtain rfl : c = d := Option.some.inj (hc.symm.trans hd)
    obtain ⟨hindex', hi'⟩ := hset rfl hindex hi
    exact ⟨c', setIntegrator_self .., hindex', hi'⟩
  · exact ⟨d, (setIntegrator_of_ne hI _).trans hd, hindex, hi⟩

/-- **An adapter stays enabled until the admin disables it.** -/
theorem EnabledAt.step (h : EnabledAt s I direction chain A i) (hstep : step hash s op = .ok (t, o))
    (hop : ∀ caller, op ≠ .configure caller I (.setAdapter direction false chain A)) :
    EnabledAt t I direction chain A i := by
  cases op with
  | register J a =>
    obtain ⟨hnone, rfl, -⟩ := register_eq_ok.1 hstep
    obtain ⟨c, hc, hindex, hi⟩ := h
    have hI : I ≠ J := by
      rintro rfl
      simp [hnone] at hc
    exact ⟨c, (setIntegrator_of_ne hI _).trans hc, hindex, hi⟩
  | configure caller J change =>
    obtain ⟨c, c', hby, happly, rfl, -⟩ := configure_eq_ok.1 hstep
    refine h.setIntegrator hby.integrator_eq fun hI hindex hi => ?_
    refine Change.enabled_of_apply happly ?_ hindex hi
    rintro rfl
    exact hop caller (by rw [hI])
  | claimAdmin caller J =>
    obtain ⟨c, hc, -, -, rfl, -⟩ := claimAdmin_eq_ok.1 hstep
    exact h.setIntegrator hc fun _ hindex hi => ⟨hindex, hi⟩
  | send J dstChain dstAddr payloadHash =>
    obtain ⟨c, hc, -, -, rfl, -⟩ := send_eq_ok.1 hstep
    exact h.setIntegrator hc fun _ hindex hi => ⟨hindex, hi⟩
  | pickUp =>
    obtain ⟨_, _, _, -, -, -, -, rfl, -⟩ := pickUp_eq_ok.1 hstep
    exact h
  | attest =>
    obtain ⟨_, _, -, -, -, -, rfl, -⟩ := attest_eq_ok.1 hstep
    exact h
  | recv =>
    obtain ⟨_, -, -, -, rfl, -⟩ := recv_eq_ok.1 hstep
    exact h
  | exec =>
    obtain ⟨-, rfl, -⟩ := exec_eq_ok.1 hstep
    exact h

/-! ## Messages that can be attested and received -/

theorem Op.eq_of_consumes (hinj : Function.Injective hash)
    (h : op.consumes hash (hash m) = true) : op = .recv m ∨ op = .exec m := by
  cases op with
  | recv m' => exact .inl (congrArg Op.recv (hinj (of_decide_eq_true h)))
  | exec m' => exact .inr (congrArg Op.exec (hinj (of_decide_eq_true h)))
  | _ => cases h

/-- The adapter may attest the message, unless it has, and the message is not consumed. -/
structure Open (hash : Message → Digest) (s : State) (m : Message) (A : UniversalAddress) (i : ℕ) :
    Prop where
  enabled : EnabledAt s m.dstAddr .recv m.srcChain A i
  executed : (s.inbox (hash m)).executed = false

namespace Open

theorem step (h : Open hash s m A i) (hinj : Function.Injective hash) (hs : Inv s)
    (hstep : step hash s op = .ok (t, o)) (hrecv : op ≠ .recv m) (hexec : op ≠ .exec m)
    (hop : ∀ caller, op ≠ .configure caller m.dstAddr (.setAdapter .recv false m.srcChain A)) :
    Open hash t m A i := by
  refine ⟨h.enabled.step hstep hop, Bool.not_eq_true _ ▸ fun hexecuted => ?_⟩
  rcases ((latch_executed hash (hash m)).step hstep hs).1 hexecuted with hold | hconsumes
  · rw [h.executed] at hold
    cases hold
  · exact (Op.eq_of_consumes hinj hconsumes).elim hrecv hexec

/-- No part of the history has consumed the message. -/
theorem of_path {l : List (Commit State Op Out)} (hinj : Function.Injective hash)
    (hpath : (machine hash).Path {} l s) (henabled : EnabledAt s m.dstAddr .recv m.srcChain A i)
    (hfresh : ∀ d ∈ l, ¬ (d.input = .recv m ∨ d.input = .exec m)) : Open hash s m A i := by
  refine ⟨henabled, Bool.not_eq_true _ ▸ fun hexecuted => ?_⟩
  obtain ⟨d, hd, hconsumes⟩ :=
    ((latch_executed hash (hash m)).iff_exists hpath inv_init).1 hexecuted
    |>.resolve_left (by simp)
  exact hfresh d hd (Op.eq_of_consumes hinj hconsumes)

/-- The attestation that is missing. -/
theorem attest (h : Open hash s m A i) (hnew : i ∉ (s.inbox (hash m)).attested) :
    ∃ t, Router.step hash s (.attest A m) = .ok (t, .unit) ∧ i ∈ (t.inbox (hash m)).attested := by
  obtain ⟨c, hc, hindex, hi⟩ := h.enabled
  refine ⟨_, attest_eq_ok.2 ⟨c, i, hc, hindex, hi, hnew, rfl, rfl⟩, ?_⟩
  rw [setRecord_self]
  exact Finset.mem_insert_self ..

theorem recv (h : Open hash s m A i) (hi : i ∈ (s.inbox (hash m)).attested) :
    ∃ c t, s.integrators m.dstAddr = some c ∧ i ∈ c.enabled .recv m.srcChain ∧
      Router.step hash s (.recv m) =
        .ok (t, .received (c.enabled .recv m.srcChain) (s.inbox (hash m)).attested) := by
  obtain ⟨c, hc, -, henabled⟩ := h.enabled
  exact ⟨c, _, hc, henabled,
    recv_eq_ok.2 ⟨c, hc, Finset.ne_empty_of_mem hi, h.executed, rfl, rfl⟩⟩

end Open

/-! ## Every machine that the router simulates -/

section Simulation

variable {σ ι ε ο : Type} {M : Machine σ ι ε ο} {init : σ} {f : σ → ι → Option Op}
  {conf : σ → UniversalAddress → Option Configuration} {x : σ} {a : State}

/-- What the bitmap of the source chain enables, at the destination of the message. -/
def enabledIndices (conf : σ → UniversalAddress → Option Configuration) (m : Message) (s : σ) :
    Finset ℕ :=
  ((conf s m.dstAddr).map fun y => indices (y.bitmap .recv m.srcChain)).getD ∅

/-- The index of the adapter, by the configuration of the destination of the message. -/
def indexOf (conf : σ → UniversalAddress → Option Configuration) (m : Message) (s : σ)
    (A : UniversalAddress) : Option ℕ :=
  (conf s m.dstAddr).bind fun y => (y.index A).map BitVec.toNat

/-- The adapters vote for a message by attesting it, and the integrator consumes it. -/
def ballot (f : σ → ι → Option Op) (conf : σ → UniversalAddress → Option Configuration)
    (m : Message) (attest : UniversalAddress → ι) (recv : ι)
    (reported : ο → Option (Finset ℕ × Finset ℕ)) :
    Ballot σ ι ο UniversalAddress where
  countsAt s A i := indexOf conf m s A = some i ∧ i ∈ enabledIndices conf m s
  excludes A c := ∃ signer,
    f c.pre c.input = some (.configure signer m.dstAddr (.setAdapter .recv false m.srcChain A))
  consumes c := f c.pre c.input = some (.recv m) ∨ f c.pre c.input = some (.exec m)
  vote := attest
  consume := recv
  reported := reported

theorem enabledIndices_eq (hshow : Shows (a.settings m.dstAddr) (conf x m.dstAddr))
    (hc : a.integrators m.dstAddr = some c) :
    enabledIndices conf m x = c.enabled .recv m.srcChain := by
  rw [State.settings, hc] at hshow
  obtain ⟨y, hy, hcy⟩ := Shows.of_left hshow
  rw [enabledIndices, hy]
  exact (hcy.enabled_eq .recv m.srcChain).symm

/-- What the configuration shows of an adapter is what the router knows. -/
theorem enabledAt_of_shows (ha : Inv a) (hshow : Shows (a.settings m.dstAddr) (conf x m.dstAddr))
    (hindex : indexOf conf m x A = some i) (hi : i ∈ enabledIndices conf m x) :
    EnabledAt a m.dstAddr .recv m.srcChain A i := by
  obtain ⟨y, hy, hA⟩ := Option.bind_eq_some_iff.1 hindex
  obtain ⟨index, hstored, rfl⟩ := Option.map_eq_some_iff.1 hA
  obtain ⟨z, hz, hzy⟩ := (hy ▸ hshow).of_right
  obtain ⟨c, hc, rfl⟩ := settings_eq_some hz
  rw [hzy.index_eq] at hstored
  obtain ⟨j, hj, rfl⟩ := Option.map_eq_some_iff.1 hstored
  have hlt := (List.idxOf?_eq_some_iff.1 hj).1
  have hle := (ha.integrators _ _ hc).length_le
  have hlength : c.settings.adapters.length = c.adapters.length := rfl
  have htoNat : (BitVec.ofNat 8 j).toNat = j := by
    rw [BitVec.toNat_ofNat]
    omega
  rw [enabledIndices_eq hshow hc] at hi
  rw [htoNat] at hi ⊢
  exact ⟨c, hc, hj, hi⟩

variable {R : σ → State → Prop} {L : σ → ι → ο → Op → Out → Prop} {attest : UniversalAddress → ι}
  {recv : ι} {reported : ο → Option (Finset ℕ × Finset ℕ)} {record : σ → Record}

/-- **The attestations of a message deliver** on every machine that the router simulates, if it
makes the step of the router that an attestation of the message or its receipt is whenever the
router can. -/
theorem delivers_of_simulation (S : Machine.Simulation M (machine hash) R L)
    (hinj : Function.Injective hash) (hinit : R init {}) (hinv : ∀ s a, R s a → Inv a)
    (hshow : ∀ s a, R s a → ∀ I, Shows (a.settings I) (conf s I))
    (hrecord : ∀ s a, R s a → a.inbox (hash m) = record s)
    (hlabel : ∀ s i o j p, L s i o j p → f s i = some j ∧ reported o = p.receivedSets)
    (hattest : ∀ l s a A r, M.Path init l s → R s a → step hash a (.attest A m) = .ok r →
      ∃ t o, M.step s (attest A) = .ok (t, o) ∧ f s (attest A) = some (.attest A m))
    (hrecv : ∀ l s a r, M.Path init l s → R s a → step hash a (.recv m) = .ok r →
      ∃ t o, M.step s recv = .ok (t, o) ∧ f s recv = some (.recv m)) :
    (ballot f conf m attest recv reported).Delivers M init := by
  have hf : ∀ s i o j p, L s i o j p → f s i = some j := fun s i o j p h => (hlabel s i o j p h).1
  refine Ballot.delivers (fun A i s => ∃ l a, M.Path init l s ∧ R s a ∧ Open hash a m A i)
    (enabledIndices conf m) (fun s => (record s).attested) ?_ ?_ ?_ ?_
  · intro l s A i hpath hfresh hcounts
    obtain ⟨l', a, hrun, ha, hmatches⟩ := S.path hpath hinit
    have henabled := enabledAt_of_shows (hinv s a ha) (hshow s a ha _) hcounts.1 hcounts.2
    refine ⟨l, a, hpath, ha, .of_path hinj hrun henabled fun d hd hconsumes => ?_⟩
    obtain ⟨c, hc, hcd⟩ := Machine.Matches.exists_left hmatches hd
    have hinput := hf _ _ _ _ _ hcd.label
    refine hfresh c hc (hconsumes.imp (fun hop => ?_) fun hop => ?_)
    · exact hinput.trans (congrArg some hop)
    · exact hinput.trans (congrArg some hop)
  · intro A i
    constructor
    · rintro s j o t hstep ⟨l, a, hpath, ha, hopen⟩ hquiet
      obtain ⟨op, b, p, hL, hrouter, hb⟩ := S.step ha hstep
      have hinput := hf _ _ _ _ _ hL
      refine ⟨_, b, hpath.append (.single hstep), hb,
        hopen.step hinj (hinv s a ha) hrouter ?_ ?_ fun caller => ?_⟩
      · rintro rfl
        exact hquiet (.inl (.inl hinput))
      · rintro rfl
        exact hquiet (.inl (.inr hinput))
      · rintro rfl
        exact hquiet (.inr ⟨caller, hinput⟩)
    · rintro s j o t hstep ⟨l, a, hpath, ha, hopen⟩ hi
      obtain ⟨op, b, p, -, hrouter, hb⟩ := S.step ha hstep
      simp only [← hrecord s a ha, ← hrecord t b hb] at hi ⊢
      exact ((latch_attested hash (hash m) i).step hrouter (hinv s a ha)).2 (.inl hi)
    · rintro s ⟨l, a, hpath, ha, hopen⟩ hnew
      simp only [← hrecord s a ha] at hnew
      obtain ⟨b, hrouter, hi⟩ := hopen.attest hnew
      obtain ⟨t, o, hstep, hinput⟩ := hattest l s a A _ hpath ha hrouter
      obtain ⟨-, hb⟩ := S.rel_of_input hf ha hstep hinput hrouter
      exact ⟨t, o, hstep, hrecord t b hb ▸ hi⟩
  · rintro A i s ⟨l, a, -, ha, hopen⟩
    obtain ⟨c, hc, -, hi⟩ := hopen.enabled
    rwa [enabledIndices_eq (hshow s a ha _) hc]
  · rintro A i s ⟨l, a, hpath, ha, hopen⟩ hi
    rw [← hrecord s a ha] at hi ⊢
    obtain ⟨c, b, hc, -, hrouter⟩ := hopen.recv hi
    obtain ⟨t, o, hstep, hinput⟩ := hrecv l s a _ hpath ha hrouter
    obtain ⟨hL, -⟩ := S.rel_of_input hf ha hstep hinput hrouter
    refine ⟨t, o, hstep, (hlabel _ _ _ _ _ hL).2.trans ?_⟩
    rw [enabledIndices_eq (hshow s a ha _) hc]
    rfl

end Simulation

end GmpRouter.Router
