import GmpRouter.Router.Admin
import GmpRouter.Foundations.Reachability
import Mathlib.Data.Finite.Prod
import Mathlib.Data.FinEnum

/-!
# The configurations that can be reached

An integrator's settings are under the control of its admins: from any state, operations about the
integrator alone lead to every well-formed list of adapters that extends its own, every choice of
enabled adapters, and every admin (`exists_reaches`). Nothing else is ever reached
(`evolves_of_reaches`).

Endpoints accept fewer admins and fewer chains than the router does (`Limits`).
-/

namespace GmpRouter.Router

open GmpRouter.Bitmap (indices)

variable {hash : Message → Digest} {s t : State} {op : Op} {o : Out} {I a : UniversalAddress}
  {c c' : Integrator} {direction : Direction} {chain : ChainId} {L : Limits}

/-! ## Settings -/

/-- The addresses that an endpoint accepts as admins, and the chains for which it lets adapters be
enabled. -/
structure Limits where
  admin : UniversalAddress → Prop
  chain : ChainId → Prop

def Limits.Allows (L : Limits) : Op → Prop
  | .register _ admin | .configure _ _ (.updateAdmin admin)
  | .configure _ _ (.transferAdmin admin) =>
    L.admin admin
  | .configure _ _ (.setAdapter _ true chain _) => L.chain chain
  | _ => True

/-- The endpoint has accepted the admins and the chains. -/
structure Settings.Within (L : Limits) (x : Settings) : Prop where
  admin : ∀ a, x.admin = some a ∨ x.pendingAdmin = some a → L.admin a
  chain : ∀ direction chain, ∀ i ∈ x.enabled direction chain, L.chain chain

/-- Well-formed settings, within the limits. -/
structure Settings.Admissible (L : Limits) (x : Settings) : Prop extends x.Within L where
  admin_ne_none : x.pendingAdmin ≠ none → x.admin ≠ none
  nodup : x.adapters.Nodup
  length_le : x.adapters.length ≤ 128
  enabled_lt : ∀ direction chain, ∀ i ∈ x.enabled direction chain, i < x.adapters.length

/-- What settings can become: any others, once there are some, only as long as there is an admin,
and without removing adapters. -/
def Settings.Evolves (L : Limits) (x y : Option Settings) : Prop :=
  x = y ∨ ∃ z, y = some z ∧ z.Admissible L ∧
    ∀ w, x = some w → w.admin ≠ none ∧ w.adapters <+: z.adapters

theorem Settings.Evolves.trans {x y z : Option Settings} (h : Settings.Evolves L x y)
    (h' : Settings.Evolves L y z) : Settings.Evolves L x z := by
  rcases h with rfl | ⟨u, rfl, hu, hxu⟩
  · exact h'
  · rcases h' with rfl | ⟨v, rfl, hv, huv⟩
    · exact .inr ⟨u, rfl, hu, hxu⟩
    · refine .inr ⟨v, rfl, hv, fun w hw => ?_⟩
      exact ⟨(hxu w hw).1, (hxu w hw).2.trans (huv u rfl).2⟩

/-! ## Nothing else is reached -/

/-- A change of the admin stays within the limits. -/
theorem Change.within {change : Change} (hc : c.settings.Within L)
    (hallows : L.Allows (.configure a I change)) (happly : change.apply c = .ok c') :
    c'.settings.Within L := by
  cases change with
  | updateAdmin newAdmin =>
    obtain rfl := pure_eq_ok.1 happly
    refine { hc with admin := fun b hb => ?_ }
    rcases hb with hb | hb
    · exact Option.some.inj hb ▸ hallows
    · exact hc.admin b (.inr hb)
  | transferAdmin newAdmin =>
    obtain rfl := pure_eq_ok.1 happly
    refine { hc with admin := fun b hb => ?_ }
    rcases hb with hb | hb
    · exact hc.admin b (.inl hb)
    · exact Option.some.inj hb ▸ hallows
  | discardAdmin =>
    obtain rfl := pure_eq_ok.1 happly
    refine { hc with admin := fun b hb => ?_ }
    rcases hb with hb | hb
    · cases hb
    · exact hc.admin b (.inr hb)
  | addAdapter A =>
    obtain ⟨-, -, rfl⟩ := addAdapter_eq_ok.1 happly
    exact ⟨hc.admin, hc.chain⟩
  | setAdapter direction on chain A =>
    obtain ⟨i, hi, hset, rfl⟩ := setAdapter_eq_ok.1 happly
    refine { hc with chain := fun d ch j hj => ?_ }
    have hj : j ∈ update₂ c.enabled direction chain (if on then insert i (c.enabled direction chain)
      else (c.enabled direction chain).erase i) d ch := hj
    by_cases heq : d = direction ∧ ch = chain
    · obtain ⟨rfl, rfl⟩ := heq
      cases on with
      | true => exact hallows
      | false =>
        have hi : i ∈ c.enabled d ch := by simpa using hset
        exact hc.chain d ch i hi
    · rw [update₂_of_ne heq] at hj
      exact hc.chain d ch j hj

theorem Integrator.WellFormed.admissible (hc : c.WellFormed) (hwithin : c.settings.Within L) :
    c.settings.Admissible L :=
  { hwithin with
    admin_ne_none := hc.admin_ne_none
    nodup := hc.nodup
    length_le := hc.length_le
    enabled_lt := hc.enabled_lt }

/-- The settings in the state are within the limits. -/
def Within (L : Limits) (s : State) : Prop := ∀ I x, s.settings I = some x → x.Within L

/-- **A step that an endpoint allows stays within its limits, and evolves the settings.** -/
theorem evolves_of_step (hs : Inv s) (hwithin : Within L s) (hallows : L.Allows op)
    (h : step hash s op = .ok (t, o)) : Settings.Evolves L (s.settings I) (t.settings I) := by
  by_cases hop : Administers I op
  · have ht : Inv t := inv_invariant h hs
    cases hop with
    | register admin =>
      obtain ⟨hnone, rfl, -⟩ := register_eq_ok.1 h
      rw [settings_setIntegrator, if_pos rfl, State.settings, hnone]
      refine .inr ⟨_, rfl, ?_, by simp⟩
      refine (ht.integrators I _ (setIntegrator_self ..)).admissible
        ⟨fun b hb => ?_, by simp [Integrator.settings]⟩
      rcases hb with hb | hb
      · exact Option.some.inj hb ▸ hallows
      · cases hb
    | configure caller change =>
      obtain ⟨c, c', hby, happly, rfl, -⟩ := configure_eq_ok.1 h
      have hc : s.settings I = some c.settings := by
        rw [State.settings, hby.integrator_eq, Option.map_some]
      rw [settings_setIntegrator, if_pos rfl, hc]
      refine .inr ⟨_, rfl, ?_, fun w hw => ?_⟩
      · exact (ht.integrators I _ (setIntegrator_self ..)).admissible
          (Change.within (hwithin I _ hc) hallows happly)
      · obtain rfl := Option.some.inj hw
        refine ⟨?_, Change.adapters_isPrefix happly⟩
        simp [Integrator.settings, hby.admin_eq]
    | claimAdmin caller =>
      obtain ⟨c, hc, hpending, hcaller, rfl, -⟩ := claimAdmin_eq_ok.1 h
      have hsettings : s.settings I = some c.settings := by rw [State.settings, hc, Option.map_some]
      rw [settings_setIntegrator, if_pos rfl, hsettings]
      refine .inr ⟨_, rfl, ?_, fun w hw => ?_⟩
      · refine (ht.integrators I _ (setIntegrator_self ..)).admissible ?_
        refine { hwithin I _ hsettings with admin := fun b hb => ?_ }
        rcases hb with hb | hb
        · obtain rfl : caller = b := Option.some.inj hb
          exact (hwithin I _ hsettings).admin caller hcaller
        · cases hb
      · obtain rfl := Option.some.inj hw
        exact ⟨(hs.integrators I c hc).admin_ne_none hpending, List.prefix_rfl⟩
  · exact .inl (settings_of_step h hop).symm

theorem within_of_step (hs : Inv s) (hwithin : Within L s) (hallows : L.Allows op)
    (h : step hash s op = .ok (t, o)) : Within L t := by
  intro I x hx
  rcases evolves_of_step (I := I) hs hwithin hallows h with hsame | ⟨z, hz, hadmissible, -⟩
  · exact hwithin I x (hsame.trans hx)
  · obtain rfl := Option.some.inj (hx.symm.trans hz)
    exact hadmissible.toWithin

theorem evolves_of_reaches (hs : Inv s) (hwithin : Within L s)
    (h : (machine hash).Reaches (fun _ op => L.Allows op) s t) :
    Settings.Evolves L (s.settings I) (t.settings I) := by
  have hinv : Inv t ∧ Within L t ∧ Settings.Evolves L (s.settings I) (t.settings I) := by
    refine h.invariant (I := fun t => Inv t ∧ Within L t ∧
      Settings.Evolves L (s.settings I) (t.settings I)) ?_ ⟨hs, hwithin, .inl rfl⟩
    rintro t op o u hstep hop ⟨ht, hwithin, hevolves⟩
    exact ⟨inv_invariant hstep ht, within_of_step ht hwithin hop hstep,
      hevolves.trans (evolves_of_step ht hwithin hop hstep)⟩
  exact hinv.2.2

/-! ## Everything else is reached -/

/-- Operations about the integrator, within the limits. -/
def Controls (L : Limits) (I : UniversalAddress) (op : Op) : Prop := L.Allows op ∧ Administers I op

/-- Such operations take the integrator, in the state, from one configuration to another. -/
def Leads (hash : Message → Digest) (L : Limits) (s : State) (I : UniversalAddress)
    (c c' : Integrator) : Prop :=
  (machine hash).Reaches (fun _ op => Controls L I op) (s.setIntegrator I c) (s.setIntegrator I c')

@[simp] theorem setIntegrator_setIntegrator :
    (s.setIntegrator I c).setIntegrator I c' = s.setIntegrator I c' := by
  simp only [State.setIntegrator, Function.update_idem]

theorem setIntegrator_eq_self (hc : s.integrators I = some c) : s.setIntegrator I c = s := by
  rw [State.setIntegrator, ← hc, Function.update_eq_self]

namespace Leads

theorem refl (c : Integrator) : Leads hash L s I c c := Machine.Reaches.refl _

theorem trans {c'' : Integrator} (h : Leads hash L s I c c') (h' : Leads hash L s I c' c'') :
    Leads hash L s I c c'' := Machine.Reaches.trans h h'

/-- A change by the admin. -/
theorem configure {change : Change} (hadmin : c.admin = some a) (hpending : c.pendingAdmin = none)
    (hallows : L.Allows (.configure a I change)) (happly : change.apply c = .ok c') :
    Leads hash L s I c c' := by
  have hstep : step hash (s.setIntegrator I c) (.configure a I change) =
      .ok (s.setIntegrator I c', .unit) :=
    configure_eq_ok.2 ⟨c, c', ⟨setIntegrator_self .., hadmin, hpending⟩, happly,
      setIntegrator_setIntegrator.symm, rfl⟩
  exact Machine.Reaches.single (M := machine hash) (i := .configure a I change) (o := .unit) hstep
    ⟨hallows, .configure a change⟩

/-- The admin takes a pending transfer back. -/
theorem claim (hadmin : c.admin = some a) : Leads hash L s I c { c with pendingAdmin := none } := by
  by_cases hpending : c.pendingAdmin = none
  · have hc : { c with pendingAdmin := none } = c := by rw [← hpending]
    rw [hc]
    exact refl c
  · have hstep : step hash (s.setIntegrator I c) (.claimAdmin a I) =
        .ok (s.setIntegrator I { c with pendingAdmin := none }, .unit) := by
      refine claimAdmin_eq_ok.2 ⟨c, setIntegrator_self .., hpending, .inl hadmin, ?_, rfl⟩
      rw [setIntegrator_setIntegrator, ← hadmin]
    exact Machine.Reaches.single (M := machine hash) (i := .claimAdmin a I) (o := .unit) hstep
      ⟨trivial, .claimAdmin a⟩

/-- The admin adds adapters. -/
theorem addAdapters (hadmin : c.admin = some a) (hpending : c.pendingAdmin = none)
    {new : List UniversalAddress} (hnodup : (c.adapters ++ new).Nodup)
    (hlength : (c.adapters ++ new).length ≤ 128) :
    Leads hash L s I c { c with adapters := c.adapters ++ new } := by
  induction new generalizing c with
  | nil =>
    rw [List.append_nil]
    exact refl c
  | cons A new ih =>
    have happend : c.adapters ++ A :: new = (c.adapters ++ [A]) ++ new := by simp
    rw [happend] at hnodup hlength ⊢
    have hadd : Change.apply c (.addAdapter A) = .ok { c with adapters := c.adapters ++ [A] } := by
      refine addAdapter_eq_ok.2 ⟨fun hA => ?_, ?_, rfl⟩
      · exact (List.nodup_append.1 hnodup.of_append_left).2.2 A hA A (by simp) rfl
      · simp only [List.length_append, List.length_singleton] at hlength
        omega
    have hallows : L.Allows (.configure a I (.addAdapter A)) := trivial
    have hstep : Leads hash L s I c { c with adapters := c.adapters ++ [A] } :=
      configure hadmin hpending hallows hadd
    exact hstep.trans (ih hadmin hpending hnodup hlength)

/-- The admin enables the adapter with the index, or disables it. -/
theorem setAdapter (hadmin : c.admin = some a) (hpending : c.pendingAdmin = none)
    (hnodup : c.adapters.Nodup) {i : ℕ} (hi : i < c.adapters.length) (on : Bool)
    (hset : decide (i ∈ c.enabled direction chain) ≠ on) (hchain : L.chain chain) {T : Finset ℕ}
    (hT : (if on then Insert.insert i (c.enabled direction chain)
      else (c.enabled direction chain).erase i) = T) :
    Leads hash L s I c { c with enabled := update₂ c.enabled direction chain T } := by
  subst hT
  have hindex : c.adapters.idxOf? c.adapters[i] = some i := by
    refine List.idxOf?_eq_some_iff.2 ⟨hi, rfl, fun j hj heq => ?_⟩
    exact hj.ne ((List.Nodup.getElem_inj_iff hnodup).1 heq)
  refine configure hadmin hpending ?_ (setAdapter_eq_ok.2 ⟨i, hindex, hset, rfl⟩)
  cases on with
  | true => exact hchain
  | false => trivial

/-- From a set of enabled adapters to the set with one more, and back. -/
theorem insert (hadmin : c.admin = some a) (hpending : c.pendingAdmin = none)
    (hnodup : c.adapters.Nodup) {S : Finset ℕ} {i : ℕ} (hmem : i ∉ S) (hi : i < c.adapters.length)
    (hchain : L.chain chain) :
    Leads hash L s I { c with enabled := update₂ c.enabled direction chain S }
        { c with enabled := update₂ c.enabled direction chain (Insert.insert i S) } ∧
      Leads hash L s I { c with enabled := update₂ c.enabled direction chain (Insert.insert i S) }
        { c with enabled := update₂ c.enabled direction chain S } := by
  constructor
  · let c₁ : Integrator := { c with enabled := update₂ c.enabled direction chain S }
    have hset : Leads hash L s I c₁
        { c₁ with enabled := update₂ c₁.enabled direction chain (Insert.insert i S) } := by
      refine setAdapter (c := c₁) hadmin hpending hnodup hi true ?_ hchain ?_
      · simpa [c₁] using hmem
      · simp [c₁]
    simpa [c₁] using hset
  · let c₁ : Integrator :=
      { c with enabled := update₂ c.enabled direction chain (Insert.insert i S) }
    have hset : Leads hash L s I c₁
        { c₁ with enabled := update₂ c₁.enabled direction chain S } := by
      refine setAdapter (c := c₁) hadmin hpending hnodup hi false ?_ hchain ?_
      · simp [c₁]
      · simp [c₁, Finset.erase_insert hmem]
    simpa [c₁] using hset

/-- The admin enables the adapters of a set, and disables those of a set. -/
theorem insertAll (hadmin : c.admin = some a) (hpending : c.pendingAdmin = none)
    (hnodup : c.adapters.Nodup) {S : Finset ℕ}
    (hS : ∀ i ∈ S, L.chain chain ∧ i < c.adapters.length) :
    Leads hash L s I { c with enabled := update₂ c.enabled direction chain ∅ }
        { c with enabled := update₂ c.enabled direction chain S } ∧
      Leads hash L s I { c with enabled := update₂ c.enabled direction chain S }
        { c with enabled := update₂ c.enabled direction chain ∅ } := by
  induction S using Finset.induction with
  | empty => exact ⟨refl _, refl _⟩
  | @insert i S hmem ih =>
    obtain ⟨hchain, hi⟩ := hS i (Finset.mem_insert_self i S)
    obtain ⟨hto, hfrom⟩ := ih fun j hj => hS j (Finset.mem_insert_of_mem hj)
    exact ⟨hto.trans (insert hadmin hpending hnodup hmem hi hchain).1,
      (insert hadmin hpending hnodup hmem hi hchain).2.trans hfrom⟩

end Leads

instance : Finite Direction :=
  .of_injective (fun direction => decide (direction = .send)) (by
    rintro ⟨⟩ ⟨⟩ <;> simp)

/-- **The admin enables and disables adapters at will.** -/
theorem Leads.setEnabled (hadmin : c.admin = some a) (hpending : c.pendingAdmin = none)
    (hnodup : c.adapters.Nodup)
    (hc : ∀ direction chain, ∀ i ∈ c.enabled direction chain, L.chain chain ∧ i < c.adapters.length)
    {enabled : Direction → ChainId → Finset ℕ}
    (henabled : ∀ direction chain, ∀ i ∈ enabled direction chain,
      L.chain chain ∧ i < c.adapters.length) :
    Leads hash L s I c { c with enabled } := by
  let within : Direction × ChainId → Finset ℕ → Prop :=
    fun k S => ∀ i ∈ S, L.chain k.2 ∧ i < c.adapters.length
  have hset : ∀ (f : Direction × ChainId → Finset ℕ) k S, (∀ k, within k (f k)) → within k S →
      Leads hash L s I { c with enabled := fun d ch => f (d, ch) }
        { c with enabled := fun d ch => Function.update f k S (d, ch) } := by
    rintro f ⟨d, ch⟩ S hf hS
    let c₁ : Integrator := { c with enabled := fun d ch => f (d, ch) }
    have hupdate : (fun d' ch' => Function.update f (d, ch) S (d', ch')) =
        update₂ c₁.enabled d ch S := by
      funext d' ch'
      simp only [Function.update_apply, update₂_apply, Prod.mk.injEq, c₁]
    have hself : update₂ c₁.enabled d ch (f (d, ch)) = c₁.enabled := update₂_eq_self rfl
    have hempty : Leads hash L s I { c₁ with enabled := update₂ c₁.enabled d ch (f (d, ch)) }
        { c₁ with enabled := update₂ c₁.enabled d ch ∅ } :=
      (insertAll (c := c₁) hadmin hpending hnodup (hf (d, ch))).2
    have hfill : Leads hash L s I { c₁ with enabled := update₂ c₁.enabled d ch ∅ }
        { c₁ with enabled := update₂ c₁.enabled d ch S } :=
      (insertAll (c := c₁) hadmin hpending hnodup hS).1
    rw [hself] at hempty
    rw [hupdate]
    exact hempty.trans hfill
  exact rel_of_coordinates (P := within) (f := fun k => c.enabled k.1 k.2)
    (g := fun k => enabled k.1 k.2)
    (R := fun f g => Leads hash L s I { c with enabled := fun d ch => f (d, ch) }
      { c with enabled := fun d ch => g (d, ch) })
    (fun _ => .refl _) (fun _ _ _ => .trans) hset (fun k => hc k.1 k.2) fun k => henabled k.1 k.2

/-- The admin leaves the role in any state. -/
theorem Leads.setAdmin (hadmin : c.admin = some a) (hpending : c.pendingAdmin = none)
    {admin pendingAdmin : Option UniversalAddress}
    (hallows : ∀ b, admin = some b ∨ pendingAdmin = some b → L.admin b)
    (hne : pendingAdmin ≠ none → admin ≠ none) :
    Leads hash L s I c { c with admin, pendingAdmin } := by
  cases admin with
  | none =>
    obtain rfl : pendingAdmin = none := by
      by_contra h
      exact hne h rfl
    have hallows : L.Allows (.configure a I .discardAdmin) := trivial
    have hdiscard : Leads hash L s I c { c with admin := none } :=
      configure hadmin hpending hallows (pure_eq_ok.2 rfl)
    rwa [hpending] at hdiscard
  | some b =>
    have hb : L.Allows (.configure a I (.updateAdmin b)) := hallows b (.inl rfl)
    have hupdate : Leads hash L s I c { c with admin := some b } :=
      configure hadmin hpending hb (pure_eq_ok.2 rfl)
    cases pendingAdmin with
    | none =>
      rw [← hpending]
      exact hupdate
    | some d =>
      have hd : L.Allows (.configure b I (.transferAdmin d)) := hallows d (.inr rfl)
      exact hupdate.trans (configure rfl hpending hd (pure_eq_ok.2 rfl))

/-- The configuration with other settings. -/
def Integrator.withSettings (c : Integrator) (z : Settings) : Integrator :=
  ⟨z.admin, z.pendingAdmin, z.adapters, z.enabled, c.nextSequence⟩

theorem Leads.of_admissible {z : Settings} (hadmin : c.admin = some a)
    (hc : c.settings.Admissible L) (hz : z.Admissible L) (hadapters : c.adapters <+: z.adapters) :
    Leads hash L s I c (c.withSettings z) := by
  obtain ⟨admin, pendingAdmin, adapters, enabled⟩ := z
  obtain ⟨new, rfl : c.adapters ++ new = adapters⟩ := hadapters
  have hadd : Leads hash L s I { c with pendingAdmin := none }
      { c with pendingAdmin := none, adapters := c.adapters ++ new } :=
    addAdapters (c := { c with pendingAdmin := none }) hadmin rfl hz.nodup hz.length_le
  have hset : Leads hash L s I { c with pendingAdmin := none, adapters := c.adapters ++ new }
      { c with pendingAdmin := none, adapters := c.adapters ++ new, enabled } := by
    refine setEnabled (c := { c with pendingAdmin := none, adapters := c.adapters ++ new })
      hadmin rfl hz.nodup (fun d ch i hi => ⟨hc.chain d ch i hi, ?_⟩) fun d ch i hi =>
      ⟨hz.chain d ch i hi, hz.enabled_lt d ch i hi⟩
    have hlt : i < c.adapters.length := hc.enabled_lt d ch i hi
    exact hlt.trans_le (by simp)
  have hleave : Leads hash L s I
      { c with pendingAdmin := none, adapters := c.adapters ++ new, enabled }
      { c with admin, pendingAdmin, adapters := c.adapters ++ new, enabled } :=
    setAdmin (c := { c with pendingAdmin := none, adapters := c.adapters ++ new, enabled })
      hadmin rfl hz.admin hz.admin_ne_none
  exact (((claim hadmin).trans hadd).trans hset).trans hleave

/-- **Every evolution of the settings is reached**, by operations about the integrator alone. -/
theorem exists_reaches (hs : Inv s) (hwithin : Within L s) (hL : ∃ a, L.admin a)
    {y : Option Settings} (h : Settings.Evolves L (s.settings I) y) :
    ∃ t, (machine hash).Reaches (fun _ op => Controls L I op) s t ∧ t.settings I = y := by
  rcases h with hsame | ⟨z, rfl, hz, hevolves⟩
  · exact ⟨s, .refl s, hsame⟩
  · cases hc : s.integrators I with
    | some c =>
      have hsettings : s.settings I = some c.settings := by rw [State.settings, hc, Option.map_some]
      obtain ⟨hne, hadapters⟩ := hevolves _ hsettings
      obtain ⟨a, hadmin⟩ := Option.ne_none_iff_exists'.1 hne
      have hadmissible := (hs.integrators I c hc).admissible (hwithin I _ hsettings)
      have hleads : Leads hash L s I c (c.withSettings z) :=
        .of_admissible hadmin hadmissible hz hadapters
      rw [Leads, setIntegrator_eq_self hc] at hleads
      exact ⟨_, hleads, by rw [settings_setIntegrator, if_pos rfl]; rfl⟩
    | none =>
      obtain ⟨a, ha⟩ := hL
      let c : Integrator := { admin := some a }
      have hregister : step hash s (.register I a) = .ok (s.setIntegrator I c, .unit) :=
        register_eq_ok.2 ⟨hc, rfl, rfl⟩
      have hfirst : (machine hash).Reaches (fun _ op => Controls L I op) s (s.setIntegrator I c) :=
        .single (i := .register I a) (o := .unit) hregister ⟨ha, .register a⟩
      have hadmissible : c.settings.Admissible L :=
        { admin := fun b hb => by
            rcases hb with hb | hb
            · exact Option.some.inj hb ▸ ha
            · cases hb
          chain := by simp [c, Integrator.settings]
          admin_ne_none := by simp [c, Integrator.settings]
          nodup := by simp [c, Integrator.settings]
          length_le := by simp [c, Integrator.settings]
          enabled_lt := by simp [c, Integrator.settings] }
      have hleads : Leads hash L s I c (c.withSettings z) :=
        .of_admissible rfl hadmissible hz (List.nil_prefix ..)
      exact ⟨_, hfirst.trans hleads, by rw [settings_setIntegrator, if_pos rfl]; rfl⟩

end GmpRouter.Router
