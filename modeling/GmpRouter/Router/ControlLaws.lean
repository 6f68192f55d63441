import GmpRouter.Router.Control
import GmpRouter.Foundations.Simulation

/-!
# The configurations that are reached, for every endpoint

`Controllable` says of any machine whose states have configurations which ones a configuration can
become, and that calls about the integrator alone are enough for each. It holds of every machine
that the router simulates, if it can make the steps that its limits allow
(`Controllable.of_simulation`).
-/

namespace GmpRouter.Router

open GmpRouter.Bitmap (indices)

variable {L : Limits}

/-! ## Configurations -/

def Configuration.settings (y : Configuration) : Settings :=
  ⟨y.admin, y.pendingAdmin, y.adapters, fun direction chain => indices (y.bitmap direction chain)⟩

/-- The indices are those of the adapters, and the settings are well-formed. -/
structure Configuration.Admissible (L : Limits) (y : Configuration) : Prop where
  index_eq : ∀ A, y.index A = (y.adapters.idxOf? A).map (BitVec.ofNat 8)
  settings : y.settings.Admissible L

/-- What configurations can become: any others, once there is one, only as long as there is an
admin, and without removing adapters. -/
def Configuration.Evolves (L : Limits) (x y : Option Configuration) : Prop :=
  x = y ∨ ∃ z, y = some z ∧ z.Admissible L ∧
    ∀ w, x = some w → w.admin ≠ none ∧ w.adapters <+: z.adapters

theorem ShownBy.settings_eq {x : Settings} {y : Configuration} (h : ShownBy x y) :
    y.settings = x := by
  obtain ⟨admin, pendingAdmin, adapters, enabled⟩ := x
  have henabled : (fun direction chain => indices (y.bitmap direction chain)) = enabled := by
    funext direction chain
    exact (h.enabled_eq direction chain).symm
  rw [Configuration.settings, h.admin_eq, h.pendingAdmin_eq, h.adapters_eq, henabled]

theorem Configuration.Admissible.shownBy {y : Configuration} (h : y.Admissible L) :
    ShownBy y.settings y :=
  ⟨rfl, rfl, rfl, h.index_eq, fun _ _ => rfl⟩

theorem Shows.evolves {x x' : Option Settings} {y y' : Option Configuration} (h : Shows x y)
    (h' : Shows x' y') (hevolves : Settings.Evolves L x x') : Configuration.Evolves L y y' := by
  rcases hevolves with hsame | ⟨z, rfl, hz, hfrom⟩
  · exact .inl ((h.eq_iff h').2 hsame)
  · obtain ⟨z', rfl, hshown⟩ := h'.of_left
    refine .inr ⟨z', rfl, ⟨fun A => ?_, hshown.settings_eq ▸ hz⟩, fun w hw => ?_⟩
    · rw [hshown.index_eq, hshown.adapters_eq]
    · subst hw
      obtain ⟨v, rfl, hv⟩ := h.of_right
      rw [hv.admin_eq, hv.adapters_eq, hshown.adapters_eq]
      exact hfrom v rfl

/-! ## The laws -/

variable {σ ι ε ο : Type} {M : Machine σ ι ε ο} {init : σ} {op : σ → ι → Option Op}
  {conf : σ → UniversalAddress → Option Configuration}

/-- The input makes an operation about the integrator's settings. -/
def About (op : σ → ι → Option Op) (I : UniversalAddress) (s : σ) (i : ι) : Prop :=
  ∃ j, op s i = some j ∧ Administers I j

/-- The configurations that are reached, of a machine from its initial state. -/
structure Controllable (L : Limits) (M : Machine σ ι ε ο) (init : σ) (op : σ → ι → Option Op)
    (conf : σ → UniversalAddress → Option Configuration) : Prop where
  /-- Whatever happens, a configuration evolves. -/
  evolves : ∀ l s l' t, M.Path init l s → M.Path s l' t → ∀ I,
    Configuration.Evolves L (conf s I) (conf t I)
  /-- It becomes anything that it can evolve to, by inputs about the integrator alone, and the
  others stay as they are. -/
  reaches : ∀ l s, M.Path init l s → ∀ I y, Configuration.Evolves L (conf s I) y →
    ∃ t, M.Reaches (About op I) s t ∧ conf t I = y ∧ ∀ J, J ≠ I → conf t J = conf s J

namespace Controllable

variable {hash : Message → Digest} {R : σ → State → Prop} {Lab : σ → ι → ο → Op → Out → Prop}

/-- The operations about an integrator leave the settings of the others. -/
theorem settings_of_controls {a b : State} {I J : UniversalAddress} (hJ : J ≠ I)
    (h : (machine hash).Reaches (fun _ op => Controls L I op) a b) :
    b.settings J = a.settings J := by
  refine h.invariant (I := fun b => b.settings J = a.settings J) ?_ rfl
  rintro b op o b' hstep ⟨-, hop⟩ hb
  refine (settings_of_step hstep fun hop' => ?_).trans hb
  cases hop <;> cases hop' <;> exact hJ rfl

theorem of_simulation (S : Machine.Simulation M (machine hash) R Lab)
    (hop : ∀ s i o j p, Lab s i o j p → op s i = some j) (hinit : R init {})
    (hinv : ∀ s a, R s a → Inv a) (hshow : ∀ s a, R s a → ∀ I, Shows (a.settings I) (conf s I))
    (hL : ∃ a, L.admin a)
    (hallows : ∀ s a i t o j, R s a → M.step s i = .ok (t, o) → op s i = some j → L.Allows j)
    (hback : ∀ l s a I j r, M.Path init l s → R s a → Controls L I j → step hash a j = .ok r →
      ∃ i r', M.step s i = .ok r' ∧ op s i = some j) :
    Controllable L M init op conf := by
  -- paths of the machine are accompanied by paths that the limits allow
  have hpath : ∀ s a l t, R s a → M.Path s l t → ∃ b, R t b ∧
      (machine hash).Reaches (fun _ op => L.Allows op) a b := by
    intro s a l t ha h
    obtain ⟨l', b, hl', hb, hmatches⟩ := S.path h ha
    refine ⟨b, hb, l', hl', fun d hd => ?_⟩
    obtain ⟨c, -, hcd⟩ := Machine.Matches.exists_left hmatches hd
    exact hallows _ _ _ _ _ _ hcd.pre hcd.left (hop _ _ _ _ _ hcd.label)
  have hwithin : ∀ l s, M.Path init l s → ∃ a, R s a ∧ Within L a := by
    intro l s h
    obtain ⟨a, ha, hreaches⟩ := hpath init {} l s hinit h
    refine ⟨a, ha, ?_⟩
    have hinvariant : Inv a ∧ Within L a := by
      refine hreaches.invariant (I := fun a => Inv a ∧ Within L a) ?_ ⟨inv_init, ?_⟩
      · rintro b op o b' hstep hop ⟨hb, hwithin⟩
        exact ⟨inv_invariant hstep hb, within_of_step hb hwithin hop hstep⟩
      · rintro I x ⟨⟩
    exact hinvariant.2
  refine ⟨fun l s l' t h h' I => ?_, fun l s h I y hy => ?_⟩
  · obtain ⟨a, ha, hwithin⟩ := hwithin l s h
    obtain ⟨b, hb, hreaches⟩ := hpath s a l' t ha h'
    exact (hshow s a ha I).evolves (hshow t b hb I)
      (evolves_of_reaches (hinv s a ha) hwithin hreaches)
  · obtain ⟨a, ha, hwithin⟩ := hwithin l s h
    rcases hy with rfl | ⟨z, rfl, hz, hfrom⟩
    · exact ⟨s, .refl s, rfl, fun _ _ => rfl⟩
    · have hevolves : Settings.Evolves L (a.settings I) (some z.settings) := by
        refine .inr ⟨_, rfl, hz.settings, fun w hw => ?_⟩
        obtain ⟨w', hw', hshown⟩ := (hw ▸ hshow s a ha I).of_left
        rw [← hshown.admin_eq, ← hshown.adapters_eq]
        exact hfrom w' hw'
      obtain ⟨b, hreaches, hb⟩ := exists_reaches (hinv s a ha) hwithin hL hevolves
      have hlift : ∃ t, M.Reaches (About op I) s t ∧ (∃ l, M.Path init l t) ∧ R t b := by
        refine hreaches.lift (R := fun s a => (∃ l, M.Path init l s) ∧ R s a) ?_ ⟨⟨l, h⟩, ha⟩
        rintro s a j b p ⟨⟨l, h⟩, ha⟩ hstep hcontrols
        obtain ⟨i, ⟨t, o⟩, hi, hlabel⟩ := hback l s a I j _ h ha hcontrols hstep
        obtain ⟨-, hb'⟩ := S.rel_of_input hop ha hi hlabel hstep
        exact ⟨i, t, o, hi, ⟨_, hlabel, hcontrols.2⟩, ⟨_, h.append (.single hi)⟩, hb'⟩
      obtain ⟨t, ht, -, hRt⟩ := hlift
      refine ⟨t, ht, ?_, fun J hJ => ?_⟩
      · obtain ⟨y, hy, hshown⟩ := (hb ▸ hshow t b hRt I).of_left
        rw [hy, Option.some.injEq]
        exact (hshown.eq_iff hz.shownBy).2 rfl
      · exact ((hshow t b hRt J).eq_iff (hshow s a ha J)).2 (settings_of_controls hJ hreaches)

end Controllable

end GmpRouter.Router
