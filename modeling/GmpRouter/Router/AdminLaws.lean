import GmpRouter.Router.Admin
import GmpRouter.Foundations.Simulation

/-!
# The laws of the admin, for every endpoint

`AdminLaws` says over whole runs what the admin and the pending admin of an integrator can do, about
any machine whose inputs are operations of the router and whose states have configurations. It holds
of every machine that the router simulates so that configurations show the settings
(`AdminLaws.of_simulation`).
-/

namespace GmpRouter.Router

variable {σ ι ε ο : Type} {M : Machine σ ι ε ο} {init : σ} {op : σ → ι → Option Op}
  {conf : σ → UniversalAddress → Option Configuration}

/-- The input makes the address an admin of the integrator or nominates it: it registers the
integrator, or the admin at that moment signs it. -/
def NamesAdmin (op : σ → ι → Option Op) (conf : σ → UniversalAddress → Option Configuration)
    (I admin : UniversalAddress) (c : Commit σ ι ο) : Prop :=
  op c.pre c.input = some (.register I admin) ∨
    ∃ signer y, conf c.pre I = some y ∧ y.admin = some signer ∧
      (op c.pre c.input = some (.configure signer I (.updateAdmin admin)) ∨
        op c.pre c.input = some (.configure signer I (.transferAdmin admin)))

/-- The laws of the admin, of a machine from its initial state. -/
structure AdminLaws (M : Machine σ ι ε ο) (init : σ) (op : σ → ι → Option Op)
    (conf : σ → UniversalAddress → Option Configuration) : Prop where
  /-- A pending admin implies an admin. -/
  admin_of_pending : ∀ l s, M.Path init l s → ∀ I y, conf s I = some y → y.pendingAdmin ≠ none →
    y.admin ≠ none
  /-- While a transfer is pending, only a claim of the admin or the pending admin changes the
  configuration. -/
  frozen : ∀ l s i o t, M.Path init l s → M.step s i = .ok (t, o) → ∀ I y, conf s I = some y →
    y.pendingAdmin ≠ none → conf t I = conf s I ∨ ∃ signer, op s i = some (.claimAdmin signer I) ∧
      (y.admin = some signer ∨ y.pendingAdmin = some signer)
  /-- The claim that ends a transfer makes its signer the only admin, and restores the configuration
  before the transfer when this is the old admin. -/
  claimed : ∀ l₁ s₁ i o t₁ l₂ s₂ j p t₂ I admin newAdmin signer, M.Path init l₁ s₁ →
    M.step s₁ i = .ok (t₁, o) → op s₁ i = some (.configure admin I (.transferAdmin newAdmin)) →
    M.Path t₁ l₂ s₂ → (∀ c ∈ l₂, ∀ caller, op c.pre c.input ≠ some (.claimAdmin caller I)) →
    M.step s₂ j = .ok (t₂, p) → op s₂ j = some (.claimAdmin signer I) →
    (signer = admin ∨ signer = newAdmin) ∧
      (∃ y, conf s₁ I = some y ∧ y.admin = some admin ∧ y.pendingAdmin = none ∧
        conf t₂ I = some { y with admin := some signer, pendingAdmin := none }) ∧
      (signer = admin → conf t₂ I = conf s₁ I)
  /-- Every admin was set at registration or named by an earlier admin. -/
  named : ∀ l s, M.Path init l s → ∀ I y admin, conf s I = some y → y.admin = some admin →
    ∃ c ∈ l, NamesAdmin op conf I admin c
  /-- Once the admin is discarded, the configuration does not change. -/
  discarded : ∀ l₁ s i o t l₂ u I signer, M.Path init l₁ s → M.step s i = .ok (t, o) →
    op s i = some (.configure signer I .discardAdmin) → M.Path t l₂ u →
    conf u I = conf t I ∧ ∃ y, conf t I = some y ∧ y.admin = none ∧ y.pendingAdmin = none

namespace AdminLaws

variable {hash : Message → Digest} {R : σ → State → Prop} {L : σ → ι → ο → Op → Out → Prop}

theorem of_simulation (S : Machine.Simulation M (machine hash) R L)
    (hop : ∀ s i o j p, L s i o j p → op s i = some j) (hinit : R init {})
    (hinv : ∀ s a, R s a → Inv a) (hshow : ∀ s a, R s a → ∀ I, Shows (a.settings I) (conf s I)) :
    AdminLaws M init op conf where
  admin_of_pending l s h I y hy hpending := by
    obtain ⟨l', a, -, ha, -⟩ := S.path h hinit
    obtain ⟨x, hx, hxy⟩ := (hy ▸ hshow s a ha I).of_right
    obtain ⟨c, hc, rfl⟩ := settings_eq_some hx
    rw [hxy.admin_eq]
    rw [hxy.pendingAdmin_eq] at hpending
    exact ((hinv s a ha).integrators I c hc).admin_ne_none hpending
  frozen l s i o t h hstep I y hy hpending := by
    obtain ⟨l', a, -, ha, -⟩ := S.path h hinit
    obtain ⟨j, b, p, hlabel, hstep', hb⟩ := S.step ha hstep
    obtain ⟨x, hx, hxy⟩ := (hy ▸ hshow s a ha I).of_right
    rw [hxy.pendingAdmin_eq] at hpending
    rw [hxy.admin_eq, hxy.pendingAdmin_eq]
    refine (settings_of_pending hstep' hx hpending).imp (fun hsame => ?_) ?_
    · exact ((hshow t b hb I).eq_iff (hshow s a ha I)).2 hsame
    · rintro ⟨caller, rfl, hcaller⟩
      exact ⟨caller, hop _ _ _ _ _ hlabel, hcaller⟩
  claimed l₁ s₁ i o t₁ l₂ s₂ j p t₂ I admin newAdmin signer h₁ hstep hi h₂ hclaims hstep' hj := by
    obtain ⟨l', a₁, -, ha₁, -⟩ := S.path h₁ hinit
    obtain ⟨b₁, o', -, htransfer, hb₁⟩ := S.step_of_input hop ha₁ hstep hi
    obtain ⟨l'', a₂, hpath, ha₂, hmatches⟩ := S.path h₂ hb₁
    obtain ⟨b₂, p', -, hclaim, hb₂⟩ := S.step_of_input hop ha₂ hstep' hj
    have hrouter : ∀ d ∈ l'', ∀ caller, d.input ≠ .claimAdmin caller I := by
      intro d hd caller hinput
      obtain ⟨e, he, hed⟩ := Machine.Matches.exists_left hmatches hd
      exact hclaims e he caller ((hop _ _ _ _ _ hed.label).trans (congrArg some hinput))
    obtain ⟨x, hx, hadmin, hpending, hsigner, ht⟩ :=
      settings_of_transfer htransfer hpath hrouter hclaim
    obtain ⟨y, hy, hxy⟩ := (hx ▸ hshow s₁ a₁ ha₁ I).of_left
    obtain ⟨z, hz, hxz⟩ := (ht ▸ hshow t₂ b₂ hb₂ I).of_left
    have hclaimed : ShownBy { x with admin := some signer, pendingAdmin := none }
        { y with admin := some signer, pendingAdmin := none } :=
      { hxy with admin_eq := rfl, pendingAdmin_eq := rfl }
    refine ⟨hsigner, ⟨y, hy, hxy.admin_eq.trans hadmin, hxy.pendingAdmin_eq.trans hpending, ?_⟩, ?_⟩
    · rw [hz, Option.some.injEq]
      exact (hxz.eq_iff hclaimed).2 rfl
    · rintro rfl
      refine ((hshow t₂ b₂ hb₂ I).eq_iff (hshow s₁ a₁ ha₁ I)).2 ?_
      rw [ht, hx, ← hadmin, ← hpending]
  named l s h I y admin hy hadmin := by
    obtain ⟨l', a, hpath, ha, hmatches⟩ := S.path h hinit
    obtain ⟨x, hx, hxy⟩ := (hy ▸ hshow s a ha I).of_right
    rw [hxy.admin_eq] at hadmin
    obtain ⟨d, hd, hnames⟩ := exists_names hpath hx (.inl hadmin)
    obtain ⟨c, hc, hcd⟩ := Machine.Matches.exists_left hmatches hd
    have hinput := hop _ _ _ _ _ hcd.label
    refine ⟨c, hc, hnames.imp (fun hregister => ?_) ?_⟩
    · rw [hinput, hregister]
    · rintro ⟨caller, z, hz, hcaller, hnamed⟩
      obtain ⟨y', hy', hzy⟩ := (hz ▸ hshow _ _ hcd.pre I).of_left
      refine ⟨caller, y', hy', hzy.admin_eq.trans hcaller, ?_⟩
      rw [hinput]
      exact hnamed.imp (congrArg some) (congrArg some)
  discarded l₁ s i o t l₂ u I signer h₁ hstep hi h₂ := by
    obtain ⟨l', a, -, ha, -⟩ := S.path h₁ hinit
    obtain ⟨b, o', -, hrouter, hb⟩ := S.step_of_input hop ha hstep hi
    have hdiscard : step hash a (.configure signer I .discardAdmin) = .ok (b, o') := hrouter
    obtain ⟨c, c', hc, -, hpending, happly, hc'⟩ := settings_of_configure hdiscard
    obtain rfl := pure_eq_ok.1 happly
    obtain ⟨l'', b', hpath, hb', -⟩ := S.path h₂ hb
    have hsame := settings_of_path_discarded (hinv t b hb) hpath hc' rfl
    obtain ⟨y, hy, hcy⟩ := (hc' ▸ hshow t b hb I).of_left
    refine ⟨((hshow u b' hb' I).eq_iff (hshow t b hb I)).2 hsame, y, hy, hcy.admin_eq, ?_⟩
    exact hcy.pendingAdmin_eq.trans hpending

end AdminLaws

end GmpRouter.Router
