import GmpRouter.Router.Invariant
import GmpRouter.Foundations.Bitmap

/-!
# The admin of an integrator

The settings of an integrator are all that its admin decides about. They change only by
registration, by the admin while no transfer is pending, and by a claim of the admin or the pending
admin (`settings_of_step`); a pending transfer and an integrator without an admin are cases where
little or nothing of this remains.

An endpoint stores the settings as a `Configuration`, with an account or a table for each part;
equal configurations are those of equal settings (`ShownBy.eq_iff`).
-/

namespace GmpRouter.Router

open GmpRouter.Bitmap (indices)

/-- What the admin of an integrator decides about. -/
structure Settings where
  admin : Option UniversalAddress
  pendingAdmin : Option UniversalAddress
  adapters : List UniversalAddress
  enabled : Direction → ChainId → Finset ℕ

def Integrator.settings (c : Integrator) : Settings :=
  ⟨c.admin, c.pendingAdmin, c.adapters, c.enabled⟩

def State.settings (s : State) (I : UniversalAddress) : Option Settings :=
  (s.integrators I).map Integrator.settings

variable {hash : Message → Digest} {s t u : State} {op : Op} {o : Out} {I : UniversalAddress}
  {x : Settings} {l : List (Commit State Op Out)}

/-! ## Single steps -/

theorem settings_eq_some (h : s.settings I = some x) : ∃ c, s.integrators I = some c ∧
    c.settings = x :=
  Option.map_eq_some_iff.1 h

theorem settings_setIntegrator (I' : UniversalAddress) (c : Integrator) :
    (s.setIntegrator I c).settings I' = if I' = I then some c.settings else s.settings I' := by
  unfold State.settings
  split
  · next hI =>
    subst hI
    rw [setIntegrator_self, Option.map_some]
  · next hI => rw [setIntegrator_of_ne hI]

/-- The operations on the settings of an integrator. -/
inductive Administers (I : UniversalAddress) : Op → Prop
  | register (admin : UniversalAddress) : Administers I (.register I admin)
  | configure (caller : UniversalAddress) (change : Change) :
      Administers I (.configure caller I change)
  | claimAdmin (caller : UniversalAddress) : Administers I (.claimAdmin caller I)

/-- No other operation changes them. -/
theorem settings_of_step (h : step hash s op = .ok (t, o)) (hop : ¬ Administers I op) :
    t.settings I = s.settings I := by
  cases op with
  | register I' admin =>
    obtain ⟨-, rfl, -⟩ := register_eq_ok.1 h
    rw [settings_setIntegrator, if_neg]
    rintro rfl
    exact hop (.register admin)
  | configure caller I' change =>
    obtain ⟨c, c', -, -, rfl, -⟩ := configure_eq_ok.1 h
    rw [settings_setIntegrator, if_neg]
    rintro rfl
    exact hop (.configure caller change)
  | claimAdmin caller I' =>
    obtain ⟨c, -, -, -, rfl, -⟩ := claimAdmin_eq_ok.1 h
    rw [settings_setIntegrator, if_neg]
    rintro rfl
    exact hop (.claimAdmin caller)
  | send I' dstChain dstAddr payloadHash =>
    obtain ⟨c, hc, -, -, rfl, -⟩ := send_eq_ok.1 h
    refine (settings_setIntegrator I _).trans ?_
    split
    · next hI =>
      subst hI
      rw [State.settings, hc, Option.map_some]
      rfl
    · rfl
  | pickUp =>
    obtain ⟨c, message, i, -, -, -, -, rfl, -⟩ := pickUp_eq_ok.1 h
    rfl
  | attest =>
    obtain ⟨c, i, -, -, -, -, rfl, -⟩ := attest_eq_ok.1 h
    rfl
  | recv =>
    obtain ⟨c, -, -, -, rfl, -⟩ := recv_eq_ok.1 h
    rfl
  | exec =>
    obtain ⟨-, rfl, -⟩ := exec_eq_ok.1 h
    rfl

/-- A claim makes the caller the only admin. -/
theorem settings_of_claimAdmin {caller : UniversalAddress}
    (h : step hash s (.claimAdmin caller I) = .ok (t, o)) :
    ∃ x, s.settings I = some x ∧ (x.admin = some caller ∨ x.pendingAdmin = some caller) ∧
      t.settings I = some { x with admin := some caller, pendingAdmin := none } := by
  obtain ⟨c, hc, -, hcaller, rfl, -⟩ := claimAdmin_eq_ok.1 h
  refine ⟨c.settings, by rw [State.settings, hc, Option.map_some], hcaller, ?_⟩
  rw [settings_setIntegrator, if_pos rfl]
  rfl

theorem settings_of_configure {caller : UniversalAddress} {change : Change}
    (h : step hash s (.configure caller I change) = .ok (t, o)) :
    ∃ c c', s.settings I = some c.settings ∧ c.admin = some caller ∧ c.pendingAdmin = none ∧
      change.apply c = .ok c' ∧ t.settings I = some c'.settings := by
  obtain ⟨c, c', hby, happly, rfl, -⟩ := configure_eq_ok.1 h
  refine ⟨c, c', by rw [State.settings, hby.integrator_eq, Option.map_some], hby.admin_eq,
    hby.pendingAdmin_eq, happly, ?_⟩
  rw [settings_setIntegrator, if_pos rfl]

/-- While a transfer is pending, only a claim changes the settings. -/
theorem settings_of_pending (h : step hash s op = .ok (t, o)) (hx : s.settings I = some x)
    (hpending : x.pendingAdmin ≠ none) : t.settings I = s.settings I ∨
      ∃ caller, op = .claimAdmin caller I ∧
        (x.admin = some caller ∨ x.pendingAdmin = some caller) := by
  by_cases hop : Administers I op
  · cases hop with
    | register admin =>
      obtain ⟨hnone, -, -⟩ := register_eq_ok.1 h
      rw [State.settings, hnone] at hx
      cases hx
    | configure caller change =>
      obtain ⟨c, c', hc, -, hnone, -⟩ := settings_of_configure h
      obtain rfl : x = c.settings := Option.some.inj (hx.symm.trans hc)
      exact absurd hnone hpending
    | claimAdmin caller =>
      obtain ⟨y, hy, hcaller, -⟩ := settings_of_claimAdmin h
      obtain rfl : x = y := Option.some.inj (hx.symm.trans hy)
      exact .inr ⟨caller, rfl, hcaller⟩
  · exact .inl (settings_of_step h hop)

/-- Without an admin, nothing changes the settings. -/
theorem settings_of_discarded (hs : Inv s) (h : step hash s op = .ok (t, o))
    (hx : s.settings I = some x) (hadmin : x.admin = none) : t.settings I = s.settings I := by
  obtain ⟨c, hc, rfl⟩ := settings_eq_some hx
  have hpending : c.pendingAdmin = none := by
    by_contra hne
    exact (hs.integrators I c hc).admin_ne_none hne hadmin
  refine settings_of_step h ?_
  rintro ⟨⟩
  · obtain ⟨hnone, -, -⟩ := register_eq_ok.1 h
    rw [hnone] at hc
    cases hc
  · obtain ⟨d, d', hd, hcaller, -⟩ := settings_of_configure h
    obtain heq : c.settings = d.settings := Option.some.inj (hx.symm.trans hd)
    have hsame : c.admin = d.admin := congrArg Settings.admin heq
    rw [← hsame, show c.admin = none from hadmin] at hcaller
    cases hcaller
  · obtain ⟨d, hd, hne, -⟩ := claimAdmin_eq_ok.1 h
    obtain rfl : c = d := Option.some.inj (hc.symm.trans hd)
    exact hne hpending

/-! ## Histories -/

/-- A pending transfer keeps the settings until it is claimed. -/
theorem settings_of_path_pending (h : (machine hash).Path s l t) (hx : s.settings I = some x)
    (hpending : x.pendingAdmin ≠ none)
    (hclaim : ∀ d ∈ l, ∀ caller, d.input ≠ .claimAdmin caller I) : t.settings I = s.settings I := by
  refine h.invariant_on (P := fun op => ∀ caller, op ≠ .claimAdmin caller I)
    (I := fun t => t.settings I = s.settings I) (fun t op o u hstep hop ht => ?_) hclaim rfl
  rcases settings_of_pending hstep (ht.trans hx) hpending with hsame | ⟨caller, rfl, -⟩
  · exact hsame.trans ht
  · exact absurd rfl (hop caller)

/-- The claim that ends a transfer makes its caller the only admin, which is the old or the new one,
and leaves the other settings as they were before the transfer. -/
theorem settings_of_transfer {admin newAdmin caller : UniversalAddress} {v : State} {p : Out}
    (h : step hash s (.configure admin I (.transferAdmin newAdmin)) = .ok (t, o))
    (hpath : (machine hash).Path t l u)
    (hclaims : ∀ d ∈ l, ∀ caller, d.input ≠ .claimAdmin caller I)
    (hclaim : step hash u (.claimAdmin caller I) = .ok (v, p)) :
    ∃ x, s.settings I = some x ∧ x.admin = some admin ∧ x.pendingAdmin = none ∧
      (caller = admin ∨ caller = newAdmin) ∧
      v.settings I = some { x with admin := some caller, pendingAdmin := none } := by
  obtain ⟨c, c', hc, hadmin, hpending, happly, hc'⟩ := settings_of_configure h
  obtain rfl := pure_eq_ok.1 happly
  have hsame := settings_of_path_pending hpath hc' (by simp [Integrator.settings]) hclaims
  obtain ⟨x, hx, hcaller, hv⟩ := settings_of_claimAdmin hclaim
  obtain rfl := Option.some.inj ((hx.symm.trans hsame).trans hc')
  refine ⟨c.settings, hc, hadmin, hpending, hcaller.imp (fun hold => ?_) fun hnew => ?_, hv⟩
  · exact Option.some.inj (hold.symm.trans hadmin)
  · exact (Option.some.inj hnew).symm

theorem settings_of_path_discarded (hs : Inv s) (h : (machine hash).Path s l t)
    (hx : s.settings I = some x) (hadmin : x.admin = none) : t.settings I = s.settings I := by
  have hinv : (machine hash).Invariant fun t => Inv t ∧ t.settings I = s.settings I := by
    rintro t op o u hstep ⟨ht, hsame⟩
    exact ⟨inv_invariant hstep ht,
      (settings_of_discarded ht hstep (hsame.trans hx) hadmin).trans hsame⟩
  exact (h.invariant hinv ⟨hs, rfl⟩).2

/-- The commit makes the address an admin, or nominates it: it registers the integrator with it, or
the admin of the integrator names it. -/
def Names (I admin : UniversalAddress) (d : Commit State Op Out) : Prop :=
  d.input = .register I admin ∨ ∃ caller x, d.pre.settings I = some x ∧ x.admin = some caller ∧
    (d.input = .configure caller I (.updateAdmin admin) ∨
      d.input = .configure caller I (.transferAdmin admin))

theorem names_of_step (h : step hash s op = .ok (t, o)) {admin : UniversalAddress}
    (hx : t.settings I = some x) (hadmin : x.admin = some admin ∨ x.pendingAdmin = some admin) :
    Names I admin ⟨s, op, o, t⟩ ∨ ∃ y, s.settings I = some y ∧
      (y.admin = some admin ∨ y.pendingAdmin = some admin) := by
  by_cases hop : Administers I op
  · cases hop with
    | register admin' =>
      obtain ⟨-, rfl, -⟩ := register_eq_ok.1 h
      rw [settings_setIntegrator, if_pos rfl] at hx
      obtain rfl := Option.some.inj hx
      rcases hadmin with hadmin | hadmin
      · obtain rfl : admin' = admin := Option.some.inj hadmin
        exact .inl (.inl rfl)
      · cases hadmin
    | configure caller change =>
      obtain ⟨c, c', hc, hcaller, hpending, happly, hc'⟩ := settings_of_configure h
      obtain rfl : x = c'.settings := Option.some.inj (hx.symm.trans hc')
      -- only two changes name an admin
      have hkeep : c'.admin = c.admin → c'.pendingAdmin = c.pendingAdmin →
          ∃ y, s.settings I = some y ∧ (y.admin = some admin ∨ y.pendingAdmin = some admin) := by
        intro h₁ h₂
        refine ⟨c.settings, hc, hadmin.imp (fun ha => ?_) fun ha => ?_⟩
        · exact h₁.symm.trans ha
        · exact h₂.symm.trans ha
      cases change with
      | updateAdmin newAdmin =>
        obtain rfl := pure_eq_ok.1 happly
        rcases hadmin with hadmin | hadmin
        · obtain rfl : newAdmin = admin := Option.some.inj hadmin
          exact .inl (.inr ⟨caller, _, hc, hcaller, .inl rfl⟩)
        · exact absurd (hpending.symm.trans hadmin) (by simp)
      | transferAdmin newAdmin =>
        obtain rfl := pure_eq_ok.1 happly
        rcases hadmin with hadmin | hadmin
        · exact .inr ⟨c.settings, hc, .inl hadmin⟩
        · obtain rfl : newAdmin = admin := Option.some.inj hadmin
          exact .inl (.inr ⟨caller, _, hc, hcaller, .inr rfl⟩)
      | discardAdmin =>
        obtain rfl := pure_eq_ok.1 happly
        rcases hadmin with hadmin | hadmin
        · cases hadmin
        · exact .inr ⟨c.settings, hc, .inr hadmin⟩
      | addAdapter A =>
        obtain ⟨-, -, rfl⟩ := addAdapter_eq_ok.1 happly
        exact .inr (hkeep rfl rfl)
      | setAdapter direction on chain A =>
        obtain ⟨i, -, -, rfl⟩ := setAdapter_eq_ok.1 happly
        exact .inr (hkeep rfl rfl)
    | claimAdmin caller =>
      obtain ⟨y, hy, hcaller, ht⟩ := settings_of_claimAdmin h
      obtain rfl := Option.some.inj (hx.symm.trans ht)
      rcases hadmin with hadmin | hadmin
      · obtain rfl : caller = admin := Option.some.inj hadmin
        exact .inr ⟨y, hy, hcaller⟩
      · cases hadmin
  · rw [settings_of_step h hop] at hx
    exact .inr ⟨x, hx, hadmin⟩

/-- Every admin, and every pending one, was named. -/
theorem exists_names (h : (machine hash).Path {} l t) {admin : UniversalAddress}
    (hx : t.settings I = some x) (hadmin : x.admin = some admin ∨ x.pendingAdmin = some admin) :
    ∃ d ∈ l, Names I admin d := by
  induction h generalizing x with
  | nil => cases hx
  | @snoc l d hpath hd ih =>
    rcases names_of_step hd hx hadmin with hnames | ⟨y, hy, hadmin'⟩
    · exact ⟨d, by simp, hnames⟩
    · obtain ⟨d', hd', hnames⟩ := ih hy hadmin'
      exact ⟨d', List.mem_append_left _ hd', hnames⟩

/-! ## What endpoints store -/

/-- What an endpoint stores of the settings. -/
structure Configuration where
  admin : Option UniversalAddress
  pendingAdmin : Option UniversalAddress
  adapters : List UniversalAddress
  index : UniversalAddress → Option (BitVec 8)
  bitmap : Direction → ChainId → BitVec 128

structure ShownBy (x : Settings) (y : Configuration) : Prop where
  admin_eq : y.admin = x.admin
  pendingAdmin_eq : y.pendingAdmin = x.pendingAdmin
  adapters_eq : y.adapters = x.adapters
  index_eq : ∀ A, y.index A = (x.adapters.idxOf? A).map (BitVec.ofNat 8)
  enabled_eq : ∀ direction chain, x.enabled direction chain = indices (y.bitmap direction chain)

/-- Settings are shown in one way, and show one thing. -/
theorem ShownBy.eq_iff {x' : Settings} {y y' : Configuration} (h : ShownBy x y)
    (h' : ShownBy x' y') : y = y' ↔ x = x' := by
  constructor
  · rintro rfl
    obtain ⟨admin, pendingAdmin, adapters, enabled⟩ := x
    obtain ⟨admin', pendingAdmin', adapters', enabled'⟩ := x'
    obtain rfl : admin = admin' := h.admin_eq.symm.trans h'.admin_eq
    obtain rfl : pendingAdmin = pendingAdmin' := h.pendingAdmin_eq.symm.trans h'.pendingAdmin_eq
    obtain rfl : adapters = adapters' := h.adapters_eq.symm.trans h'.adapters_eq
    obtain rfl : enabled = enabled' := by
      funext direction chain
      exact (h.enabled_eq direction chain).trans (h'.enabled_eq direction chain).symm
    rfl
  · rintro rfl
    obtain ⟨admin, pendingAdmin, adapters, index, bitmap⟩ := y
    obtain ⟨admin', pendingAdmin', adapters', index', bitmap'⟩ := y'
    obtain rfl : admin = admin' := h.admin_eq.trans h'.admin_eq.symm
    obtain rfl : pendingAdmin = pendingAdmin' := h.pendingAdmin_eq.trans h'.pendingAdmin_eq.symm
    obtain rfl : adapters = adapters' := h.adapters_eq.trans h'.adapters_eq.symm
    obtain rfl : index = index' := funext fun A => (h.index_eq A).trans (h'.index_eq A).symm
    obtain rfl : bitmap = bitmap' := by
      funext direction chain
      apply GmpRouter.Bitmap.indices_injective
      exact (h.enabled_eq direction chain).symm.trans (h'.enabled_eq direction chain)
    rfl

/-- The configuration of an integrator, if it is registered, shows its settings. -/
def Shows (x : Option Settings) (y : Option Configuration) : Prop := Option.Rel ShownBy x y

theorem Shows.eq_iff {x x' : Option Settings} {y y' : Option Configuration} (h : Shows x y)
    (h' : Shows x' y') : y = y' ↔ x = x' := by
  cases h with
  | none => cases h' <;> simp
  | some h =>
    cases h' with
    | none => simp
    | some h' => simpa only [Option.some.injEq] using h.eq_iff h'

theorem Shows.of_right {x : Option Settings} {y : Configuration} (h : Shows x (some y)) :
    ∃ z, x = some z ∧ ShownBy z y := by
  cases h with
  | some h => exact ⟨_, rfl, h⟩

theorem Shows.of_left {x : Settings} {y : Option Configuration} (h : Shows (some x) y) :
    ∃ z, y = some z ∧ ShownBy x z := by
  cases h with
  | some h => exact ⟨_, rfl, h⟩

end GmpRouter.Router
