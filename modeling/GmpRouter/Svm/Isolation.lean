import GmpRouter.Foundations.Noninterference
import GmpRouter.Svm.Locality
import GmpRouter.Svm.Outbox

/-!
# The isolation of integrators

Deleting from a run every instruction that concerns an integrator `J` matters to no other integrator
(`isolation`). The state of the run without them is the state of the run without the accounts of `J`
(`Without`): an instruction that concerns `J` is only passed accounts of `J`, and any other that
succeeds, in one of the two runs, is only passed accounts of another integrator. The addresses of
different integrators differ since the seeds of the accounts are never the same bytes, and since the
hash in the seeds of an attestation account covers the destination address. The address of an outbox
message is not derived, so that the keys of `J` have to differ from those of the others
(`FreshKeys`).
-/

namespace GmpRouter.Svm

open GmpRouter.Machine (Unwinding)

variable {E : Env} {s t u : State} {l : Log} {i : Instruction} {o : Output} {I J K : Pubkey}
  {x : Address}

/-! ## The owner of a passed account -/

/-- An account at an address that is derived for an integrator belongs to it. -/
theorem ownedBy_of_derives (hK : CollisionFree E.keccak) (hs : Canonical E s) {seeds : Seeds}
    (hseeds : i.Derives E K seeds) : OwnedBy K (s.accounts (E.pda seeds)) := by
  intro account haccount
  obtain ⟨bump, hrecorded⟩ := seeds_eq hs haccount
  cases account with
  | outboxMessage message => cases hrecorded
  | attestationInfo info =>
    cases hrecorded
    obtain ⟨m, -, rfl, hhash⟩ := hseeds
    have hvalid : info.Valid E := (hs _ _ haccount).valid
    have hmessage : info.message = m := hK.eq (hvalid.messageHash_eq.symm.trans hhash.symm)
    rw [← hmessage]
    rfl
  | _ =>
    cases hrecorded
    exact hseeds

namespace Passed

theorem ownedBy (h : Passed E s t i K x) (hK : CollisionFree E.keccak) (hs : Canonical E s)
    (ht : Canonical E t) : OwnedBy K (s.accounts x) ∧ OwnedBy K (t.accounts x) := by
  rcases h.place with ⟨seeds, rfl, hseeds⟩ | ⟨k, -, howned⟩
  · exact ⟨ownedBy_of_derives hK hs hseeds, ownedBy_of_derives hK ht hseeds⟩
  · exact howned

end Passed

/-- What `Concerns` reads in an account that the instruction may be passed. -/
theorem map_find_eq_some {α : Type} [AccountType α] {passed : Option Address} {f : α → Pubkey} :
    (passed.bind s.find).map f = some J ↔
      ∃ x ∈ passed, ∃ d, s.accounts x = some (AccountType.account d) ∧ f d = J := by
  simp only [Option.map_eq_some_iff, Option.bind_eq_some_iff, State.find_eq_some, Option.mem_def]
  constructor
  · rintro ⟨d, ⟨x, hx, hd⟩, hf⟩
    exact ⟨x, hx, d, hd, hf⟩
  · rintro ⟨x, hx, d, hd, hf⟩
    exact ⟨d, ⟨x, hx, hd⟩, hf⟩

/-- **An instruction that succeeds concerns no other integrator** than the owner of the accounts
that it is passed. -/
theorem concerns_eq (hK : CollisionFree E.keccak) (hs : Canonical E s) (ht : Canonical E t)
    (harg : ∀ J, i.integratorArg = some J → J = K) (hpassed : ∀ x ∈ i.addresses, Passed E s t i K x)
    (hJ : i.Concerns s J) : J = K := by
  have howned : ∀ x account, x ∈ i.addresses → s.accounts x = some account →
      account.integrator = K :=
    fun x account hx haccount => ((hpassed x hx).ownedBy hK hs ht).1 account haccount
  rcases hJ with hJ | hJ | hJ
  · exact harg J hJ
  · obtain ⟨x, hx, config, hconfig, rfl⟩ := map_find_eq_some.1 hJ
    refine howned x _ ?_ hconfig
    cases i <;> simp_all [Instruction.configAddress, Instruction.addresses]
  · obtain ⟨x, hx, message, hmessage, rfl⟩ := map_find_eq_some.1 hJ
    refine howned x _ ?_ hmessage
    cases i <;> simp_all [Instruction.outboxAddress, Instruction.addresses]

/-! ## The keys of the outbox -/

/-- The key of the outbox message that the instruction creates. -/
def Instruction.outboxKey : Instruction → Option Pubkey
  | .sendMessage ctx _ => some ctx.outboxMessage
  | _ => none

/-- The accounts that are not derived are outbox messages. -/
theorem exists_outbox_of_external (hs : Canonical E s) {k : Pubkey} {account : Account}
    (h : s.accounts (.external k) = some account) :
    ∃ message, account = .outboxMessage message := by
  have hstored := hs _ _ h
  cases account with
  | outboxMessage message => exact ⟨message, rfl⟩
  | _ =>
    obtain ⟨hpda, -⟩ := hstored.address_eq _ _ rfl
    cases hpda

/-- The outbox account was created with its key by the integrator that sent the message. -/
theorem exists_send_of_outbox (h : (machine E).Path .init l s) {k : Pubkey}
    {message : OutboxMessage} (hm : s.accounts (.external k) = some (.outboxMessage message)) :
    ∃ c ∈ l, c.input.outboxKey = some k ∧ c.input.integratorArg = some message.srcAddr := by
  induction h generalizing message with
  | nil => cases hm
  | @snoc l c hpath hc ih =>
    obtain ⟨a, ha⟩ := exists_refines hpath
    rcases outbox_of_step ha hc hm with ⟨ctx, args, -, hinput, rfl, -⟩ | ⟨old, hold, hmessage⟩
    · have hvalid : process E c.pre c.input = .ok (c.post, c.output) := hc
      rw [hinput] at hvalid
      obtain ⟨_, _, -, -, -, -, -, -, -, hpost, -⟩ := sendMessage_eq_ok.1 hvalid
      rw [hpost, State.set_self] at hm
      cases hm
      exact ⟨c, by simp, by rw [hinput, Instruction.outboxKey],
        by rw [hinput, Instruction.integratorArg]⟩
    · obtain ⟨d, hd, hkey, harg⟩ := ih hold
      exact ⟨d, List.mem_append_left _ hd, hkey, by rw [harg, hmessage]⟩

/-! ## States without the accounts of an integrator -/

/-- The second state has the accounts of the first but for those of the integrator. -/
def Without (J : Pubkey) (s u : State) : Prop := ∀ x account,
  u.accounts x = some account ↔ s.accounts x = some account ∧ account.integrator ≠ J

namespace Without

theorem accounts_eq (h : Without J s u) (hne : K ≠ J) (howned : OwnedBy K (s.accounts x)) :
    u.accounts x = s.accounts x := by
  refine Option.ext fun account => (h x account).trans (and_iff_left_of_imp fun haccount => ?_)
  rwa [howned account haccount]

/-- An instruction that concerns the integrator only touches its accounts. -/
theorem drop (h : Without J s u) (hpassed : ∀ x ∈ i.addresses,
      OwnedBy J (s.accounts x) ∧ OwnedBy J (t.accounts x))
    (hstep : process E s i = .ok (t, o)) : Without J t u := by
  intro x account
  by_cases hx : x ∈ i.addresses
  · obtain ⟨hbefore, hafter⟩ := hpassed x hx
    rw [h x account]
    exact iff_of_false (fun ⟨haccount, hne⟩ => hne (hbefore _ haccount))
      fun ⟨haccount, hne⟩ => hne (hafter _ haccount)
  · rw [accounts_of_notMem hstep hx]
    exact h x account

/-- An instruction that only touches the accounts of another integrator does the same without those
of this one. -/
theorem keep (h : Without J s u) (hne : K ≠ J) (hpassed : ∀ x ∈ i.addresses,
      OwnedBy K (s.accounts x) ∧ OwnedBy K (t.accounts x))
    (hstep : process E s i = .ok (t, o)) :
    ∃ v, process E u i = .ok (v, o) ∧ Without J t v := by
  obtain ⟨v, hv, hpatch⟩ :=
    process_local _ (fun x hx => h.accounts_eq hne (hpassed x hx).1) hstep
  refine ⟨v, hv, fun x account => ?_⟩
  by_cases hx : x ∈ i.addresses
  · rw [hpatch.passed x hx]
    refine (and_iff_left_of_imp fun haccount => ?_).symm
    rwa [(hpassed x hx).2 account haccount]
  · rw [hpatch.other x hx, accounts_of_notMem hstep hx]
    exact h x account

/-- An instruction concerns an integrator in the second state only if it does in the first. -/
theorem concerns (h : Without J s u) (hi : i.Concerns u K) : i.Concerns s K := by
  rcases hi with hi | hi | hi
  · exact .inl hi
  · obtain ⟨x, hx, config, hconfig, rfl⟩ := map_find_eq_some.1 hi
    exact .inr (.inl (map_find_eq_some.2 ⟨x, hx, config, ((h x _).1 hconfig).1, rfl⟩))
  · obtain ⟨x, hx, message, hmessage, rfl⟩ := map_find_eq_some.1 hi
    exact .inr (.inr (map_find_eq_some.2 ⟨x, hx, message, ((h x _).1 hmessage).1, rfl⟩))

end Without

/-! ## The main result -/

/-- No integrator uses a key with which another one has sent a message. -/
def FreshKeys (E : Env) (is : List Instruction) : Prop :=
  ∀ c ∈ ((machine E).run .init is).2, ∀ i ∈ is, c.input.outboxKey ≠ none →
    i.outboxKey = c.input.outboxKey → i.integratorArg = c.input.integratorArg

instance (E : Env) (is : List Instruction) : Decidable (FreshKeys E is) :=
  inferInstanceAs (Decidable (∀ c ∈ _, ∀ i ∈ is, _))

/-- The two states have the same accounts of the integrator. -/
def SameAccounts (I : Pubkey) (s u : State) : Prop := ∀ x account, account.integrator = I →
  (u.accounts x = some account ↔ s.accounts x = some account)

theorem Without.sameAccounts (h : Without J s u) (hne : I ≠ J) : SameAccounts I s u :=
  fun x account haccount => (h x account).trans (and_iff_left (haccount ▸ hne))

/-- The states of the two runs. -/
structure Purged (E : Env) (J : Pubkey) (s u : State) : Prop where
  without : Without J s u
  reachable : ∃ l, (machine E).Path .init l u

section Purged

variable (hK : CollisionFree E.keccak) (hpath : (machine E).Path .init l s)
  (hkeys : ∀ c ∈ l, c.input.outboxKey ≠ none → i.outboxKey = c.input.outboxKey →
    i.integratorArg = c.input.integratorArg)
  (h : Purged E J s u) (hi : ¬ i.Concerns s J)

include hK hpath hkeys h hi

/-- What an instruction is passed in the run without the instructions of `J` does not belong to `J`
in the run with them. -/
theorem Passed.ownedBy_of_purged (hstep : process E u i = .ok (t, o)) (hx : Passed E u t i K x) :
    OwnedBy K (s.accounts x) := by
  obtain ⟨a, hs⟩ := exists_refines hpath
  obtain ⟨l', hpath'⟩ := h.reachable
  obtain ⟨b, hu⟩ := exists_refines hpath'
  obtain ⟨c, ht⟩ := exists_refines (hpath'.snoc (c := ⟨u, i, o, t⟩) hstep)
  obtain ⟨hexists, ⟨seeds, rfl, hseeds⟩ | ⟨k, rfl, hbefore, -⟩⟩ := hx
  · exact ownedBy_of_derives hK hs.canonical hseeds
  intro account haccount
  by_cases hJ : account.integrator = J
  · -- the instruction would create a message with a key with which `J` has sent one
    exfalso
    have hnone : u.accounts (.external k) = none := by
      rw [Option.eq_none_iff_forall_ne_some]
      intro account' haccount'
      obtain ⟨hsame, hne⟩ := (h.without _ _).1 haccount'
      exact hne (Option.some.inj (hsame.symm.trans haccount) ▸ hJ)
    obtain ⟨created, hcreated⟩ :=
      Option.ne_none_iff_exists'.1 (hexists.resolve_left (not_not.2 hnone))
    obtain ⟨message, rfl⟩ := exists_outbox_of_external hs.canonical haccount
    obtain ⟨message', rfl⟩ := exists_outbox_of_external ht.canonical hcreated
    obtain ⟨d, hd, hkey, harg⟩ := exists_send_of_outbox hpath haccount
    rcases outbox_of_step hu hstep hcreated with ⟨ctx, args, -, rfl, rfl, -⟩ | ⟨old, hold, -⟩
    · have hsender := hkeys d hd (by simp [hkey]) hkey.symm
      exact hi (.inl (hsender.trans (hJ ▸ harg)))
    · rw [hnone] at hold
      cases hold
  · exact hbefore account ((h.without _ _).2 ⟨haccount, hJ⟩)

/-- **An instruction that does not concern the integrator** has the same outcome without its
accounts. -/
theorem agree_of_not_concerns : Agree (Purged E J) (process E s i) (process E u i) := by
  obtain ⟨a, hs⟩ := exists_refines hpath
  obtain ⟨l', hpath'⟩ := h.reachable
  obtain ⟨b, hu⟩ := exists_refines hpath'
  refine Agree.of_ok (fun t o hstep => ?_) fun v o hstep => ?_
  · obtain ⟨K, hconcerns, -, hpassed⟩ := passed_of_process hs.canonical hstep
    have hne : K ≠ J := fun heq => hi (heq ▸ hconcerns)
    obtain ⟨c, ht⟩ := exists_refines (hpath.snoc (c := ⟨s, i, o, t⟩) hstep)
    obtain ⟨v, hv, hwithout⟩ := h.without.keep hne
      (fun x hx => (hpassed x hx).ownedBy hK hs.canonical ht.canonical) hstep
    exact ⟨v, hv, hwithout, _, hpath'.snoc (c := ⟨u, i, o, v⟩) hv⟩
  · obtain ⟨K, hconcerns, -, hpassed⟩ := passed_of_process hu.canonical hstep
    have hne : K ≠ J := fun heq => hi (h.without.concerns (heq ▸ hconcerns))
    obtain ⟨t, ht, -⟩ := process_local _ (fun x hx => (h.without.accounts_eq hne
      ((hpassed x hx).ownedBy_of_purged hK hpath hkeys h hi hstep)).symm) hstep
    exact ⟨t, ht⟩

end Purged

/-- An instruction that concerns the integrator changes nothing but its accounts. -/
theorem purged_of_concerns (hK : CollisionFree E.keccak) (hpath : (machine E).Path .init l s)
    (h : Purged E J s u) (hi : i.Concerns s J) : Purged E J ((machine E).next s i) u := by
  rcases (machine E).next_cases s i with ⟨o, hstep⟩ | hsame
  · obtain ⟨a, hs⟩ := exists_refines hpath
    obtain ⟨b, ht⟩ := exists_refines (hpath.snoc (c := ⟨s, i, o, _⟩) hstep)
    obtain ⟨K, -, harg, hpassed⟩ := passed_of_process hs.canonical hstep
    obtain rfl := concerns_eq hK hs.canonical ht.canonical harg hpassed hi
    exact ⟨h.without.drop (fun x hx => (hpassed x hx).ownedBy hK hs.canonical ht.canonical) hstep,
      h.reachable⟩
  · rwa [hsame]

/-- **Integrators are isolated.** Deleting from a run every instruction that concerns `J` changes
neither the outcome of any other instruction nor any account of another integrator `I`, at any point
of the run. -/
theorem isolation (hK : CollisionFree E.keccak) (hne : I ≠ J) {is : List Instruction}
    (hkeys : FreshKeys E is) :
    let kept := (machine E).kept (fun s i => i.Concerns s J) .init is
    List.Forall₂
        (fun p q => q.2 = p.2 ∧ SameAccounts I p.1 q.1 ∧
          Agree (SameAccounts I) (process E p.1 p.2) (process E q.1 q.2))
        kept ((machine E).attempts .init (kept.map Prod.snd)) ∧
      SameAccounts I ((machine E).run .init is).1
        ((machine E).run .init (kept.map Prod.snd)).1 ∧
      Function.Injective Seeds.bytes := by
  intro kept
  have hinit : Purged E J .init .init :=
    ⟨fun x account => iff_of_false nofun nofun, [], .nil⟩
  have hsame : ∀ s u, Purged E J s u → SameAccounts I s u := fun s u h => h.without.sameAccounts hne
  have hunwinding : (machine E).Unwinding (fun s i => i.Concerns s J) (Purged E J)
      ((machine E).attempts .init is) := by
    constructor
    · intro p hp hi u h
      obtain ⟨before, after, -, hstate⟩ := Machine.mem_attempts hp
      exact purged_of_concerns hK (hstate ▸ (machine E).run_path .init before) h hi
    · intro p hp hi u h
      obtain ⟨before, after, his, hstate⟩ := Machine.mem_attempts hp
      have hpath := (machine E).run_path .init before
      rw [← hstate] at hpath
      refine agree_of_not_concerns hK hpath (fun c hc => ?_) h hi
      refine hkeys c ?_ p.2 (his ▸ by simp)
      rw [his, Machine.run_append]
      exact List.mem_append_left _ hc
  obtain ⟨hsteps, hfinal⟩ := hunwinding.run hinit
  refine ⟨hsteps.imp fun p q h => ?_, hsame _ _ hfinal, Seeds.bytes_injective⟩
  obtain ⟨hinput, hstates, hagree⟩ := h
  exact ⟨hinput, hsame _ _ hstates, hagree.mono hsame⟩

/-- The integrator 20, with admin 21, registers before the setup of the integrator 10 and changes
its admin between the setup and a message of the integrator 10. -/
def sampleShared : List Instruction :=
  [.register ⟨samplePda (.integratorConfig 20#256), samplePda (.sequenceTracker 20#256),
      integratorProgramPda 20#256 1#8⟩ ⟨20#256, 1#8, 21#256⟩] ++ sampleOutboxSetup ++
    [.updateAdmin ⟨21#256, samplePda (.integratorConfig 20#256)⟩ ⟨22#256, 20#256⟩, sampleSend]

theorem isolation_sample :
    let kept := (machine sampleEnv).kept (fun s i => i.Concerns s 20#256) .init sampleShared
    ((machine sampleEnv).run .init sampleShared).2.length = 8 ∧ kept.length = 6 ∧
      SameAccounts 10#256 ((machine sampleEnv).run .init sampleShared).1
        ((machine sampleEnv).run .init (kept.map Prod.snd)).1 :=
  ⟨by decide +kernel, by decide +kernel, (isolation (E := sampleEnv) collisionFree_id
    (I := 10#256) (J := 20#256) (by decide) (by decide +kernel)).2.1⟩

end GmpRouter.Svm
