import GmpRouter.Svm.Specification

/-!
# The accounts of the SVM endpoint by their keys

Every account is stored at the address derived from its own contents, with the canonical bump, or at
the address of a key when it is a message of the outbox; attestation accounts are about messages
with non-zero chain IDs, and are attested or executed (`Stored`, `Canonical`,
`canonical_invariant`). So the state is a family of typed maps, its `View`, in which an instruction
writes at one or two keys.

The two accounts that are initialised when needed behave as if they had always existed, with empty
contents: `chainConfigOf` and `attestationOf` are their contents before an instruction that needs
them.
-/

namespace GmpRouter.Svm

open GmpRouter.Bitmap (indices)

variable {E : Env} {s t : State} {o : Output}

/-! ## Reading and writing -/

namespace State

/-- The data of type `α` at the address. -/
def find {α : Type} [AccountType α] (s : State) (x : Address) : Option α :=
  (s.accounts x).bind AccountType.data

theorem find_eq_some {α : Type} [AccountType α] {x : Address} {d : α} :
    s.find x = some d ↔ s.accounts x = some (AccountType.account d) := by
  simp only [find, Option.bind_eq_some_iff, AccountType.data_eq_some]
  constructor
  · rintro ⟨account, h, rfl⟩
    exact h
  · exact fun h => ⟨_, h, rfl⟩

@[simp] theorem set_self (x : Address) (account : Account) :
    (s.set x account).accounts x = some account := Function.update_self ..

theorem set_of_ne {x y : Address} (h : y ≠ x) (account : Account) :
    (s.set x account).accounts y = s.accounts y := Function.update_of_ne h ..

@[simp] theorem close_self (x : Address) : (s.close x).accounts x = none := Function.update_self ..

theorem close_of_ne {x y : Address} (h : y ≠ x) : (s.close x).accounts y = s.accounts y :=
  Function.update_of_ne h ..

theorem find_set_of_ne {α : Type} [AccountType α] {x y : Address} (h : y ≠ x) (account : Account) :
    (s.set x account).find (α := α) y = s.find y := by
  rw [find, set_of_ne h, find]

theorem find_close_of_ne {α : Type} [AccountType α] {x y : Address} (h : y ≠ x) :
    (s.close x).find (α := α) y = s.find y := by
  rw [find, close_of_ne h, find]

theorem find_set_self {α : Type} [AccountType α] {x : Address} (d : α) :
    (s.set x (AccountType.account d)).find x = some d := find_eq_some.2 (set_self ..)

/-- Writing the data `d` at the address of the key `k`, of the map with the addresses `addr`. -/
theorem find_set_key {α κ : Type} [AccountType α] [DecidableEq κ] (addr : κ → Address)
    (hinj : Function.Injective addr) (k : κ) (d : α) :
    (fun k' => (s.set (addr k) (AccountType.account d)).find (addr k')) =
      Function.update (fun k' => s.find (addr k')) k (some d) := by
  funext k'
  by_cases h : k' = k
  · rw [h, find_set_self, Function.update_self]
  · rw [find_set_of_ne (hinj.ne h), Function.update_of_ne h]

/-- The same for a map with two keys. -/
theorem find_set_key₂ {α κ κ' : Type} [AccountType α] [DecidableEq κ] [DecidableEq κ']
    (addr : κ → κ' → Address)
    (hinj : ∀ a b a' b', addr a b = addr a' b' → a = a' ∧ b = b') (a : κ) (b : κ') (d : α) :
    (fun a' b' => (s.set (addr a b) (AccountType.account d)).find (addr a' b')) =
      update₂ (fun a' b' => s.find (addr a' b')) a b (some d) := by
  funext a' b'
  by_cases h : a' = a ∧ b' = b
  · obtain ⟨rfl, rfl⟩ := h
    rw [find_set_self, update₂_self]
  · rw [find_set_of_ne fun heq => h (hinj _ _ _ _ heq), update₂_of_ne h]

end State

/-! ## Canonical addresses -/

/-- The seeds and the bump that an account records. -/
def Account.seeds : Account → Option (Seeds × Byte)
  | .integratorConfig c => some (.integratorConfig c.integratorProgramId, c.bump)
  | .adapterInfo i => some (.adapterInfo i.integratorProgramId i.adapterProgramId, i.bump)
  | .integratorChainConfig c =>
    some (.integratorChainConfig c.integratorProgramId c.chainId, c.bump)
  | .sequenceTracker c => some (.sequenceTracker c.integratorProgramId, c.bump)
  | .attestationInfo i => some (.attestationInfo i.messageHash, i.bump)
  | .outboxMessage _ => none

/-- What the message of an attestation account satisfies. -/
structure AttestationInfo.Valid (E : Env) (info : AttestationInfo) : Prop where
  messageHash_eq : info.messageHash = computeMessageHash E info.message
  srcChain_ne : info.srcChain ≠ 0#16
  dstChain_ne : info.dstChain ≠ 0#16
  live : info.executed = true ∨ info.attestedAdapters ≠ 0#128

/-- What an account of each type satisfies, wherever it is. -/
def Account.Valid (E : Env) : Account → Prop
  | .integratorChainConfig c => c.chainId ≠ 0#16
  | .attestationInfo i => i.Valid E
  | .outboxMessage m => m.outstandingAdapters ≠ 0#128
  | _ => True

/-- The account is valid, and at its own address. -/
structure Stored (E : Env) (x : Address) (account : Account) : Prop where
  address_eq : ∀ seeds bump, account.seeds = some (seeds, bump) →
    x = E.pda seeds ∧ bump = E.canonicalBump seeds.bytes
  external : account.seeds = none → ∃ k, x = .external k
  valid : account.Valid E

def Canonical (E : Env) (s : State) : Prop := ∀ x account, s.accounts x = some account →
  Stored E x account

theorem Canonical.set (h : Canonical E s) {x : Address} {account : Account}
    (hx : Stored E x account) : Canonical E (s.set x account) := by
  intro y account' hy
  by_cases hxy : y = x
  · subst hxy
    rw [State.set_self] at hy
    exact Option.some.inj hy ▸ hx
  · rw [State.set_of_ne hxy] at hy
    exact h y account' hy

theorem Canonical.close (h : Canonical E s) (x : Address) : Canonical E (s.close x) := by
  intro y account' hy
  by_cases hxy : y = x
  · subst hxy
    simp at hy
  · rw [State.close_of_ne hxy] at hy
    exact h y account' hy

theorem Stored.of_seeds {seeds : Seeds} {account : Account}
    (hseeds : account.seeds = some (seeds, E.canonicalBump seeds.bytes))
    (hvalid : account.Valid E) :
    Stored E (E.pda seeds) account where
  address_eq seeds' bump h := by
    rw [hseeds] at h
    obtain ⟨rfl, rfl⟩ := Prod.mk.inj (Option.some.inj h)
    exact ⟨rfl, rfl⟩
  external h := by simp [hseeds] at h
  valid := hvalid

/-- The type of an account at a canonical address is that of the address. -/
theorem seeds_eq (hs : Canonical E s) {seeds : Seeds} {account : Account}
    (h : s.accounts (E.pda seeds) = some account) : ∃ bump, account.seeds = some (seeds, bump) := by
  have hstored := hs _ _ h
  cases hseeds : account.seeds with
  | none =>
    obtain ⟨k, hk⟩ := hstored.external hseeds
    cases hk
  | some p =>
    obtain ⟨hpda, -⟩ := hstored.address_eq _ _ hseeds
    rw [E.pda_injective hpda]
    exact ⟨p.2, rfl⟩

/-- An account that a constraint finds at the address of some seeds is at the canonical address. -/
theorem Derived.eq_pda (hs : Canonical E s) {x : Address} {seeds : Seeds} {bump : Byte}
    {account : Account} (h : Derived s x seeds bump account) : x = E.pda seeds := by
  obtain ⟨hx, rfl⟩ := h
  have hstored := hs _ _ hx
  cases hseeds : account.seeds with
  | none =>
    obtain ⟨k, hk⟩ := hstored.external hseeds
    cases hk
  | some p =>
    obtain ⟨hpda, -⟩ := hstored.address_eq _ _ hseeds
    obtain ⟨hbytes, -⟩ := Address.pda.inj hpda
    rw [Seeds.bytes_injective hbytes]
    exact Seeds.bytes_injective hbytes ▸ hpda

/-- An account at a canonical address satisfies the seeds constraint. -/
theorem derived_of_seeds (hs : Canonical E s) {seeds : Seeds} {account : Account} {bump : Byte}
    (h : s.accounts (E.pda seeds) = some account) (hseeds : account.seeds = some (seeds, bump)) :
    Derived s (E.pda seeds) seeds bump account := by
  obtain ⟨-, rfl⟩ := (hs _ _ h).address_eq _ _ hseeds
  exact ⟨h, rfl⟩

theorem Stored.congr {x : Address} {account account' : Account} (h : Stored E x account)
    (hseeds : account'.seeds = account.seeds) (hvalid : account'.Valid E) :
    Stored E x account' where
  address_eq := hseeds ▸ h.address_eq
  external := hseeds ▸ h.external
  valid := hvalid

/-! ## Accounts that are initialised when needed -/

/-- The chain configuration of an integrator, empty when there is no account. -/
def State.chainConfigOf (E : Env) (s : State) (I : Pubkey) (chain : ChainId) :
    IntegratorChainConfig :=
  (s.find (E.pda (.integratorChainConfig I chain))).getD
    { bump := E.canonicalBump (Seeds.integratorChainConfig I chain).bytes
      integratorProgramId := I
      chainId := chain }

/-- The attestations of a message, empty when there is no account. -/
def State.attestationOf (E : Env) (s : State) (m : Message) : AttestationInfo :=
  (s.find (E.pda (attestationSeeds E m))).getD
    (AttestationInfo.fresh E (E.canonicalBump (attestationSeeds E m).bytes) m)

theorem chainConfigOf_eq {I : Pubkey} {chain : ChainId} {config : IntegratorChainConfig}
    (h : s.accounts (E.pda (.integratorChainConfig I chain)) =
      some (.integratorChainConfig config)) :
    s.chainConfigOf E I chain = config := by
  have hfind : s.find (E.pda (.integratorChainConfig I chain)) = some config :=
    State.find_eq_some.2 h
  rw [State.chainConfigOf, hfind, Option.getD_some]

theorem attestationOf_eq {m : Message} {info : AttestationInfo}
    (h : s.accounts (E.pda (attestationSeeds E m)) = some (.attestationInfo info)) :
    s.attestationOf E m = info := by
  have hfind : s.find (E.pda (attestationSeeds E m)) = some info := State.find_eq_some.2 h
  rw [State.attestationOf, hfind, Option.getD_some]

/-- An initialised account of attestations is the one of its message. -/
theorem Canonical.attestationInfo (hs : Canonical E s) {x : Address} {info : AttestationInfo}
    (hx : s.accounts x = some (.attestationInfo info)) :
    info.Valid E ∧ x = E.pda (attestationSeeds E info.message) ∧
      s.attestationOf E info.message = info := by
  have hstored := hs _ _ hx
  have hvalid : info.Valid E := hstored.valid
  obtain ⟨hpda, -⟩ := hstored.address_eq _ _ rfl
  rw [hvalid.messageHash_eq] at hpda
  exact ⟨hvalid, hpda, attestationOf_eq (hpda ▸ hx)⟩

theorem chainConfigOf_seeds (hs : Canonical E s) (I : Pubkey) (chain : ChainId) :
    (s.chainConfigOf E I chain).integratorProgramId = I ∧
      (s.chainConfigOf E I chain).chainId = chain ∧
      (s.chainConfigOf E I chain).bump =
        E.canonicalBump (Seeds.integratorChainConfig I chain).bytes := by
  unfold State.chainConfigOf
  cases hfind : s.find (α := IntegratorChainConfig) (E.pda (.integratorChainConfig I chain)) with
  | none => exact ⟨rfl, rfl, rfl⟩
  | some config =>
    obtain ⟨hpda, hbump⟩ := (hs _ _ (State.find_eq_some.1 hfind)).address_eq _ _ rfl
    obtain ⟨rfl, rfl⟩ := Seeds.integratorChainConfig.inj (E.pda_injective hpda)
    exact ⟨rfl, rfl, hbump⟩

/-- What an instruction that needs the chain configuration works on. -/
theorem LoadsOrNew.orNew_chainConfig (hs : Canonical E s) {I : Pubkey} {chain : ChainId}
    {config : IntegratorChainConfig}
    (h : LoadsOrNew s (E.pda (.integratorChainConfig I chain)) {} config) :
    config.orNew E I chain = s.chainConfigOf E I chain := by
  rcases h with h | ⟨hnone, rfl⟩
  · have hne : config.chainId ≠ 0#16 := (hs _ _ h).valid
    rw [chainConfigOf_eq h, IntegratorChainConfig.orNew, if_neg hne]
  · simp [State.chainConfigOf, State.find, hnone, IntegratorChainConfig.orNew]

theorem loadsOrNew_chainConfig (hs : Canonical E s) (I : Pubkey) (chain : ChainId) :
    ∃ config : IntegratorChainConfig,
      LoadsOrNew s (E.pda (.integratorChainConfig I chain)) {} config := by
  cases h : s.accounts (E.pda (.integratorChainConfig I chain)) with
  | none => exact ⟨{}, .inr ⟨h, rfl⟩⟩
  | some account =>
    have hseeds := seeds_eq hs h
    cases account with
    | integratorChainConfig config => exact ⟨config, .inl h⟩
    | _ => simp [Account.seeds] at hseeds

theorem loadsOrNew_attestation (hs : Canonical E s) (m : Message) :
    ∃ info : AttestationInfo, LoadsOrNew s (E.pda (attestationSeeds E m)) {} info := by
  cases h : s.accounts (E.pda (attestationSeeds E m)) with
  | none => exact ⟨{}, .inr ⟨h, rfl⟩⟩
  | some account =>
    have hseeds := seeds_eq hs h
    cases account with
    | attestationInfo info => exact ⟨info, .inl h⟩
    | _ => simp [Account.seeds, attestationSeeds] at hseeds

theorem attestationOf_seeds (hs : Canonical E s) (m : Message) :
    (s.attestationOf E m).messageHash = AttestationInfo.computeMessageHash E m ∧
      (s.attestationOf E m).bump = E.canonicalBump (attestationSeeds E m).bytes := by
  unfold State.attestationOf
  cases hfind : s.find (α := AttestationInfo) (E.pda (attestationSeeds E m)) with
  | none => exact ⟨rfl, rfl⟩
  | some info =>
    obtain ⟨hpda, hbump⟩ := (hs _ _ (State.find_eq_some.1 hfind)).address_eq _ _ rfl
    have hseeds := E.pda_injective hpda
    rw [attestationSeeds, Seeds.attestationInfo.injEq] at hseeds
    rw [Option.getD_some, attestationSeeds, hseeds]
    exact ⟨rfl, hbump⟩

/-- The account of a message is about a message with the same hash. -/
theorem attestationOf_hash (hs : Canonical E s) (m : Message) :
    AttestationInfo.computeMessageHash E (s.attestationOf E m).message =
      AttestationInfo.computeMessageHash E m := by
  have hhash := (attestationOf_seeds hs m).1
  revert hhash
  unfold State.attestationOf
  cases hfind : s.find (α := AttestationInfo) (E.pda (attestationSeeds E m)) with
  | none => exact fun _ => rfl
  | some info =>
    intro hhash
    have hvalid : info.Valid E := (hs _ _ (State.find_eq_some.1 hfind)).valid
    exact hvalid.messageHash_eq.symm.trans hhash

theorem attestationOf_message (hK : CollisionFree E.keccak) (hs : Canonical E s) (m : Message) :
    (s.attestationOf E m).message = m := hK.eq (attestationOf_hash hs m)

/-- A message that is attested or executed has an account. -/
theorem accounts_attestationOf {m : Message}
    (h : (s.attestationOf E m).executed = true ∨ (s.attestationOf E m).attestedAdapters ≠ 0#128) :
    s.accounts (E.pda (attestationSeeds E m)) = some (.attestationInfo (s.attestationOf E m)) := by
  revert h
  unfold State.attestationOf
  cases hfind : s.find (α := AttestationInfo) (E.pda (attestationSeeds E m)) with
  | none => simp [AttestationInfo.fresh]
  | some info => exact fun _ => State.find_eq_some.1 hfind

/-- What an instruction that needs the attestations of a message works on. -/
theorem LoadsOrNew.orNew_attestation (hs : Canonical E s) {m : Message}
    {info info' : AttestationInfo} (h : LoadsOrNew s (E.pda (attestationSeeds E m)) {} info)
    (hnew : info.orNew E (E.canonicalBump (attestationSeeds E m).bytes) m = .ok info') :
    info' = s.attestationOf E m ∧ info.executed = (s.attestationOf E m).executed ∧
      info'.srcChain ≠ 0#16 ∧ info'.dstChain ≠ 0#16 := by
  rcases h with h | ⟨hnone, rfl⟩
  · have hvalid : info.Valid E := (hs _ _ h).valid
    rcases AttestationInfo.orNew_eq_ok.1 hnew with ⟨h0, -⟩ | ⟨-, rfl⟩
    · exact absurd h0 hvalid.srcChain_ne
    · rw [attestationOf_eq h]
      exact ⟨rfl, rfl, hvalid.srcChain_ne, hvalid.dstChain_ne⟩
  · have hfresh : s.attestationOf E m =
        .fresh E (E.canonicalBump (attestationSeeds E m).bytes) m := by
      simp [State.attestationOf, State.find, hnone]
    rcases AttestationInfo.orNew_eq_ok.1 hnew with ⟨-, hne, rfl⟩ | ⟨h0, -⟩
    · exact ⟨hfresh.symm, by rw [hfresh]; rfl, hne⟩
    · exact absurd rfl h0

/-- A message with non-zero chain IDs can always be worked on. -/
theorem exists_orNew_attestation (hs : Canonical E s) {m : Message}
    (hne : m.srcChain ≠ 0#16 ∧ m.dstChain ≠ 0#16) :
    ∃ info : AttestationInfo, LoadsOrNew s (E.pda (attestationSeeds E m)) {} info ∧
      info.orNew E (E.canonicalBump (attestationSeeds E m).bytes) m =
        .ok (s.attestationOf E m) := by
  obtain ⟨info, h⟩ := loadsOrNew_attestation hs m
  refine ⟨info, h, AttestationInfo.orNew_eq_ok.2 ?_⟩
  rcases h with h | ⟨hnone, rfl⟩
  · have hvalid : info.Valid E := (hs _ _ h).valid
    exact .inr ⟨hvalid.srcChain_ne, attestationOf_eq h⟩
  · exact .inl ⟨rfl, hne, by simp [State.attestationOf, State.find, hnone]⟩

/-! ## Preservation -/

theorem Canonical.setConfig (hs : Canonical E s) {x : Address} {config config' : IntegratorConfig}
    (h : s.accounts x = some (.integratorConfig config))
    (hid : config'.integratorProgramId = config.integratorProgramId)
    (hbump : config'.bump = config.bump) : Canonical E (s.set x (.integratorConfig config')) :=
  hs.set ((hs _ _ h).congr (by simp only [Account.seeds, hid, hbump]) trivial)

theorem Canonical.setChainConfig (hs : Canonical E s) {I : Pubkey} {chain : ChainId}
    (hne : chain ≠ 0#16) (bitmap : BitVec 128) (d : Direction) :
    Canonical E (s.set (E.pda (.integratorChainConfig I chain))
      (.integratorChainConfig ((s.chainConfigOf E I chain).setBitmap bitmap d))) := by
  obtain ⟨hI, hchain, hbump⟩ := chainConfigOf_seeds hs I chain
  refine hs.set (.of_seeds ?_ ?_)
  · cases d <;> simp only [Account.seeds, IntegratorChainConfig.setBitmap, hI, hchain, hbump]
  · cases d <;> simpa only [Account.Valid, IntegratorChainConfig.setBitmap, hchain]

theorem Canonical.setAttestation (hs : Canonical E s) {m : Message} {info : AttestationInfo}
    (hbump : info.bump = (s.attestationOf E m).bump)
    (hhash : info.messageHash = (s.attestationOf E m).messageHash)
    (hmessage : info.message = (s.attestationOf E m).message)
    (hsrc : info.srcChain ≠ 0#16) (hdst : info.dstChain ≠ 0#16)
    (hlive : info.executed = true ∨ info.attestedAdapters ≠ 0#128) :
    Canonical E (s.set (E.pda (attestationSeeds E m)) (.attestationInfo info)) := by
  obtain ⟨hhash', hbump'⟩ := attestationOf_seeds hs m
  refine hs.set (.of_seeds ?_ ⟨?_, hsrc, hdst, hlive⟩)
  · simp only [Account.seeds, hhash.trans hhash', hbump.trans hbump', attestationSeeds]
  · rw [hmessage, attestationOf_hash hs m, hhash, hhash']

end GmpRouter.Svm
