import GmpRouter.Svm.Invariant

/-!
# The state of the SVM endpoint as typed maps

The `View` of a state reads each kind of account under its own keys. Writing an account at its
canonical address updates one map of the view at one key (`view_set_config` and its siblings), so
that what an instruction leaves alone is read off from the record.
-/

namespace GmpRouter.Svm

open GmpRouter.Bitmap (indices)

structure View where
  config : Pubkey → Option IntegratorConfig
  tracker : Pubkey → Option SequenceTracker
  adapterInfo : Pubkey → Pubkey → Option AdapterInfo
  chainConfig : Pubkey → ChainId → Option IntegratorChainConfig
  attestation : Digest → Option AttestationInfo
  outbox : Pubkey → Option OutboxMessage

def State.view (E : Env) (s : State) : View where
  config I := s.find (E.pda (.integratorConfig I))
  tracker I := s.find (E.pda (.sequenceTracker I))
  adapterInfo I A := s.find (E.pda (.adapterInfo I A))
  chainConfig I chain := s.find (E.pda (.integratorChainConfig I chain))
  attestation digest := s.find (E.pda (.attestationInfo digest))
  outbox k := s.find (.external k)

variable {E : Env} {s : State}

/-! ## Reading the view -/

theorem view_config {I : Pubkey} {config : IntegratorConfig} :
    (s.view E).config I = some config ↔
      s.accounts (E.pda (.integratorConfig I)) = some (.integratorConfig config) :=
  State.find_eq_some

theorem view_tracker {I : Pubkey} {tracker : SequenceTracker} :
    (s.view E).tracker I = some tracker ↔
      s.accounts (E.pda (.sequenceTracker I)) = some (.sequenceTracker tracker) :=
  State.find_eq_some

theorem view_adapterInfo {I A : Pubkey} {info : AdapterInfo} :
    (s.view E).adapterInfo I A = some info ↔
      s.accounts (E.pda (.adapterInfo I A)) = some (.adapterInfo info) :=
  State.find_eq_some

theorem view_chainConfig {I : Pubkey} {chain : ChainId} {config : IntegratorChainConfig} :
    (s.view E).chainConfig I chain = some config ↔
      s.accounts (E.pda (.integratorChainConfig I chain)) = some (.integratorChainConfig config) :=
  State.find_eq_some

theorem view_outbox {k : Pubkey} {message : OutboxMessage} :
    (s.view E).outbox k = some message ↔
      s.accounts (.external k) = some (.outboxMessage message) :=
  State.find_eq_some

/-- In a canonical state an address without data of its type is free. -/
theorem accounts_eq_none (hs : Canonical E s) {seeds : Seeds}
    (h : ∀ account bump, account.seeds = some (seeds, bump) →
      s.accounts (E.pda seeds) ≠ some account) : s.accounts (E.pda seeds) = none := by
  cases haccount : s.accounts (E.pda seeds) with
  | none => rfl
  | some account =>
    obtain ⟨bump, hseeds⟩ := seeds_eq hs haccount
    exact absurd haccount (h account bump hseeds)

/-! ## Writing -/

theorem view_set_config (I : Pubkey) (config : IntegratorConfig) :
    (s.set (E.pda (.integratorConfig I)) (.integratorConfig config)).view E =
      { s.view E with config := Function.update (s.view E).config I (some config) } := by
  simp only [State.view, View.mk.injEq]
  refine ⟨?_, ?_, ?_, ?_, ?_, ?_⟩
  · exact State.find_set_key (fun I => E.pda (.integratorConfig I))
      (fun _ _ h => by simpa using h) I config
  all_goals
    repeat' (funext _)
    exact State.find_set_of_ne (by simp) _

theorem view_set_tracker (I : Pubkey) (tracker : SequenceTracker) :
    (s.set (E.pda (.sequenceTracker I)) (.sequenceTracker tracker)).view E =
      { s.view E with tracker := Function.update (s.view E).tracker I (some tracker) } := by
  simp only [State.view, View.mk.injEq]
  refine ⟨?_, ?_, ?_, ?_, ?_, ?_⟩
  case refine_2 =>
    exact State.find_set_key (fun I => E.pda (.sequenceTracker I)) (fun _ _ h => by simpa using h) I
      tracker
  all_goals
    repeat' (funext _)
    exact State.find_set_of_ne (by simp) _

theorem view_set_adapterInfo (I A : Pubkey) (info : AdapterInfo) :
    (s.set (E.pda (.adapterInfo I A)) (.adapterInfo info)).view E =
      { s.view E with adapterInfo := update₂ (s.view E).adapterInfo I A (some info) } := by
  simp only [State.view, View.mk.injEq]
  refine ⟨?_, ?_, ?_, ?_, ?_, ?_⟩
  case refine_3 =>
    exact State.find_set_key₂ (fun I A => E.pda (.adapterInfo I A))
      (fun _ _ _ _ h => by simpa using h) I A info
  all_goals
    repeat' (funext _)
    exact State.find_set_of_ne (by simp) _

theorem view_set_chainConfig (I : Pubkey) (chain : ChainId) (config : IntegratorChainConfig) :
    (s.set (E.pda (.integratorChainConfig I chain)) (.integratorChainConfig config)).view E =
      { s.view E with chainConfig := update₂ (s.view E).chainConfig I chain (some config) } := by
  simp only [State.view, View.mk.injEq]
  refine ⟨?_, ?_, ?_, ?_, ?_, ?_⟩
  case refine_4 =>
    exact State.find_set_key₂ (fun I chain => E.pda (.integratorChainConfig I chain))
      (fun _ _ _ _ h => by simpa using h) I chain config
  all_goals
    repeat' (funext _)
    exact State.find_set_of_ne (by simp) _

theorem view_set_attestation (digest : Digest) (info : AttestationInfo) :
    (s.set (E.pda (.attestationInfo digest)) (.attestationInfo info)).view E =
      { s.view E with
        attestation := Function.update (s.view E).attestation digest (some info) } := by
  simp only [State.view, View.mk.injEq]
  refine ⟨?_, ?_, ?_, ?_, ?_, ?_⟩
  case refine_5 =>
    exact State.find_set_key (fun digest => E.pda (.attestationInfo digest))
      (fun _ _ h => by simpa using h) digest info
  all_goals
    repeat' (funext _)
    exact State.find_set_of_ne (by simp) _

theorem view_set_outbox (k : Pubkey) (message : OutboxMessage) :
    (s.set (.external k) (.outboxMessage message)).view E =
      { s.view E with outbox := Function.update (s.view E).outbox k (some message) } := by
  simp only [State.view, View.mk.injEq]
  refine ⟨?_, ?_, ?_, ?_, ?_, ?_⟩
  case refine_6 =>
    exact State.find_set_key Address.external (fun _ _ h => by simpa using h) k message
  all_goals
    repeat' (funext _)
    exact State.find_set_of_ne (by simp) _

theorem view_close_outbox (k : Pubkey) :
    (s.close (.external k)).view E =
      { s.view E with outbox := Function.update (s.view E).outbox k none } := by
  simp only [State.view, View.mk.injEq]
  refine ⟨?_, ?_, ?_, ?_, ?_, ?_⟩
  case refine_6 =>
    funext k'
    by_cases h : k' = k
    · rw [h, Function.update_self, State.find, State.close_self, Option.bind_none]
    · rw [State.find_close_of_ne (by simpa using h), Function.update_of_ne h]
  all_goals
    repeat' (funext _)
    exact State.find_close_of_ne (by simp)

/-! ## What an instruction leaves alone -/

/-- The accounts of the outbox are the same, and no derived account has disappeared. -/
structure Frames (E : Env) (s t : State) : Prop where
  external : ∀ k, t.accounts (.external k) = s.accounts (.external k)
  pda : ∀ seeds, s.accounts (E.pda seeds) ≠ none → t.accounts (E.pda seeds) ≠ none

theorem Frames.refl (E : Env) (s : State) : Frames E s s := ⟨fun _ => rfl, fun _ => id⟩

theorem Frames.set {t : State} (h : Frames E s t) {x : Address} {seeds : Seeds}
    (hx : x = E.pda seeds) (account : Account) : Frames E s (t.set x account) where
  external k := by
    rw [hx, State.set_of_ne (by simp)]
    exact h.external k
  pda seeds' hne := by
    by_cases heq : E.pda seeds' = x
    · simp [heq]
    · rw [State.set_of_ne heq]
      exact h.pda seeds' hne

/-- Only sending and picking up messages changes the outbox. -/
theorem frames_of_step {t : State} {i : Instruction} {o : Output} (hs : Canonical E s)
    (h : process E s i = .ok (t, o)) (hsend : ∀ ctx args, i ≠ .sendMessage ctx args)
    (hpick : ∀ ctx args, i ≠ .pickUpMessage ctx args) : Frames E s t := by
  have hrefl := Frames.refl E s
  cases i with
  | register ctx args =>
    obtain ⟨hx, -, hy, -, -, rfl, -⟩ := register_eq_ok.1 h
    exact (hrefl.set hx _).set hy _
  | addAdapter ctx args =>
    obtain ⟨config, hby, hy, -, -, rfl, -⟩ := addAdapter_eq_ok.1 h
    exact (hrefl.set (hby.derived.eq_pda hs) _).set hy _
  | enableSendAdapter ctx args =>
    obtain ⟨_, _, _, _, -, -, hz, -, -, -, -, -, rfl, -⟩ := enableAdapter_eq_ok.1 h
    exact hrefl.set hz _
  | enableRecvAdapter ctx args =>
    obtain ⟨_, _, _, _, -, -, hz, -, -, -, -, -, rfl, -⟩ := enableAdapter_eq_ok.1 h
    exact hrefl.set hz _
  | disableSendAdapter ctx args =>
    obtain ⟨_, _, _, -, -, hz, -, -, -, rfl, -⟩ := disableAdapter_eq_ok.1 h
    exact hrefl.set hz _
  | disableRecvAdapter ctx args =>
    obtain ⟨_, _, _, -, -, hz, -, -, -, rfl, -⟩ := disableAdapter_eq_ok.1 h
    exact hrefl.set hz _
  | updateAdmin ctx args =>
    obtain ⟨_, hby, rfl, -⟩ := updateAdmin_eq_ok.1 h
    exact hrefl.set (hby.derived.eq_pda hs) _
  | transferAdmin ctx args =>
    obtain ⟨_, hby, rfl, -⟩ := transferAdmin_eq_ok.1 h
    exact hrefl.set (hby.derived.eq_pda hs) _
  | claimAdmin ctx =>
    obtain ⟨config, hload, -, -, -, rfl, -⟩ := claimAdmin_eq_ok.1 h
    exact hrefl.set ((hs _ _ hload).address_eq _ _ rfl).1 _
  | discardAdmin ctx =>
    obtain ⟨_, hby, rfl, -⟩ := discardAdmin_eq_ok.1 h
    exact hrefl.set (hby.derived.eq_pda hs) _
  | sendMessage ctx args => exact absurd rfl (hsend ctx args)
  | pickUpMessage ctx args => exact absurd rfl (hpick ctx args)
  | attestMessage ctx args =>
    obtain ⟨_, _, _, _, -, -, -, hz, -, -, -, -, -, rfl, -⟩ := attestMessage_eq_ok.1 h
    exact hrefl.set hz _
  | recvMessage ctx args =>
    obtain ⟨_, _, -, -, hinfo, -, rfl, -⟩ := recvMessage_eq_ok.1 h
    exact hrefl.set (hinfo.eq_pda hs) _
  | execMessage ctx args =>
    obtain ⟨_, _, hz, -, -, -, -, rfl, -⟩ := execMessage_eq_ok.1 h
    exact hrefl.set hz _

end GmpRouter.Svm
