import GmpRouter.Evm.Attestation
import GmpRouter.Foundations.EventLog

/-!
# The status of messages in the events of the EVM endpoint

An observer of the events knows of every message how many adapters attested it, and which ones from
the last event (`attestations_traceable`). Whether it was executed should be known as well, from the
event that reports it; but only `recvMessage` emits one, so that the events tell this exactly as
long as `execMessage` is not used (`status_traceable_iff`).
-/

namespace GmpRouter.Evm

open Endpoint
open Machine (eventsOf)

variable {E : Env} {s t : State} {op : Op} {r : Receipt} {I : Address} {digest : Digest} {log : Log}

/-! ## What the events tell -/

/-- The bitmap of an event that reports an attestation of the message. -/
def Event.attestedBitmap? (I : Address) (digest : Digest) : Event → Option (BitVec 128)
  | .messageAttestedTo messageHash m attestedBitmap _ =>
    if m.dstAddr = fromAddress I ∧ messageHash = digest then some attestedBitmap else none
  | _ => none

/-- The bitmaps of the attestations of a message, in order. -/
def attestedBitmaps (I : Address) (digest : Digest) (log : Log) : List (BitVec 128) :=
  (eventsOf Receipt.events log).filterMap (Event.attestedBitmap? I digest)

/-- The event reports that the message was executed. -/
def Event.ReportsExecution (I : Address) (digest : Digest) : Event → Prop
  | .messageReceived messageHash m _ _ => m.dstAddr = fromAddress I ∧ messageHash = digest
  | _ => False

/-- The last attestation event has the bitmap that is stored, and their number is the one stored. -/
structure AttestationsTraced (I : Address) (digest : Digest) (log : Log) (s : State) : Prop where
  attestedAdapters_eq : (s.attestationInfo I digest).attestedAdapters =
    ((attestedBitmaps I digest log).getLast?).getD 0#128
  numAttested_eq : (s.attestationInfo I digest).numAttested.toNat =
    (attestedBitmaps I digest log).length

/-- The message is marked as executed exactly when an event reported it. -/
def ExecutionTraced (I : Address) (digest : Digest) (log : Log) (s : State) : Prop :=
  (s.attestationInfo I digest).executed = true ↔
    ∃ event ∈ eventsOf Receipt.events log, event.ReportsExecution I digest

/-- After every part of the history the events tell the status of the message. -/
def StatusTraceable (E : Env) (I : Address) (digest : Digest) (log : Log) : Prop :=
  ∀ l₁ l₂, log = l₁ ++ l₂ → ∀ s, (machine E).Path .init l₁ s →
    AttestationsTraced I digest l₁ s ∧ ExecutionTraced I digest l₁ s

/-- The operation is `execMessage`, for the message. -/
def Op.Execs (E : Env) (I : Address) (digest : Digest) (op : Op) : Prop :=
  ∃ msg args, op = .call msg (.execMessage args) ∧ msg.sender = I ∧
    computeMessageDigest E (inbound E I args) = digest

/-- The operation is `execMessage`. -/
def Op.isExec : Op → Bool
  | .call _ (.execMessage _) => true
  | _ => false

theorem Op.isExec_iff {op : Op} :
    op.isExec = true ↔ ∃ msg args, op = .call msg (.execMessage args) := by
  constructor
  · intro h
    unfold Op.isExec at h
    split at h
    · exact ⟨_, _, rfl⟩
    · cases h
  · rintro ⟨msg, args, rfl⟩
    rfl

/-! ## Attestations -/

theorem attestedBitmaps_snoc {c : Commit State Op Receipt} : attestedBitmaps I digest (log ++ [c]) =
    attestedBitmaps I digest log ++ c.output.events.filterMap (Event.attestedBitmap? I digest) := by
  simp [attestedBitmaps, Machine.eventsOf]

/-- The functions of the registry emit no event about a message. -/
theorem quiet_of_run {registry registry' : Registry} {J : Address} {change : AdapterRegistry.Change}
    (hrun : change.run registry J = .ok (registry', r)) (I : Address) (digest : Digest) :
    r.events.filterMap (Event.attestedBitmap? I digest) = [] ∧
      ∀ event ∈ r.events, ¬ event.ReportsExecution I digest := by
  rw [AdapterRegistry.Change.receipt_of_run hrun]
  cases change <;>
    exact ⟨rfl, by simp [AdapterRegistry.Change.receipt, Event.ReportsExecution]⟩

/-- A step either attests the message and says so, or does neither. -/
theorem attested_of_step (hstep : step E s op = .ok (t, r)) (I : Address) (digest : Digest) :
    (r.events.filterMap (Event.attestedBitmap? I digest) = [] ∧
      (t.attestationInfo I digest).attestedAdapters =
        (s.attestationInfo I digest).attestedAdapters ∧
      (t.attestationInfo I digest).numAttested = (s.attestationInfo I digest).numAttested) ∨
    r.events.filterMap (Event.attestedBitmap? I digest) =
        [(t.attestationInfo I digest).attestedAdapters] ∧
      (t.attestationInfo I digest).numAttested.toNat =
        (s.attestationInfo I digest).numAttested.toNat + 1 := by
  cases step_effect hstep with
  | admin h => exact .inl ⟨by cases h <;> rfl, rfl, rfl⟩
  | configure _ hrun => exact .inl ⟨(quiet_of_run hrun I digest).1, rfl, rfl⟩
  | send | forward | sent => exact .inl ⟨rfl, rfl, rfl⟩
  | @inbox msg call J m info r h =>
    by_cases heq : I = J ∧ digest = computeMessageDigest E m
    · obtain ⟨rfl, rfl⟩ := heq
      simp only [update₂_self]
      cases h with
      | attest hatt =>
        refine .inr ⟨?_, toNat_attest hatt.count _⟩
        simp only [Event.attestedBitmap?, hatt.dstAddr_eq, List.filterMap_cons, and_self, if_true,
          List.filterMap_nil, AttestationInfo.attest]
      | recv _ hinfo | exec _ hinfo =>
        subst hinfo
        exact .inl ⟨rfl, rfl, rfl⟩
    · refine .inl ⟨?_, by simp only [update₂_of_ne heq], by simp only [update₂_of_ne heq]⟩
      cases h with
      | attest hatt =>
        have hne : ¬ (m.dstAddr = fromAddress I ∧ computeMessageDigest E m = digest) := by
          rintro ⟨hdst, hdigest⟩
          exact heq ⟨fromAddress_injective (hdst.symm.trans hatt.dstAddr_eq), hdigest.symm⟩
        simp only [Event.attestedBitmap?, hne, List.filterMap_cons, if_false, List.filterMap_nil]
      | recv | exec => rfl

/-- **Attestations are traceable in every history.** -/
theorem attestations_traceable (h : (machine E).Path .init log s) (I : Address) (digest : Digest) :
    AttestationsTraced I digest log s := by
  induction h with
  | nil => exact ⟨rfl, rfl⟩
  | @snoc l c h hc ih =>
    rcases attested_of_step hc I digest with ⟨hquiet, hbitmap, hcount⟩ | ⟨hevent, hcount⟩
    · refine ⟨?_, ?_⟩
      · rw [attestedBitmaps_snoc, hquiet, List.append_nil, hbitmap, ih.attestedAdapters_eq]
      · rw [attestedBitmaps_snoc, hquiet, List.append_nil, hcount, ih.numAttested_eq]
    · refine ⟨?_, ?_⟩
      · rw [attestedBitmaps_snoc, hevent, List.getLast?_concat, Option.getD_some]
      · rw [attestedBitmaps_snoc, hevent, List.length_append, List.length_singleton, hcount,
          ih.numAttested_eq]

/-! ## Executions -/

/-- The message is marked by the steps that report its execution, and by `execMessage`. -/
theorem latch_marked (E : Env) (I : Address) (digest : Digest) :
    (machine E).Latch (fun _ => True) (fun s => (s.attestationInfo I digest).executed = true)
      (fun c => (∃ event ∈ c.output.events, event.ReportsExecution I digest) ∨
        c.input.Execs E I digest) where
  invariant _ _ _ _ _ _ := trivial
  step := by
    intro s op r t hstep _
    have hquiet : (∀ event ∈ r.events, ¬ event.ReportsExecution I digest) → ¬ op.Execs E I digest →
        (t.attestationInfo I digest).executed = (s.attestationInfo I digest).executed →
        ((t.attestationInfo I digest).executed = true ↔
          (s.attestationInfo I digest).executed = true ∨
            ((∃ event ∈ r.events, event.ReportsExecution I digest) ∨ op.Execs E I digest)) := by
      intro hevents hop hsame
      rw [hsame, or_iff_left]
      rintro (⟨event, hevent, hreports⟩ | hexec)
      · exact hevents event hevent hreports
      · exact hop hexec
    cases step_effect hstep with
    | admin h =>
      exact hquiet (by cases h <;> simp [Event.ReportsExecution])
        (by cases h <;> simp [Op.Execs]) rfl
    | configure _ hrun => exact hquiet (quiet_of_run hrun I digest).2 (by simp [Op.Execs]) rfl
    | send | forward | sent =>
      exact hquiet (by simp [Event.ReportsExecution, messageSent]) (by simp [Op.Execs]) rfl
    | @inbox msg call J m info r h =>
      by_cases heq : I = J ∧ digest = computeMessageDigest E m
      · obtain ⟨rfl, rfl⟩ := heq
        cases h with
        | attest hatt =>
          refine hquiet (by simp [Event.ReportsExecution]) (by simp [Op.Execs]) ?_
          simp only [update₂_self, AttestationInfo.attest]
        | recv hm hinfo =>
          subst hm
          refine iff_of_true (by simp only [update₂_self]) (.inr (.inl ?_))
          exact ⟨_, List.mem_singleton_self _, rfl, rfl⟩
        | exec hm hinfo =>
          subst hm
          refine iff_of_true (by simp only [update₂_self]) (.inr (.inr ?_))
          exact ⟨msg, _, rfl, rfl, rfl⟩
      · have hsame : (update₂ s.attestationInfo J
          (computeMessageDigest E m) info I digest).executed =
            (s.attestationInfo I digest).executed := by rw [update₂_of_ne heq]
        cases h with
        | attest hatt => exact hquiet (by simp [Event.ReportsExecution]) (by simp [Op.Execs]) hsame
        | recv hm =>
          subst hm
          refine hquiet ?_ (by simp [Op.Execs]) hsame
          simp only [List.mem_singleton, forall_eq, Event.ReportsExecution]
          rintro ⟨hdst, hdigest⟩
          exact heq ⟨(fromAddress_injective hdst).symm, hdigest.symm⟩
        | exec hm =>
          subst hm
          refine hquiet (by simp) ?_ hsame
          rintro ⟨msg', args', hop, hI, hdigest⟩
          obtain ⟨rfl, hcall⟩ := Op.call.inj hop
          obtain rfl := Call.execMessage.inj hcall
          exact heq ⟨hI.symm, by rw [← hdigest, ← hI]⟩

theorem not_executed_of_execs (hstep : step E s op = .ok (t, r)) (hop : op.Execs E I digest) :
    r.events = [] ∧ (s.attestationInfo I digest).executed = false := by
  obtain ⟨msg, args, rfl, rfl, rfl⟩ := hop
  obtain ⟨hexecuted, -, rfl⟩ := execMessage_eq_ok.1 (body_of_dispatch hstep rfl).2
  exact ⟨rfl, hexecuted⟩

theorem executed_iff (h : (machine E).Path .init log s) (I : Address) (digest : Digest) :
    (s.attestationInfo I digest).executed = true ↔
      (∃ event ∈ eventsOf Receipt.events log, event.ReportsExecution I digest) ∨
        ∃ c ∈ log, c.input.Execs E I digest := by
  have hinit : ¬ ((State.init.attestationInfo I digest).executed = true) := Bool.false_ne_true
  rw [(latch_marked E I digest).iff_exists h trivial, or_iff_right hinit]
  simp only [eventsOf, List.mem_flatMap, and_or_left, exists_or]
  refine or_congr_left ⟨?_, ?_⟩
  · rintro ⟨c, hc, event, hevent, hreports⟩
    exact ⟨event, ⟨c, hc, hevent⟩, hreports⟩
  · rintro ⟨event, ⟨c, hc, hevent⟩, hreports⟩
    exact ⟨c, hc, event, hevent, hreports⟩

/-- The events tell the status of a message as long as `execMessage` is not used for it. -/
theorem statusTraceable_iff (h : (machine E).Path .init log t) (I : Address) (digest : Digest) :
    StatusTraceable E I digest log ↔ ∀ c ∈ log, ¬ c.input.Execs E I digest := by
  constructor
  · intro htraceable c hc hexecs
    obtain ⟨l₁, l₂, rfl, hbefore, hvalid, -⟩ := h.split hc
    have hafter : (machine E).Path .init (l₁ ++ [c]) c.post := hbefore.snoc hvalid
    have hmarked := (executed_iff hafter I digest).2 (.inr ⟨c, by simp, hexecs⟩)
    -- the event that reports the execution would come before it
    obtain ⟨hnone, hopen⟩ := not_executed_of_execs hvalid hexecs
    obtain ⟨event, hevent, hreports⟩ :=
      (htraceable (l₁ ++ [c]) l₂ (by simp) c.post hafter).2.1 hmarked
    rw [Machine.eventsOf_append, List.mem_append] at hevent
    rcases hevent with hevent | hevent
    · rw [(executed_iff hbefore I digest).2 (.inl ⟨event, hevent, hreports⟩)] at hopen
      cases hopen
    · simp [eventsOf, hnone] at hevent
  · rintro hquiet l₁ l₂ rfl s hs
    refine ⟨attestations_traceable hs I digest, ?_⟩
    rw [ExecutionTraced, executed_iff hs, or_iff_left]
    rintro ⟨c, hc, hexecs⟩
    exact hquiet c (List.mem_append_left _ hc) hexecs

/-- **The status of messages is traceable from events** in the histories without `execMessage`, and
in no others. For a single message, under any integrator, the attestations are traceable in every
history; the whole status is unless `execMessage` marked this message. -/
theorem status_traceable_iff (h : (machine E).Path .init log t) :
    ((∀ I digest, StatusTraceable E I digest log) ↔
      ∀ c ∈ log, c.input.isExec = false) ∧
    ∀ I digest, AttestationsTraced I digest log t ∧
      (StatusTraceable E I digest log ↔ ∀ c ∈ log, ¬ c.input.Execs E I digest) := by
  refine ⟨?_, fun I digest => ⟨attestations_traceable h I digest, statusTraceable_iff h I digest⟩⟩
  simp only [statusTraceable_iff h]
  constructor
  · intro hquiet c hc
    rw [← Bool.not_eq_true, Op.isExec_iff]
    rintro ⟨msg, args, hop⟩
    exact hquiet msg.sender _ c hc ⟨msg, args, hop, rfl, rfl⟩
  · rintro hquiet I digest c hc ⟨msg, args, hop, -, -⟩
    exact Bool.eq_false_iff.1 (hquiet c hc) (Op.isExec_iff.2 ⟨msg, args, hop⟩)

/-- The sample history without its last call: the message is received. -/
theorem status_traceable_sample :
    (execAll sampleEnv State.init (sampleTxs.take 5)).2.length = 5 ∧
      ∀ I digest, StatusTraceable sampleEnv I digest
        (execAll sampleEnv State.init (sampleTxs.take 5)).2 := by
  exact ⟨by decide +kernel, (status_traceable_iff
    (execAll_path sampleEnv State.init (sampleTxs.take 5))).1.2 (by decide +kernel)⟩

/-- The integrator marks a message as executed. -/
def execTxs : List Tx := [.mk ⟨10#160, 0⟩ (.execMessage sampleArgs) []]

/-- No event says that the message is executed. -/
theorem exec_not_traceable :
    ¬ ∀ (E : Env) (log : Log) (s : State), (machine E).Path .init log s →
      ∀ I digest, StatusTraceable E I digest log := by
  intro htraceable
  have hpath := execAll_path sampleEnv State.init execTxs
  have htraced := (htraceable _ _ _ hpath 10#160
    (computeMessageDigest sampleEnv (inbound sampleEnv 10#160 sampleArgs)) _ []
    (List.append_nil _).symm _ hpath).2
  have hnone : eventsOf Receipt.events (execAll sampleEnv State.init execTxs).2 = [] := by
    decide +kernel
  rw [ExecutionTraced, hnone] at htraced
  obtain ⟨event, hevent, -⟩ := htraced.1 (by decide +kernel)
  cases hevent

end GmpRouter.Evm
