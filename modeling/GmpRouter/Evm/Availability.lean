import GmpRouter.Evm.RecvBitmap
import GmpRouter.Evm.Status
import GmpRouter.Foundations.Availability

/-!
# Messages that nothing stops on the EVM endpoint

The attestations of a message are a ballot, whose inputs are transactions. Whatever the other
transactions do, and whatever adapters call that are reentered, an adapter that is enabled can
attest a message until a part of a transaction disables it or consumes the message (`Attestable`),
so that the ballot delivers (`delivers`).
-/

namespace GmpRouter.Evm

open Endpoint
open GmpRouter.Bitmap (indices)

variable {D : Env} {s t : State} {op : Op} {r : Receipt} {log : Log} {I A : Address}
  {args : RecvMessageArgs} {i : ℕ} {msg : Msg} {call : Call}

/-! ## Transactions -/

/-- The endpoint with whole transactions as its steps. -/
def txMachine (D : Env) : Machine State Tx Error Log := ⟨exec D⟩

theorem exec_of_dispatch (h : dispatch D s msg call = .ok (t, r))
    (hleaf : ∀ frame, r.ret ≠ .sending frame) :
    exec D s (.mk msg call []) = .ok (t, [⟨s, .call msg call, r, t⟩]) := by
  rw [exec, h]
  dsimp only [bind, Except.bind]
  split
  · next frame hframe => exact absurd hframe (hleaf frame)
  · rfl

/-- The parts of transactions are a path. -/
theorem path_of_txMachine {l : List (Commit State Tx Log)} (h : (txMachine D).Path s l t) :
    (machine D).Path s (l.flatMap Commit.output) t := by
  induction h with
  | nil => exact .nil
  | snoc _ hc ih =>
    rw [List.flatMap_append, List.flatMap_singleton]
    exact ih.append (exec_trace D _ hc).path

/-! ## Messages that can be attested and received -/

/-- The adapter has the index, is enabled for the source chain, and the message is not consumed. -/
structure Attestable (D : Env) (s : State) (I : Address) (args : RecvMessageArgs) (A : Address)
    (i : ℕ) : Prop where
  counted : Counted s
  enabled : ListedRecvEnabled s I args.srcChain A
  index_eq : (s.adapterInfos I A).index.toNat = i
  executed : (record D s I (inbound D I args)).executed = false

/-- The part of a transaction disables the adapter or consumes the message. -/
def Op.closes (I : Address) (args : RecvMessageArgs) (A : Address) (op : Op) : Prop :=
  op.consumes I args = true ∨
    ∃ msg, op = .call msg (.configure I (.disableRecvAdapter args.srcChain A))

namespace Attestable

theorem step (h : Attestable D s I args A i) (hk : CollisionFree D.keccak)
    (hstep : step D s op = .ok (t, r)) (hop : ¬ op.closes I args A) :
    Attestable D t I args A i := by
  have hpath : (machine D).Path s [⟨s, op, r, t⟩] t := .single hstep
  have ht : Counted t := Counted.invariant D hstep h.counted
  have henabled : ListedRecvEnabled t I args.srcChain A :=
    ((switch_recvEnabled D I args.srcChain A).step hstep h.counted.registry).2
      (.inr ⟨h.enabled, fun hoff => hop (.inr hoff)⟩)
  have hget := getElem?_index_of_path hpath h.counted.registry.wellFormed h.enabled.1
  refine ⟨ht, henabled, ?_, Bool.not_eq_true _ ▸ fun hexecuted => ?_⟩
  · rw [((ht.registry.wellFormed.lookup I A _).1 hget).2, h.index_eq]
  · rcases ((latch_executed hk I args).step hstep trivial).1 hexecuted with hold | hconsumes
    · rw [h.executed] at hold
      cases hold
    · exact hop (.inl hconsumes)

theorem path (h : Attestable D s I args A i) (hk : CollisionFree D.keccak)
    (hpath : (machine D).Path s log t) (hquiet : ∀ c ∈ log, ¬ c.input.closes I args A) :
    Attestable D t I args A i := by
  refine Machine.Path.invariant_on (P := fun op => ¬ op.closes I args A)
    (I := fun s => Attestable D s I args A i) (fun s op r t hstep hop hs => ?_) hpath hquiet h
  exact hs.step hk hstep hop

theorem attest (h : Attestable D s I args A i) (hchain : args.srcChain ≠ 0#16)
    (hnew : i ∉ indices (record D s I (inbound D I args)).attestedAdapters) :
    ∃ t r, Evm.step D s (.call ⟨A, 0⟩ (.attestMessage (inbound D I args))) = .ok (t, r) ∧
      (∀ frame, r.ret ≠ .sending frame) ∧
      i ∈ indices (record D t I (inbound D I args)).attestedAdapters := by
  obtain rfl := h.index_eq
  have hreg := h.enabled.1
  have hmay : MayAttest D s ⟨A, 0⟩ (inbound D I args) I :=
    ⟨rfl, rfl, rfl, ⟨h.counted.registry.ne_zero hreg, hchain, hreg⟩, h.enabled.2⟩
  obtain ⟨t, r, hstep⟩ := hmay.exists_step h.counted hnew
  obtain ⟨J, hatt⟩ := attestedOnce_of_step h.counted hstep
  obtain rfl : J = I := fromAddress_injective hatt.mayAttest.dstAddr_eq.symm
  refine ⟨t, r, hstep, ?_, ?_⟩
  · cases step_effect hstep with
    | admin h => cases h
    | inbox h =>
      cases h with
      | attest => simp
  · rw [hatt.indices_eq]
    exact Finset.mem_insert_self ..

theorem recv (h : Attestable D s I args A i) (hchain : args.srcChain ≠ 0#16) (value : ℕ)
    (hi : i ∈ indices (record D s I (inbound D I args)).attestedAdapters) :
    ∃ t r, Evm.step D s (.call ⟨I, value⟩ (.recvMessage args)) = .ok (t, r) ∧
      (∀ frame, r.ret ≠ .sending frame) ∧
      r.received.map (Prod.map indices indices) =
        some (indices (s.perChainRecvAdapterBitmap I args.srcChain),
          indices (record D s I (inbound D I args)).attestedAdapters) := by
  have haccepted : ∃ x, Evm.step D s (.call ⟨I, value⟩ (.recvMessage args)) = .ok x :=
    exists_recvMessage_iff.2 ⟨hchain, Bitmap.ne_zero_iff.2 ⟨_, h.enabled.2⟩,
      Bitmap.ne_zero_iff.2 ⟨_, hi⟩, h.executed⟩
  obtain ⟨⟨t, r⟩, hstep⟩ := haccepted
  obtain ⟨info, rfl, hret⟩ := recvMessage_received hstep
  refine ⟨t, r, hstep, by simp [hret], ?_⟩
  rw [Receipt.received, hret]
  rfl

end Attestable

/-! ## The ballot -/

/-- The adapters vote for a message to the integrator by attesting it, each in a transaction, and
the integrator consumes it. -/
def ballot (D : Env) (I : Address) (args : RecvMessageArgs) (value : ℕ) :
    Ballot State Tx Log Address where
  countsAt s A i := (s.adapterInfos I A).registered = true ∧ (s.adapterInfos I A).index.toNat = i ∧
    i ∈ indices (s.perChainRecvAdapterBitmap I args.srcChain)
  excludes A c := ∃ d ∈ c.output, ∃ msg,
    d.input = .call msg (.configure I (.disableRecvAdapter args.srcChain A))
  consumes c := ∃ d ∈ c.output, d.input.consumes I args = true
  vote A := .mk ⟨A, 0⟩ (.attestMessage (inbound D I args)) []
  consume := .mk ⟨I, value⟩ (.recvMessage args) []
  reported log := log.head?.bind fun c => c.output.received.map (Prod.map indices indices)

/-- **The attestations of a message deliver on the EVM endpoint.** -/
theorem delivers (hk : CollisionFree D.keccak) (I : Address) (args : RecvMessageArgs)
    (hchain : args.srcChain ≠ 0#16) (value : ℕ) :
    (ballot D I args value).Delivers (txMachine D) .init := by
  refine Ballot.delivers (fun A i s => Attestable D s I args A i)
    (fun s => indices (s.perChainRecvAdapterBitmap I args.srcChain))
    (fun s => indices (record D s I (inbound D I args)).attestedAdapters) ?_ ?_ ?_ ?_
  · rintro l s A i hpath hfresh ⟨hreg, rfl, henabled⟩
    have hparts := path_of_txMachine hpath
    refine ⟨hparts.invariant (Counted.invariant D) .init, ⟨hreg, henabled⟩, rfl,
      Bool.not_eq_true _ ▸ fun hexecuted => ?_⟩
    obtain ⟨d, hd, hconsumes⟩ := ((latch_executed hk I args).iff_exists hparts trivial).1 hexecuted
      |>.resolve_left (by simp [record, State.init])
    obtain ⟨c, hc, hdc⟩ := List.mem_flatMap.1 hd
    exact hfresh c hc ⟨d, hdc, hconsumes⟩
  · intro A i
    constructor
    · intro s tx log t hexec h hquiet
      refine h.path hk (exec_trace D tx hexec).path fun c hc hcloses => hquiet ?_
      exact hcloses.imp (fun hconsumes => ⟨c, hc, hconsumes⟩) fun hdisables => ⟨c, hc, hdisables⟩
    · intro s tx log t hexec h hi
      exact (latch_attested hk I args i).mono (exec_trace D tx hexec).path
        h.counted.registry.wellFormed hi
    · intro s h hnew
      obtain ⟨t, r, hstep, hleaf, hi⟩ := h.attest hchain hnew
      exact ⟨t, _, exec_of_dispatch hstep hleaf, hi⟩
  · rintro A i s h
    obtain rfl := h.index_eq
    exact h.enabled.2
  · intro A i s h hi
    obtain ⟨t, r, hstep, hleaf, hreceived⟩ := h.recv hchain value hi
    exact ⟨t, _, exec_of_dispatch hstep hleaf, hreceived⟩

end GmpRouter.Evm
