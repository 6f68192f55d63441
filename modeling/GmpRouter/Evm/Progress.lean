import GmpRouter.Evm.Availability
import GmpRouter.Evm.Network

/-!
# Messages that are not stuck on the EVM endpoint

A transaction that sends a message has handed it over when it succeeds (`exec_handsOver`), however
calls nest. A message that is ready to be attested by an adapter can be received, and the trace of
the transactions for that is the one that the network expects (`exists_receives`).
-/

namespace GmpRouter.Evm

open Endpoint AdapterRegistry
open GmpRouter.Bitmap (indices)

variable {D : Env} {s t u : State} {log log' : Log} {m : Message} {r : Receipt} {I A : Address}
  {args : RecvMessageArgs}

/-! ## Sending -/

/-- What is sent in the log is handed over in it. -/
def HandsOver (D : Env) (log : Log) : Prop :=
  ∀ m, .sends m ∈ log.map (event D) → .handsOver m ∈ log.map (event D)

theorem HandsOver.append (h : HandsOver D log) (h' : HandsOver D log') :
    HandsOver D (log ++ log') := by
  intro m hm
  rw [List.map_append, List.mem_append] at hm ⊢
  exact hm.imp (h m) (h' m)

theorem handsOver_of_ne {c : Commit State Op Receipt}
    (hc : ∀ frame, c.output.ret ≠ .sending frame) : HandsOver D [c] := by
  intro m hm
  obtain ⟨frame, hret, -⟩ := event_eq_sends (List.mem_singleton.1 hm).symm
  exact absurd hret (hc frame)

/-- A frame has adapters to call. -/
theorem sendAdapters_ne_nil {op : Op} {frame : Sending} (hstep : step D s op = .ok (t, r))
    (hret : r.ret = .sending frame) : frame.sendAdapters ≠ [] := by
  cases step_effect hstep with
  | send _ _ hne _ =>
    obtain rfl := Return.sending.inj hret
    exact hne
  | admin h => cases h <;> cases hret
  | configure _ hrun => exact absurd hret (Change.run_ret_ne_sending hrun frame)
  | inbox h => cases h <;> cases hret
  | forward | sent => cases hret

mutual

/-- **A transaction hands over what it sends.** -/
theorem exec_handsOver (D : Env) {s t : State} {log : Log} (tx : Tx)
    (h : exec D s tx = .ok (t, log)) : HandsOver D log := by
  obtain ⟨msg, call, replies⟩ := tx
  obtain ⟨u, r, hcall, hrest⟩ := exec_inv h
  rcases hrest with ⟨frame, l, r', hframe, hloop, hsent, rfl⟩ | ⟨hleaf, rfl, rfl⟩
  · have hstep : step D s (.call msg call) = .ok (u, r) := hcall
    obtain ⟨hl, hfirst⟩ := sendLoop_handsOver D frame frame.sendAdapters replies hloop
    have hlast : HandsOver D [⟨t, .sent frame, r', t⟩] := by
      refine handsOver_of_ne fun frame' hret => ?_
      obtain ⟨-, rfl⟩ := Prod.mk.inj (pure_eq_ok.1 hsent)
      cases hret
    intro m hm
    rw [List.cons_append, List.map_cons, List.mem_cons] at hm ⊢
    rcases hm with hm | hm
    · -- the message of the transaction itself
      rw [event_of_sending (c := ⟨s, .call msg call, r, u⟩) hstep hframe] at hm
      obtain rfl := Network.Event.sends.inj hm
      rw [List.map_append]
      exact .inr (List.mem_append_left _ (hfirst (sendAdapters_ne_nil hstep hframe)))
    · exact .inr (hl.append hlast m hm)
  · exact handsOver_of_ne hleaf

theorem sendLoop_handsOver (D : Env) (frame : Sending) {s t : State} {log : Log}
    (sendAdapters : List PerSendAdapterInfo) (replies : List Reply)
    (h : sendLoop D frame s sendAdapters replies = .ok (t, log)) :
    HandsOver D log ∧ (sendAdapters ≠ [] → .handsOver (frame.message D) ∈ log.map (event D)) := by
  cases sendAdapters with
  | nil =>
    obtain ⟨rfl, rfl⟩ := sendLoop_nil_eq_ok.1 h
    exact ⟨fun m hm => absurd hm (by simp), fun hne => absurd rfl hne⟩
  | cons adapter sendAdapters =>
    cases replies with
    | nil => exact absurd h sendLoop_ne_ok
    | cons reply replies =>
      obtain ⟨price, calls, returns⟩ := reply
      obtain ⟨inst, deliveryPrice, u, r, log', -, -, hforward, -, hloop, rfl⟩ :=
        sendLoop_cons_eq_ok.1 h
      have hfirst :
          HandsOver D [⟨s, .forward adapter.addr frame inst.payload deliveryPrice, r, u⟩] := by
        refine handsOver_of_ne fun frame' hret => ?_
        cases step_effect hforward with
        | forward => cases hret
      have hcalls := execAll_handsOver D u calls
      have hrest := (sendLoop_handsOver D frame sendAdapters replies hloop).1
      exact ⟨hfirst.append (hcalls.append hrest), fun _ => List.mem_cons_self ..⟩

theorem execAll_handsOver (D : Env) (s : State) (txs : List Tx) :
    HandsOver D (execAll D s txs).2 := by
  cases txs with
  | nil => exact fun m hm => absurd hm (by simp [execAll])
  | cons tx txs =>
    rw [execAll]
    split
    · next t log h => exact (exec_handsOver D tx h).append (execAll_handsOver D t txs)
    · exact execAll_handsOver D s txs

end

/-! ## Receiving -/

/-- A path of transactions is an execution. -/
theorem execAll_of_path {l : List (Commit State Tx Log)} (h : (txMachine D).Path s l t) :
    execAll D s (l.map Commit.input) = (t, l.flatMap Commit.output) := by
  induction h with
  | nil => rfl
  | @snoc l c _ hc ih =>
    have hexec : exec D c.pre c.input = .ok (c.post, c.output) := hc
    rw [List.map_append, List.map_singleton, execAll_append, ih, List.flatMap_append,
      List.flatMap_singleton]
    simp only [execAll, hexec, List.append_nil]

/-- No adapter is enabled for messages from chain 0. -/
theorem recvBitmap_zero_invariant (D : Env) (I : Address) :
    (machine D).Invariant fun s => s.perChainRecvAdapterBitmap I 0#16 = 0#128 := by
  intro s op r t hstep hs
  cases step_effect hstep with
  | @configure msg J change registry r _ hrun =>
    have hkeep : ∀ {chain : ChainId} {b : BitVec 128}, chain ≠ 0#16 →
        update₂ s.perChainRecvAdapterBitmap J chain b I 0#16 = 0#128 := by
      intro chain b hchain
      rw [update₂_of_ne fun heq => hchain heq.2.symm]
      exact hs
    cases change with
    | enableRecvAdapter =>
      obtain ⟨hregistered, -, rfl, -⟩ := enableRecvAdapter_eq_ok.1 hrun
      exact hkeep hregistered.chain_ne
    | disableRecvAdapter =>
      obtain ⟨hregistered, -, rfl, -⟩ := disableRecvAdapter_eq_ok.1 hrun
      exact hkeep hregistered.chain_ne
    | _ =>
      obtain rfl := Change.effect_of_run hrun
      exact hs
  | _ => exact hs

/-- A transaction in which no adapter is called is one step. -/
theorem log_of_exec {msg : Msg} {call : Call} (h : exec D s (.mk msg call []) = .ok (t, log)) :
    ∃ r, dispatch D s msg call = .ok (t, r) ∧ log = [⟨s, .call msg call, r, t⟩] := by
  obtain ⟨u, r, hcall, hrest⟩ := exec_inv h
  rcases hrest with ⟨frame, l, r', hframe, hloop, -, -⟩ | ⟨-, rfl, rfl⟩
  · have hstep : step D s (.call msg call) = .ok (u, r) := hcall
    obtain ⟨adapter, rest, hcons⟩ := List.exists_cons_of_ne_nil (sendAdapters_ne_nil hstep hframe)
    rw [hcons] at hloop
    exact absurd hloop sendLoop_ne_ok
  · exact ⟨r, hcall, rfl⟩

theorem event_of_received {value : ℕ} {enabled attested : Finset ℕ}
    (h : r.received.map (Prod.map indices indices) = some (enabled, attested)) :
    event D ⟨s, .call ⟨I, value⟩ (.recvMessage args), r, t⟩ =
      .receives (inbound D I args) attested.card := by
  obtain ⟨⟨b, b'⟩, hb, heq⟩ := Option.map_eq_some_iff.1 h
  obtain ⟨-, rfl⟩ := Prod.mk.inj heq
  unfold Receipt.received at hb
  split at hb
  · next hret =>
    obtain ⟨rfl, rfl⟩ := Prod.mk.inj (Option.some.inj hb)
    simp only [event, hret]
  · cases hb

/-- **A message that is ready is delivered** by two transactions, the attestation of the adapter and
the receipt. -/
theorem exists_receives (hk : CollisionFree D.keccak) {l : List (Commit State Tx Log)}
    (h : (txMachine D).Path .init l s) (hready : (ballot D I args 0).Ready l s A) :
    ∃ ext t, (txMachine D).Path .init (l ++ ext) t ∧
      Network.Delivers (fromAddress A) (inbound D I args)
        ((ext.flatMap Commit.output).map (event D)) := by
  have hchain : args.srcChain ≠ 0#16 := by
    rintro hzero
    obtain ⟨-, i, -, -, henabled⟩ := hready
    rw [hzero, (path_of_txMachine h).invariant (recvBitmap_zero_invariant D I) rfl] at henabled
    simp at henabled
  have hvote : ∀ c, (txMachine D).Valid c → c.input = (ballot D I args 0).vote A →
      ∃ r, c.output = [⟨c.pre, .call ⟨A, 0⟩ (.attestMessage (inbound D I args)), r, c.post⟩] := by
    rintro ⟨s, tx, log, t⟩ hc rfl
    obtain ⟨r, -, hlog⟩ := log_of_exec hc
    exact ⟨r, hlog⟩
  obtain ⟨votes, c, enabled, attested, i, hpath, hc, hvotes, hinput, hreported, hi⟩ :=
    (delivers hk I args hchain 0).exists_path h hready fun c hc hinput => by
      obtain ⟨r, hlog⟩ := hvote c hc hinput
      simp [ballot, hlog, Op.consumes]
  refine ⟨_, _, hpath, (votes.flatMap Commit.output).map (event D), attested.card, ?_,
    Finset.card_pos.2 ⟨i, hi⟩, ?_⟩
  · have hexec : exec D c.pre c.input = .ok (c.post, c.output) := hc
    rw [hinput] at hexec
    obtain ⟨r, -, hlog⟩ := log_of_exec hexec
    rw [hlog] at hreported
    rw [List.flatMap_append, List.flatMap_singleton, List.map_append, hlog, List.map_singleton,
      event_of_received hreported]
  · intro e he
    obtain ⟨d, hd, rfl⟩ := List.mem_map.1 he
    obtain ⟨c, hc', hdc⟩ := List.mem_flatMap.1 hd
    obtain ⟨r, hlog⟩ := hvote c (hvotes c hc').1 (hvotes c hc').2
    rw [hlog, List.mem_singleton] at hdc
    rw [hdc]
    rfl

end GmpRouter.Evm
