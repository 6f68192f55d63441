import GmpRouter.Evm.Refinement
import GmpRouter.Evm.Sequences
import GmpRouter.Foundations.Simulation

/-!
# Executions of the EVM endpoint are runs of the router

The router lets adapters pick a sent message up when they like; the EVM endpoint calls them while it
sends. An execution is nevertheless a run of the router, in which each call of an adapter picks the
message up. Between them other calls may nest, but only the message of the frame waits for the
adapters that are still to be called, and none waits once the transaction ends
(`router_refinement`).
-/

namespace GmpRouter.Evm

open Endpoint
open GmpRouter.Bitmap (indices)

variable {D : Env} {s t : State} {a b : Router.State} {op : Op} {r : Receipt} {log : Log}
  {frame : Sending} {info : PerSendAdapterInfo} {infos : List PerSendAdapterInfo}
  {outbox : UniversalAddress → BitVec 64 → Option Router.Outgoing}

/-! ## Messages between the calls of the loop -/

/-- The message of the frame in the outbox of the router, while the adapters are still to be
called. -/
def Sending.outgoing (frame : Sending) (infos : List PerSendAdapterInfo) : Option Router.Outgoing :=
  if sendIndices infos = ∅ then none
  else some ⟨frame.args.dstChain, frame.args.dstAddr, frame.args.payloadHash, sendIndices infos⟩

/-- The adapters are those of the integrator with the indices. -/
def Knows (a : Router.State) (I : UniversalAddress) (infos : List PerSendAdapterInfo) : Prop :=
  ∃ c, a.integrators I = some c ∧
    ∀ info ∈ infos, c.adapters.idxOf? (fromAddress info.addr) = some info.index.toNat

theorem Knows.grows {I : UniversalAddress} (h : Knows a I infos) (hgrows : Router.Grows a b) :
    Knows b I infos := by
  obtain ⟨c, hc, hindex⟩ := h
  obtain ⟨c', hc', hprefix, -⟩ := hgrows _ _ hc
  refine ⟨c', hc', fun info hinfo => ?_⟩
  have hi := hindex info hinfo
  exact (Router.idxOf?_of_isPrefix hprefix (List.idxOf?_eq_some_iff.1 hi).1).2 hi

/-- What the loop has to do with the adapters that are still to be called. -/
structure Waits (outbox : UniversalAddress → BitVec 64 → Option Router.Outgoing) (a : Router.State)
    (frame : Sending) (infos : List PerSendAdapterInfo) : Prop where
  free : outbox frame.sender frame.sequence = none
  outbox_eq : a.outbox = update₂ outbox frame.sender frame.sequence (frame.outgoing infos)
  knows : Knows a frame.sender infos
  nodup : (infos.map fun info => info.index.toNat).Nodup

namespace Waits

/-- When all were called, the outbox is as it was. -/
theorem outbox_eq_of_nil (h : Waits outbox a frame []) : a.outbox = outbox := by
  rw [h.outbox_eq]
  exact update₂_eq_self h.free

theorem of_outbox_eq (h : Waits outbox a frame infos) (hb : b.outbox = a.outbox)
    (hgrows : Router.Grows a b) : Waits outbox b frame infos :=
  ⟨h.free, hb.trans h.outbox_eq, h.knows.grows hgrows, h.nodup⟩

theorem sendIndices_cons (h : Waits outbox a frame (info :: infos)) :
    (sendIndices (info :: infos)).erase info.index.toNat = sendIndices infos := by
  have hnotMem : info.index.toNat ∉ sendIndices infos := by
    simpa [sendIndices] using (List.nodup_cons.1 h.nodup).1
  rw [sendIndices, List.map_cons, List.toFinset_cons]
  exact Finset.erase_insert hnotMem

/-- The next adapter picks the message up. -/
theorem pickUp (h : Waits outbox a frame (info :: infos)) (hash : Message → Digest) :
    ∃ b message, Router.step hash a (.pickUp (fromAddress info.addr) frame.sender frame.sequence) =
      .ok (b, .pickedUp message) ∧ b.integrators = a.integrators ∧ b.inbox = a.inbox ∧
      Waits outbox b frame infos := by
  obtain ⟨c, hc, hindex⟩ := h.knows
  have hmem : info.index.toNat ∈ sendIndices (info :: infos) := by simp [sendIndices]
  have hmessage : a.outbox frame.sender frame.sequence = some ⟨frame.args.dstChain,
      frame.args.dstAddr, frame.args.payloadHash, sendIndices (info :: infos)⟩ := by
    rw [h.outbox_eq, update₂_self, Sending.outgoing, if_neg (Finset.ne_empty_of_mem hmem)]
  refine ⟨_, _, Router.pickUp_eq_ok.2 ⟨c, _, _, hc, hmessage,
    hindex info (List.mem_cons_self ..), hmem,
    rfl, rfl⟩, rfl, rfl, h.free, ?_, ⟨c, hc, fun info' hinfo =>
      hindex info' (List.mem_cons_of_mem _ hinfo)⟩, (List.nodup_cons.1 h.nodup).2⟩
  simp only [h.outbox_eq, h.sendIndices_cons, update₂_update₂]
  rfl

end Waits

/-! ## Steps of a send -/

namespace Refines

/-- The adapters of an array have different indices. -/
theorem nodup_indices (h : Refines D s a) (I : Address) (chain : ChainId) :
    ((s.perChainSendAdapterArray I chain).map fun info => info.index.toNat).Nodup := by
  have haddrs := h.sendInv.nodup I chain
  refine List.Nodup.map_on (fun info hinfo info' hinfo' hsame => ?_) haddrs.of_map
  refine List.inj_on_of_nodup_map haddrs hinfo hinfo' ?_
  have hreg := h.sendInv.adapterInfos_eq I chain info hinfo
  have hreg' := h.sendInv.adapterInfos_eq I chain info' hinfo'
  refine ((h.eq_iff_index (A := info.addr) (by rw [hreg]) (by rw [hreg'])).2 ?_).symm
  rw [hreg, hreg', hsame]

/-- The part of `sendMessage` before its loop. -/
theorem send (h : Refines D s a) (hstep : step D s op = .ok (t, r))
    (hret : r.ret = .sending frame) : ∃ rop b, op.operation D = some rop ∧
      Router.step (computeMessageDigest D) a rop = .ok (b, .sequence frame.sequence) ∧
      Refines D t b ∧ Waits a.outbox b frame frame.sendAdapters := by
  cases step_effect hstep with
  | @send msg args mem adapterInst hinst hchain hne hmax =>
    obtain rfl := Return.sending.inj hret
    have hinfos := fun info hinfo => h.sendInv.adapterInfos_eq msg.sender args.dstChain info hinfo
    cases hc : a.integrators (fromAddress msg.sender) with
    | none =>
      exact absurd (congrArg (fun config => config.registry.perChainSendAdapterArray args.dstChain)
        (h.represents.blank hc).configuration) hne
    | some c =>
      have hI := h.represents.describes hc
      have hindices : sendIndices (s.perChainSendAdapterArray msg.sender args.dstChain) ≠ ∅ := by
        simpa [sendIndices] using hne
      have hrouter : Router.step (computeMessageDigest D) a
          (.send (fromAddress msg.sender) args.dstChain
          args.dstAddr args.payloadHash) = .ok (_, _) := Router.send_eq_ok.2
        ⟨c, hc, hI.sendEnabled args.dstChain ▸ hindices, hI.nextSequence ▸ hmax, rfl, rfl⟩
      rw [hI.nextSequence, hI.sendEnabled] at hrouter
      refine ⟨_, _, rfl, hrouter, h.of_step hstep hrouter ?_, ?_⟩
      · have hset : Represents D { s.credit msg.value with
            messageSequence := Function.update s.messageSequence msg.sender
              (s.messageSequence msg.sender + 1#64) }
            (a.setIntegrator (fromAddress msg.sender)
              { c with nextSequence := s.messageSequence msg.sender + 1#64 }) := by
          refine h.represents.setIntegrator { hI with nextSequence := ?_ }
            (fun J hJ => ⟨rfl, rfl, Function.update_of_ne hJ ..⟩) rfl
          simp only [Function.update_self]
        exact hset.of_integrators rfl rfl rfl rfl hset.inbox
      · refine ⟨?_, ?_, ⟨_, Router.setIntegrator_self .., fun info hinfo => ?_⟩, ?_⟩
        · -- the number is new
          by_contra hused
          obtain ⟨message, hmessage⟩ := Option.ne_none_iff_exists'.1 hused
          obtain ⟨-, c', hc', hlt, -⟩ := h.inv.outbox _ _ _ hmessage
          obtain rfl : c = c' := Option.some.inj (hc.symm.trans hc')
          rw [hI.nextSequence] at hlt
          exact BitVec.lt_irrefl _ hlt
        · simp only [Sending.outgoing, if_neg hindices]
        · refine (h.receives.idxOf?_eq_some h.counted.registry hc).2 ?_
          rw [hinfos info hinfo]
          exact ⟨rfl, rfl⟩
        · exact h.nodup_indices msg.sender args.dstChain
  | admin | forward => cases hret
  | configure _ hrun => exact absurd hret (AdapterRegistry.Change.run_ret_ne_sending hrun frame)
  | inbox hinbox => cases hinbox <;> cases hret
  | sent => cases hret

theorem forward (h : Refines D s a) {payload : List Byte} {price : ℕ}
    (hstep : step D s (.forward info.addr frame payload price) = .ok (t, r))
    (hwaits : Waits outbox a frame (info :: infos)) :
    ∃ b message, Router.step (computeMessageDigest D) a
        (.pickUp (fromAddress info.addr) frame.sender frame.sequence) = .ok (b, .pickedUp message) ∧
      Refines D t b ∧ Waits outbox b frame infos := by
  obtain ⟨b, message, hrouter, hintegrators, hinbox, hwaits'⟩ :=
    hwaits.pickUp (computeMessageDigest D)
  refine ⟨b, message, hrouter, h.of_step hstep hrouter ?_, hwaits'⟩
  cases step_effect hstep with
  | forward =>
    exact h.represents.of_integrators rfl rfl rfl hintegrators fun I m hm =>
      hinbox ▸ h.represents.inbox I m hm

end Refines

/-! ## Executions -/

/-- A commit and the step of the router that it is. -/
structure Corresponds (D : Env) (c : Commit State Op Receipt)
    (d : Commit Router.State Router.Op Router.Out) : Prop where
  pre : Represents D c.pre d.pre
  post : Represents D c.post d.post
  operation : c.input.operation D = some d.input
  reports : Reports c.output d.output

/-- The commits that are steps of the router: all but the ends of `sendMessage`. -/
def performs (D : Env) (c : Commit State Op Receipt) : Bool := (c.input.operation D).isSome

/-- The log is a run of the router. -/
abbrev RunsAs (D : Env) (a : Router.State) (log : Log) (b : Router.State) : Prop :=
  Machine.Accompanies (Router.machine (computeMessageDigest D)) (Corresponds D) (performs D) a log b

theorem RunsAs.grows (h : RunsAs D a log b) : Router.Grows a b := by
  obtain ⟨l, hpath, -⟩ := h
  exact Router.grows_of_path hpath

mutual

theorem exec_runsAs (hk : CollisionFree D.keccak) {s t : State} {a : Router.State} {log : Log}
    (tx : Tx) (h : exec D s tx = .ok (t, log))
    (hregular : ∀ c ∈ log, c.input.Regular c.pre) (hs : Refines D s a) :
    ∃ b, RunsAs D a log b ∧ Refines D t b ∧ b.outbox = a.outbox := by
  obtain ⟨msg, call, replies⟩ := tx
  obtain ⟨u, r, hcall, hrest⟩ := exec_inv h
  rcases hrest with ⟨frame, l, r', hframe, hloop, hsent, rfl⟩ | ⟨hleaf, rfl, rfl⟩
  · have hstep : step D s (.call msg call) = .ok (u, r) := hcall
    obtain ⟨rop, a', hop, hrouter, ha', hwaits⟩ := hs.send hstep hframe
    obtain ⟨b, hruns, hb, houtbox⟩ := sendLoop_runsAs hk frame frame.sendAdapters replies hloop
      (fun c hc => hregular c (by simp [hc])) ha' hwaits
    have hfirst : RunsAs D a [⟨s, .call msg call, r, u⟩] a' := by
      refine .single hrouter (by simp [performs, hop]) ⟨hs.represents, ha'.represents, hop, ?_, ?_⟩
      · rw [Receipt.received, hframe]
        rfl
      · rw [Receipt.sentSequence, hframe]
        rfl
    exact ⟨b, (hfirst.append hruns).append (.hidden rfl), hb, houtbox⟩
  · have hstep : step D s (.call msg call) = .ok (t, r) := hcall
    obtain ⟨b, o, hrouter, ht, houtbox, hreports⟩ :=
      hs.call hk hstep (hregular _ (List.mem_singleton_self _)) hleaf
    exact ⟨b, .single hrouter rfl ⟨hs.represents, ht, rfl, hreports⟩,
      hs.of_step hstep hrouter ht, houtbox⟩

theorem sendLoop_runsAs (hk : CollisionFree D.keccak) {s t : State} {a : Router.State} {log : Log}
    {outbox : UniversalAddress → BitVec 64 → Option Router.Outgoing} (frame : Sending)
    (infos : List PerSendAdapterInfo) (replies : List Reply)
    (h : sendLoop D frame s infos replies = .ok (t, log))
    (hregular : ∀ c ∈ log, c.input.Regular c.pre) (hs : Refines D s a)
    (hwaits : Waits outbox a frame infos) :
    ∃ b, RunsAs D a log b ∧ Refines D t b ∧ b.outbox = outbox := by
  cases infos with
  | nil =>
    obtain ⟨rfl, rfl⟩ := sendLoop_nil_eq_ok.1 h
    exact ⟨a, .nil, hs, hwaits.outbox_eq_of_nil⟩
  | cons info infos =>
    cases replies with
    | nil => exact absurd h sendLoop_ne_ok
    | cons reply replies =>
      obtain ⟨price, calls, returns⟩ := reply
      obtain ⟨inst, deliveryPrice, u, r, log', -, -, hforward, -, hloop, rfl⟩ :=
        sendLoop_cons_eq_ok.1 h
      obtain ⟨a₁, message, hrouter, ha₁, hwaits₁⟩ := hs.forward hforward hwaits
      obtain ⟨a₂, hnested, ha₂, houtbox⟩ := execAll_runsAs hk calls
        (fun c hc => hregular c (by simp [hc])) ha₁
      obtain ⟨b, hruns, hb, houtbox'⟩ := sendLoop_runsAs hk frame infos replies hloop
        (fun c hc => hregular c (by simp [hc])) ha₂ (hwaits₁.of_outbox_eq houtbox hnested.grows)
      have hret : r = { events := [] } := by
        cases step_effect hforward
        rfl
      have hfirst :
          RunsAs D a [⟨s, .forward info.addr frame inst.payload deliveryPrice, r, u⟩] a₁ := by
        have hpick : (Router.machine (computeMessageDigest D)).step a
            (.pickUp (fromAddress info.addr) frame.sender frame.sequence) =
              .ok (a₁, .pickedUp message) :=
          hrouter
        refine .single hpick rfl ⟨hs.represents, ha₁.represents, rfl, ?_⟩
        rw [hret]
        exact ⟨rfl, rfl⟩
      exact ⟨b, (hfirst.append hnested).append hruns, hb, houtbox'⟩

theorem execAll_runsAs (hk : CollisionFree D.keccak) {s : State} {a : Router.State} (txs : List Tx)
    (hregular : ∀ c ∈ (execAll D s txs).2, c.input.Regular c.pre) (hs : Refines D s a) :
    ∃ b, RunsAs D a (execAll D s txs).2 b ∧ Refines D (execAll D s txs).1 b ∧
      b.outbox = a.outbox := by
  cases txs with
  | nil => exact ⟨a, .nil, hs, rfl⟩
  | cons tx txs =>
    rw [execAll] at hregular ⊢
    cases h : exec D s tx with
    | ok x =>
      obtain ⟨t, log⟩ := x
      simp only [h] at hregular
      obtain ⟨a₁, hfirst, ha₁, houtbox⟩ := exec_runsAs hk tx h
        (fun c hc => hregular c (List.mem_append_left _ hc)) hs
      obtain ⟨b, hrest, hb, houtbox'⟩ := execAll_runsAs hk txs
        (fun c hc => hregular c (List.mem_append_right _ hc)) ha₁
      exact ⟨b, hfirst.append hrest, hb, houtbox'.trans houtbox⟩
    | error e =>
      simp only [h] at hregular
      exact execAll_runsAs hk txs hregular hs

end

/-- **The endpoint refines the router.** Every execution in which the zero address calls nothing and
no function of the registry is called during an admin transfer is a run of the router, whatever the
adapters do while they are called: commit by commit it is that of the router, from states that the
storage represents to such states and with the same sequence numbers and bitmaps, where the call of
an adapter picks the message up. Between transactions no message waits. -/
theorem router_refinement (hk : CollisionFree D.keccak) (txs : List Tx)
    (hregular : ∀ c ∈ (execAll D .init txs).2, c.input.Regular c.pre) :
    ∃ l b, (Router.machine (computeMessageDigest D)).Path {} l b ∧
      List.Forall₂ (Corresponds D) ((execAll D .init txs).2.filter (performs D)) l ∧
      Represents D (execAll D .init txs).1 b ∧ ∀ I sequence, b.outbox I sequence = none := by
  obtain ⟨b, ⟨l, hpath, hmatches⟩, hb, houtbox⟩ := execAll_runsAs hk txs hregular refines_init
  exact ⟨l, b, hpath, hmatches, hb.represents, fun I sequence => by rw [houtbox]⟩

theorem router_refinement_sample :
    ∃ l b, (Router.machine (computeMessageDigest ⟨id, 2#16⟩)).Path {} l b ∧ l.length = 8 ∧
      ∀ I sequence, b.outbox I sequence = none := by
  obtain ⟨l, b, hpath, hmatches, -, houtbox⟩ := router_refinement (D := ⟨id, 2#16⟩) collisionFree_id
    reentrantTxs (by decide +kernel)
  have hlength : ((execAll ⟨id, 2#16⟩ .init reentrantTxs).2.filter (performs ⟨id, 2#16⟩)).length =
      8 := by
    decide +kernel
  exact ⟨l, b, hpath, hmatches.length_eq.symm.trans hlength, houtbox⟩

end GmpRouter.Evm
