import Mathlib.Data.Fintype.Card
import SparkPipe.Node.RankDaemon.Ordering

/-!
# Packets that are delivered again

A packet may be delivered any number of times. As long as the ledger remembers its transaction, the
engine accepts it once at most, it is queued once at most, and a further delivery is answered from
the ledger, without looking at the content. The queue is looked at before the ledger: while it is
full, a further delivery is told that there is no room.
-/

open Program

namespace SparkPipe

open WorkControl List

namespace RankDaemon

open RankDaemonCore

variable {seams : DaemonSeams} {s s' : RankDaemon seams} {head : QueuedWork}
  {rest : List QueuedWork} {attempt : Attempt} {packet : WorkControlPacket} {count : Nat}
  {other : WorkControlPacket} {core : RankDaemonCore}

/-- Whether the engine has accepted a packet of a transaction. -/
def acceptsOf (id : Identity) (submission : Submission) : Bool :=
  submission.accepted && identity submission.packet = id

/-- How often the engine has accepted a packet of a transaction, after a number of calls. -/
def acceptedCount (s : RankDaemon seams) (count : Nat) (id : Identity) : Nat :=
  (s.submissions.drop count).countP (acceptsOf id)

/-- The work on the head concerns its transaction only, and ends its acceptance. -/
structure Effect (s : RankDaemon seams) (packet : WorkControlPacket) (s' : RankDaemon seams) :
    Prop where
  workConfig : s'.core.workConfig = s.core.workConfig
  rankPlan : s'.core.rankPlan = s.core.rankPlan
  others : ∀ id, id ≠ identity packet → s'.core.mark id = s.core.mark id
  calls : (∃ calls, s'.submissions = s.submissions ++ calls ∧
      ∀ call ∈ calls, call.accepted = false) ∧
      (s'.core.mark (identity packet) = s.core.acceptedMark packet ∨
        s.FailedMark packet (s'.core.mark (identity packet))) ∨
    (∃ queue, s'.submissions = s.submissions ++ [⟨packet, queue, true⟩]) ∧
      s'.core.mark (identity packet) = launchedMark s.core packet

theorem Refusals.calls {entry : QueuedWork} {engine : seams.Engine}
    {submissions : List Submission} (h : s.Refusals entry rest engine submissions) :
    ∃ calls, submissions = s.submissions ++ calls ∧ ∀ call ∈ calls, call.accepted = false := by
  rcases h with ⟨rfl, -⟩ | ⟨rfl, -⟩
  · exact ⟨[], (append_nil _).symm, fun _ hmem => by cases hmem⟩
  · refine ⟨_, rfl, fun call hmem => ?_⟩
    rw [mem_singleton.mp hmem]

theorem Works.effect (h : s.Works head rest attempt s') : s.Effect head.packet s' := by
  have hnone : ∃ calls, s.submissions = s.submissions ++ calls ∧
      ∀ call ∈ calls, call.accepted = false :=
    ⟨[], (append_nil _).symm, fun _ hmem => by cases hmem⟩
  cases h with
  | waits _ _ _ _ _ hcore | popped _ _ _ _ _ _ hcore =>
    exact ⟨hcore.workConfig_eq, hcore.rankPlan_eq, fun id hne => hcore.mark_eq.trans (if_neg hne),
      .inl ⟨hnone, .inl (hcore.mark_eq.trans (if_pos rfl))⟩⟩
  | failed _ _ _ _ _ _ _ _ hsubmissions hcore hm =>
    refine ⟨hcore.workConfig_eq, hcore.rankPlan_eq,
      fun id hne => hcore.mark_eq.trans (if_neg hne), .inl ⟨hsubmissions.calls, .inr ?_⟩⟩
    rw [hcore.mark_eq, if_pos rfl]
    exact hm
  | parked _ _ _ _ _ _ _ _ _ hsubmissions hcore =>
    exact ⟨hcore.workConfig_eq, hcore.rankPlan_eq, fun id hne => hcore.mark_eq.trans (if_neg hne),
      .inl ⟨hsubmissions.calls, .inl (hcore.mark_eq.trans (if_pos rfl))⟩⟩
  | launched _ _ _ _ _ _ _ _ _ _ _ hbase hcore =>
    obtain ⟨lanes, count, waiting, overflow, rfl⟩ := hbase
    exact ⟨hcore.workConfig_eq, hcore.rankPlan_eq, fun id hne => hcore.mark_eq.trans (if_neg hne),
      .inr ⟨⟨_, rfl⟩, hcore.mark_eq.trans (if_pos rfl)⟩⟩

/-- The transaction is known by its content, and the engine accepted it once at most. -/
structure Remembers (count : Nat) (packet : WorkControlPacket) (s : RankDaemon seams) : Prop where
  coherent : s.core.Coherent
  admissible : s.core.Admissible packet
  calls : count ≤ s.submissions.length
  known : ∃ m, s.core.mark (identity packet) = some m ∧
    m.payloadFingerprint = s.core.fingerprint packet ∧
    (s.acceptedCount count (identity packet) = 0 ∨
      s.acceptedCount count (identity packet) = 1 ∧ m.state ≠ .accepted)

theorem admissible_congr {t t' : RankDaemonCore} (hconfig : t'.workConfig = t.workConfig)
    (hplan : t'.rankPlan = t.rankPlan) (h : t.Admissible packet) : t'.Admissible packet := by
  rw [Admissible, fingerprint, hconfig, hplan]
  exact h

theorem acceptedCount_append {calls : List Submission} {id : Identity}
    (hcount : count ≤ s.submissions.length) (h : s'.submissions = s.submissions ++ calls) :
    s'.acceptedCount count id = s.acceptedCount count id + calls.countP (acceptsOf id) := by
  rw [acceptedCount, acceptedCount, h, drop_append_of_le_length hcount, countP_append]

theorem Remembers.of_other (h : s.Remembers count packet) (hcoherent : s'.core.Coherent)
    (heffect : s.Effect other s')
    (hne : identity packet ≠ identity other) : s'.Remembers count packet := by
  obtain ⟨m, hm, hfp, hcalls⟩ := h.known
  obtain ⟨calls, hsubmissions, hnone⟩ : ∃ calls, s'.submissions = s.submissions ++ calls ∧
      calls.countP (acceptsOf (identity packet)) = 0 := by
    rcases heffect.calls with ⟨⟨calls, hsubmissions, hrefused⟩, -⟩ | ⟨⟨queue, hsubmissions⟩, -⟩
    · refine ⟨calls, hsubmissions, countP_eq_zero.mpr fun call hcall => ?_⟩
      rw [acceptsOf, hrefused call hcall]
      exact Bool.noConfusion
    · refine ⟨_, hsubmissions, countP_eq_zero.mpr fun call hcall => ?_⟩
      rw [mem_singleton.mp hcall, acceptsOf, decide_eq_false hne.symm]
      exact Bool.noConfusion
  refine ⟨hcoherent, admissible_congr heffect.workConfig heffect.rankPlan h.admissible, ?_,
    m, (heffect.others _ hne).trans hm, ?_, ?_⟩
  · rw [hsubmissions, length_append]
    exact h.calls.trans (Nat.le_add_right _ _)
  · rw [hfp, fingerprint, fingerprint, heffect.workConfig]
  · rw [acceptedCount_append h.calls hsubmissions, hnone]
    exact hcalls

theorem Remembers.of_head (h : s.Remembers count packet) (hcoherent : s'.core.Coherent)
    (hwaits : s.core.Waits head) (heffect : s.Effect head.packet s')
    (hsame : identity head.packet = identity packet) : s'.Remembers count packet := by
  obtain ⟨m, hm, hfp, hcalls⟩ := h.known
  -- the transaction is accepted, so the engine has not had the packet
  have hmark : m = ⟨s.core.fingerprint head.packet, .accepted, .pending⟩ := by
    rw [← hsame, hwaits.accepted] at hm
    exact (Option.some.inj hm).symm
  have hzero : s.acceptedCount count (identity packet) = 0 :=
    hcalls.resolve_right fun hone => hone.2 (by rw [hmark])
  have hhead : s.core.fingerprint head.packet = s.core.fingerprint packet := by
    rw [← hfp, hmark]
  have hfingerprint : s'.core.fingerprint packet = s.core.fingerprint packet := by
    rw [fingerprint, fingerprint, heffect.workConfig]
  have hadmissible := admissible_congr heffect.workConfig heffect.rankPlan h.admissible
  rcases heffect.calls with ⟨⟨calls, hsubmissions, hrefused⟩, hmark'⟩ |
    ⟨⟨queue, hsubmissions⟩, hmark'⟩
  · have hnone : calls.countP (acceptsOf (identity packet)) = 0 := by
      refine countP_eq_zero.mpr fun call hcall => ?_
      rw [acceptsOf, hrefused call hcall]
      exact Bool.noConfusion
    refine ⟨hcoherent, hadmissible, ?_, ?_⟩
    · rw [hsubmissions, length_append]
      exact h.calls.trans (Nat.le_add_right _ _)
    · rw [acceptedCount_append h.calls hsubmissions, hnone, hzero, hfingerprint, ← hsame]
      rcases hmark' with hmark' | ⟨-, hmark'⟩ | ⟨status, hmark'⟩
      · exact ⟨_, hmark', hhead, .inl rfl⟩
      · rw [hwaits.accepted] at hmark'
        exact ⟨_, hmark', hhead, .inl rfl⟩
      · rw [hwaits.accepted] at hmark'
        exact ⟨_, hmark', hhead, .inl rfl⟩
  · refine ⟨hcoherent, hadmissible, ?_, ?_⟩
    · rw [hsubmissions, length_append]
      exact h.calls.trans (Nat.le_add_right _ _)
    rw [acceptedCount_append h.calls hsubmissions, hzero, hfingerprint, ← hsame]
    have hone : [(⟨head.packet, queue, true⟩ : Submission)].countP
        (acceptsOf (identity head.packet)) = 1 := by
      rw [countP_singleton, acceptsOf, decide_eq_true rfl]
      rfl
    rw [hone, hmark', launchedMark]
    split_ifs
    · exact ⟨_, rfl, hhead, .inr ⟨rfl, LedgerState.noConfusion⟩⟩
    · exact ⟨_, rfl, hhead, .inr ⟨rfl, LedgerState.noConfusion⟩⟩

/-- The transaction is still known after a call. -/
def Retains (packet : WorkControlPacket) (s : RankDaemon seams) (op : DaemonOp) : Prop :=
  (op.exec s).core.mark (identity packet) ≠ none

instance (packet : WorkControlPacket) (s : RankDaemon seams) (op : DaemonOp) :
    Decidable (Retains packet s op) :=
  inferInstanceAs (Decidable ((op.exec s).core.mark (identity packet) ≠ none))

theorem Remembers.handles (h : s.Remembers count packet)
    {answer : SparkStatus}
    (hhandles : s.core.Handles other answer core)
    (hretained : core.mark (identity packet) ≠ none) :
    Remembers count packet { s with core := core } := by
  refine ⟨h.coherent.handles hhandles, ?_, h.calls, ?_⟩
  · refine admissible_congr ?_ ?_ h.admissible <;> cases hhandles <;> rfl
  obtain ⟨m, hm, hfp, hcalls⟩ := h.known
  have hkept {l : TransactionLedger} (hnone : s.core.mark (identity other) = none)
      (hrest : s.core.ledger.KeepsOthers (identity other) l)
      (hknown : l.mark (identity packet) ≠ none) : l.mark (identity packet) = some m := by
    have hne : identity packet ≠ identity other := by
      intro hsame
      rw [hsame, hnone] at hm
      cases hm
    rcases hrest _ hne with hsame | ⟨hgone, -⟩
    · exact hsame.trans hm
    · exact absurd hgone hknown
  cases hhandles with
  | refused | full => exact ⟨m, hm, hfp, hcalls⟩
  | known _ _ _ _ _ hsame | declined _ _ _ _ hsame =>
    exact ⟨m, (hsame _).trans hm, hfp, hcalls⟩
  | queued _ _ _ _ hnone _ hrest | failed _ _ _ _ hnone _ hrest =>
    exact ⟨m, hkept hnone hrest hretained, hfp, hcalls⟩

theorem endState_ne_accepted {transaction noted : InflightTransaction}
    (hends : transaction.terminalState = none ∨ transaction.terminalState = some .failed)
    (hnoted : Notes transaction noted) : endState noted ≠ .accepted := by
  have hfinal : noted.terminalState = none ∨ noted.terminalState = some .failed := by
    rcases hnoted.2.2 with hsame | hfailed
    · rw [hsame]
      exact hends
    · exact .inr hfailed
  rw [endState]
  rcases hfinal with hfinal | hfinal <;> rw [hfinal] <;> exact LedgerState.noConfusion

theorem Remembers.completes (h : s.Remembers count packet)
    (hcompletes : s.core.Completes core) : Remembers count packet { s with core := core } := by
  refine ⟨h.coherent.completes hcompletes, ?_, h.calls, ?_⟩
  · refine admissible_congr ?_ ?_ h.admissible <;> cases hcompletes <;> rfl
  obtain ⟨m, hm, hfp, hcalls⟩ := h.known
  cases hcompletes with
  | rejected | noted => exact ⟨m, hm, hfp, hcalls⟩
  | ended key transaction noted l _ _ _ _ htransaction hnoted _ hends =>
    rcases hends with ⟨-, hmark⟩ | ⟨rfl, -⟩
    · by_cases hsame : identity packet = noted.identity
      · refine ⟨m.moved (endState noted) (endStatus noted), ?_, hfp, hcalls.imp_right fun hone =>
          ⟨hone.1, ?_⟩⟩
        · show l.mark (identity packet) = _
          rw [hmark, if_pos hsame, ← hsame, hm]
          rfl
        · exact endState_ne_accepted (h.coherent.executes key transaction htransaction).ends hnoted
      · refine ⟨m, ?_, hfp, hcalls⟩
        show l.mark (identity packet) = _
        rw [hmark, if_neg hsame]
        exact hm
    · exact ⟨m, hm, hfp, hcalls⟩

theorem remembers_invariant (count : Nat) (packet : WorkControlPacket) :
    ServingInvariant (fun s : RankDaemon seams => s.Remembers count packet)
      fun s other => Retains packet s (.handleWork other) where
  mapped _ h := h.coherent.mapped
  round s attempt s' h hround := by
    have hcoherent := coherent_invariant.round s attempt s' h.coherent hround
    cases hround with
    | idle => exact h
    | rotated => exact { h with coherent := hcoherent }
    | worked head _ _ _ hqueue _ hworks =>
      by_cases hsame : identity head.packet = identity packet
      · exact h.of_head hcoherent (h.coherent.waits head (by rw [hqueue]; exact .head _))
          hworks.effect hsame
      · exact h.of_other hcoherent hworks.effect fun heq => hsame heq.symm
  handles s other answer core h hretains hcall hhandles := by
    refine h.handles hhandles ?_
    rw [Retains, exec_handleWork, hcall] at hretains
    exact hretains
  completes _ _ h hcompletes := h.completes hcompletes
  wakes _ h := { h with coherent := h.coherent.wakes }
  reports s core h hreports := by
    have hcoherent := h.coherent.reports hreports
    obtain ⟨waiting, overflow, events, rfl⟩ := hreports
    exact { h with coherent := hcoherent }

theorem remembers_of_delivery (h : s.core.Coherent)
    (hunknown : s.core.mark (identity packet) = none)
    (hretained : Retains packet s (.handleWork packet)) :
    Remembers s.submissions.length packet ((DaemonOp.handleWork packet).exec s) := by
  have hcount {core : RankDaemonCore} :
      acceptedCount { s with core := core } s.submissions.length (identity packet) = 0 := by
    rw [acceptedCount, drop_length]
    rfl
  rw [Retains, exec_handleWork] at hretained
  rw [exec_handleWork]
  revert hretained
  refine wp_finalState (R := fun core =>
    core.mark (identity packet) ≠ none →
      Remembers s.submissions.length packet { s with core := core }) ?_
  refine wp_total (handleWork_wp h.mapped packet) ?_
  intro answer core hhandles hretained
  have hcoherent := h.handles hhandles
  cases hhandles with
  | refused | full => exact absurd hunknown hretained
  | known l m _ _ _ _ hm =>
    rw [hunknown] at hm
    cases hm
  | declined _ _ _ _ hsame => exact absurd ((hsame _).trans hunknown) hretained
  | queued _ _ hadmissible _ _ hnew | failed _ _ hadmissible _ _ hnew =>
    exact ⟨hcoherent, hadmissible, le_rfl, _, hnew, rfl, .inl hcount⟩

theorem Remembers.replay (h : s.Remembers count packet) {m : Mark}
    (hm : s.core.mark (identity packet) = some m)
    (hfp : m.payloadFingerprint = s.core.fingerprint packet) :
    ∃ core, handleWork packet s.core = .ok (if workQueueCapacity ≤ s.core.queue.length then
      .capacityExceeded else replayStatus m) core := by
  have hwp := handleWork_wp h.coherent.mapped packet
  cases hcall : handleWork packet s.core with
  | error => exact (wp_error hwp hcall).elim
  | ok _ core =>
    have hhandles := wp_ok hwp hcall
    refine ⟨core, ?_⟩
    cases hhandles with
    | refused _ hnot => exact absurd h.admissible hnot
    | full _ hfull => rw [if_pos hfull]
    | known l m' _ hroom _ _ hm' =>
      obtain rfl := Option.some.inj (hm.symm.trans hm')
      rw [if_neg (not_le.mpr hroom), if_neg (not_not.mpr hfp)]
    | declined l _ _ _ _ hnone | queued l _ _ _ hnone | failed l _ _ _ hnone =>
      rw [hm] at hnone
      cases hnone

theorem queue_of_known (h : s.core.Coherent) {m : Mark}
    (hm : s.core.mark (identity packet) = some m) :
    (finalState (handleWork packet s.core)).queue = s.core.queue := by
  refine wp_finalState (R := fun core : RankDaemonCore => core.queue = s.core.queue) ?_
  refine wp_total (handleWork_wp h.mapped packet) ?_
  intro answer core hhandles
  cases hhandles with
  | refused | full | known | declined | failed => rfl
  | queued l _ _ _ hnone =>
    rw [hm] at hnone
    cases hnone

end RankDaemon

open RankDaemon RankDaemonCore

variable {seams : DaemonSeams} {config : WorkControlConfig} {plan : RankPlan}
  {core : RankDaemonCore} {count : Nat}

/-- From the first delivery of a packet on and as long as its transaction is known: the engine
accepts packets of the transaction once at most, the queue holds them once at most, the packet is
answered from the ledger unless the queue is full, and no packet of the transaction is queued. -/
theorem transaction_executes_at_most_once (hnew : RankDaemonCore.new config plan = .ok core)
    (forwarder : seams.Forwarder) (engine : seams.Engine) (before after : List DaemonOp)
    (packet : WorkControlPacket) (hbefore : ∀ op ∈ before, op.IsServing)
    (hafter : ∀ op ∈ after, op.IsServing) {first rank : RankDaemon seams}
    (hfirst : first = runAll DaemonOp.exec (start seams core forwarder engine) before)
    (hrank : rank = runAll DaemonOp.exec first (.handleWork packet :: after))
    (hunknown : first.core.mark (identity packet) = none)
    (hretained : Along DaemonOp.exec (Retains packet) first (.handleWork packet :: after)) :
    rank.acceptedCount first.submissions.length (identity packet) ≤ 1 ∧
      (rank.core.queue.countP fun entry => decide (identity entry.packet = identity packet)) ≤ 1 ∧
      (∃ m, rank.core.mark (identity packet) = some m ∧
        (∀ entry ∈ rank.core.queue, identity entry.packet = identity packet → m.state = .accepted) ∧
        ∃ core', handleWork packet rank.core =
          .ok (if workQueueCapacity ≤ rank.core.queue.length then .capacityExceeded
            else if m.state = .failed ∨ m.state = .cancelled then m.terminalStatus
            else .duplicate) core') ∧
      ∀ other, identity other = identity packet →
        (finalState (handleWork other rank.core)).queue = rank.core.queue := by
  have hcoherent : first.core.Coherent := by
    rw [hfirst]
    exact coherent_run hnew forwarder engine hbefore
  have hdelivered := remembers_of_delivery hcoherent hunknown hretained.1
  have hadmits : Along DaemonOp.exec (Admits fun s other => Retains packet s (.handleWork other))
      ((DaemonOp.handleWork packet).exec first) after := by
    refine (along_and (along_admits_of_serving hafter) hretained.2).mono fun s op hop => ?_
    cases op <;> first | exact hop.2 | exact hop.1
  have hrank : rank.Remembers first.submissions.length packet := by
    rw [hrank]
    show (runAll DaemonOp.exec ((DaemonOp.handleWork packet).exec first) after).Remembers _ _
    exact (remembers_invariant _ packet).run hadmits hdelivered
  obtain ⟨m, hm, hfp, hcalls⟩ := hrank.known
  refine ⟨by omega, ?_, ⟨m, hm, fun entry hentry hsame => ?_, hrank.replay hm hfp⟩,
    fun other hsame => ?_⟩
  · have hcountP : (rank.core.queue.countP fun entry =>
        decide (identity entry.packet = identity packet)) =
        (rank.core.queue.map fun entry => identity entry.packet).count (identity packet) := by
      rw [List.count, countP_map]
      rfl
    rw [hcountP]
    exact nodup_iff_count_le_one.mp hrank.coherent.distinct _
  · have haccepted := (hrank.coherent.waits entry hentry).accepted
    rw [hsame, hm] at haccepted
    rw [Option.some.inj haccepted]
  · rw [← hsame] at hm
    exact queue_of_known hrank.coherent hm

/-- A rank that takes whatever it is given. -/
def willingStart : RankDaemon willingSeams := start willingSeams (loneCore ⟨0, 1⟩) () ()

/-- A packet that is delivered again after it was executed is not executed again. -/
theorem transaction_executes_at_most_once_replayed :
    let packet := decodePacket 1 0
    let rank := runAll DaemonOp.exec willingStart
      [.handleWork packet, .pumpQueuedWork, .handleWork packet]
    rank.submissions.length = 1 ∧ rank.core.queue = [] ∧
      rank.acceptedCount willingStart.submissions.length (identity packet) ≤ 1 ∧
      (finalState (handleWork packet rank.core)).queue = rank.core.queue := by
  intro packet rank
  have honce := transaction_executes_at_most_once (new_loneConfig ⟨0, 1⟩) () () []
    [.pumpQueuedWork, .handleWork packet] packet (by decide) (by decide)
    (show willingStart =
      runAll DaemonOp.exec (start willingSeams (loneCore ⟨0, 1⟩) () ()) [] from rfl)
    (show rank = runAll DaemonOp.exec willingStart _ from rfl) (by decide +kernel)
    (by decide +kernel)
  have hrun : rank.submissions.length = 1 ∧ rank.core.queue = [] := by decide +kernel
  exact ⟨hrun.1, hrun.2, honce.1, honce.2.2.2 packet rfl⟩

/-! ### A full queue -/

/-- Packets that are delivered until the queue is full. -/
def filling (count : Nat) : List DaemonOp :=
  (List.range count).map fun index => .handleWork (decodePacket (index + 1) 0)

/-- The entry of such a packet. -/
def filledEntry (index : Nat) : QueuedWork :=
  queuedWork (decodePacket (index + 1) 0) (canonicalBytes (decodePacket (index + 1) 0) loneConfig)

/-- A number of these packets have been delivered. -/
structure Filled (count : Nat) (s : RankDaemon willingSeams) : Prop where
  coherent : s.core.Coherent
  workConfig : s.core.workConfig = loneConfig
  rankPlan : s.core.rankPlan = ⟨0, 1⟩
  queue : s.core.queue = (List.range count).map filledEntry
  capacity : s.core.ledger.entryCapacity = transactionLedgerCapacity
  generation : s.core.ledger.activeControlGeneration ≤ 1
  known : ∀ id, s.core.mark id ≠ none → ∃ index < count, id = identity (decodePacket (index + 1) 0)

theorem admissible_decodePacket {s : RankDaemonCore} (hconfig : s.workConfig = loneConfig)
    (hplan : s.rankPlan = ⟨0, 1⟩) {index : Nat} (hindex : index < workQueueCapacity) :
    s.Admissible (decodePacket (index + 1) 0) := by
  have hvalid : ∀ index < workQueueCapacity,
    validatePacket (decodePacket (index + 1) 0) loneConfig 1 daemonPipelineSlotCount = .ok () ∧
      identityIsValid (identity (decodePacket (index + 1) 0)) = true ∧
      packetFingerprint (decodePacket (index + 1) 0) loneConfig ≠ 0 := by decide +kernel
  rw [Admissible, fingerprint, hconfig, hplan]
  exact hvalid index hindex

theorem isQueuedAs_filledEntry {index other : Nat} (hindex : index < workQueueCapacity)
    (hother : other < workQueueCapacity) (hne : other ≠ index) :
    isQueuedAs (canonicalBytes (decodePacket (index + 1) 0) loneConfig) (filledEntry other) =
      false := by
  refine Bool.eq_false_of_not_eq_true fun hsame => hne ?_
  simp only [isQueuedAs, packetMatches, Bool.and_eq_true, decide_eq_true_eq] at hsame
  have hwords := congrArg List.head? (word64_of_canonicalBytes hsame.2.2)
  have hbytes : (other + 1) % 256 = (index + 1) % 256 := Option.some.inj hwords
  rw [workQueueCapacity] at hindex hother
  omega

theorem Filled.not_declined {s : RankDaemon willingSeams} (h : Filled count s)
    (hcount : count < workQueueCapacity) :
    ¬(s.core.ledger.Full ∨ ∃ e, s.core.ledger.Unprepared 1 e) := by
  have hmapped := h.coherent.mapped
  have hknown {i : Nat} {id : Identity} (hlook : s.core.ledger.look i = .held id) :
      ∃ index < count, id = identity (decodePacket (index + 1) 0) :=
    h.known id (Option.ne_none_iff_exists'.mpr ⟨_, hmapped.mark_of_look hlook⟩)
  rintro (hfull | ⟨e, ⟨hlt, -⟩ | ⟨hlt, hbusy, -⟩⟩)
  · -- every cell would hold a packet of its own
    have hheld (i : Fin transactionLedgerCapacity) :
        s.core.ledger.look i = .held (s.core.ledger.entry i).identity :=
      LedgerEntry.cell_of_isStored (hfull i (i.2.trans_eq h.capacity.symm))
    choose owner hlt hidentity using fun i => hknown (hheld i)
    have hinj : Function.Injective fun i => (⟨owner i, hlt i⟩ : Fin count) := by
      intro i j hsame
      have hid := (hidentity i).trans ((Fin.mk.inj hsame ▸ hidentity j).symm)
      exact Fin.ext (Option.some.inj ((hmapped.findInternal_eq_some_iff.mpr (hheld i)).symm.trans
        (hid ▸ hmapped.findInternal_eq_some_iff.mpr (hheld j))))
    have hle := Fintype.card_le_of_injective _ hinj
    rw [Fintype.card_fin, Fintype.card_fin] at hle
    exact absurd (hle.trans_lt hcount) (by decide)
  · exact absurd hlt (not_lt.mpr h.generation)
  · -- what is stored is of the generation of the packets
    refine hbusy fun id e he => ?_
    obtain ⟨i, rfl, hlook⟩ := TransactionLedger.stored_iff.mp he
    obtain ⟨index, -, rfl⟩ := hknown hlook
    have hmark := hmapped.mark_of_look hlook
    rw [hmapped.mark_of_generation (Nat.ne_of_gt hlt)] at hmark
    cases hmark

theorem Filled.succ {s : RankDaemon willingSeams} (h : Filled count s)
    (hcount : count < workQueueCapacity) :
    Filled (count + 1) ((DaemonOp.handleWork (decodePacket (count + 1) 0)).exec s) := by
  have hadmissible := admissible_decodePacket h.workConfig h.rankPlan hcount
  have hunknown : s.core.mark (identity (decodePacket (count + 1) 0)) = none := by
    by_contra hknown
    obtain ⟨index, hindex, hsame⟩ := h.known _ hknown
    have htransaction : count + 1 = index + 1 := congrArg Identity.transactionId hsame
    omega
  rw [exec_handleWork]
  refine wp_finalState (m := handleWork (decodePacket (count + 1) 0)) (s := s.core)
    (R := fun core => Filled (count + 1) { s with core := core }) ?_
  refine wp_total (handleWork_wp h.coherent.mapped _) ?_
  intro answer core hhandles
  have hcoherent := h.coherent.handles hhandles
  cases hhandles with
  | refused _ hnot => exact absurd hadmissible hnot
  | full _ hfull =>
    rw [h.queue, length_map, length_range] at hfull
    exact absurd hcount (not_lt.mpr hfull)
  | known _ _ _ _ _ _ hm => cases hm.symm.trans hunknown
  | declined _ _ _ _ _ _ hwhy => exact absurd hwhy (h.not_declined hcount)
  | failed _ _ _ _ _ _ _ hwire =>
    rw [h.workConfig] at hwire
    exact absurd rfl (hwire _)
  | queued l queue _ hl _ hnew hrest hqueue hcapacity =>
    refine ⟨hcoherent, h.workConfig, h.rankPlan, ?_, hcapacity.trans h.capacity, ?_,
      fun id hid => ?_⟩
    · obtain ⟨wireBytes, hwire, ⟨-, rfl⟩ | ⟨index, entry, hindex, hsame, rfl⟩⟩ := hqueue <;>
        rw [h.workConfig] at hwire <;> obtain rfl := Except.ok.inj hwire
      · rw [range_succ, map_append, ← h.queue]
        rfl
      · have hentry := mem_of_getElem? hindex
        rw [h.queue] at hentry
        obtain ⟨other, hother, rfl⟩ := mem_map.mp hentry
        have hlt := mem_range.mp hother
        rw [isQueuedAs_filledEntry hcount (hlt.trans hcount) (Nat.ne_of_lt hlt)] at hsame
        cases hsame
    · by_contra hother
      have hnone : l.mark (identity (decodePacket (count + 1) 0)) = none :=
        hl.mark_of_generation (Nat.ne_of_lt (not_le.mp hother))
      cases hnone.symm.trans hnew
    · by_cases hsame : id = identity (decodePacket (count + 1) 0)
      · exact ⟨count, Nat.lt_succ_self _, hsame⟩
      rcases hrest id hsame with heq | ⟨hgone, -⟩
      · obtain ⟨index, hindex, hid⟩ := h.known id fun hnone => hid (heq.trans hnone)
        exact ⟨index, Nat.lt_succ_of_lt hindex, hid⟩
      · exact absurd hgone hid

theorem mark_loneCore (plan : RankPlan) (id : Identity) : (loneCore plan).mark id = none := by
  refine (coherent_of_new (new_loneConfig plan)).mapped.mark_eq_none_iff.mpr ?_
  rintro e ⟨hmem, hstored, -⟩
  rw [eq_of_mem_replicate hmem] at hstored
  cases hstored

theorem filled_run (hcount : count ≤ workQueueCapacity) :
    Filled count (runAll DaemonOp.exec willingStart (filling count)) := by
  induction count with
  | zero =>
    exact ⟨coherent_of_new (new_loneConfig _), rfl, rfl, rfl, length_replicate, Nat.zero_le _,
      fun id hid => absurd (mark_loneCore _ id) hid⟩
  | succ _ ih =>
    rw [filling, range_succ, map_append, map_singleton, runAll_concat]
    exact (ih (Nat.le_of_succ_le hcount)).succ hcount

/-- While the queue is full, a packet that waits in it is told that there is no room. -/
theorem full_queue_refuses_replay :
    (∀ op ∈ filling 64, op.IsServing) ∧ (filling 64).head? = some (.handleWork (decodePacket 1 0)) ∧
    (∃ entry ∈ (runAll DaemonOp.exec willingStart (filling 64)).core.queue,
      entry.packet = decodePacket 1 0) ∧
    ∃ core, handleWork (decodePacket 1 0)
      (runAll DaemonOp.exec willingStart (filling 64)).core = .ok .capacityExceeded core := by
  have hfilled : Filled 64 (runAll DaemonOp.exec willingStart (filling 64)) :=
    filled_run (by decide : 64 ≤ workQueueCapacity)
  generalize runAll DaemonOp.exec willingStart (filling 64) = rank at hfilled
  have hfull : workQueueCapacity ≤ rank.core.queue.length := by
    rw [hfilled.queue, length_map, length_range]
    exact le_rfl
  have hmem : filledEntry 0 ∈ rank.core.queue := by
    rw [hfilled.queue]
    exact mem_map_of_mem (mem_range.mpr (by decide))
  refine ⟨by decide, rfl, ⟨_, hmem, rfl⟩, ?_⟩
  have hadmissible : rank.core.Admissible (decodePacket 1 0) :=
    admissible_decodePacket hfilled.workConfig hfilled.rankPlan (by decide : 0 < workQueueCapacity)
  have hmark := (hfilled.coherent.waits _ hmem).accepted
  have hwp := handleWork_wp hfilled.coherent.mapped (decodePacket 1 0)
  cases hcall : handleWork (decodePacket 1 0) rank.core with
  | error => exact (wp_error hwp hcall).elim
  | ok answer core =>
    have hanswer : answer = .capacityExceeded := by
      cases wp_ok hwp hcall with
      | refused _ hnot => exact absurd hadmissible hnot
      | full => rfl
      | known l m _ hroom => exact absurd hfull (not_le.mpr hroom)
      | declined l _ _ _ _ hnone | queued l _ _ _ hnone | failed l _ _ _ hnone =>
        cases hmark.symm.trans hnone
    exact ⟨core, by rw [hanswer]⟩

end SparkPipe
