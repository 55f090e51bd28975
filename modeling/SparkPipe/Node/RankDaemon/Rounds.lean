import SparkPipe.Node.RankDaemon.Methods

/-!
# The rounds of the pump

The pump looks at the head of the queue. It rotates a head that has to wait for the engine or for
another packet, and it forwards and submits any other one, which then leaves the queue, waits for
the next rank in its place, or waits for the engine at the tail. A round concerns the transaction of
the head only, and no round fails.
-/

open Program

namespace SparkPipe

open WorkControl

namespace RankDaemonCore

variable {s t s' : RankDaemonCore} {packet : WorkControlPacket}
  {m m' : Option Mark} {queue queue' : List QueuedWork} {target : LedgerState}

/-- The queue, the mark of a packet and the bookkeeping of its lanes may have changed. -/
structure Shifts (s : RankDaemonCore) (packet : WorkControlPacket) (m : Option Mark)
    (queue : List QueuedWork) (s' : RankDaemonCore) : Prop where
  mapped : s'.ledger.Mapped
  mark_eq : ∀ {id}, s'.mark id = if id = identity packet then m else s.mark id
  core_eq : s' = { s with
    ledger := s'.ledger
    queue := queue
    inflightCompletions := s'.inflightCompletions
    driverInflightCount := s'.driverInflightCount }

theorem Relabels.shifts (h : s.Relabels (identity packet) m s') : s.Shifts packet m s.queue s' := by
  obtain ⟨l, hl, rfl, hmark⟩ := h
  exact ⟨hl, hmark _, rfl⟩

theorem Shifts.trans (h : s.Shifts packet m queue t) (h' : t.Shifts packet m' queue' s') :
    s.Shifts packet m' queue' s' := by
  refine ⟨h'.mapped, ?_, ?_⟩
  · intro id
    rw [h'.mark_eq]
    split_ifs with hid
    · rfl
    · rw [h.mark_eq, if_neg hid]
  · refine h'.core_eq.trans ?_
    rw [h.core_eq]

section

variable (h : s.Shifts packet m queue s')
include h

theorem Shifts.requeue (queue' : List QueuedWork) :
    s.Shifts packet m queue' { s' with queue := queue' } := by
  refine ⟨h.mapped, h.mark_eq, ?_⟩
  rw [h.core_eq]

theorem Shifts.queue_eq : s'.queue = queue := by
  rw [h.core_eq]

theorem Shifts.workConfig_eq : s'.workConfig = s.workConfig := by
  rw [h.core_eq]

theorem Shifts.rankPlan_eq : s'.rankPlan = s.rankPlan := by
  rw [h.core_eq]

theorem Shifts.fingerprint_eq (packet' : WorkControlPacket) :
    s'.fingerprint packet' = s.fingerprint packet' := by
  rw [fingerprint, fingerprint, h.workConfig_eq]

end

theorem Shifts.updateHead {head : QueuedWork} {rest : List QueuedWork}
    (h : s.Shifts packet m (head :: rest) s') (update : QueuedWork → QueuedWork) :
    s.Shifts packet m (update head :: rest) (s'.updateHead update) := by
  rw [RankDaemonCore.updateHead, h.queue_eq]
  exact h.requeue (update head :: rest)

/-- The mark of a packet that was accepted. -/
def acceptedMark (s : RankDaemonCore) (packet : WorkControlPacket) : Option Mark :=
  some ⟨s.fingerprint packet, .accepted, .pending⟩

theorem CanMove.acceptedMark_eq (h : s.CanMove packet .accepted .pending) :
    ((s.mark (identity packet)).map fun m => m.moved .accepted .pending) =
      s.acceptedMark packet := by
  obtain ⟨-, -, hmove⟩ := h
  cases hmark : s.mark (identity packet) with
  | none =>
    rw [hmark] at hmove
    cases hmove
  | some =>
    rw [hmark, Mark.moveStatus] at hmove
    split_ifs at hmove with hother
    rw [acceptedMark, ← not_not.mp hother]
    rfl

theorem canMove_of_acceptedMark (hvalid : identityIsValid (identity packet))
    (hnonzero : s.fingerprint packet ≠ 0) (hmark : s.mark (identity packet) = s.acceptedMark packet)
    (hlegal : LedgerState.transitionIsLegal .accepted target)
    (status : SparkStatus) : s.CanMove packet target status := by
  refine ⟨hvalid, hnonzero, ?_⟩
  rw [hmark, acceptedMark, Mark.moveStatus_some rfl]
  show (if LedgerState.transitionIsLegal .accepted target = true then _ else _) = _
  rw [if_pos hlegal]

theorem Shifts.canMove (h : s.CanMove packet .accepted .pending)
    (hshifts : s.Shifts packet (s.acceptedMark packet) queue t)
    (hlegal : LedgerState.transitionIsLegal .accepted target) (status : SparkStatus) :
    t.CanMove packet target status := by
  refine canMove_of_acceptedMark h.1 ?_ ?_ hlegal status
  · rw [hshifts.fingerprint_eq]
    exact h.2.1
  · rw [hshifts.mark_eq, if_pos rfl, acceptedMark, acceptedMark, hshifts.fingerprint_eq]

theorem CanMove.map_failed (h : s.CanMove packet .accepted .pending) (status : SparkStatus) :
    ((s.acceptedMark packet).map fun m => m.moved .failed status) =
      (s.mark (identity packet)).map fun m => m.moved .failed status := by
  rw [← h.acceptedMark_eq, Option.map_map]
  rfl

/-- The core with a new queue; the packet may have been accepted. -/
def Readied (s : RankDaemonCore) (packet : WorkControlPacket) (queue : List QueuedWork)
    (t : RankDaemonCore) : Prop :=
  t = s ∧ s.queue = queue ∨ s.CanMove packet .accepted .pending ∧ ∃ core,
    s.Relabels (identity packet) (s.acceptedMark packet) core ∧ t = { core with queue := queue }

theorem any_zipIdx_of_ne {position start : Nat} {entries : List QueuedWork}
    (h : position < start ∨ start + entries.length ≤ position) (packet : WorkControlPacket) :
    ((entries.zipIdx start).any fun indexed =>
      decide (indexed.2 ≠ position) && isDependency indexed.1.packet packet) =
    entries.any fun entry => isDependency entry.packet packet := by
  induction entries generalizing start with
  | nil => rfl
  | cons _ _ ih =>
    rw [List.length_cons] at h
    rw [List.zipIdx_cons, List.any_cons, ih (by omega)]
    have hne : start ≠ position := by omega
    simp [hne]

theorem hasQueuedDependency_at (before : List QueuedWork) (entry : QueuedWork)
    (after : List QueuedWork) (packet : WorkControlPacket) :
    hasQueuedDependency (before ++ entry :: after) before.length packet =
      (before ++ after).any fun entry => isDependency entry.packet packet := by
  rw [hasQueuedDependency]
  split_ifs with hlength
  · rw [List.length_append, List.length_cons] at hlength
    rw [List.eq_nil_of_length_eq_zero (show before.length = 0 by omega),
      List.eq_nil_of_length_eq_zero (show after.length = 0 by omega)]
    rfl
  · rw [List.zipIdx_append, List.zipIdx_cons, List.any_append, List.any_cons,
      any_zipIdx_of_ne (.inr (by omega)), any_zipIdx_of_ne (.inl (by omega))]
    simp

theorem hasQueuedDependency_head (head : QueuedWork) (rest : List QueuedWork)
    (packet : WorkControlPacket) :
    hasQueuedDependency (head :: rest) 0 packet =
      rest.any fun entry => isDependency entry.packet packet :=
  hasQueuedDependency_at [] head rest packet

end RankDaemonCore

namespace RankDaemon

open RankDaemonCore

variable {seams : DaemonSeams} {s t s' : RankDaemon seams} {head : QueuedWork}
  {rest : List QueuedWork} {packet : WorkControlPacket}
  {α : Type} {queue : List QueuedWork} {m : Option Mark}
  {outcome : Option (Except SparkStatus Unit)} {core : RankDaemonCore}
  {Q : α → RankDaemon seams → Prop} {E : SparkStatus → RankDaemon seams → Prop} {key : Option Nat}

theorem wp_onCore {method : DaemonM α} :
    wp (onCore method) Q E s ↔ wp method (fun a core => Q a { s with core := core })
      (fun error core => E error { s with core := core }) s.core := wp_onPart ..

theorem wp_onForwarder {call : EStateM SparkStatus seams.Forwarder α} :
    wp (onForwarder call) Q E s ↔ wp call (fun a forwarder => Q a { s with forwarder := forwarder })
      (fun error forwarder => E error { s with forwarder := forwarder }) s.forwarder :=
  wp_onPart ..

theorem wp_onEngine {call : EStateM SparkStatus seams.Engine α} :
    wp (onEngine call) Q E s ↔ wp call (fun a engine => Q a { s with engine := engine })
      (fun error engine => E error { s with engine := engine }) s.engine := wp_onPart ..

theorem wp_modifyCore {update : RankDaemonCore → RankDaemonCore}
    {Q : Unit → RankDaemon seams → Prop} :
    wp (modifyCore update) Q E s ↔ Q () { s with core := update s.core } := Iff.rfl

theorem tryTransition_wp (h : s.core.ledger.Mapped) (packet : WorkControlPacket)
    {target : LedgerState} (hstored : target.isStored) (status : SparkStatus) :
    wp (tryTransition packet target status)
      (fun outcome s' => isSettled outcome ∧ s.core.CanMove packet target status ∧
          (∃ core, s.core.Relabels (identity packet)
            ((s.core.mark (identity packet)).map fun m => m.moved target status) core ∧
            s' = { s with core := core }) ∨
        ¬s.core.CanMove packet target status ∧ s' = s ∧
          (target.isTerminal = false → isSettled outcome = false))
      (fun _ _ => False) s := by
  rw [tryTransition, wp_attempt, wp_onCore]
  refine wp_mono (transitionPacket_wp h packet target status) ?_ ?_
  · rintro _ core ⟨hmove, hcore⟩
    exact .inl ⟨rfl, hmove, core, hcore, rfl⟩
  · rintro error core ⟨rfl, hwhy⟩
    obtain ⟨hmove, hdup⟩ := hwhy hstored
    refine .inr ⟨hmove, rfl, fun hactive => decide_eq_false fun herror => ?_⟩
    rw [hdup herror] at hactive
    cases hactive

theorem tryAccept_wp (h : s.core.ledger.Mapped) (hready : s.core.Readied packet queue t.core) :
    wp (tryTransition packet .accepted .pending)
      (fun outcome t' => isSettled outcome ∧ s.core.CanMove packet .accepted .pending ∧
          (∃ core, s.core.Relabels (identity packet) (s.core.acceptedMark packet) core ∧
            t' = { t with core := { core with queue := queue } }) ∨
        isSettled outcome = false ∧ ¬s.core.CanMove packet .accepted .pending ∧ t' = t ∧
          t.core = s.core)
      (fun _ _ => False) t := by
  obtain ⟨hcore, hqueue⟩ | ⟨hmove, core, ⟨l, hl, rfl, hmark⟩, hcore⟩ := hready
  · refine wp_post (tryTransition_wp (by rwa [hcore]) packet rfl .pending) ?_
    rw [hcore]
    rintro outcome t' (⟨hsettled, hmove, core, hrelabels, rfl⟩ | ⟨hmove, heq, hsettled⟩)
    · rw [hmove.acceptedMark_eq] at hrelabels
      refine .inl ⟨hsettled, hmove, core, hrelabels, ?_⟩
      obtain ⟨l, -, rfl, -⟩ := hrelabels
      rw [← hqueue]
    · exact .inr ⟨hsettled rfl, hmove, heq, rfl⟩
  · have hshifts : s.core.Shifts packet (s.core.acceptedMark packet) queue t.core :=
      hcore ▸ ⟨hl, hmark _, rfl⟩
    refine wp_post (tryTransition_wp hshifts.mapped packet rfl .pending) ?_
    rintro outcome t' (⟨hsettled, -, core', ⟨l', hl', rfl, hmark'⟩, rfl⟩ | ⟨hnot, -⟩)
    · refine .inl ⟨hsettled, hmove, { s.core with ledger := l' }, ⟨l', hl', rfl, fun id => ?_⟩,
        by rw [hcore]⟩
      rw [hmark', hshifts.mark_eq, hshifts.mark_eq, if_pos rfl]
      split_ifs
      · rfl
      · rfl
    · exact absurd (hshifts.canMove hmove rfl .pending) hnot

theorem failHead_wp (h : s.core.ledger.Mapped) (hqueue : s.core.queue = head :: rest)
    (status : SparkStatus) :
    wp (failHead status) (fun attempt s' => attempt = .done 1 ∧ ∃ core m,
        s.core.Shifts head.packet m rest core ∧ s' = { s with core := core } ∧
        (¬s.core.CanMove head.packet .failed status ∧ m = s.core.mark (identity head.packet) ∨
          m = (s.core.mark (identity head.packet)).map fun m => m.moved .failed status))
      (fun _ _ => False) s := by
  rw [failHead, wp_bind, wp_onCore]
  refine wp_post (failHeadWork_wp h hqueue status) ?_
  rintro _ core ⟨t, m, ht, rfl, hm⟩
  exact ⟨rfl, _, m, ht.shifts.requeue rest, rfl, hm⟩

theorem parkHead_wp (hqueue : s.core.queue = head :: rest) :
    wp parkHead (fun attempt s' => attempt = .again ∧ s' = { s with core := { s.core with
        queue := rest ++ [{ head with state := .waitingSubmit }] } })
      (fun _ _ => False) s := by
  rw [parkHead, wp_bind, wp_modifyCore]
  refine ⟨rfl, ?_⟩
  simp only [updateHead, deferWork, hqueue, List.modify_zero_cons]

/-! ### What becomes of the head -/

/-- Nothing was asked of the next rank, or to forward the head. -/
inductive Sends (s : RankDaemon seams) (head : QueuedWork) :
    Option (Except SparkStatus Unit) → seams.Forwarder → Prop
  | skipped (h : s.core.rankPlan.hasNext = false ∨ head.forwarded = true ∨
      ¬s.core.CanMove head.packet .accepted .pending) : Sends s head none s.forwarder
  | called (outcome : Except SparkStatus Unit) (forwarder : seams.Forwarder)
      (hnext : s.core.rankPlan.hasNext = true) (hnot : head.forwarded = false)
      (hmove : s.core.CanMove head.packet .accepted .pending)
      (hcall : (attempt (seams.forward head.wireBytes (identity head.packet)
        (s.core.fingerprint head.packet)) : EStateM SparkStatus _ _) s.forwarder =
          .ok outcome forwarder) : Sends s head (some outcome) forwarder

/-- The head after the next rank has answered. -/
def sentHead : Option (Except SparkStatus Unit) → QueuedWork → QueuedWork
  | some (.ok _), head => { head with forwarded := true, state := .ready }
  | _, head => head

/-- The transaction of the head has failed, unless it is settled otherwise. -/
def FailedMark (s : RankDaemon seams) (packet : WorkControlPacket) (m : Option Mark) : Prop :=
  ¬s.core.CanMove packet .accepted .pending ∧ m = s.core.mark (identity packet) ∨
    ∃ status, m = (s.core.mark (identity packet)).map fun m => m.moved .failed status

theorem sentHead_packet (outcome : Option (Except SparkStatus Unit)) (head : QueuedWork) :
    (sentHead outcome head).packet = head.packet := by
  rcases outcome with - | (status | _) <;> rfl

theorem sentHead_submitted (outcome : Option (Except SparkStatus Unit)) (head : QueuedWork) :
    (sentHead outcome head).submitted = head.submitted := by
  rcases outcome with - | (status | _) <;> rfl

/-- What the engine executes once it has a packet. -/
def launched (core : RankDaemonCore) (packet : WorkControlPacket) :
    AList fun _ : Nat => InflightTransaction :=
  if packet.releasesSequences then core.inflightTransactions
  else core.inflightTransactions.insert (identityFingerprint (identity packet))
    { identity := identity packet, packetHash := core.fingerprint packet,
      remainingCompletionCount := packet.laneCount }

/-- The mark of a packet that the engine has; a release is over. -/
def launchedMark (core : RankDaemonCore) (packet : WorkControlPacket) : Option Mark :=
  if packet.releasesSequences then some ⟨core.fingerprint packet, .committed, .ok⟩
  else some ⟨core.fingerprint packet, .executing, .pending⟩

/-- There is no room for the head, or the engine is busy. -/
def EngineBusy (s : RankDaemon seams) (packet : WorkControlPacket) : Prop :=
  (∃ status, errorOf (registerInflightTransaction packet s.core) = some status ∧
      (status = .busy ∨ status = .capacityExceeded)) ∨
    errorOf (seams.submit packet s.engine) = some .busy

/-- Whether the engine was called, and has refused. -/
def Refusals (s : RankDaemon seams) (head : QueuedWork) (rest : List QueuedWork)
    (engine : seams.Engine) (submissions : List Submission) : Prop :=
  submissions = s.submissions ∧ engine = s.engine ∨
    submissions = s.submissions ++ [⟨head.packet, head :: rest, false⟩] ∧
      ∃ status, seams.submit head.packet s.engine = .error status engine

/-- The engine has taken a packet: its lanes are entered, and completions may wait. -/
def Launches (core : RankDaemonCore) (packet : WorkControlPacket) (base : RankDaemonCore) : Prop :=
  ∃ lanes count waiting overflow, base = { core with
      inflightTransactions := launched core packet
      inflightCompletions := lanes
      driverInflightCount := count
      driverCompletionQueue := waiting
      driverCompletionQueueOverflow := overflow }

/-- The next rank was not asked, or it has the packet. -/
def Passed (outcome : Option (Except SparkStatus Unit)) : Prop :=
  outcome = none ∨ outcome = some (.ok ())

/-- The ways in which the work on the head can end. -/
inductive Works (s : RankDaemon seams) (head : QueuedWork) (rest : List QueuedWork) :
    Attempt → RankDaemon seams → Prop
  | waits (status : SparkStatus) (forwarder : seams.Forwarder) (core : RankDaemonCore)
      (hsends : s.Sends head (some (.error status)) forwarder)
      (hstatus : status = .busy ∨ status = .routeNotFound)
      (hcore : s.core.Shifts head.packet (s.core.acceptedMark head.packet)
        ({ head with state := .waitingForward } :: rest) core) :
      Works s head rest (.done 0) { s with core := core, forwarder := forwarder }
  | failed (outcome : Option (Except SparkStatus Unit)) (forwarder : seams.Forwarder)
      (core : RankDaemonCore) (m : Option Mark) (engine : seams.Engine)
      (submissions : List Submission) (hsends : s.Sends head outcome forwarder)
      (houtcome : ∀ status, outcome = some (.error status) → status ≠ .busy ∧
        status ≠ .routeNotFound)
      (hsubmissions : s.Refusals (sentHead outcome head) rest engine submissions)
      (hcore : s.core.Shifts head.packet m rest core)
      (hm : s.FailedMark head.packet m) :
      Works s head rest (.done 1) ⟨core, forwarder, engine, submissions⟩
  | popped (outcome : Option (Except SparkStatus Unit)) (forwarder : seams.Forwarder)
      (core : RankDaemonCore) (hsubmitted : head.submitted = true)
      (hsends : s.Sends head outcome forwarder) (hpassed : Passed outcome)
      (hcore : s.core.Shifts head.packet (s.core.acceptedMark head.packet) rest core) :
      Works s head rest (.done 1) { s with core := core, forwarder := forwarder }
  | parked (outcome : Option (Except SparkStatus Unit)) (forwarder : seams.Forwarder)
      (core : RankDaemonCore) (engine : seams.Engine) (submissions : List Submission)
      (hsubmitted : head.submitted = false) (hsends : s.Sends head outcome forwarder)
      (hpassed : Passed outcome) (hbusy : s.EngineBusy head.packet)
      (hsubmissions : s.Refusals (sentHead outcome head) rest engine submissions)
      (hcore : s.core.Shifts head.packet (s.core.acceptedMark head.packet)
        (rest ++ [{ sentHead outcome head with state := .waitingSubmit }]) core) :
      Works s head rest .again ⟨core, forwarder, engine, submissions⟩
  | launched (outcome : Option (Except SparkStatus Unit)) (forwarder : seams.Forwarder)
      (core : RankDaemonCore) (engine : seams.Engine)
      (completions : List DriverCompletionRecord) (base : RankDaemonCore)
      (hsubmitted : head.submitted = false) (hsends : s.Sends head outcome forwarder)
      (hpassed : Passed outcome) (hmove : s.core.CanMove head.packet .accepted .pending)
      (hsubmit : seams.submit head.packet s.engine = .ok completions engine)
      (hbase : Launches s.core head.packet base)
      (hcore : base.Shifts head.packet (launchedMark s.core head.packet) rest core) :
      Works s head rest (.done 1) ⟨core, forwarder, engine,
        s.submissions ++ [⟨head.packet, sentHead outcome head :: rest, true⟩]⟩

/-! ### Forwarding -/

theorem failHead_works {sent : QueuedWork}
    (hpacket : sent.packet = head.packet) (hsends : s.Sends head outcome t.forwarder)
    (houtcome : ∀ status, outcome = some (.error status) → status ≠ .busy ∧ status ≠ .routeNotFound)
    (hrefusals : s.Refusals (sentHead outcome head) rest t.engine t.submissions)
    (hcore : s.core.Shifts head.packet m (sent :: rest) t.core)
    (hm : s.core.CanMove head.packet .accepted .pending ∧ m = s.core.acceptedMark head.packet ∨
      ¬s.core.CanMove head.packet .accepted .pending ∧ m = s.core.mark (identity head.packet))
    (status : SparkStatus) :
    wp (failHead status) (s.Works head rest) (fun _ _ => False) t := by
  refine wp_post (failHead_wp hcore.mapped hcore.queue_eq status) ?_
  rw [hpacket]
  rintro attempt s' ⟨rfl, core, m', hcore', rfl, hm'⟩
  refine .failed outcome _ core m' _ _ hsends houtcome hrefusals (hcore.trans hcore') ?_
  rw [hcore.mark_eq, if_pos rfl] at hm'
  obtain ⟨hmove, rfl⟩ | ⟨hmove, rfl⟩ := hm
  · rcases hm' with ⟨hnot, -⟩ | rfl
    · exact absurd (hcore.canMove hmove rfl status) hnot
    · exact .inr ⟨status, hmove.map_failed status⟩
  · rcases hm' with ⟨-, rfl⟩ | rfl
    · exact .inl ⟨hmove, rfl⟩
    · exact .inr ⟨status, rfl⟩

theorem forwardHead_wp (h : s.core.ledger.Mapped) (hqueue : s.core.queue = head :: rest) :
    wp (forwardHead head) (fun result t => match result with
        | none => ∃ outcome forwarder core, s.Sends head outcome forwarder ∧ Passed outcome ∧
          s.core.Readied head.packet (sentHead outcome head :: rest) core ∧
          t = { s with core := core, forwarder := forwarder }
        | some attempt => s.Works head rest attempt t) (fun _ _ => False) s := by
  rw [forwardHead, wp_read]
  refine wp_ite.mpr ⟨fun hskip => ?_, fun hgo => ?_⟩
  · exact ⟨none, _, _, .skipped (hskip.imp_right .inl), .inl rfl, .inl ⟨rfl, hqueue⟩, rfl⟩
  obtain ⟨hnext, hnot⟩ : s.core.rankPlan.hasNext = true ∧ head.forwarded = false := by
    simpa only [not_or, Bool.not_eq_true, Bool.not_eq_false] using hgo
  rw [wp_bind]
  refine wp_post (tryAccept_wp h (.inl ⟨rfl, hqueue⟩)) ?_
  rintro outcome t (⟨hsettled, hmove, core, hcore, rfl⟩ | ⟨hsettled, hmove, rfl, -⟩)
  · rw [if_neg (by simp [hsettled])]
    rw [getTransactionIdentity_eq_ok.mpr ⟨hmove.1, rfl⟩]
    rw [wp_bind, wp_attempt, wp_onForwarder]
    have hshifts := hcore.shifts.requeue (head :: rest)
    refine wp_intro (fun _ forwarder hcall => ?_) fun status forwarder hcall => ?_
    · exact ⟨some (.ok ()), forwarder, _,
        .called _ forwarder hnext hnot hmove (attempt_of_ok hcall),
        .inr rfl, .inr ⟨hmove, core, hcore, rfl⟩, rfl⟩
    have hsends : s.Sends head (some (.error status)) forwarder :=
      .called _ forwarder hnext hnot hmove (attempt_of_error hcall)
    by_cases hwait : status = .busy ∨ status = .routeNotFound
    · have hwaits := Works.waits status forwarder _ hsends hwait
        (hshifts.updateHead fun head => { head with state := .waitingForward })
      rcases hwait with rfl | rfl
      · exact hwaits
      · exact hwaits
    have hfails := failHead_works (t := { s with
      core := { core with queue := head :: rest }, forwarder := forwarder }) rfl hsends
      (fun _ heq => by cases heq; exact not_or.mp hwait) (.inl ⟨rfl, rfl⟩) hshifts
      (.inl ⟨hmove, rfl⟩)
      status
    cases status <;> first
      | exact absurd (.inl rfl) hwait
      | exact absurd (.inr rfl) hwait
      | exact (wp_map _).mpr hfails
  · rw [if_pos hsettled, wp_map]
    exact failHead_works rfl (.skipped (.inr (.inr hmove))) nofun (.inl ⟨rfl, rfl⟩)
      (hqueue ▸ (Relabels.refl h _).shifts) (.inr ⟨hmove, rfl⟩) _

/-! ### Submitting -/

theorem errorOf_registerInflightTransaction (packet : WorkControlPacket) (core : RankDaemonCore)
    (l : TransactionLedger) (queue : List QueuedWork) :
    errorOf (registerInflightTransaction packet { core with ledger := l, queue := queue }) =
      errorOf (registerInflightTransaction packet core) := by
  rw [registerInflightTransaction, get_bind, get_bind]
  cases getTransactionIdentity packet with
  | error => split_ifs <;> rfl
  | ok id =>
    dsimp only
    cases enterLanes (identityFingerprint id) core.inflightCompletions packet.usedLanes with
    | none | some => split_ifs <;> rfl

theorem withdraw_wp {base : RankDaemonCore}
    (hcore : base.Shifts packet m queue core) (hregisters : core.Registers packet key s.core) :
    wp (withdraw key) (fun _ s' => ∃ core', base.Shifts packet m queue core' ∧
        s' = { s with core := core' }) (fun _ _ => False) s := by
  generalize hs : s.core = registered at hregisters
  cases hregisters with
  | release =>
    rw [withdraw, wp_pure]
    exact ⟨core, hcore, by rw [← hs]⟩
  | entered _ _ hkey =>
    rw [withdraw, wp_bind, wp_attempt, wp_onCore, hs]
    refine wp_mono (cancelInflightTransaction_wp _) ?_ ?_
    · rintro _ t rfl
      rw [cancelled]
      rw [erase_insert_of_notMem hkey]
      refine ⟨_, ?_, rfl⟩
      exact ⟨hcore.mapped, hcore.mark_eq, by rw [hcore.core_eq]⟩
    · rintro error t ⟨-, hnot⟩
      exact absurd ((AList.mem_insert _).mpr (.inl rfl)) hnot

theorem queueCompletions_wp (completions : List DriverCompletionRecord) :
    wp (queueCompletions completions) (fun _ s' => ∃ waiting overflow, s' = { s with
        core := { s.core with
          driverCompletionQueue := waiting, driverCompletionQueueOverflow := overflow } })
      (fun _ _ => False) s := by
  rw [queueCompletions]
  refine wp_forM _ (show _ from ⟨_, s.core.driverCompletionQueueOverflow, rfl⟩) ?_
  rintro record - t ⟨waiting, overflow, rfl⟩
  rw [wp_bind, wp_attempt, wp_onCore]
  refine wp_mono (queueDriverCompletion_wp record) ?_ ?_
  · rintro _ core rfl
    exact ⟨_, overflow, rfl⟩
  · rintro _ core ⟨overflow', rfl⟩
    exact ⟨waiting, overflow', rfl⟩

theorem shifts_of_registers {base registered : RankDaemonCore}
    (h : base.Relabels (identity packet) m core)
    (hregisters : { core with queue := queue }.Registers packet key registered) :
    ∃ entered : RankDaemonCore, (∃ lanes count, entered = { base with
        inflightTransactions := launched base packet
        inflightCompletions := lanes
        driverInflightCount := count }) ∧ entered.Shifts packet m queue registered := by
  obtain ⟨l, hl, rfl, hmark⟩ := h
  refine ⟨{ registered with ledger := base.ledger, queue := base.queue }, ?_, ?_⟩
  · cases hregisters with
    | release hrelease => exact ⟨_, _, by rw [launched, if_pos hrelease]⟩
    | entered completions hrelease =>
      rw [launched, if_neg (by simp [hrelease])]
      exact ⟨completions, _, rfl⟩
  · cases hregisters <;> exact ⟨hl, hmark _, rfl⟩

theorem canMove_committed (hvalid : identityIsValid (identity packet))
    (hnonzero : core.fingerprint packet ≠ 0)
    (hmark : core.mark (identity packet) = some ⟨core.fingerprint packet, .executing, .pending⟩) :
    core.CanMove packet .committed .ok := by
  refine ⟨hvalid, hnonzero, ?_⟩
  rw [hmark, Mark.moveStatus_some rfl]
  rfl

theorem acceptSubmission_wp (base : RankDaemonCore) (hmove : base.CanMove packet .accepted .pending)
    (hcore : base.Shifts packet (base.acceptedMark packet) (head :: rest)
      s.core) (completions : List DriverCompletionRecord) :
    wp (acceptSubmission packet completions) (fun attempt s' => attempt = .done 1 ∧
        ∃ waiting overflow core, { base with
            driverCompletionQueue := waiting
            driverCompletionQueueOverflow := overflow }.Shifts packet (launchedMark base packet)
          rest core ∧ s' = { s with core := core }) (fun _ _ => False) s := by
  rw [acceptSubmission, wp_bind, wp_modifyCore, wp_bind]
  refine wp_post (queueCompletions_wp completions) ?_
  rintro _ t ⟨waiting, overflow, rfl⟩
  have htaken : { base with
        driverCompletionQueue := waiting
        driverCompletionQueueOverflow := overflow }.Shifts packet (base.acceptedMark packet)
      ({ head with submitted := true } :: rest) { (s.core.updateHead fun head =>
        { head with submitted := true }) with
          driverCompletionQueue := waiting, driverCompletionQueueOverflow := overflow } := by
    have hupdated := hcore.updateHead fun head => { head with submitted := true }
    refine ⟨hupdated.mapped, hupdated.mark_eq, ?_⟩
    rw [hupdated.core_eq]
  rw [wp_bind]
  refine wp_post (tryTransition_wp (by exact htaken.mapped) packet rfl .pending) ?_
  rintro executing t (⟨hexecuting, -, executed, hrelabels, rfl⟩ | ⟨hnot, -⟩)
  swap
  · exact absurd (Shifts.canMove (by exact hmove) htaken rfl .pending) hnot
  rw [if_neg (by simp [hexecuting])]
  rw [htaken.mark_eq, if_pos rfl] at hrelabels
  have hexecuted := htaken.trans (htaken.queue_eq ▸ hrelabels.shifts)
  refine wp_ite.mpr ⟨fun hrelease => ?_, fun hrelease => ?_⟩
  · have hcommit : executed.CanMove packet .committed .ok := by
      refine canMove_committed hmove.1 ?_ ?_
      · rw [hexecuted.fingerprint_eq]
        exact hmove.2.1
      · rw [hexecuted.mark_eq, if_pos rfl, hexecuted.fingerprint_eq]
        rfl
    rw [wp_bind]
    refine wp_post (tryTransition_wp (by exact hexecuted.mapped) packet rfl .ok) ?_
    rintro committed t (⟨hcommitted, -, ended, hrelabels', rfl⟩ | ⟨hnot, -⟩)
    swap
    · exact absurd hcommit hnot
    rw [if_neg (by simp [hcommitted])]
    rw [hexecuted.mark_eq, if_pos rfl] at hrelabels'
    have hended := hexecuted.trans (hexecuted.queue_eq ▸ hrelabels'.shifts)
    refine ⟨rfl, waiting, overflow, ended.popWork, ?_, rfl⟩
    rw [launchedMark, if_pos hrelease, popWork, hended.queue_eq]
    exact hended.requeue rest
  · refine ⟨rfl, waiting, overflow, executed.popWork, ?_, rfl⟩
    rw [launchedMark, if_neg hrelease, popWork, hexecuted.queue_eq]
    exact hexecuted.requeue rest

theorem callEngine_wp
    {Q : Except SparkStatus (List DriverCompletionRecord) → RankDaemon seams → Prop}
    (hok : ∀ completions engine, seams.submit packet s.engine = .ok completions engine →
      Q (.ok completions) { s with
        engine := engine, submissions := s.submissions ++ [⟨packet, s.core.queue, true⟩] })
    (herror : ∀ status engine, seams.submit packet s.engine = .error status engine →
      Q (.error status) { s with
        engine := engine, submissions := s.submissions ++ [⟨packet, s.core.queue, false⟩] }) :
    wp (callEngine packet) Q E s := by
  rw [callEngine, wp_read, wp_bind, wp_attempt, wp_onEngine]
  refine wp_intro (fun completions engine hcall => ?_) fun status engine hcall => ?_
  · exact hok completions engine hcall
  · exact herror status engine hcall

theorem parkHead_works (hsubmitted : head.submitted = false)
    (hsends : s.Sends head outcome t.forwarder) (hpassed : Passed outcome)
    (hbusy : s.EngineBusy head.packet)
    (hrefusals : s.Refusals (sentHead outcome head) rest t.engine t.submissions)
    (hcore : s.core.Shifts head.packet (s.core.acceptedMark head.packet)
      (sentHead outcome head :: rest) t.core) :
    wp parkHead (s.Works head rest) (fun _ _ => False) t := by
  refine wp_post (parkHead_wp hcore.queue_eq) ?_
  rintro attempt s' ⟨rfl, rfl⟩
  exact .parked outcome _ _ _ _ hsubmitted hsends hpassed hbusy hrefusals (hcore.requeue _)

theorem submitHead_wp {forwarder : seams.Forwarder} (h : s.core.ledger.Mapped)
    (hsends : s.Sends head outcome forwarder) (hpassed : Passed outcome)
    (hready : s.core.Readied head.packet (sentHead outcome head :: rest) core) :
    wp (submitHead head) (s.Works head rest) (fun _ _ => False)
      { s with core := core, forwarder := forwarder } := by
  have hpacket := sentHead_packet outcome head
  have hnever : ∀ status, outcome = some (.error status) → status ≠ .busy ∧
      status ≠ .routeNotFound := by
    rintro status rfl
    rcases hpassed with hnone | hok
    · cases hnone
    · cases hok
  rw [submitHead, wp_bind]
  refine wp_post (tryAccept_wp h (by exact hready)) ?_
  rintro result t (⟨hsettled, hmove, core, hrelabels, rfl⟩ | ⟨hsettled, hmove, rfl, hcore⟩)
  swap
  · rw [if_pos hsettled]
    obtain ⟨rfl, hqueue⟩ | ⟨hmove', -⟩ := hready
    · exact failHead_works (t := { s with forwarder := forwarder }) hpacket hsends hnever
        (.inl ⟨rfl, rfl⟩)
        (hqueue ▸ (Relabels.refl h _).shifts) (.inr ⟨hmove, rfl⟩) _
    · exact absurd hmove' hmove
  rw [if_neg (by simp [hsettled])]
  have hcore := hrelabels.shifts.requeue (sentHead outcome head :: rest)
  refine wp_ite.mpr ⟨fun hsubmitted => ?_, fun hsubmitted => ?_⟩
  · exact .popped outcome forwarder _ hsubmitted hsends hpassed (hcore.requeue rest)
  have hsubmitted : head.submitted = false := Bool.eq_false_of_not_eq_true hsubmitted
  rw [wp_bind, wp_attempt, wp_onCore]
  refine wp_mono (wp_outcome (registerInflightTransaction_wp head.packet)) ?_ ?_
  · rintro key registered ⟨hregisters, -⟩
    obtain ⟨entered, hentered, hlaunched⟩ := shifts_of_registers hrelabels hregisters
    rw [wp_bind]
    refine callEngine_wp (fun completions engine hcall => ?_) fun status engine hcall => ?_
    · obtain ⟨lanes, count, rfl⟩ := hentered
      refine wp_post (acceptSubmission_wp { s.core with
        inflightTransactions := launched s.core head.packet
        inflightCompletions := lanes
        driverInflightCount := count } hmove (by exact hlaunched) completions) ?_
      rintro attempt s' ⟨rfl, waiting, overflow, core', hcore', rfl⟩
      exact hlaunched.queue_eq ▸ .launched outcome forwarder core' engine completions _ hsubmitted
        hsends hpassed hmove hcall ⟨lanes, count, waiting, overflow, rfl⟩ hcore'
    · have hrefusals : s.Refusals (sentHead outcome head) rest engine
          (s.submissions ++ [⟨head.packet, registered.queue, false⟩]) :=
        .inr ⟨by rw [hlaunched.queue_eq, hpacket], status, by rwa [hpacket]⟩
      have hwithdraw := withdraw_wp (s := ⟨registered, forwarder, engine,
        s.submissions ++ [⟨head.packet, registered.queue, false⟩]⟩) hcore hregisters
      by_cases hstatus : status = .busy
      · subst hstatus
        refine (wp_bind _).mpr (wp_post hwithdraw ?_)
        rintro _ t ⟨core', hcore', rfl⟩
        exact parkHead_works hsubmitted hsends hpassed (.inr (by rw [hcall]; rfl)) hrefusals hcore'
      · have hfails : wp (withdraw key >>= fun _ => failHead status)
            (s.Works head rest) (fun _ _ => False) ⟨registered,
              forwarder, engine, s.submissions ++ [⟨head.packet, registered.queue, false⟩]⟩ := by
          refine (wp_bind _).mpr (wp_post hwithdraw ?_)
          rintro _ t ⟨core', hcore', rfl⟩
          exact failHead_works hpacket hsends hnever hrefusals hcore' (.inl ⟨hmove, rfl⟩) status
        cases status <;> first | exact absurd rfl hstatus | exact hfails
  · rintro status unchanged ⟨hunchanged, hcall⟩
    rw [hunchanged]
    have hregister : errorOf (registerInflightTransaction head.packet s.core) = some status := by
      obtain ⟨l, -, rfl, -⟩ := hrelabels
      rw [← errorOf_registerInflightTransaction head.packet s.core l
        (sentHead outcome head :: rest), hcall]
      rfl
    by_cases hstatus : status = .busy ∨ status = .capacityExceeded
    · have hparks := parkHead_works (t := { s with
        core := { core with queue := sentHead outcome head :: rest }, forwarder := forwarder })
        hsubmitted hsends hpassed (.inl ⟨status, hregister, hstatus⟩) (.inl ⟨rfl, rfl⟩) hcore
      rcases hstatus with rfl | rfl
      · exact hparks
      · exact hparks
    · have hfails := failHead_works (t := { s with
        core := { core with queue := sentHead outcome head :: rest }, forwarder := forwarder })
        hpacket hsends hnever (.inl ⟨rfl, rfl⟩) hcore (.inl ⟨hmove, rfl⟩) status
      cases status <;> first
        | exact absurd (.inl rfl) hstatus
        | exact absurd (.inr rfl) hstatus
        | exact hfails

/-! ### A round -/

/-- The head waits for nothing, or only for another packet after the next rank was asked. -/
def Going (head : QueuedWork) (rest : List QueuedWork) : Prop :=
  head.state ≠ .waitingSubmit ∧ (head.state = .waitingForward ∨
    (rest.any fun entry => isDependency entry.packet head.packet) = false)

/-- The outcomes of a round. -/
inductive Round (s : RankDaemon seams) : Attempt → RankDaemon seams → Prop
  | idle (hqueue : s.core.queue = []) : Round s (.done 0) s
  | rotated (head : QueuedWork) (rest : List QueuedWork) (hqueue : s.core.queue = head :: rest)
      (hwaits : ¬Going head rest) :
      Round s .again { s with core := { s.core with queue := rest ++ [head] } }
  | worked (head : QueuedWork) (rest : List QueuedWork) (attempt : Attempt)
      (s' : RankDaemon seams) (hqueue : s.core.queue = head :: rest) (hgoing : Going head rest)
      (h : s.Works head rest attempt s') : Round s attempt s'

theorem pumpHead_wp (h : s.core.ledger.Mapped) : wp pumpHead s.Round (fun _ _ => False) s := by
  rw [pumpHead, wp_read]
  dsimp only
  cases hqueue : s.core.queue with
  | nil => exact .idle hqueue
  | cons head rest =>
    dsimp only
    rw [hasQueuedDependency_head]
    have hgoing : ¬Going head rest ↔ head.state = .waitingSubmit ∨ head.state ≠ .waitingForward ∧
        (rest.any fun entry => isDependency entry.packet head.packet) = true := by
      rw [Going, not_and_or, not_not, not_or, Bool.not_eq_false]
    refine wp_ite.mpr ⟨fun hwait => ?_, fun hgo => ?_⟩
    · show s.Round .again { s with core := s.core.deferWork }
      rw [show s.core.deferWork = { s.core with queue := rest ++ [head] } by
        rw [deferWork, hqueue]]
      exact .rotated head rest hqueue (hgoing.mpr hwait)
    have hgoing : Going head rest := not_not.mp (hgoing.not.mpr hgo)
    rw [wp_bind]
    refine wp_post (forwardHead_wp h hqueue) ?_
    intro result t hforwards
    cases result with
    | some attempt => exact .worked head rest attempt t hqueue hgoing hforwards
    | none =>
      obtain ⟨outcome, forwarder, core, hsends, hpassed, hready, rfl⟩ := hforwards
      exact wp_post (submitHead_wp h hsends hpassed hready)
        fun attempt s' hworks => .worked head rest attempt s' hqueue hgoing hworks

theorem pumpQueuedWork_invariant {I : RankDaemon seams → Prop}
    (hmapped : ∀ s, I s → s.core.ledger.Mapped)
    (hround : ∀ s attempt s', I s → s.Round attempt s' → I s') (h : I s) :
    I (finalState (pumpQueuedWork s)) := by
  have hrounds attempts :
      ∀ s, I s → wp (pumpRounds attempts) (fun _ s' => I s') (fun _ _ => False) s := by
    induction attempts with
    | zero => exact fun s h => h
    | succ _ ih =>
      intro s h
      rw [pumpRounds, wp_bind]
      refine wp_post (pumpHead_wp (hmapped s h)) ?_
      intro attempt s' hs'
      have hnext := hround s attempt s' h hs'
      cases attempt with
      | again => exact ih s' hnext
      | done => exact hnext
  refine wp_finalState ?_
  rw [pumpQueuedWork, wp_read]
  exact wp_total (hrounds _ s h) fun _ _ h => h

end RankDaemon

end SparkPipe
