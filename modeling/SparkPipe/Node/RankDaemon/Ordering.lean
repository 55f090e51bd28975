import SparkPipe.Node.RankDaemon.Serving

/-!
# The order of the work of a sequence

Packets of one sequence depend on each other, and the pump lets a packet wait while another one that
has to be executed before it is queued. A packet is looked at again when the next rank has kept it
waiting; its dependencies are not, so the engine gets packets in order as long as no dependency of a
packet that waits for the next rank arrives. A packet that releases a sequence waits for every other
packet of the sequence, and they wait for it, as it stands at the first position; then nothing moves.
The pump moves exactly if some packet of the queue depends on no other one.
-/

open Program

namespace SparkPipe

open WorkControl List

namespace RankDaemonCore

/-- The tables have room for a packet. -/
def HasRoom (core : RankDaemonCore) (packet : WorkControlPacket) : Prop :=
  ∀ status, errorOf (registerInflightTransaction packet core) = some status →
    status ≠ .busy ∧ status ≠ .capacityExceeded

/-- Some entry of the queue depends on no other one. -/
def HasFreeEntry (queue : List QueuedWork) : Prop :=
  ∃ index entry, queue[index]? = some entry ∧ hasQueuedDependency queue index entry.packet = false

end RankDaemonCore

namespace RankDaemon

open RankDaemonCore

variable {seams : DaemonSeams} {s s' : RankDaemon seams} {head : QueuedWork}
  {rest : List QueuedWork} {attempt : Attempt} {packet : WorkControlPacket}

/-! ### What the engine is given -/

/-- Only the head waits for the next rank, and nothing queued goes before it. -/
def WaitsInOrder : List QueuedWork → Prop
  | [] => True
  | head :: rest =>
    (head.state = .waitingForward →
      (rest.any fun entry => isDependency entry.packet head.packet) = false) ∧
    ∀ entry ∈ rest, entry.state ≠ .waitingForward

/-- The engine was given nothing too early, and will not be. -/
structure InOrder (s : RankDaemon seams) : Prop where
  coherent : s.core.Coherent
  waits : WaitsInOrder s.core.queue
  submissions : ∀ submission ∈ s.submissions,
    hasQueuedDependency submission.queue 0 submission.packet = false

/-- A packet that arrives is no dependency of a head that waits for the next rank. -/
def Undisturbed (s : RankDaemon seams) (packet : WorkControlPacket) : Prop :=
  ∀ head ∈ s.core.queue.head?, head.state = .waitingForward →
    isDependency packet head.packet = false

instance (s : RankDaemon seams) (packet : WorkControlPacket) : Decidable (s.Undisturbed packet) :=
  inferInstanceAs (Decidable (∀ head ∈ s.core.queue.head?, head.state = .waitingForward →
    isDependency packet head.packet = false))

theorem WaitsInOrder.free (h : WaitsInOrder (head :: rest)) (hgoing : Going head rest) :
    (rest.any fun entry => isDependency entry.packet head.packet) = false :=
  hgoing.2.elim h.1 id

theorem waitsInOrder_of_notMem {queue : List QueuedWork}
    (h : ∀ entry ∈ queue, entry.state ≠ .waitingForward) : WaitsInOrder queue := by
  cases queue with
  | nil => trivial
  | cons head =>
    exact ⟨fun hhead => absurd hhead (h head (.head _)), fun entry hentry =>
      h entry (.tail _ hentry)⟩

theorem WaitsInOrder.concat (h : WaitsInOrder (head :: rest)) {last : QueuedWork}
    (hlast : last.state ≠ .waitingForward) : WaitsInOrder (rest ++ [last]) := by
  refine waitsInOrder_of_notMem fun entry hentry => ?_
  rcases mem_append.mp hentry with hentry | hentry
  · exact h.2 entry hentry
  · obtain rfl := mem_singleton.mp hentry
    exact hlast

theorem WaitsInOrder.insert {before old after : List QueuedWork}
    {wireBytes : List Nat} (h : WaitsInOrder (before ++ old ++ after))
    (hafter : old = [] ∧ after = [] ∨ ∃ entry, old = [entry])
    (hundisturbed : ∀ head ∈ (before ++ old ++ after).head?, head.state = .waitingForward →
      isDependency packet head.packet = false) :
    WaitsInOrder (before ++ queuedWork packet wireBytes :: after) := by
  have hnew : (queuedWork packet wireBytes).state ≠ .waitingForward := WorkState.noConfusion
  cases before with
  | nil =>
    refine waitsInOrder_of_notMem fun entry hentry => ?_
    rcases mem_cons.mp hentry with rfl | hentry
    · exact hnew
    · rcases hafter with ⟨-, rfl⟩ | ⟨first, rfl⟩
      · cases hentry
      · exact h.2 entry hentry
  | cons head =>
    rw [cons_append, cons_append] at h
    rw [cons_append]
    refine ⟨fun hhead => ?_, fun entry hentry => ?_⟩
    · have hold := h.1 hhead
      rw [append_assoc, any_append, any_append, Bool.or_eq_false_iff,
        Bool.or_eq_false_iff] at hold
      have harrived : isDependency (queuedWork packet wireBytes).packet head.packet = false :=
        hundisturbed head rfl hhead
      rw [any_append, any_cons, hold.1, hold.2.2, harrived]
      rfl
    · rcases mem_append.mp hentry with hentry | hentry
      · exact h.2 entry (mem_append_left _ (mem_append_left _ hentry))
      rcases mem_cons.mp hentry with rfl | hentry
      · exact hnew
      · exact h.2 entry (mem_append_right _ hentry)

theorem InOrder.submissions_of_call (h : s.InOrder) {head' : QueuedWork}
    (hfree : (rest.any fun entry => isDependency entry.packet head.packet) = false)
    (accepted : Bool) : ∀ submission ∈ s.submissions ++ [⟨head.packet, head' :: rest, accepted⟩],
      hasQueuedDependency submission.queue 0 submission.packet = false := by
  intro submission hmem
  rcases mem_append.mp hmem with hmem | hmem
  · exact h.submissions submission hmem
  · obtain rfl := mem_singleton.mp hmem
    rw [hasQueuedDependency_head]
    exact hfree

theorem InOrder.works (h : s.InOrder) (hqueue : s.core.queue = head :: rest)
    (hgoing : Going head rest) (hworks : s.Works head rest attempt s') : s'.InOrder := by
  have hcoherent := coherent_of_works h.coherent hqueue hworks
  have hwaits := h.waits
  rw [hqueue] at hwaits
  have hfree := hwaits.free hgoing
  have hrefused {outcome : Option (Except SparkStatus Unit)} {engine : seams.Engine}
      {submissions : List Submission}
      (hrefusals : s.Refusals (sentHead outcome head) rest engine submissions) :
      ∀ submission ∈ submissions,
        hasQueuedDependency submission.queue 0 submission.packet = false := by
    rcases hrefusals with ⟨rfl, -⟩ | ⟨rfl, -⟩
    · exact h.submissions
    · rw [sentHead_packet]
      exact h.submissions_of_call hfree false
  have hgone {core : RankDaemonCore} (hrest : core.queue = rest) : WaitsInOrder core.queue :=
    hrest ▸ waitsInOrder_of_notMem hwaits.2
  cases hworks with
  | waits _ _ _ _ _ hcore =>
    refine ⟨hcoherent, ?_, h.submissions⟩
    rw [hcore.queue_eq]
    exact ⟨fun _ => hfree, hwaits.2⟩
  | failed _ _ _ _ _ _ _ _ hsubmissions hcore =>
    exact ⟨hcoherent, hgone hcore.queue_eq, hrefused hsubmissions⟩
  | popped _ _ _ _ _ _ hcore =>
    exact ⟨hcoherent, hgone hcore.queue_eq, h.submissions⟩
  | parked _ _ _ _ _ _ _ _ _ hsubmissions hcore =>
    refine ⟨hcoherent, ?_, hrefused hsubmissions⟩
    rw [hcore.queue_eq]
    exact hwaits.concat WorkState.noConfusion
  | launched _ _ _ _ _ _ _ _ _ _ _ _ hcore =>
    exact ⟨hcoherent, hgone hcore.queue_eq, h.submissions_of_call hfree true⟩

theorem InOrder.handles (h : s.InOrder) (hundisturbed : s.Undisturbed packet)
    {answer : SparkStatus} {core : RankDaemonCore} (hhandles : s.core.Handles packet answer core) :
    { s with core := core }.InOrder := by
  refine ⟨h.coherent.handles hhandles, ?_, h.submissions⟩
  cases hhandles with
  | refused | full | known | declined | failed => exact h.waits
  | queued _ _ _ _ _ _ _ hqueue =>
    obtain ⟨wireBytes, before, old, after, -, hold, hafter, rfl⟩ :=
      hqueue.eq_append fun entry hentry => (h.coherent.waits entry hentry).submitted
    have hwaits := h.waits
    rw [hold] at hwaits
    refine hwaits.insert (hafter.imp_right fun ⟨entry, hentry, _⟩ => ⟨entry, hentry⟩) ?_
    rw [← hold]
    exact hundisturbed

theorem inOrder_invariant :
    ServingInvariant (fun s : RankDaemon seams => s.InOrder) Undisturbed where
  mapped _ h := h.coherent.mapped
  round s attempt s' h hround := by
    have hcoherent := coherent_invariant.round s attempt s' h.coherent hround
    cases hround with
    | idle => exact h
    | rotated _ _ hqueue hstays =>
      refine ⟨hcoherent, ?_, h.submissions⟩
      have hwaits := h.waits
      rw [hqueue] at hwaits
      refine hwaits.concat fun hforward => hstays ⟨?_, .inl hforward⟩
      rw [hforward]
      exact WorkState.noConfusion
    | worked _ _ _ _ hqueue hgoing hworks => exact h.works hqueue hgoing hworks
  handles _ _ _ _ h harrives _ hhandles := h.handles harrives hhandles
  completes s core h hcompletes := by
    refine ⟨h.coherent.completes hcompletes, ?_, h.submissions⟩
    cases hcompletes <;> exact h.waits
  wakes s h := by
    refine ⟨h.coherent.wakes, waitsInOrder_of_notMem fun entry hentry => ?_, h.submissions⟩
    obtain ⟨entry', -, rfl⟩ := mem_map.mp hentry
    exact WorkState.noConfusion
  reports s core h hreports := by
    refine ⟨h.coherent.reports hreports, ?_, h.submissions⟩
    obtain ⟨waiting, overflow, events, rfl⟩ := hreports
    exact h.waits

/-! ### What moves -/

/-- The next rank and the engine take whatever they are given. -/
structure Willing (seams : DaemonSeams) : Prop where
  forward : ∀ wireBytes id fingerprint forwarder,
    errorOf (seams.forward wireBytes id fingerprint forwarder) = none
  submit : ∀ packet engine, errorOf (seams.submit packet engine) = none

theorem Works.removes (hwilling : Willing seams) (hroom : s.core.HasRoom head.packet)
    (h : s.Works head rest attempt s') : attempt = .done 1 ∧ s'.core.queue = rest := by
  cases h with
  | waits status forwarder core hsends hstatus hcore =>
    cases hsends with
    | called _ _ _ _ _ hcall =>
      have hnone := hwilling.forward head.wireBytes (identity head.packet)
        (s.core.fingerprint head.packet) s.forwarder
      rw [attempt] at hcall
      split at hcall
      · cases hcall
      · rename_i heq
        rw [heq] at hnone
        cases hnone
  | failed _ _ _ _ _ _ _ _ _ hcore | popped _ _ _ _ _ _ hcore
  | launched _ _ _ _ _ _ _ _ _ _ _ _ hcore => exact ⟨rfl, hcore.queue_eq⟩
  | parked _ _ _ _ _ _ _ _ hbusy =>
    rcases hbusy with ⟨status, hstatus, hwhy⟩ | hbusy
    · obtain ⟨hbusy, hcapacity⟩ := hroom status hstatus
      exact absurd hwhy (not_or.mpr ⟨hbusy, hcapacity⟩)
    · rw [hwilling.submit] at hbusy
      cases hbusy

theorem pumpRounds_wp (hwilling : Willing seams) (todo : List QueuedWork) :
    ∀ (done : List QueuedWork) (s : RankDaemon seams), s.core.ledger.Mapped →
      s.core.queue = todo ++ done → (∀ entry ∈ todo, entry.state = .ready) →
      (∀ entry ∈ todo, s.core.HasRoom entry.packet) →
      wp (pumpRounds todo.length) (fun _ s' =>
        s'.core.queue.length < s.core.queue.length ↔ ∃ before entry after,
          todo = before ++ entry :: after ∧ ((before ++ after ++ done).any fun other =>
            isDependency other.packet entry.packet) = false) (fun _ _ => False) s := by
  induction todo with
  | nil =>
    intro done s _ _ _ _
    refine ⟨fun hlt => absurd hlt (Nat.lt_irrefl _), ?_⟩
    rintro ⟨before, entry, after, hnil, -⟩
    cases (append_eq_nil_iff.mp hnil.symm).2
  | cons head todo ih =>
    intro done s hmapped hqueue hready hroom
    rw [length_cons, pumpRounds, wp_bind]
    refine wp_post (pumpHead_wp hmapped) ?_
    intro attempt s' hround
    cases hround with
    | idle hnil =>
      rw [hnil] at hqueue
      cases hqueue
    | rotated head' rest hqueue' hstays =>
      obtain ⟨rfl, rfl⟩ : head = head' ∧ todo ++ done = rest := by
        rw [hqueue] at hqueue'
        exact List.cons.inj hqueue'
      -- the head depends on another entry, so it comes to those that were looked at
      refine wp_post (ih (done ++ [head]) _ hmapped (append_assoc _ _ _)
        (fun entry hentry => hready entry (.tail _ hentry)) fun entry hentry => ?_) ?_
      · intro status hstatus
        refine hroom entry (.tail _ hentry) status ?_
        rw [← errorOf_registerInflightTransaction entry.packet s.core s.core.ledger
          (todo ++ done ++ [head])]
        exact hstatus
      intro _ t ht
      have hlength : (todo ++ done ++ [head]).length = s.core.queue.length := by
        rw [hqueue]
        simp only [length_append, length_cons, length_nil]
        omega
      rw [hlength] at ht
      rw [ht]
      have hsame (before after : List QueuedWork) (entry : QueuedWork) :
          ((before ++ after ++ (done ++ [head])).any fun other =>
            isDependency other.packet entry.packet) =
          ((head :: before ++ after ++ done).any fun other =>
            isDependency other.packet entry.packet) := by
        simp only [any_append, any_cons, any_nil, Bool.or_false]
        generalize isDependency head.packet entry.packet = a
        cases a <;> simp
      constructor
      · rintro ⟨before, entry, after, rfl, hfree⟩
        exact ⟨head :: before, entry, after, rfl, by rw [← hsame]; exact hfree⟩
      rintro ⟨before, entry, after, hsplit, hfree⟩
      cases before with
      | nil =>
        obtain ⟨rfl, rfl⟩ := List.cons.inj hsplit
        refine absurd ⟨?_, .inr hfree⟩ hstays
        rw [hready head (.head _)]
        exact WorkState.noConfusion
      | cons _ before =>
        obtain ⟨rfl, rfl⟩ := List.cons.inj hsplit
        exact ⟨before, entry, after, rfl, by rw [hsame]; exact hfree⟩
    | worked head' rest _ _ hqueue' hgoing hworks =>
      obtain ⟨rfl, rfl⟩ : head = head' ∧ todo ++ done = rest := by
        rw [hqueue] at hqueue'
        exact List.cons.inj hqueue'
      obtain ⟨rfl, hremoved⟩ := hworks.removes hwilling (hroom head (.head _))
      rw [wp_pure, hremoved, hqueue, cons_append]
      refine ⟨fun _ => ⟨[], head, todo, rfl, ?_⟩, fun _ => Nat.lt_succ_self _⟩
      refine hgoing.2.resolve_left ?_
      rw [hready head (.head _)]
      exact WorkState.noConfusion

theorem hasFreeEntry_iff {queue : List QueuedWork} :
    HasFreeEntry queue ↔ ∃ before entry after, queue = before ++ entry :: after ∧
      ((before ++ after ++ []).any fun other =>
        isDependency other.packet entry.packet) = false := by
  constructor
  · rintro ⟨index, entry, hindex, hfree⟩
    obtain ⟨hlt, rfl⟩ := List.getElem?_eq_some_iff.mp hindex
    have hsplit : queue = queue.take index ++ queue[index] :: queue.drop (index + 1) := by
      rw [getElem_cons_drop, take_append_drop]
    refine ⟨_, _, _, hsplit, ?_⟩
    rw [append_nil, ← hasQueuedDependency_at _ queue[index], ← hsplit,
      length_take_of_le hlt.le]
    exact hfree
  · rintro ⟨before, entry, after, rfl, hfree⟩
    refine ⟨before.length, entry, by simp, ?_⟩
    rw [hasQueuedDependency_at, ← append_nil (before ++ after)]
    exact hfree

end RankDaemon

/-! ### Runs -/

open RankDaemon RankDaemonCore

variable {seams : DaemonSeams} {config : WorkControlConfig} {plan : RankPlan}
  {core : RankDaemonCore}

/-- In a run in which no dependency of a packet arrives while it waits for the next rank, nothing
that is queued has to be executed before a packet that the engine is given. -/
theorem work_executes_in_order (hnew : RankDaemonCore.new config plan = .ok core)
    (forwarder : seams.Forwarder) (engine : seams.Engine) (ops : List DaemonOp)
    (hops : Along DaemonOp.exec (Admits Undisturbed) (start seams core forwarder engine) ops) :
    ∀ submission ∈ (runAll DaemonOp.exec (start seams core forwarder engine) ops).submissions,
      hasQueuedDependency submission.queue 0 submission.packet = false := by
  have hstart : (start seams core forwarder engine).InOrder := by
    refine ⟨coherent_of_new hnew, ?_, fun submission hmem => ?_⟩
    · rw [← Except.ok.inj hnew]
      trivial
    · cases hmem
  exact (inOrder_invariant.run hops hstart).submissions

/-- A configuration with packets of one lane. -/
def loneConfig : WorkControlConfig where
  mtpDraftTokenCount := 0
  dsparkMaxSpeculativeTokenCount := 0
  maximumContextTokens := 16
  kvBlockTokens := 4
  maxPrefillTokensPerPacket := 1
  outputVocabCount := 8
  maxLaneCount := 1
  maxActiveSequenceCount := 1
  cohortCapacity := 1

/-- A rank that has not served. -/
def loneCore (plan : RankPlan) : RankDaemonCore where
  workConfig := loneConfig
  rankPlan := plan
  ledger := { entries := List.replicate transactionLedgerCapacity {} }

theorem new_loneConfig (plan : RankPlan) : new loneConfig plan = .ok (loneCore plan) := rfl

/-- A packet that decodes a token of the first sequence at a position. -/
def decodePacket (transactionId position : Nat) : WorkControlPacket where
  descriptorBytes := loneConfig.calculatePacketBytes 1
  requestId := 1
  sequenceId := 1
  sequencePosition := position
  controlGeneration := 1
  transactionId := transactionId
  dispatchGeneration := 1
  requestGeneration := 1
  stepGeneration := 1
  stepChunkCount := 1
  transactionPhase := phaseDecode
  activeSequenceCount := 1
  newTokenCount := 1
  blockTokenCount := 4
  kvBlockTableTokenCount := 16
  maxBlocksPerSequence := 4
  laneCount := 1
  rowsPerLane := 1
  executionRowCount := 1
  executionBatchBucket := 16
  prefillTokenIds := [0]
  lanes :=
    [{ requestId := 1
       requestGeneration := 1
       stepGeneration := 1
       sequenceId := 1
       sequencePosition := position
       contextTokenCount := position + 1
       mtpResolutionPathId := MtpTree.resolutionNone }]

/-- A next rank and an engine that give the answers of a list, and accept from then on. -/
def scriptedSeams : DaemonSeams where
  Forwarder := List SparkStatus
  forward _ _ _ := do
    match ← get with
    | [] => pure ()
    | status :: script =>
      set script
      if status = .ok then pure () else throw status
  Engine := List SparkStatus
  submit _ := do
    match ← get with
    | [] => pure []
    | status :: script =>
      set script
      if status = .ok then pure [] else throw status

/-- Two packets of a sequence; the next rank keeps the first one waiting once. -/
def pausedRun (first second : WorkControlPacket) : List DaemonOp :=
  [.handleWork first, .pumpQueuedWork, .handleWork second, .pumpQueuedWork, .pumpQueuedWork]

theorem work_executes_in_order_paused :
    let rank := runAll DaemonOp.exec (start scriptedSeams
      (loneCore ⟨rankFlagHasNext, 1⟩) [.busy] []) (pausedRun (decodePacket 1 0) (decodePacket 2 1))
    rank.submissions.length = 2 ∧ ∀ submission ∈ rank.submissions,
      hasQueuedDependency submission.queue 0 submission.packet = false :=
  ⟨by decide +kernel, work_executes_in_order (new_loneConfig _) _ _ _
    ⟨show Undisturbed _ _ by decide +kernel, trivial, show Undisturbed _ _ by decide +kernel,
      trivial,
      trivial, trivial⟩⟩

/-- The dependency of a packet arrives while the packet waits for the next rank, and the engine is
given the packet before it. -/
theorem work_executes_out_of_order :
    let ops := pausedRun (decodePacket 2 1) (decodePacket 1 0)
    RankDaemonCore.new loneConfig ⟨rankFlagHasNext, 1⟩ = .ok (loneCore ⟨rankFlagHasNext, 1⟩) ∧
    (∀ op ∈ ops, op.IsServing) ∧
    ∃ submission ∈ (runAll DaemonOp.exec (start scriptedSeams
        (loneCore ⟨rankFlagHasNext, 1⟩) [.busy] []) ops).submissions,
      hasQueuedDependency submission.queue 0 submission.packet = true := by
  refine ⟨new_loneConfig _, ?_, ?_⟩
  · decide
  · decide +kernel

/-- In every run of calls that serve, a transaction is queued at most once, with the packet that
the ledger has accepted, and what the engine has is executing and not queued any more. -/
theorem queued_or_executing (hnew : RankDaemonCore.new config plan = .ok core)
    (forwarder : seams.Forwarder) (engine : seams.Engine) (ops : List DaemonOp)
    (hops : ∀ op ∈ ops, op.IsServing) :
    let s := (runAll DaemonOp.exec (start seams core forwarder engine) ops).core
    (s.queue.map fun entry => identity entry.packet).Nodup ∧
      (∀ entry ∈ s.queue, s.mark (identity entry.packet) = s.acceptedMark entry.packet) ∧
      ∀ key transaction, s.inflightTransactions.lookup key = some transaction →
        s.mark transaction.identity = some ⟨transaction.packetHash, .executing, .pending⟩ ∧
          ∀ entry ∈ s.queue, identity entry.packet ≠ transaction.identity := by
  intro s
  have hs : s.Coherent := coherent_run hnew forwarder engine hops
  refine ⟨hs.distinct, fun entry hentry => (hs.waits entry hentry).accepted,
    fun key transaction hlookup => ?_⟩
  have hexecuting := (hs.executes key transaction hlookup).executing
  refine ⟨hexecuting, fun entry hentry hsame => ?_⟩
  have haccepted := (hs.waits entry hentry).accepted
  rw [hsame, hexecuting] at haccepted
  exact LedgerState.noConfusion (congrArg Mark.state (Option.some.inj haccepted))

theorem queued_or_executing_paused :
    let s := (runAll DaemonOp.exec (start scriptedSeams (loneCore ⟨rankFlagHasNext, 1⟩) [.busy] [])
      [.handleWork (decodePacket 1 0), .pumpQueuedWork, .handleWork (decodePacket 2 1)]).core
    s.queue.length = 2 ∧ (s.queue.map fun entry => identity entry.packet).Nodup :=
  ⟨by decide +kernel, (queued_or_executing (new_loneConfig _) _ _ _ (by decide)).1⟩

/-- If the next rank and the engine take whatever they are given, nothing in the queue has to wait
for them and there is room for all of it, the pump removes an entry iff one depends on no other. -/
theorem pump_removes_iff_entry_free {seams' : DaemonSeams}
    (hnew : RankDaemonCore.new config plan = .ok core) (forwarder : seams.Forwarder)
    (engine : seams.Engine) (ops : List DaemonOp) (hops : ∀ op ∈ ops, op.IsServing)
    (rank : RankDaemon seams') (hwilling : Willing seams')
    (hreached : rank.core = (runAll DaemonOp.exec (start seams core forwarder engine) ops).core)
    (hready : ∀ entry ∈ rank.core.queue, entry.state = .ready)
    (hroom : ∀ entry ∈ rank.core.queue, rank.core.HasRoom entry.packet) :
    (finalState (pumpQueuedWork rank)).core.queue.length < rank.core.queue.length ↔
      HasFreeEntry rank.core.queue := by
  have hmapped : rank.core.ledger.Mapped := by
    rw [hreached]
    exact (coherent_run hnew forwarder engine hops).mapped
  rw [hasFreeEntry_iff]
  refine wp_finalState (m := pumpQueuedWork) (R := fun rank' =>
    rank'.core.queue.length < rank.core.queue.length ↔ _) ?_
  rw [pumpQueuedWork, wp_read]
  exact wp_total (pumpRounds_wp hwilling rank.core.queue [] rank hmapped (append_nil _).symm
    hready hroom) fun _ _ h => h

/-- A next rank and an engine that take whatever they are given. -/
def willingSeams : DaemonSeams where
  Forwarder := Unit
  forward _ _ _ := pure ()
  Engine := Unit
  submit _ := pure []

theorem willing_willingSeams : Willing willingSeams := ⟨fun _ _ _ _ => rfl, fun _ _ => rfl⟩

/-- A packet that releases the first sequence. -/
def releasePacket (transactionId : Nat) : WorkControlPacket :=
  { decodePacket transactionId 0 with
    flags := flagReleaseSequences
    transactionPhase := phaseRelease
    newTokenCount := 0
    rowsPerLane := 0
    executionRowCount := 0
    executionBatchBucket := 0 }

instance (core : RankDaemonCore) (packet : WorkControlPacket) : Decidable (core.HasRoom packet) :=
  decidable_of_iff (∀ status ∈ errorOf (registerInflightTransaction packet core),
    status ≠ .busy ∧ status ≠ .capacityExceeded) Iff.rfl

/-- The first of two steps of a sequence is queued behind the second one, which waits for it. -/
theorem pump_removes_iff_entry_free_waiting :
    let rank := runAll DaemonOp.exec (start willingSeams (loneCore ⟨0, 1⟩) () ())
      [.handleWork (decodePacket 2 1), .handleWork (decodePacket 1 0)]
    rank.core.queue.length = 2 ∧
      hasQueuedDependency rank.core.queue 0 (decodePacket 2 1) = true ∧
      (finalState (pumpQueuedWork rank)).core.queue.length < rank.core.queue.length := by
  intro rank
  have hrun : rank.core.queue.length = 2 ∧
      hasQueuedDependency rank.core.queue 0 (decodePacket 2 1) = true ∧
      ∀ entry ∈ rank.core.queue, entry.state = .ready ∧ rank.core.HasRoom entry.packet := by
    decide +kernel
  have hfree : rank.core.queue[1]?.any fun entry =>
      hasQueuedDependency rank.core.queue 1 entry.packet == false := by decide +kernel
  obtain ⟨entry, hentry, hfree⟩ := (Option.any_eq_true ..).mp hfree
  refine ⟨hrun.1, hrun.2.1, (pump_removes_iff_entry_free (new_loneConfig _) _ _ _ (by decide) rank
    willing_willingSeams rfl (fun entry hentry => (hrun.2.2 entry hentry).1)
    fun entry hentry => (hrun.2.2 entry hentry).2).mpr ⟨1, entry, hentry, eq_of_beq hfree⟩⟩

/-- The release of a sequence and a packet of the sequence wait for each other. -/
theorem pump_stalls_on_release :
    let ops : List DaemonOp := [.handleWork (releasePacket 1), .handleWork (decodePacket 2 1)]
    let rank := runAll DaemonOp.exec (start willingSeams (loneCore ⟨0, 1⟩) () ()) ops
    RankDaemonCore.new loneConfig ⟨0, 1⟩ = .ok (loneCore ⟨0, 1⟩) ∧
      (∀ op ∈ ops, op.IsServing) ∧ Willing willingSeams ∧ rank.core.queue.length = 2 ∧
      (∀ entry ∈ rank.core.queue, entry.state = .ready ∧ rank.core.HasRoom entry.packet) ∧
      (finalState (pumpQueuedWork rank)).core.queue.length = 2 := by
  refine ⟨new_loneConfig _, ?_, willing_willingSeams, ?_⟩
  · decide
  · decide +kernel

end SparkPipe
