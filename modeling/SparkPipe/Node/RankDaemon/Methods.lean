import SparkPipe.Node.RankDaemon.Daemon
import SparkPipe.Node.RankDaemon.LedgerMarks

/-!
# The methods of the daemon's core

Each method of the core is described once, by what it does to the queue, to what the ledger says
and to the tables of what is in flight.
-/

open Program

namespace SparkPipe

open WorkControl

theorem wp_onLedger {α : Type} {call : LedgerM α} {Q : α → RankDaemonCore → Prop}
    {E : SparkStatus → RankDaemonCore → Prop} {s : RankDaemonCore} :
    wp (onLedger call) Q E s ↔ wp call (fun a l => Q a { s with ledger := l })
      (fun error l => E error { s with ledger := l }) s.ledger := wp_onPart ..

theorem getTransactionIdentity_eq_ok {packet : WorkControlPacket} {id : Identity} :
    getTransactionIdentity packet = .ok id ↔
      identityIsValid (identity packet) ∧ id = identity packet := by
  rw [getTransactionIdentity]
  split_ifs with hvalid
  · exact ⟨fun h => ⟨hvalid, (Except.ok.inj h).symm⟩, fun h => by rw [h.2]⟩
  · refine ⟨fun h => ?_, fun h => absurd h.1 hvalid⟩
    cases h

namespace RankDaemonCore

variable {s t s' : RankDaemonCore} {packet : WorkControlPacket} {target : LedgerState}
  {status : SparkStatus} {entry head : QueuedWork} {rest : List QueuedWork}
  {id : Identity} {m : Option Mark} {completionKey : Nat} {table : AList fun _ : Nat => β}
  {l : TransactionLedger} {value : β} {β : Type}

/-! ### Transitions -/

/-- The fingerprint under which the ledger knows a packet. -/
def fingerprint (s : RankDaemonCore) (packet : WorkControlPacket) : Nat :=
  packetFingerprint packet s.workConfig

def mark (s : RankDaemonCore) (id : Identity) : Option Mark := s.ledger.mark id

/-- A transition of a packet is carried out. -/
def CanMove (s : RankDaemonCore) (packet : WorkControlPacket) (target : LedgerState)
    (status : SparkStatus) : Prop :=
  identityIsValid (identity packet) ∧ s.fingerprint packet ≠ 0 ∧
    Mark.moveStatus (s.mark (identity packet)) (s.fingerprint packet) target status = .ok

/-- Only what the ledger says about one identity has changed. -/
def Relabels (s : RankDaemonCore) (id : Identity) (mark : Option Mark) (s' : RankDaemonCore) :
    Prop :=
  ∃ l : TransactionLedger, l.Mapped ∧ s' = { s with ledger := l } ∧
    ∀ id', l.mark id' = if id' = id then mark else s.mark id'

theorem Relabels.refl (h : s.ledger.Mapped) (id : Identity) : s.Relabels id (s.mark id) s := by
  refine ⟨s.ledger, h, rfl, fun id' => ?_⟩
  split_ifs with hid
  · rw [hid]
    rfl
  · rfl

theorem moveStatus_eq_duplicate {fingerprint : Nat}
    (h : Mark.moveStatus m fingerprint target status = .duplicate) : target.isTerminal = true := by
  unfold Mark.moveStatus at h
  split at h
  · cases h
  · split_ifs at h with hother hterminal hdone
    rw [← hdone.1]
    exact hterminal

theorem transitionPacket_wp (h : s.ledger.Mapped) (packet : WorkControlPacket)
    (target : LedgerState) (status : SparkStatus) :
    wp (transitionPacket packet target status)
      (fun _ s' => s.CanMove packet target status ∧ s.Relabels (identity packet)
        ((s.mark (identity packet)).map fun m => m.moved target status) s')
      (fun error s' => s' = s ∧ (target.isStored → ¬s.CanMove packet target status ∧
        (error = .duplicate → target.isTerminal))) s := by
  rw [transitionPacket]
  cases hidentity : getTransactionIdentity packet with
  | error error =>
    refine ⟨rfl, fun _ => ⟨fun hmove => ?_, fun hdup => ?_⟩⟩
    · rw [getTransactionIdentity_eq_ok.mpr ⟨hmove.1, rfl⟩] at hidentity
      cases hidentity
    · cases error <;> cases hdup
  | ok =>
    obtain ⟨hvalid, rfl⟩ := getTransactionIdentity_eq_ok.mp hidentity
    rw [wp_read]
    refine wp_ite.mpr ⟨fun hzero => ?_, fun hnonzero => ?_⟩
    · exact ⟨rfl, fun _ => ⟨fun hmove => hmove.2.1 hzero, fun hdup => by cases hdup⟩⟩
    rw [wp_onLedger]
    refine wp_mono (TransactionLedger.distributedTransition_wp h _ target status) ?_ ?_
    · rintro _ l ⟨hl, -, hmove, hmark⟩
      exact ⟨⟨hvalid, hnonzero, hmove⟩, l, hl, rfl, hmark⟩
    · rintro error l ⟨rfl, herror, hwhy⟩
      refine ⟨rfl, fun htarget => ⟨fun hmove => herror ?_, fun hdup => ?_⟩⟩
      · exact (hwhy hvalid htarget).symm.trans hmove.2.2
      · exact moveStatus_eq_duplicate ((hwhy hvalid htarget).trans hdup)

theorem failHeadWork_wp (h : s.ledger.Mapped) (hqueue : s.queue = head :: rest)
    (status : SparkStatus) :
    wp (failHeadWork status)
      (fun _ s' => ∃ t m, s.Relabels (identity head.packet) m t ∧ s' = { t with queue := rest } ∧
        (¬s.CanMove head.packet .failed status ∧ m = s.mark (identity head.packet) ∨
          m = (s.mark (identity head.packet)).map fun m => m.moved .failed status))
      (fun _ _ => False) s := by
  rw [failHeadWork, wp_read, hqueue]
  rw [wp_bind, wp_attempt]
  have htail {t : RankDaemonCore} {m : Option Mark} (ht : s.Relabels (identity head.packet) m t) :
      t.popWork = { t with queue := rest } := by
    obtain ⟨l, -, rfl, -⟩ := ht
    rw [popWork]
    simp only [hqueue, List.tail_cons]
  refine wp_mono (transitionPacket_wp h head.packet .failed status) ?_ ?_
  · rintro _ t ⟨-, ht⟩
    exact ⟨t, _, ht, htail ht, .inr rfl⟩
  · rintro error t ⟨rfl, hwhy⟩
    exact ⟨t, _, .refl h _, htail (.refl h (identity head.packet)), .inl ⟨(hwhy rfl).1, rfl⟩⟩

/-! ### Packets that arrive -/

/-- What queueing a packet makes of the queue. -/
def Queues (s : RankDaemonCore) (packet : WorkControlPacket) (queue : List QueuedWork) : Prop :=
  ∃ wireBytes, packetToWire s.workConfig packet = .ok wireBytes ∧
    (s.queue.length < workQueueCapacity ∧ queue = s.queue ++ [queuedWork packet wireBytes] ∨
      ∃ index entry, s.queue[index]? = some entry ∧ isQueuedAs wireBytes entry ∧
        queue = s.queue.modify index (requeued packet))

theorem queueWork_wp (packet : WorkControlPacket) :
    wp (queueWork packet) (fun _ s' => ∃ queue, s.Queues packet queue ∧
        s' = { s with queue := queue })
      (fun _ s' => s' = s ∧ (s.queue.length < workQueueCapacity →
        ∀ wireBytes, packetToWire s.workConfig packet ≠ .ok wireBytes)) s := by
  rw [queueWork, wp_read]
  cases hwire : packetToWire s.workConfig packet with
  | error => exact ⟨rfl, fun _ _ hok => by cases hok⟩
  | ok wireBytes =>
    dsimp only
    cases hfind : s.queue.findIdx? (isQueuedAs wireBytes) with
    | some index =>
      obtain ⟨hlt, hsame, -⟩ := List.findIdx?_eq_some_iff_getElem.mp hfind
      exact ⟨_, ⟨wireBytes, hwire, .inr ⟨index, s.queue[index], List.getElem?_eq_getElem hlt,
        hsame, rfl⟩⟩, rfl⟩
    | none =>
      refine wp_ite.mpr
        ⟨fun hfull => ⟨rfl, fun hroom => absurd hfull (not_le.mpr hroom)⟩, fun hroom => ?_⟩
      exact ⟨_, ⟨wireBytes, hwire, .inl ⟨not_le.mp hroom, rfl⟩⟩, rfl⟩

/-- A packet that passes the checks. -/
def Admissible (s : RankDaemonCore) (packet : WorkControlPacket) : Prop :=
  validatePacket packet s.workConfig s.rankPlan.executionRowCapacity daemonPipelineSlotCount =
      .ok () ∧
    identityIsValid (identity packet) ∧ s.fingerprint packet ≠ 0

/-- What is answered about a transaction that the ledger knows. -/
def replayStatus (mark : Mark) : SparkStatus :=
  if mark.state = .failed ∨ mark.state = .cancelled then mark.terminalStatus else .duplicate

/-- What can become of a packet that arrives. -/
inductive Handles (s : RankDaemonCore) (packet : WorkControlPacket) :
    SparkStatus → RankDaemonCore → Prop
  | refused (answer : SparkStatus) (h : ¬s.Admissible packet) : Handles s packet answer s
  | full (h : s.Admissible packet) (hfull : workQueueCapacity ≤ s.queue.length) :
      Handles s packet .capacityExceeded s
  | known (l : TransactionLedger) (m : Mark) (h : s.Admissible packet)
      (hroom : s.queue.length < workQueueCapacity) (hl : l.Mapped)
      (hsame : ∀ id, l.mark id = s.mark id) (hm : s.mark (identity packet) = some m) :
      Handles s packet (if m.payloadFingerprint ≠ s.fingerprint packet then .validationFailed
          else replayStatus m) { s with ledger := l }
  | declined (l : TransactionLedger) (answer : SparkStatus) (h : s.Admissible packet)
    (hl : l.Mapped)
      (hsame : ∀ id, l.mark id = s.mark id) (hm : s.mark (identity packet) = none)
      (hwhy : s.ledger.Full ∨ ∃ e, s.ledger.Unprepared packet.controlGeneration e) :
      Handles s packet answer { s with ledger := l }
  | queued (l : TransactionLedger) (queue : List QueuedWork) (h : s.Admissible packet)
    (hl : l.Mapped)
      (hm : s.mark (identity packet) = none)
      (hnew : l.mark (identity packet) = some ⟨s.fingerprint packet, .accepted, .pending⟩)
      (hrest : s.ledger.KeepsOthers (identity packet) l) (hqueue : s.Queues packet queue)
      (hcapacity : l.entryCapacity = s.ledger.entryCapacity) :
      Handles s packet .ok { s with ledger := l, queue := queue }
  | failed (l : TransactionLedger) (answer : SparkStatus) (h : s.Admissible packet) (hl : l.Mapped)
      (hm : s.mark (identity packet) = none)
      (hnew : l.mark (identity packet) = some ⟨s.fingerprint packet, .failed, answer⟩)
      (hrest : s.ledger.KeepsOthers (identity packet) l)
      (hwire : ∀ wireBytes, packetToWire s.workConfig packet ≠ .ok wireBytes) :
      Handles s packet answer { s with ledger := l }

theorem duplicateStatus_wp (h : s.ledger.Mapped) (hvalid : identityIsValid id) {m : Mark}
    (hm : s.mark id = some m) :
    wp (duplicateStatus id) (fun answer s' => s' = s ∧ answer = replayStatus m)
      (fun _ _ => False) s := by
  rw [duplicateStatus, wp_bind, wp_attempt, wp_onLedger]
  refine wp_mono (TransactionLedger.find_wp h id) ?_ ?_
  · rintro e l ⟨rfl, -, hmark⟩
    obtain rfl := Option.some.inj (hmark.symm.trans hm)
    refine wp_ite.mpr ⟨fun hdone => ⟨rfl, ?_⟩, fun hactive => ⟨rfl, ?_⟩⟩
    · exact (if_pos hdone).symm
    · exact (if_neg hactive).symm
  · rintro error l ⟨rfl, -, hwhy⟩
    have hnone := (hwhy hvalid).2
    rw [show s.ledger.mark id = some m from hm] at hnone
    cases hnone

theorem acceptWork_wp (hadmissible : s.Admissible packet)
    (hroom : s.queue.length < workQueueCapacity) (hl : l.Mapped)
    (hcapacity : l.entryCapacity = s.ledger.entryCapacity)
    (hadds : s.ledger.Adds (identity packet) (s.fingerprint packet) l) :
    wp (acceptWork packet (identity packet) (s.fingerprint packet))
      (fun answer s' => s.Handles packet answer s') (fun _ _ => False) { s with ledger := l } := by
  have hvalid := hadmissible.2.1
  obtain ⟨hm, hprepared, hrest⟩ := hadds
  rw [acceptWork, wp_bind, wp_attempt, wp_onLedger]
  refine wp_mono (TransactionLedger.distributedTransition_wp hl _ .accepted .pending) ?_ ?_
  · rintro _ u ⟨hu, hcapacityu, -, hmark⟩
    have hnew : u.mark (identity packet) = some ⟨s.fingerprint packet, .accepted, .pending⟩ := by
      rw [hmark, if_pos rfl, hprepared]
      rfl
    have hothers : s.ledger.KeepsOthers (identity packet) u := by
      intro id' hne
      rw [hmark, if_neg hne]
      exact hrest id' hne
    rw [wp_bind, wp_attempt]
    refine wp_mono (queueWork_wp packet) ?_ ?_
    · rintro _ s' ⟨queue, hqueue, rfl⟩
      exact .queued u queue hadmissible hu hm hnew hothers hqueue (hcapacityu.trans hcapacity)
    rintro error s' ⟨rfl, hwire⟩
    rw [wp_bind, wp_attempt, wp_onLedger]
    refine wp_mono (TransactionLedger.distributedTransition_wp hu _ .failed error) ?_ ?_
    · rintro _ v ⟨hv, -, -, hmark'⟩
      refine .failed v error hadmissible hv hm ?_ ?_ (hwire hroom)
      · rw [hmark', if_pos rfl, hnew]
        rfl
      · intro id' hne
        rw [hmark', if_neg hne]
        exact hothers id' hne
    · rintro error' v ⟨rfl, hbad, hwhy⟩
      refine absurd (hwhy hvalid rfl).symm ?_
      rw [hnew, Mark.moveStatus_some rfl]
      exact hbad
  · rintro error u ⟨rfl, hbad, hwhy⟩
    refine absurd (hwhy hvalid rfl).symm ?_
    rw [hprepared, Mark.moveStatus_some rfl]
    exact hbad

theorem handleWork_wp (h : s.ledger.Mapped) (packet : WorkControlPacket) :
    wp (handleWork packet) (fun answer s' => s.Handles packet answer s') (fun _ _ => False) s := by
  rw [handleWork, wp_read]
  cases hvalidate : validatePacket packet s.workConfig s.rankPlan.executionRowCapacity
      daemonPipelineSlotCount with
  | error error =>
    refine .refused _ fun hadmissible => ?_
    rw [hadmissible.1] at hvalidate
    cases hvalidate
  | ok _ =>
    cases hidentity : getTransactionIdentity packet with
    | error =>
      refine .refused _ fun hadmissible => ?_
      rw [getTransactionIdentity_eq_ok.mpr ⟨hadmissible.2.1, rfl⟩] at hidentity
      cases hidentity
    | ok =>
      obtain ⟨hvalid, rfl⟩ := getTransactionIdentity_eq_ok.mp hidentity
      refine wp_ite.mpr ⟨fun hzero => .refused _ fun hadmissible => hadmissible.2.2 hzero,
        fun hnonzero => ?_⟩
      have hadmissible : s.Admissible packet := ⟨hvalidate, hvalid, hnonzero⟩
      refine wp_ite.mpr ⟨fun hfull => .full hadmissible hfull, fun hroom => ?_⟩
      rw [wp_bind, wp_attempt, wp_onLedger]
      refine wp_mono (TransactionLedger.distributedObserve_wp h hvalid hnonzero) ?_ ?_
      · rintro _ l ⟨hl, hcapacity, hadds⟩
        exact acceptWork_wp hadmissible (not_le.mp hroom) hl hcapacity hadds
      rintro error l ⟨hl, hsame, hdup, hconflict, hwhy⟩
      have hknown {m : Mark} hm :
          Handles s packet (if m.payloadFingerprint ≠ s.fingerprint packet then
            .validationFailed else replayStatus m) { s with ledger := l } :=
        .known l m hadmissible (not_le.mp hroom) hl hsame hm
      by_cases herror : error = .duplicate
      · obtain ⟨m, hm, hfp⟩ := hdup.mp herror
        subst herror
        refine wp_post (duplicateStatus_wp hl hvalid ((hsame _).trans hm)) ?_
        rintro answer s' ⟨rfl, rfl⟩
        have hhandles := hknown hm
        rwa [if_neg (not_not.mpr (show m.payloadFingerprint = s.fingerprint packet from hfp))]
          at hhandles
      · have hhandles : s.Handles packet error { s with ledger := l } := by
          cases hm : s.mark (identity packet) with
          | none => exact .declined l error hadmissible hl hsame hm (hwhy hm)
          | some m =>
            have hfp : m.payloadFingerprint ≠ s.fingerprint packet :=
              fun hfp => herror (hdup.mpr ⟨m, hm, hfp⟩)
            have hhandles := hknown hm
            rwa [if_pos hfp, ← hconflict ⟨m, hm, hfp⟩] at hhandles
        cases error <;> first | exact absurd rfl herror | exact hhandles

/-! ### What the engine executes -/

/-- A packet is entered before it is submitted, unless it releases sequences. -/
inductive Registers (s : RankDaemonCore) (packet : WorkControlPacket) :
    Option Nat → RankDaemonCore → Prop
  | release (h : packet.releasesSequences = true) : Registers s packet none s
  | entered (completions : AList fun _ : Nat => InflightCompletion)
      (h : packet.releasesSequences = false)
      (hkey : identityFingerprint (identity packet) ∉ s.inflightTransactions) :
      Registers s packet (some (identityFingerprint (identity packet)))
        { s with
          inflightCompletions := completions
          driverInflightCount := s.driverInflightCount + packet.laneCount
          inflightTransactions := s.inflightTransactions.insert
            (identityFingerprint (identity packet))
            { identity := identity packet, packetHash := s.fingerprint packet,
              remainingCompletionCount := packet.laneCount } }

theorem registerInflightTransaction_wp (packet : WorkControlPacket) :
    wp (registerInflightTransaction packet) (fun key s' => s.Registers packet key s')
      (fun _ s' => s' = s) s := by
  rw [registerInflightTransaction, wp_read]
  refine wp_ite.mpr ⟨fun hrelease => .release hrelease, fun hrelease => ?_⟩
  refine wp_ite.mpr ⟨fun _ => rfl, fun _ => ?_⟩
  cases hidentity : getTransactionIdentity packet with
  | error => exact rfl
  | ok =>
    obtain ⟨-, rfl⟩ := getTransactionIdentity_eq_ok.mp hidentity
    refine wp_ite.mpr ⟨fun _ => rfl, fun _ => wp_ite.mpr ⟨fun _ => rfl, fun _ => wp_ite.mpr
      ⟨fun _ => rfl, fun _ => wp_ite.mpr ⟨fun _ => rfl, fun hkey => ?_⟩⟩⟩⟩
    cases enterLanes (identityFingerprint (identity packet)) s.inflightCompletions
        packet.usedLanes with
    | none => exact rfl
    | some completions =>
      refine wp_ite.mpr ⟨fun _ => rfl, fun _ => ?_⟩
      exact .entered completions (Bool.eq_false_of_not_eq_true hrelease) hkey

/-- A transaction is taken back with its lanes. -/
def cancelled (s : RankDaemonCore) (owner : Nat) : RankDaemonCore :=
  { s with
    inflightCompletions := (s.ownedKeys owner).foldl
      (fun completions key => completions.erase key) s.inflightCompletions
    driverInflightCount := s.driverInflightCount - (s.ownedKeys owner).length
    inflightTransactions := s.inflightTransactions.erase owner }

theorem cancelInflightTransaction_wp (key : Nat) : wp (cancelInflightTransaction key)
      (fun _ s' => s' = s.cancelled key)
      (fun _ s' => s' = s ∧ key ∉ s.inflightTransactions) s := by
  rw [cancelInflightTransaction, wp_read]
  exact wp_ite.mpr ⟨fun _ => rfl, fun hkey => ⟨rfl, hkey⟩⟩

theorem lookup_insert_eq {key key' : Nat} :
    (table.insert key value).lookup key' =
      if key' = key then some value else table.lookup key' := by
  split_ifs with hkey
  · rw [hkey, AList.lookup_insert]
  · exact AList.lookup_insert_ne hkey

theorem erase_insert_of_notMem {key : Nat}
    (h : key ∉ table) : (table.insert key value).erase key = table := by
  refine AList.ext ?_
  show List.kerase key (table.insert key value).entries = _
  rw [AList.entries_insert_of_notMem h]
  exact List.kerase_cons_eq rfl

/-! ### Completions -/

theorem queueDriverCompletion_wp (record : DriverCompletionRecord) :
    wp (queueDriverCompletion record)
      (fun _ s' => s' = { s with driverCompletionQueue := s.driverCompletionQueue ++ [record] })
      (fun _ s' => ∃ overflow, s' = { s with driverCompletionQueueOverflow := overflow }) s := by
  rw [queueDriverCompletion, wp_read]
  exact wp_ite.mpr ⟨fun _ => ⟨_, rfl⟩, fun _ => wp_ite.mpr ⟨fun _ => ⟨true, rfl⟩, fun _ => rfl⟩⟩

/-- A transaction that was noted a status or a completion. -/
def Notes (transaction noted : InflightTransaction) : Prop :=
  noted.identity = transaction.identity ∧ noted.packetHash = transaction.packetHash ∧
    (noted.terminalState = transaction.terminalState ∨ noted.terminalState = some .failed)

theorem notes_noteStatus (status : SparkStatus) (transaction : InflightTransaction) :
    Notes transaction (noteStatus status transaction) := by
  rw [noteStatus]
  split_ifs
  · exact ⟨rfl, rfl, .inr rfl⟩
  · exact ⟨rfl, rfl, .inl rfl⟩

/-- The ledger is told how a transaction ends, unless it knows. -/
def Ends (s : RankDaemonCore) (transaction : InflightTransaction) (l : TransactionLedger) : Prop :=
  let status := Mark.moveStatus (s.mark transaction.identity) transaction.packetHash
    (endState transaction) (endStatus transaction)
  status = .ok ∧ (∀ id, l.mark id = if id = transaction.identity then
      (s.mark transaction.identity).map fun m =>
        m.moved (endState transaction) (endStatus transaction)
      else s.mark id) ∨
    l = s.ledger ∧ (identityIsValid transaction.identity →
      (endState transaction).isStored → status = .duplicate)

/-- A completion is rejected, or noted, or it ends its transaction. -/
inductive Completes (s : RankDaemonCore) : RankDaemonCore → Prop
  | rejected : Completes s s
  | noted (key : Nat) (transaction noted : InflightTransaction)
      (transactions : AList fun _ : Nat => InflightTransaction)
      (completions : AList fun _ : Nat => InflightCompletion) (count : Nat)
      (events : List FinalEvent) (h : s.inflightTransactions.lookup key = some transaction)
      (hnoted : Notes transaction noted)
      (hrest : ∀ key', transactions.lookup key' =
        if key' = key then some noted else s.inflightTransactions.lookup key') :
      Completes s { s with
        inflightTransactions := transactions
        inflightCompletions := completions
        driverInflightCount := count
        finalEventQueue := events }
  | ended (key : Nat) (transaction noted : InflightTransaction) (l : TransactionLedger)
      (transactions : AList fun _ : Nat => InflightTransaction)
      (completions : AList fun _ : Nat => InflightCompletion) (count : Nat)
      (events : List FinalEvent) (h : s.inflightTransactions.lookup key = some transaction)
      (hnoted : Notes transaction noted) (hl : l.Mapped) (hends : s.Ends noted l)
      (hrest : ∀ key', transactions.lookup key' =
        if key' = key then none else s.inflightTransactions.lookup key') :
      Completes s { s with
        ledger := l
        inflightTransactions := transactions
        inflightCompletions := completions
        driverInflightCount := count
        finalEventQueue := events }

/-- A lane of a transaction that was noted has completed. -/
def settled (s : RankDaemonCore) (completionKey owner : Nat) (noted : InflightTransaction)
    (l : TransactionLedger) (events : List FinalEvent) : RankDaemonCore :=
  { settleCompletion completionKey owner noted { s with
      ledger := l
      inflightTransactions := s.inflightTransactions.insert owner noted } with
    finalEventQueue := events }

theorem lookup_settled {owner key : Nat} {noted : InflightTransaction}
    {events : List FinalEvent} :
    (s.settled completionKey owner noted l events).inflightTransactions.lookup key =
      if key = owner then
        if noted.remainingCompletionCount = 1 then none
        else some { noted with remainingCompletionCount := noted.remainingCompletionCount - 1 }
      else s.inflightTransactions.lookup key := by
  show AList.lookup key (ite _ _ _) = _
  split_ifs with hlast hkey hkey
  · rw [hkey, AList.lookup_erase]
  · rw [AList.lookup_erase_ne hkey, AList.lookup_insert_ne hkey]
  · rw [hkey, AList.lookup_insert]
  · rw [AList.lookup_insert_ne hkey, AList.lookup_insert_ne hkey]

theorem finishCompletion_wp {owner : Nat} {transaction : InflightTransaction}
    {event : Option FinalEvent} {R : RankDaemonCore → Prop} (h : ∀ events, R
      { settleCompletion completionKey owner transaction s with finalEventQueue := events }) :
    wp (finishCompletion completionKey owner transaction event) (fun _ s' => R s')
      (fun _ s' => R s') s := by
  cases event with
  | none =>
    rw [finishCompletion, wp_bind, wp_modify]
    exact h _
  | some event =>
    rw [finishCompletion, wp_bind, wp_modify]
    rw [queueFinalEvent, wp_read]
    exact wp_ite.mpr ⟨fun _ => h _, fun _ => h _⟩

theorem processDriverCompletion_wp (h : s.ledger.Mapped) (record : DriverCompletionRecord) :
    wp (processDriverCompletion record) (fun _ => s.Completes) (fun _ => s.Completes) s := by
  rw [processDriverCompletion, wp_read]
  generalize inflightCompletionHash record.completion.requestId record.completion.sequenceId
    record.completion.sequencePosition = completionKey
  rw [wp_bind, wp_orFail]
  refine ⟨fun inflight _ => ?_, fun _ => .rejected⟩
  rw [wp_bind, wp_orFail]
  refine ⟨fun transaction htransaction => ?_, fun _ => .rejected⟩
  refine wp_ite.mpr ⟨fun _ => .rejected, fun _ => wp_ite.mpr ⟨fun _ => .rejected, fun _ => ?_⟩⟩
  rw [wp_bind, wp_set]
  have hnotes := notes_noteStatus (effectiveStatus record) transaction
  generalize noteStatus (effectiveStatus record) transaction = noted at hnotes
  refine wp_ite.mpr ⟨fun hlast => ?_, fun hmore => ?_⟩
  · rw [wp_bind, wp_attempt, wp_onLedger]
    have hended {l : TransactionLedger} (hl : l.Mapped) (hends : s.Ends noted l)
        events :
        s.Completes (s.settled completionKey inflight.owner noted l events) := by
      refine .ended inflight.owner transaction noted l _ _ _ events htransaction hnotes hl hends
        fun key' => lookup_settled.trans ?_
      rw [if_pos hlast]
    refine wp_mono (TransactionLedger.distributedTransition_wp h noted.identity (endState noted)
      (endStatus noted)) ?_ ?_
    · rintro _ l ⟨hl, -, hmove, hmark⟩
      exact finishCompletion_wp (hended hl (.inl ⟨hmove, hmark⟩))
    rintro error l ⟨rfl, herror, hwhy⟩
    by_cases hdup : error = .duplicate
    · subst hdup
      exact finishCompletion_wp (hended h (.inr ⟨rfl, hwhy⟩))
    · have hnote : s.Completes { s with
          inflightTransactions := s.inflightTransactions.insert inflight.owner noted } :=
        .noted inflight.owner transaction noted _ _ _ _ htransaction hnotes
          fun key' => lookup_insert_eq
      cases error <;> first | exact absurd rfl hdup | exact hnote
  · refine finishCompletion_wp fun events => .noted inflight.owner transaction { noted with
      remainingCompletionCount := noted.remainingCompletionCount - 1 } _ _ _ events htransaction
      hnotes fun key' => lookup_settled.trans (by rw [if_neg hmore])

end RankDaemonCore

end SparkPipe
