import Mathlib.Data.List.AList
import SparkPipe.Node.RankDaemon.Wire

/-!
# The core of the rank daemon

A rank receives work packets, forwards each of them to the next rank, submits it to its engine and
reports what the engine completes. Packets wait in a queue whose head is worked on; a head that
cannot go on is rotated to the tail. The ledger remembers the transactions, and two tables the
transactions that the engine is executing and the lanes for which it owes a completion.

The counters and clocks of the daemon, which only its reports read, are left out, and so are the
fields of a completion that it does not read. A rollback of lanes that were entered is modelled by
not entering them. The pointer comparison by which the queue leaves an entry out of its own
dependencies is a comparison of positions.
-/

open Program

namespace SparkPipe

open WorkControl

/-- Packets that wait. -/
def workQueueCapacity : Nat := 64
/-- Transactions that are remembered. -/
def transactionLedgerCapacity : Nat := 4096
/-- Lanes in flight. -/
def inflightCompletionCapacity : Nat := 16384
/-- Transactions in flight. -/
def inflightTransactionCapacity : Nat := 4096
/-- Completions of the driver that wait. -/
def driverCompletionQueueCapacity : Nat := 4096
/-- Events for the coordinator that wait. -/
def finalEventQueueCapacity : Nat := 2048
/-- Pipeline slots of a packet. -/
def daemonPipelineSlotCount : Nat := 1024

/-! ### Data -/

/-- What a queued packet waits for. -/
inductive WorkState
  | ready
  | waitingForward
  | waitingSubmit
  deriving DecidableEq

/-- The phase of a packet, counted from zero. -/
def workPacketPhase (packet : WorkControlPacket) : Nat := transactionPhase packet - 1

/-- A packet in the queue and how far it got. -/
structure QueuedWork where
  packet : WorkControlPacket
  wireBytes : List Nat
  fingerprint32 : Nat
  state : WorkState := .ready
  submitted : Bool := false
  forwarded : Bool := false
  deriving DecidableEq

/-- Equality of the bytes of two packets. -/
def packetMatches (left : WorkControlPacket) (leftWire rightWire : List Nat) : Bool :=
  left.descriptorBytes = rightWire.length && leftWire = rightWire

/-- The version of a draft result. -/
def draftAbiVersion : Nat := 2
/-- The size of a draft result. -/
def draftResultBytes : Nat := 72
/-- Tokens of a completion. -/
def completionTokenCapacity : Nat := 8
/-- Draft tokens of a completion. -/
def completionDraftTokenCapacity : Nat := 8

/-- The drafts that come with a completion. -/
structure DsparkDraftResult where
  abiVersion : Nat := 0
  descriptorBytes : Nat := 0
  flags : Nat := 0
  tokenCount : Nat := 0
  confidenceMilli : List Nat := List.replicate 7 0
  tokenIds : List Nat := List.replicate 7 0

/-- The version and the size are right. -/
def DsparkDraftResult.hasValidDescriptor (draft : DsparkDraftResult) : Bool :=
  draft.abiVersion = draftAbiVersion && draft.descriptorBytes = draftResultBytes

/-- What the driver reports for a lane. -/
structure DriverCompletion where
  requestId : Nat := 0
  sequenceId : Nat := 0
  sequencePosition : Nat := 0
  programId : Nat := 0
  driverDispatchSlot : Nat := 0
  acceptedTokenCount : Nat := 0
  completionFlags : Nat := 0
  tokenCount : Nat := 0
  tokenIds : List Nat := List.replicate completionTokenCapacity 0
  draftTokenCount : Nat := 0
  draftTokenIds : List Nat := List.replicate completionDraftTokenCapacity 0
  status : Nat := 0
  serviceTimeNs : Nat := 0

namespace DriverCompletion

/-- The flag for tokens. -/
def hasTokenIds (completion : DriverCompletion) : Bool :=
  Nat.land completion.completionFlags 1 ≠ 0

/-- The flag for draft tokens. -/
def hasDraftTokenIds (completion : DriverCompletion) : Bool :=
  Nat.land completion.completionFlags 2 ≠ 0

end DriverCompletion

/-- What the engine delivers, and what waits to be processed. -/
structure DriverCompletionRecord where
  completion : DriverCompletion
  draft : Option DsparkDraftResult := none

/-- The mark of an event. -/
def finalEventMagic : Nat := 0x35454650
/-- The size of an event. -/
def finalEventDescriptorBytes : Nat := 272
/-- The event carries drafts. -/
def finalEventFlagDsparkDraft : Nat := 1

/-- What the coordinator is told about a lane. -/
structure FinalEvent where
  magic : Nat := 0
  descriptorBytes : Nat := 0
  status : Nat := 0
  programId : Nat := 0
  driverDispatchSlot : Nat := 0
  acceptedTokenCount : Nat := 0
  completionFlags : Nat := 0
  tokenCount : Nat := 0
  tokenIds : List Nat := List.replicate 8 0
  draftTokenCount : Nat := 0
  draftTokenIds : List Nat := List.replicate 8 0
  requestId : Nat := 0
  sequenceId : Nat := 0
  sequencePosition : Nat := 0
  serviceTimeNs : Nat := 0
  controlGeneration : Nat := 0
  transactionId : Nat := 0
  dispatchGeneration : Nat := 0
  requestGeneration : Nat := 0
  stepGeneration : Nat := 0
  stepChunkIndex : Nat := 0
  stepChunkCount : Nat := 0
  transactionPhase : Nat := 0
  reservedTransaction : Nat := 0
  extensionFlags : Nat := 0
  dsparkDraft : DsparkDraftResult := {}

/-- A transaction that the engine works on. -/
structure InflightTransaction where
  identity : Identity
  packetHash : Nat
  remainingCompletionCount : Nat
  /-- The state in which the transaction will end, if that is known. -/
  terminalState : Option LedgerState := none
  terminalStatus : SparkStatus := .pending

/-- A lane that has not completed. -/
structure InflightCompletion where
  owner : Nat
  requestGeneration : Nat

/-- Another rank follows. -/
def rankFlagHasNext : Nat := 2
/-- The rank computes the last layers. -/
def rankFlagFinalStage : Nat := 4

/-- The place of the rank in the pipeline. -/
structure RankPlan where
  flags : Nat
  executionRowCapacity : Nat

namespace RankPlan

/-- Packets are forwarded. -/
def hasNext (plan : RankPlan) : Bool := Nat.land plan.flags rankFlagHasNext ≠ 0

/-- Tokens are reported. -/
def isFinalStage (plan : RankPlan) : Bool := Nat.land plan.flags rankFlagFinalStage ≠ 0

end RankPlan

/-- The queue, the ledger and the work in flight. -/
structure RankDaemonCore where
  workConfig : WorkControlConfig
  rankPlan : RankPlan
  queue : List QueuedWork := []
  ledger : TransactionLedger
  inflightTransactions : AList fun _ : Nat => InflightTransaction := ∅
  inflightCompletions : AList fun _ : Nat => InflightCompletion := ∅
  driverCompletionQueue : List DriverCompletionRecord := []
  driverCompletionQueueOverflow : Bool := false
  finalEventQueue : List FinalEvent := []
  driverInflightCount : Nat := 0

/-- Methods of the daemon, which may fail. -/
abbrev DaemonM := EStateM SparkStatus RankDaemonCore

/-- Run a method of the ledger. -/
def onLedger {α : Type} (call : LedgerM α) : DaemonM α :=
  onPart RankDaemonCore.ledger (fun core ledger => { core with ledger := ledger }) id call

namespace RankDaemonCore

/-- A daemon without work. -/
def new (workConfig : WorkControlConfig) (rankPlan : RankPlan) :
    Except SparkStatus RankDaemonCore := do
  let ledger ← TransactionLedger.new transactionLedgerCapacity
  pure { workConfig := workConfig, rankPlan := rankPlan, ledger := ledger }

/-! ### The queue -/

variable (packet : WorkControlPacket)

/-- An entry that is queued again starts again, unless the engine has it. -/
def requeued (entry : QueuedWork) : QueuedWork :=
  if entry.submitted then entry
  else { entry with packet := packet, forwarded := false, state := .ready }

/-- A packet as it enters the queue. -/
def queuedWork (wireBytes : List Nat) : QueuedWork where
  packet := packet
  wireBytes := wireBytes
  fingerprint32 := packetDedupHash32 wireBytes

/-- Whether a packet with these bytes is queued as an entry. -/
def isQueuedAs (wireBytes : List Nat) (entry : QueuedWork) : Bool :=
  entry.fingerprint32 = packetDedupHash32 wireBytes &&
    packetMatches entry.packet entry.wireBytes wireBytes

/-- Queue a packet; the answer is whether it is new. -/
def queueWork : DaemonM Bool := do
  let core ← get
  match packetToWire core.workConfig packet with
  | .error status => throw status
  | .ok wireBytes =>
    match core.queue.findIdx? (isQueuedAs wireBytes) with
    | some index =>
      set { core with queue := core.queue.modify index (requeued packet) }
      pure false
    | none =>
      if workQueueCapacity ≤ core.queue.length then throw .capacityExceeded
      else
        set { core with queue := core.queue ++ [queuedWork packet wireBytes] }
        pure true

variable (core : RankDaemonCore)

/-- Drop the head of the queue. -/
def popWork : RankDaemonCore := { core with queue := core.queue.tail }

/-- Rotate the head to the tail. -/
def deferWork : RankDaemonCore :=
  match core.queue with
  | [] => core
  | head :: rest => { core with queue := rest ++ [head] }

/-- No packet waits any longer. -/
def wakeDeferredWork : RankDaemonCore :=
  { core with queue := core.queue.map fun entry : QueuedWork => { entry with state := .ready } }

/-- Change the head of the queue. -/
def updateHead (update : QueuedWork → QueuedWork) (core : RankDaemonCore) : RankDaemonCore :=
  { core with queue := core.queue.modify 0 update }

/-- Whether a candidate goes before a packet: it writes before it in a sequence of both, or the
packet releases the sequence. -/
def isDependency (candidate packet : WorkControlPacket) : Bool :=
  candidate.controlGeneration = packet.controlGeneration &&
    candidate.usedLanes.any fun candidateLane =>
      match packet.usedLanes.find? fun lane => lane.sequenceId = candidateLane.sequenceId
      with
      | none => false
      | some packetLane =>
        (packet.releasesSequences && !candidate.releasesSequences) ||
          candidateLane.sequencePosition < packetLane.sequencePosition ||
          (candidateLane.sequencePosition = packetLane.sequencePosition &&
            workPacketPhase candidate < workPacketPhase packet)

/-- Whether another packet of the queue has to be executed before the packet at a position. -/
def hasQueuedDependency (queue : List QueuedWork) (position : Nat) (packet : WorkControlPacket) :
    Bool :=
  if queue.length ≤ 1 then false
  else queue.zipIdx.any fun indexed =>
    indexed.2 ≠ position && isDependency indexed.1.packet packet

/-! ### Transactions -/

/-- Move the ledger entry of a packet. -/
def transitionPacket (nextState : LedgerState) (terminalStatus : SparkStatus) : DaemonM Unit := do
  match getTransactionIdentity packet with
  | .error error => throw (fromWorkControl error)
  | .ok identity =>
    let packetHash := packetFingerprint packet (← get).workConfig
    if packetHash = 0 then throw .internalError
    else onLedger (TransactionLedger.distributedTransition identity packetHash nextState
      terminalStatus)

/-- The head is given up. -/
def failHeadWork (status : SparkStatus) : DaemonM Unit := do
  match (← get).queue with
  | [] => pure ()
  | head :: _ =>
    let _ ← (attempt (transitionPacket head.packet .failed status) :
      DaemonM (Except SparkStatus Unit))
    modify popWork

/-- What a packet is answered that the ledger knows. -/
def duplicateStatus (identity : Identity) : DaemonM SparkStatus := do
  match ← (attempt (onLedger (TransactionLedger.find identity)) :
      DaemonM (Except SparkStatus LedgerEntry)) with
  | .ok entry =>
    if entry.state = .failed ∨ entry.state = .cancelled then pure entry.terminalStatus
    else pure .duplicate
  | .error _ => pure .duplicate

/-- A new packet is accepted and queued, or its transaction fails. -/
def acceptWork (identity : Identity) (packetHash : Nat) : DaemonM SparkStatus := do
  match ← (attempt (onLedger (TransactionLedger.distributedTransition identity packetHash .accepted
      .pending)) : DaemonM (Except SparkStatus Unit)) with
  | .error status => pure status
  | .ok _ =>
    match ← (attempt (queueWork packet) : DaemonM (Except SparkStatus Bool)) with
    | .ok _ => pure .ok
    | .error status =>
      let _ ← (attempt (onLedger (TransactionLedger.distributedTransition identity packetHash
        .failed status)) : DaemonM (Except SparkStatus Unit))
      pure status

/-- A packet arrives; the answer is the status that its acknowledgement carries. -/
def handleWork : DaemonM SparkStatus := do
  let core ← get
  match validatePacket packet core.workConfig core.rankPlan.executionRowCapacity
      daemonPipelineSlotCount with
  | .error error => pure (fromWorkControl error)
  | .ok _ =>
    match getTransactionIdentity packet with
    | .error error => pure (fromWorkControl error)
    | .ok identity =>
      let packetHash := packetFingerprint packet core.workConfig
      if packetHash = 0 then pure .internalError
      else if workQueueCapacity ≤ core.queue.length then pure .capacityExceeded
      else
        match ← (attempt (onLedger (TransactionLedger.distributedObserve identity packetHash)) :
            DaemonM (Except SparkStatus Nat)) with
        | .error .duplicate => duplicateStatus identity
        | .error status => pure status
        | .ok _ => acceptWork packet identity packetHash

/-! ### What the engine executes -/

/-- The key under which a completion is looked up. -/
def inflightCompletionHash (requestId sequenceId sequencePosition : Nat) : Nat :=
  fingerprintBytes (word64 requestId ++ word64 sequenceId ++ word64 sequencePosition)

/-- The key under which a lane is in flight. -/
def laneKey (lane : WorkControlLane) : Nat :=
  inflightCompletionHash lane.requestId lane.sequenceId lane.sequencePosition

/-- Enter the lanes of a transaction, unless one of them is in flight. -/
def enterLanes (owner : Nat) : AList (fun _ : Nat => InflightCompletion) →
    List WorkControlLane → Option (AList fun _ : Nat => InflightCompletion)
  | completions, [] => some completions
  | completions, lane :: lanes =>
    if laneKey lane ∈ completions then none
    else enterLanes owner (completions.insert (laneKey lane) ⟨owner, lane.requestGeneration⟩) lanes

/-- Enter a packet to be submitted; one that releases sequences has no completions. -/
def registerInflightTransaction : DaemonM (Option Nat) := do
  let core ← get
  if packet.releasesSequences then pure none
  else if packet.laneCount = 0 ∨ core.workConfig.maxLaneCount < packet.laneCount then
    throw .invalidArgument
  else
    match getTransactionIdentity packet with
    | .error error => throw (fromWorkControl error)
    | .ok identity =>
      let packetHash := packetFingerprint packet core.workConfig
      let transactionKey := identityFingerprint identity
      if packetHash = 0 then throw .internalError
      else if inflightTransactionCapacity ≤ core.inflightTransactions.entries.length then
        throw .busy
      else if inflightCompletionCapacity <
          core.inflightCompletions.entries.length + packet.laneCount then
        throw .capacityExceeded
      else if transactionKey ∈ core.inflightTransactions then throw .validationFailed
      else
        match enterLanes transactionKey core.inflightCompletions packet.usedLanes with
        | none => throw .capacityExceeded
        | some completions =>
          if 2 ^ 32 - 1 - core.driverInflightCount < packet.laneCount then
            throw .capacityExceeded
          else
            set { core with
              inflightCompletions := completions
              driverInflightCount := core.driverInflightCount + packet.laneCount
              inflightTransactions := core.inflightTransactions.insert transactionKey
                { identity := identity, packetHash := packetHash,
                  remainingCompletionCount := packet.laneCount } }
            pure (some transactionKey)

/-- The keys of the lanes that a transaction owns. -/
def ownedKeys (transactionKey : Nat) : List Nat :=
  (core.inflightCompletions.entries.filter fun entry =>
    entry.2.owner = transactionKey).map Sigma.fst

/-- Forget a transaction and its lanes. -/
def cancelInflightTransaction (transactionKey : Nat) : DaemonM Unit := do
  let core ← get
  if transactionKey ∈ core.inflightTransactions then
    set { core with
      inflightCompletions := (core.ownedKeys transactionKey).foldl
        (fun completions key => completions.erase key) core.inflightCompletions
      driverInflightCount := core.driverInflightCount - (core.ownedKeys transactionKey).length
      inflightTransactions := core.inflightTransactions.erase transactionKey }
  else throw .notFound

/-! ### Completions -/

variable (record : DriverCompletionRecord)

/-- Queue a completion; an overflow is noted. -/
def queueDriverCompletion : DaemonM Unit := do
  let core ← get
  if (record.draft.all DsparkDraftResult.hasValidDescriptor) = false then throw .validationFailed
  else if driverCompletionQueueCapacity ≤ core.driverCompletionQueue.length then
    set { core with driverCompletionQueueOverflow := true }
    throw .capacityExceeded
  else set { core with driverCompletionQueue := core.driverCompletionQueue ++ [record] }

/-- The counts of a completion fit its flags. -/
def validateDriverCompletionRecord : Bool :=
  let completion := record.completion
  completion.requestId ≠ 0 && completion.sequenceId ≠ 0 &&
    completion.tokenCount ≤ completionTokenCapacity &&
    completion.draftTokenCount ≤ completionDraftTokenCapacity &&
    completion.hasTokenIds = decide (completion.tokenCount ≠ 0) &&
    completion.hasDraftTokenIds = decide (completion.draftTokenCount ≠ 0) &&
    record.draft.all DsparkDraftResult.hasValidDescriptor

/-- The status with which a completion counts. -/
def effectiveStatus : SparkStatus :=
  if validateDriverCompletionRecord record then
    (statusFromCode record.completion.status).getD .internalError
  else .validationFailed

/-- The last rank reports tokens and failures of live transactions. -/
def completionNeedsFinalEvent (status : SparkStatus) (terminalState : Option LedgerState) : Bool :=
  if core.rankPlan.isFinalStage = false ∨ terminalState ≠ none then false
  else if status ≠ .ok then true
  else record.completion.hasTokenIds && record.completion.tokenCount ≠ 0

/-- The first entries of an array of zeros are replaced. -/
def copyInto (count : Nat) (values : List Nat) : List Nat :=
  values.take count ++ List.replicate (8 - count) 0

variable (transaction : InflightTransaction)

/-- The event for a completed lane. -/
def buildFinalEvent (inflight : InflightCompletion)
    (record : DriverCompletionRecord) (status : SparkStatus) : FinalEvent :=
  let completion := record.completion
  let event : FinalEvent :=
    { magic := finalEventMagic
      descriptorBytes := finalEventDescriptorBytes
      status := statusCode status
      programId := completion.programId
      driverDispatchSlot := completion.driverDispatchSlot
      acceptedTokenCount := completion.acceptedTokenCount
      requestId := completion.requestId
      sequenceId := completion.sequenceId
      sequencePosition := completion.sequencePosition
      serviceTimeNs := completion.serviceTimeNs
      controlGeneration := transaction.identity.controlGeneration
      transactionId := transaction.identity.transactionId
      dispatchGeneration := transaction.identity.dispatchGeneration
      requestGeneration := inflight.requestGeneration
      stepGeneration := transaction.identity.stepGeneration
      stepChunkIndex := transaction.identity.stepChunkIndex
      stepChunkCount := transaction.identity.stepChunkCount
      transactionPhase := transaction.identity.transactionPhase }
  if status ≠ .ok then event
  else
    { event with
      completionFlags := completion.completionFlags
      tokenCount := completion.tokenCount
      tokenIds := copyInto completion.tokenCount completion.tokenIds
      draftTokenCount := completion.draftTokenCount
      draftTokenIds := copyInto completion.draftTokenCount completion.draftTokenIds
      extensionFlags := if record.draft.isSome then finalEventFlagDsparkDraft else 0
      dsparkDraft := record.draft.getD {} }

/-- Queue an event if there is room. -/
def queueFinalEvent (event : FinalEvent) : DaemonM Unit := do
  let core ← get
  if finalEventQueueCapacity ≤ core.finalEventQueue.length then throw .capacityExceeded
  else set { core with finalEventQueue := core.finalEventQueue ++ [event] }

/-- Drop the oldest event. -/
def popFinalEvent : RankDaemonCore :=
  { core with finalEventQueue := core.finalEventQueue.tail }

/-- The first failure of a transaction decides how it ends. -/
def noteStatus (status : SparkStatus) (transaction : InflightTransaction) : InflightTransaction :=
  if transaction.terminalState = none ∧ status ≠ .ok then
    { transaction with terminalState := some .failed, terminalStatus := status }
  else transaction

/-- The state in which a transaction ends. -/
def endState : LedgerState :=
  transaction.terminalState.getD .committed

/-- The status that the ledger keeps. -/
def endStatus : SparkStatus :=
  if endState transaction = .committed then .ok else transaction.terminalStatus

/-- The lane has completed; the transaction is dropped with its last lane. -/
def settleCompletion (completionKey owner : Nat) (transaction : InflightTransaction)
    (core : RankDaemonCore) : RankDaemonCore :=
  { core with
    inflightCompletions := core.inflightCompletions.erase completionKey
    driverInflightCount := core.driverInflightCount - 1
    inflightTransactions :=
      if transaction.remainingCompletionCount = 1 then core.inflightTransactions.erase owner
      else core.inflightTransactions.insert owner
        { transaction with
          remainingCompletionCount := transaction.remainingCompletionCount - 1 } }

/-- The lane completes, and what it reports is queued. -/
def finishCompletion (completionKey owner : Nat) (transaction : InflightTransaction)
    (event : Option FinalEvent) : DaemonM Unit := do
  modify (settleCompletion completionKey owner transaction)
  match event with
  | none => pure ()
  | some event => queueFinalEvent event

/-- Settle a lane, and its transaction with the last one. -/
def processDriverCompletion : DaemonM Unit := do
  let core ← get
  let completionKey := inflightCompletionHash record.completion.requestId
    record.completion.sequenceId record.completion.sequencePosition
  let inflight ← orFail .validationFailed (core.inflightCompletions.lookup completionKey)
  let transaction ← orFail .validationFailed (core.inflightTransactions.lookup inflight.owner)
  if transaction.remainingCompletionCount = 0 then throw .validationFailed
  else
    let status := effectiveStatus record
    let needsEvent := core.completionNeedsFinalEvent record status transaction.terminalState
    if needsEvent = true ∧ finalEventQueueCapacity ≤ core.finalEventQueue.length then throw .busy
    else
      let noted := noteStatus status transaction
      let event := if needsEvent then some (buildFinalEvent noted inflight record status) else none
      set { core with
        inflightTransactions := core.inflightTransactions.insert inflight.owner noted }
      if noted.remainingCompletionCount = 1 then
        match ← (attempt (onLedger (TransactionLedger.distributedTransition noted.identity
            noted.packetHash (endState noted) (endStatus noted))) :
            DaemonM (Except SparkStatus Unit)) with
        | .ok _ | .error .duplicate => finishCompletion completionKey inflight.owner noted event
        | .error status => throw status
      else finishCompletion completionKey inflight.owner noted event

/-- Process waiting completions until one has to wait. -/
def drainDriverCompletions : Nat → Nat → DaemonM Nat
  | 0, progress => pure progress
  | fuel + 1, progress => do
      match (← get).driverCompletionQueue with
      | [] => pure progress
      | record :: _ =>
        match ← (attempt (processDriverCompletion record) : DaemonM (Except SparkStatus Unit)) with
        | .error .busy => pure progress
        | _ =>
          modify fun core => { core with driverCompletionQueue := core.driverCompletionQueue.tail }
          drainDriverCompletions fuel 1

/-- Report an overflow, or else process the completions that wait. -/
def pumpDriverCompletions : DaemonM Nat := do
  let core ← get
  if core.driverCompletionQueueOverflow then
    set { core with driverCompletionQueueOverflow := false }
    pure 1
  else drainDriverCompletions core.driverCompletionQueue.length 0

end RankDaemonCore

/-! ### The next rank and the engine -/

/-- The forwarder and the engine of a daemon. -/
structure DaemonSeams where
  Forwarder : Type
  forward : List Nat → Identity → Nat → EStateM SparkStatus Forwarder Unit
  Engine : Type
  submit : WorkControlPacket → EStateM SparkStatus Engine (List DriverCompletionRecord)

/-- A call of the engine: the packet, the queue at that moment, and whether it was accepted. -/
structure Submission where
  packet : WorkControlPacket
  queue : List QueuedWork
  accepted : Bool

/-- The core with what it drives. The calls of the engine are recorded. -/
structure RankDaemon (seams : DaemonSeams) where
  core : RankDaemonCore
  forwarder : seams.Forwarder
  engine : seams.Engine
  submissions : List Submission := []

namespace RankDaemon

variable (seams : DaemonSeams)

/-- Methods of the daemon with its seams. -/
abbrev RankM := EStateM SparkStatus (RankDaemon seams)

variable {seams}

/-- Run a method of the daemon proper. -/
def onCore {α : Type} (method : DaemonM α) : RankM seams α :=
  onPart RankDaemon.core (fun rank core => { rank with core := core }) id method

/-- Change the daemon proper. -/
def modifyCore (update : RankDaemonCore → RankDaemonCore) : RankM seams Unit :=
  modify fun rank => { rank with core := update rank.core }

/-- Call the forwarder. -/
def onForwarder {α : Type} (call : EStateM SparkStatus seams.Forwarder α) : RankM seams α :=
  onPart RankDaemon.forwarder (fun rank forwarder => { rank with forwarder := forwarder }) id call

/-- Call the engine. -/
def onEngine {α : Type} (call : EStateM SparkStatus seams.Engine α) : RankM seams α :=
  onPart RankDaemon.engine (fun rank engine => { rank with engine := engine }) id call

/-- How a round ends: try again, or report progress. -/
inductive Attempt
  | again
  | done (progress : Nat)

/-- Whether a transition has left the transaction in its state. -/
def isSettled : Except SparkStatus Unit → Bool
  | .ok _ => true
  | .error status => status = .duplicate

/-- The status of an outcome. -/
def statusOf : Except SparkStatus Unit → SparkStatus
  | .ok _ => .ok
  | .error status => status

variable (packet : WorkControlPacket)

/-- Try a transition of a packet. -/
def tryTransition (nextState : LedgerState)
    (terminalStatus : SparkStatus) : RankM seams (Except SparkStatus Unit) :=
  attempt (onCore (RankDaemonCore.transitionPacket packet nextState terminalStatus))

/-- The head fails, which ends the pump. -/
def failHead (status : SparkStatus) : RankM seams Attempt := do
  onCore (RankDaemonCore.failHeadWork status)
  pure (.done 1)

/-- The head waits, in its place or at the tail. -/
def parkHead : RankM seams Attempt := do
  modifyCore fun core =>
    (core.updateHead fun head => { head with state := .waitingSubmit }).deferWork
  pure .again

/-- Forward the head if it is due; the answer says how the round ends, if it does. -/
def forwardHead (head : QueuedWork) : RankM seams (Option Attempt) := do
  let core := (← get).core
  if core.rankPlan.hasNext = false ∨ head.forwarded = true then pure none
  else
    let status ← tryTransition head.packet .accepted .pending
    if isSettled status = false then some <$> failHead (statusOf status)
    else
      match getTransactionIdentity head.packet with
      | .error error => throw (fromWorkControl error)
      | .ok identity =>
        match ← (attempt (onForwarder (seams.forward head.wireBytes identity
            (packetFingerprint head.packet core.workConfig))) :
            RankM seams (Except SparkStatus Unit)) with
        | .ok _ =>
          modifyCore fun core => core.updateHead fun head =>
            { head with forwarded := true, state := .ready }
          pure none
        | .error .busy | .error .routeNotFound =>
          modifyCore fun core => core.updateHead fun head =>
            { head with state := .waitingForward }
          pure (some (.done 0))
        | .error status => some <$> failHead status

/-- Completions that came with the answer of the engine are queued. -/
def queueCompletions (completions : List DriverCompletionRecord) : RankM seams Unit :=
  completions.forM fun record => do
    let _ ← (attempt (onCore (RankDaemonCore.queueDriverCompletion record)) :
      RankM seams (Except SparkStatus Unit))
    pure ()

/-- The engine has the head. -/
def acceptSubmission (completions : List DriverCompletionRecord) : RankM seams Attempt := do
  modifyCore fun core => core.updateHead fun head => { head with submitted := true }
  queueCompletions completions
  let executing ← tryTransition packet .executing .pending
  if isSettled executing = false then throw (statusOf executing)
  else if packet.releasesSequences then
    let committed ← tryTransition packet .committed .ok
    if isSettled committed = false then throw (statusOf committed)
    else
      modifyCore RankDaemonCore.popWork
      pure (.done 1)
  else
    modifyCore RankDaemonCore.popWork
    pure (.done 1)

/-- What was entered for the head is taken back. -/
def withdraw : Option Nat → RankM seams Unit
  | none => pure ()
  | some transactionKey => do
      let _ ← (attempt (onCore (RankDaemonCore.cancelInflightTransaction transactionKey)) :
        RankM seams (Except SparkStatus Unit))
      pure ()

/-- Call the engine, and record the call. -/
def callEngine : RankM seams (Except SparkStatus (List DriverCompletionRecord)) := do
  let queue := (← get).core.queue
  let outcome ← (attempt (onEngine (seams.submit packet)) :
    RankM seams (Except SparkStatus (List DriverCompletionRecord)))
  modify fun rank => { rank with
    submissions := rank.submissions ++ [⟨packet, queue, outcome.toOption.isSome⟩] }
  pure outcome

/-- Hand the head to the engine, once. -/
def submitHead (head : QueuedWork) : RankM seams Attempt := do
  let status ← tryTransition head.packet .accepted .pending
  if isSettled status = false then failHead (statusOf status)
  else if head.submitted then
    modifyCore RankDaemonCore.popWork
    pure (.done 1)
  else
    match ← (attempt (onCore (RankDaemonCore.registerInflightTransaction head.packet)) :
        RankM seams (Except SparkStatus (Option Nat))) with
    | .error .busy | .error .capacityExceeded => parkHead
    | .error status => failHead status
    | .ok transactionKey =>
      match ← callEngine head.packet with
      | .ok completions => acceptSubmission head.packet completions
      | .error .busy =>
        withdraw transactionKey
        parkHead
      | .error status =>
        withdraw transactionKey
        failHead status

/-- One round of the pump: the head is rotated, forwarded or submitted. -/
def pumpHead : RankM seams Attempt := do
  let core := (← get).core
  match core.queue with
  | [] => pure (.done 0)
  | head :: _ =>
    if head.state = .waitingSubmit ∨ (head.state ≠ .waitingForward ∧
          RankDaemonCore.hasQueuedDependency core.queue 0 head.packet) then
      modifyCore RankDaemonCore.deferWork
      pure .again
    else
      match ← forwardHead head with
      | some attempt => pure attempt
      | none => submitHead head

/-- Rounds until one makes progress or gives up. -/
def pumpRounds : Nat → RankM seams Nat
  | 0 => pure 0
  | attempts + 1 => do
      match ← pumpHead with
      | .done progress => pure progress
      | .again => pumpRounds attempts

/-- Work on the queue; every entry is looked at once at most. -/
def pumpQueuedWork : RankM seams Nat := do
  pumpRounds (← get).core.queue.length

end RankDaemon

/-- A public method of the core with its arguments. -/
inductive DaemonOp
  | handleWork (packet : WorkControlPacket)
  | pumpQueuedWork
  | wakeDeferredWork
  | queueDriverCompletion (record : DriverCompletionRecord)
  | processDriverCompletion (record : DriverCompletionRecord)
  | pumpDriverCompletions
  | popFinalEvent
  | queueWork (packet : WorkControlPacket)
  | transitionPacket (packet : WorkControlPacket) (nextState : LedgerState)
      (terminalStatus : SparkStatus)
  | registerInflightTransaction (packet : WorkControlPacket)
  | cancelInflightTransaction (transactionKey : Nat)
  | queueFinalEvent (event : FinalEvent)

namespace DaemonOp

/-- The methods by which the daemon serves. -/
def IsServing : DaemonOp → Prop
  | .handleWork _ | .pumpQueuedWork | .wakeDeferredWork | .queueDriverCompletion _ |
    .processDriverCompletion _ | .pumpDriverCompletions | .popFinalEvent => True
  | _ => False

instance : DecidablePred IsServing
  | .handleWork _ | .pumpQueuedWork | .wakeDeferredWork | .queueDriverCompletion _ |
    .processDriverCompletion _ | .pumpDriverCompletions | .popFinalEvent => .isTrue trivial
  | .queueWork _ | .transitionPacket .. | .registerInflightTransaction _ |
    .cancelInflightTransaction _ | .queueFinalEvent _ => .isFalse id

/-- The method of the core, if it drives neither the next rank nor the engine. -/
def onDaemon : DaemonOp → DaemonM Unit
  | .handleWork packet => discard (RankDaemonCore.handleWork packet)
  | .pumpQueuedWork => pure ()
  | .wakeDeferredWork => modify RankDaemonCore.wakeDeferredWork
  | .queueDriverCompletion record => RankDaemonCore.queueDriverCompletion record
  | .processDriverCompletion record => RankDaemonCore.processDriverCompletion record
  | .pumpDriverCompletions => discard RankDaemonCore.pumpDriverCompletions
  | .popFinalEvent => modify RankDaemonCore.popFinalEvent
  | .queueWork packet => discard (RankDaemonCore.queueWork packet)
  | .transitionPacket packet nextState terminalStatus =>
    RankDaemonCore.transitionPacket packet nextState terminalStatus
  | .registerInflightTransaction packet =>
    discard (RankDaemonCore.registerInflightTransaction packet)
  | .cancelInflightTransaction transactionKey =>
    RankDaemonCore.cancelInflightTransaction transactionKey
  | .queueFinalEvent event => RankDaemonCore.queueFinalEvent event

/-- The state that an operation leaves. -/
def exec {seams : DaemonSeams} (op : DaemonOp) (rank : RankDaemon seams) : RankDaemon seams :=
  match op with
  | .pumpQueuedWork => finalState (RankDaemon.pumpQueuedWork rank)
  | op => { rank with core := finalState (op.onDaemon rank.core) }

end DaemonOp

end SparkPipe
