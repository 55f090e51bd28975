import SparkPipe.Program.Chain
import SparkPipe.Serve.RequestApi.Prefetch

/-!
# The request API: data, slot table and request operations

The request API owns a table of slots, chained through a list of free slots and through a hash
table over request handles, and the scheduler it feeds. Its state has three parts that change
apart from each other: the settings never change, the slot table changes when requests move
through their life, and the runtime (the scheduler and the connected components) changes
whenever anything is probed or planned.

A flags word is a group of Booleans, one for each defined bit. Statistics that are never read
back are left out. The sequence ids for which the scheduler was asked to release a sequence are
recorded in `RequestApi.releasedSequenceIds`; no operation reads that record.
-/

open Program

namespace SparkPipe

def defaultPrefetchLookaheadRequestCount : Nat := 64

def defaultPrefetchLaneCount : Nat := maxPrefetchLaneCount

def maxDispatchRequestCount : Nat := StagePlan.maxBatchBucket

def pendingPrefetchCapacity : Nat := 8

def slotHashSlots : Nat := 4096

def prefixFamilyGroupCapacity : Nat := 256

structure RequestApiFlags where
  (jitKvPrefetch decodeBatching prefixCohorting prefillBatching asyncJitKvPrefetch
    queueAwarePrefixCacheEviction dsparkSpeculativeDecode mtpCommit adaptivePipelineBatching
    mtpForceEnable preferDsparkSpeculation : Bool := false)
  deriving DecidableEq

def requestApiDefaultFlags : RequestApiFlags where
  jitKvPrefetch := true
  decodeBatching := true
  prefixCohorting := true
  prefillBatching := true
  queueAwarePrefixCacheEviction := true

structure RequestApiConfig (E : Seams) where
  configurationFlags : RequestApiFlags
  requestCapacity : UInt32
  prefetchLookaheadRequestCount : Nat := 0
  prefetchLaneCount : Nat := 0
  decodeBatchTarget : Nat := 0
  maxResidentKvBlockCount : Nat := 0
  decodeExecutionRowCapacity : Nat := 0
  scheduler : Scheduler
  kvPrefetchBackend : Option E.Backend := none
  modelSpeculator : Option E.Speculator := none
  outputVocabCount : Nat := 0

/-- The normalised configuration, which no operation changes. -/
structure RequestApiSettings where
  configurationFlags : RequestApiFlags
  requestCapacity : Nat
  prefetchLookaheadRequestCount : Nat
  prefetchLaneCount : Nat
  decodeBatchTarget : Nat
  maxResidentKvBlockCount : Nat
  decodeExecutionRowCapacity : Nat
  outputVocabCount : Nat
  arenaResidentBlockCapacity : Nat

/-- The slots with their chains, and the counters of requests and dispatches. -/
structure SlotTable where
  slots : List Slot
  freeSlotHead : Nat
  slotHandleHashHeads : List Nat
  nextHandle : Nat
  nextSequenceId : Nat
  submissionCounter : Nat
  queuedRequestCount : Nat
  runningRequestCount : Nat
  completedRequestCount : Nat
  cancelledRequestCount : Nat
  scheduledDecodeDispatchCount : Nat
  mtpVerifyDispatchCount : Nat
  dsparkVerifyDispatchCount : Nat
  deriving DecidableEq

structure PendingPrefetch where
  active : Bool := false
  pollCount : Nat := 0
  prefetchId : Nat := 0
  prefetchPlan : PrefetchPlan := {}

/-- The scheduler and the connected components. -/
structure Runtime (E : Seams) where
  scheduler : Scheduler
  kvPrefetchBackend : Option E.Backend
  modelSpeculator : Option E.Speculator
  pendingPrefetches : List PendingPrefetch
  nextPrefetchId : Nat
  asyncJitPrefetchCompletionCount : Nat
  mtpAcceptedDraftTokenCount : Nat
  mtpCommittedTokenCount : Nat
  mtpRejectedTokenCount : Nat

structure RequestApi (E : Seams) extends RequestApiSettings where
  table : SlotTable
  runtime : Runtime E
  releasedSequenceIds : List Nat

/-- Programs over the runtime, which leave the slot table alone. -/
abbrev RuntimeM (E : Seams) := EStateM RequestApiError (Runtime E)

abbrev ApiM (E : Seams) := EStateM RequestApiError (RequestApi E)

/-! ### Dispatches -/

inductive DispatchKind
  | none
  | prefill
  | decodeBatch
  | prefillBatch
  | speculativeVerifyBatch
  deriving DecidableEq

structure DispatchFlags where
  (jitPrefetchedKv priorityPreemptedQueue prefixCohort jitPrefetchPending prefillBatch
    prefixFamilySelected dsparkTapCapture dsparkSpeculativeVerify mtpCommit mtpSpeculativeVerify
    mtpTreeVerify : Bool := false)
  deriving DecidableEq

/-- The entries of the per-request arrays at one index. -/
structure DispatchLane where
  requestHandle : Nat := 0
  requestSlotIndex : Nat := noSlot
  requestId : Nat := 0
  sequenceId : Nat := 0
  speculativeCommittedTokenCount : Nat := 0
  speculativeAcceptedTokenCount : Nat := 0
  speculativeFallbackTokenId : Nat := 0
  speculativeResolutionPathId : Nat := 0
  speculativeDraftTokenIds : List Nat := List.replicate maxSpeculativeTokens 0
  speculativeConfidenceMilli : List Nat := List.replicate maxSpeculativeTokens 0
  decodeCommittedTokenCount : Nat := 0

/-- A dispatch record; its lanes are the used part of the per-request arrays. -/
structure Dispatch where
  accepted : Bool := false
  kind : DispatchKind := .none
  flags : DispatchFlags := {}
  lanes : List DispatchLane := []
  highestPriority : Nat := 0
  sharedPrefixTokenCount : Nat := 0
  sharedPrefixBlockCount : Nat := 0
  prefixCacheParentHash : Nat := 0
  prefixCacheResultHash : Nat := 0
  prefillDecision : Option SchedulerDecision := none
  prefillBatchDecision : Option PrefillBatchDecision := none
  decodeBatchDecision : Option BatchDecision := none
  kvPrefetchPlan : PrefetchPlan := {}
  speculativeTokenCount : Nat := 0
  speculativeVerifierTokenCount : Nat := 0
  speculativeMaxCommittedTokenCount : Nat := 0
  mtpDraftTokenBudget : Nat := 0

def Dispatch.requestCount (dispatch : Dispatch) : Nat := dispatch.lanes.length

/-! ### Settings -/

namespace RequestApiSettings

variable (settings : RequestApiSettings)

def jitPrefetchIsEnabled : Bool := settings.configurationFlags.jitKvPrefetch

def asyncJitPrefetchIsEnabled : Bool := settings.configurationFlags.asyncJitKvPrefetch

def queueAwarePrefixCacheEvictionIsEnabled : Bool :=
  settings.configurationFlags.queueAwarePrefixCacheEviction

def mtpCommitIsEnabled : Bool := settings.configurationFlags.mtpCommit

def decodeBatchingIsEnabled : Bool := settings.configurationFlags.decodeBatching

def adaptivePipelineBatchingIsEnabled : Bool :=
  settings.configurationFlags.adaptivePipelineBatching

def prefixCohortingIsEnabled : Bool := settings.configurationFlags.prefixCohorting

def prefillBatchingIsEnabled : Bool := settings.configurationFlags.prefillBatching

end RequestApiSettings

/-! ### The slot table -/

def hashHandle (handle : Nat) : Nat := bucketOf handle slotHashSlots

/-- The link of a slot to the next one in its bucket. -/
def slotLink : LinkField Slot where
  next := Slot.handleHashNext
  relink slot next := { slot with handleHashNext := next }
  next_relink _ _ := rfl

/-- One less in a 32-bit word, which wraps at zero. -/
def wrappingPred (n : Nat) : Nat := if n = 0 then 2 ^ 32 - 1 else n - 1

namespace SlotTable

variable (t : SlotTable)

variable (slotIndex : Nat)

/-- A slot, or a fresh free one when the index is out of range. -/
def slot : Slot := t.slots.getD slotIndex {}

def setSlot (slot : Slot) : SlotTable :=
  { t with slots := t.slots.set slotIndex slot }

/-- Take the head off the chain of free slots. -/
def findFreeSlot : Option (Nat × SlotTable) :=
  if t.freeSlotHead = noSlot ∨ t.slots.length ≤ t.freeSlotHead then none
  else
    let slot := t.slot t.freeSlotHead
    if slot.state ≠ .free then none
    else
      some (t.freeSlotHead,
        { t.setSlot t.freeSlotHead { slot with freeSlotNext := noSlot } with
          freeSlotHead := slot.freeSlotNext })

/-- The slot in use with a handle. -/
def findSlotByHandle (handle : Nat) : Option Nat :=
  if handle = invalidHandle then none
  else
    chainFind slotLink noSlot {} t.slots
      (fun slot => slot.state ≠ .free && slot.handle = handle) t.slots.length
      (t.slotHandleHashHeads.getD (hashHandle handle) noSlot)

/-- Put a slot into the chain of its handle. -/
def insertSlotHash : SlotTable :=
  let slot := t.slot slotIndex
  if t.slots.length ≤ slotIndex ∨ slot.handle = invalidHandle then t
  else
    let (slots, slotHandleHashHeads) := chainInsert slotLink noSlot {} t.slots
      t.slotHandleHashHeads (hashHandle slot.handle) slotIndex
    { t with slots, slotHandleHashHeads }

/-- Take a slot out of the chain of its handle. -/
def removeSlotHash : SlotTable :=
  let slot := t.slot slotIndex
  if t.slots.length ≤ slotIndex ∨ slot.handle = invalidHandle then t
  else
    match chainUnlink slotLink noSlot {} t.slots t.slotHandleHashHeads (hashHandle slot.handle)
        slotIndex with
    | none => t
    | some (slots, slotHandleHashHeads) =>
      let unlinked := { t with slots, slotHandleHashHeads }
      unlinked.setSlot slotIndex { unlinked.slot slotIndex with handleHashNext := noSlot }

end SlotTable

/-! ### The runtime -/

namespace Runtime

variable {E : Seams}

variable (runtime : Runtime E)

def crossSequencePrefixReuseIsEnabled : Bool :=
  runtime.scheduler.configurationFlags.crossSequencePrefixReuse

def configurationHasChunkedPrefill : Bool :=
  runtime.scheduler.configurationFlags.chunkedPrefill

def prefixCacheBlockTokenCount : Nat :=
  runtime.scheduler.prefixCacheBlockTokens

def speculationIsEnabled (settings : RequestApiSettings) (runtime : Runtime E) : Bool :=
  settings.configurationFlags.dsparkSpeculativeDecode && runtime.modelSpeculator.isSome

def slotCanSpeculate (settings : RequestApiSettings) (runtime : Runtime E) (slot : Slot) : Bool :=
  runtime.speculationIsEnabled settings && !slot.flags.disableSpeculation &&
    runtime.modelSpeculator.any (E.model.slotCanSpeculate · slot)

end Runtime

section Components

variable {E : Seams} {α : Type}

def onScheduler (m : SchedM α) : RuntimeM E α :=
  onPart Runtime.scheduler (fun runtime scheduler => { runtime with scheduler })
    RequestApiError.ofScheduler m

/-- Run an operation on the prefix cache of the scheduler. -/
def onPrefixCache (m : CacheM α) : RuntimeM E α := fun runtime =>
  match runtime.scheduler.prefixCache with
  | none => .error .invalidArgument runtime
  | some cache =>
    onPart (fun _ => cache) (fun runtime cache =>
        { runtime with scheduler := { runtime.scheduler with prefixCache := some cache } })
      RequestApiError.ofPrefixCache m runtime

/-- Run an operation on the arena of the prefix cache. -/
def onPrefixCacheArena (m : ArenaM α) : RuntimeM E α := fun runtime =>
  match runtime.scheduler.prefixCache with
  | none => .error .invalidArgument runtime
  | some cache =>
    onPart (fun _ => cache.arena) (fun runtime arena =>
        { runtime with
          scheduler := { runtime.scheduler with prefixCache := some { cache with arena } } })
      id m runtime

/-- Run an operation of the speculator, or fail when there is none. -/
def onSpeculator (missing : RequestApiError) (m : EStateM RequestApiError E.Speculator α) :
    RuntimeM E α := fun runtime =>
  match runtime.modelSpeculator with
  | none => .error missing runtime
  | some speculator =>
    onPart (fun _ => speculator)
      (fun runtime speculator => { runtime with modelSpeculator := some speculator }) id m
      runtime

def onBackend (m : EStateM RequestApiError E.Backend α) : RuntimeM E α := fun runtime =>
  match runtime.kvPrefetchBackend with
  | none => .error .invalidArgument runtime
  | some backend =>
    onPart (fun _ => backend)
      (fun runtime backend => { runtime with kvPrefetchBackend := some backend }) id m runtime

def onRuntime (m : RuntimeM E α) : ApiM E α :=
  onPart RequestApi.runtime (fun api runtime => { api with runtime }) id m

def modifyTable (f : SlotTable → SlotTable) : ApiM E Unit :=
  modify fun api => { api with table := f api.table }

end Components

/-! ### The constructor -/

section New

variable {E : Seams}

def normalizeConfigurationFlags (flags : RequestApiFlags) : RequestApiFlags :=
  if flags = {} then requestApiDefaultFlags else flags

def normalizePrefetchLookaheadRequestCount (lookahead requestCapacity : Nat) : Nat :=
  min (if lookahead = 0 then defaultPrefetchLookaheadRequestCount else lookahead) requestCapacity

def normalizePrefetchLaneCount (prefetchLaneCount : Nat) : Nat :=
  if prefetchLaneCount = 0 then defaultPrefetchLaneCount else prefetchLaneCount

def normalizeDecodeBatchTarget (decodeBatchTarget : Nat) : Nat :=
  if decodeBatchTarget = 0 then maxDispatchRequestCount
  else min decodeBatchTarget maxDispatchRequestCount

variable (config : RequestApiConfig E)

def normalizeDecodeExecutionRowCapacity : Nat :=
  if config.decodeExecutionRowCapacity ≠ 0 then config.decodeExecutionRowCapacity
  else
    normalizeDecodeBatchTarget config.decodeBatchTarget *
      (max maxSpeculativeTokens mtpMaxDraftTokenCount + 1)

def normalizeMaxResidentKvBlockCount : Nat :=
  match config.scheduler.prefixCache with
  | none => 0
  | some cache =>
    if cache.arena.physicalBlockCount ≤ config.maxResidentKvBlockCount then 0
    else config.maxResidentKvBlockCount

/-- Fresh slots, each linked to the next one. -/
def freeSlots (requestCapacity : Nat) : List Slot :=
  (List.range requestCapacity).map fun slotIndex =>
    { freeSlotNext := if slotIndex + 1 < requestCapacity then slotIndex + 1 else noSlot }

def SlotTable.initial (requestCapacity : Nat) : SlotTable where
  slots := freeSlots requestCapacity
  freeSlotHead := 0
  slotHandleHashHeads := List.replicate slotHashSlots noSlot
  nextHandle := 1
  nextSequenceId := 1
  submissionCounter := 0
  queuedRequestCount := 0
  runningRequestCount := 0
  completedRequestCount := 0
  cancelledRequestCount := 0
  scheduledDecodeDispatchCount := 0
  mtpVerifyDispatchCount := 0
  dsparkVerifyDispatchCount := 0

def RequestApiConfig.isValid : Bool :=
  let flags := normalizeConfigurationFlags config.configurationFlags
  let prefetchLaneCount := normalizePrefetchLaneCount config.prefetchLaneCount
  config.requestCapacity ≠ 0 &&
  prefetchLaneCount ≠ 0 && prefetchLaneCount ≤ maxPrefetchLaneCount &&
  normalizeDecodeBatchTarget config.decodeBatchTarget ≤
    normalizeDecodeExecutionRowCapacity config &&
  (!flags.asyncJitKvPrefetch || flags.jitKvPrefetch) &&
  (!flags.queueAwarePrefixCacheEviction || config.scheduler.prefixCache.isSome) &&
  (!flags.dsparkSpeculativeDecode || config.modelSpeculator.any E.model.isValid) &&
  (!flags.jitKvPrefetch ||
    (config.scheduler.prefixCache.isSome && config.kvPrefetchBackend.isSome))

/-- The scheduler after the resident capacity of its arena was recovered, and that capacity. -/
def recoverResidentBlockCapacity (scheduler : Scheduler) : Nat × Scheduler :=
  match scheduler.prefixCache with
  | none => (0, scheduler)
  | some cache =>
    match probeResidentBlockCapacity cache.arena with
    | .ok capacity arena => (capacity, { scheduler with prefixCache := some { cache with arena } })
    | .error _ arena => (0, { scheduler with prefixCache := some { cache with arena } })

def RequestApi.new : Except RequestApiError (RequestApi E) :=
  if config.isValid = false then .error .invalidArgument
  else
    let requestCapacity := config.requestCapacity.toNat
    let recovered := recoverResidentBlockCapacity config.scheduler
    .ok {
      configurationFlags := normalizeConfigurationFlags config.configurationFlags
      requestCapacity
      prefetchLookaheadRequestCount :=
        normalizePrefetchLookaheadRequestCount config.prefetchLookaheadRequestCount
          requestCapacity
      prefetchLaneCount := normalizePrefetchLaneCount config.prefetchLaneCount
      decodeBatchTarget := normalizeDecodeBatchTarget config.decodeBatchTarget
      maxResidentKvBlockCount := normalizeMaxResidentKvBlockCount config
      decodeExecutionRowCapacity := normalizeDecodeExecutionRowCapacity config
      outputVocabCount := config.outputVocabCount
      arenaResidentBlockCapacity := recovered.1
      table := SlotTable.initial requestCapacity
      runtime :=
        { scheduler := recovered.2
          kvPrefetchBackend := config.kvPrefetchBackend
          modelSpeculator := config.modelSpeculator
          pendingPrefetches := List.replicate pendingPrefetchCapacity {}
          nextPrefetchId := 1
          asyncJitPrefetchCompletionCount := 0
          mtpAcceptedDraftTokenCount := 0
          mtpCommittedTokenCount := 0
          mtpRejectedTokenCount := 0 }
      releasedSequenceIds := [] }

end New

/-! ### Requests -/

namespace RequestApi

variable {E : Seams}

def validate : ApiM E Unit := do
  let api ← get
  if api.requestCapacity = 0 ∨ api.decodeBatchTarget = 0 ∨
      api.decodeExecutionRowCapacity < api.decodeBatchTarget ∨ api.table.slots = [] then
    throw .invalidArgument

/-- The width a batch should have now. -/
def currentPipelineBatchWidth (settings : RequestApiSettings) (slots : List Slot)
    (scheduler : Scheduler) : Nat :=
  if settings.decodeBatchTarget = 0 then 0
  else if settings.adaptivePipelineBatchingIsEnabled = false then settings.decodeBatchTarget
  else
    let highestReadyPriority :=
      ((slots.filter Slot.isReadyForDispatch).map Slot.priority).foldl max 0
    if highestReadyPriority = 0 then 0
    else
      scheduler.selectPipelineBatchWidth
        (slots.countP fun slot => slot.isActive && slot.priority == highestReadyPriority)
        settings.decodeBatchTarget

def submittedPriority (request : SubmitRequest) : Nat :=
  if request.flags.realtime then realtimePriority
  else if request.priority = 0 then defaultPriority
  else request.priority

/-- The prompt, cut or filled up with zeros to the announced length. -/
def submittedPrompt (request : SubmitRequest) : List Nat :=
  request.promptTokenIds.take request.promptTokenCount.toNat ++
    List.replicate (request.promptTokenCount.toNat - request.promptTokenIds.length) 0

variable (t : SlotTable)

/-- The sequence id that a submitted request gets. -/
def submittedSequenceId (request : SubmitRequest) : Nat :=
  if request.sequenceId ≠ 0 then request.sequenceId else t.nextSequenceId

def submittedSlot (request : SubmitRequest) : Slot :=
  { state := .queuedPrefill
    flags := request.flags
    priority := submittedPriority request
    promptTokenCount := request.promptTokenCount
    thinkingTokenBudget := request.thinkingTokenBudget
    outputTokenBudget := request.outputTokenBudget
    remainingThinkingTokenBudget := request.thinkingTokenBudget
    remainingOutputTokenBudget := request.outputTokenBudget
    maxPrefillTokensPerStep := request.maxPrefillTokensPerStep
    mtpNextDraftTokenBudget := mtpInitialDraftTokenCount
    requestId := request.requestId
    sequenceId := submittedSequenceId t request
    handle := t.nextHandle
    submissionOrder := t.submissionCounter
    promptTokenIds := submittedPrompt request }

variable (slotIndex : Nat)

/-- Fill a slot that was taken off the free chain. -/
def fillSlot (request : SubmitRequest) : SlotTable :=
  let filled := (t.setSlot slotIndex (submittedSlot t request)).insertSlotHash slotIndex
  { filled with
    nextSequenceId := if request.sequenceId ≠ 0 then t.nextSequenceId else t.nextSequenceId + 1
    nextHandle := t.nextHandle + 1
    submissionCounter := t.submissionCounter + 1
    queuedRequestCount := t.queuedRequestCount + 1 }

def submit (request : SubmitRequest) : ApiM E Nat := do
  validate
  if request.promptTokenCount = 0 then throw .invalidArgument
  else
    let api ← get
    let (slotIndex, t) ← orFail .capacityExceeded api.table.findFreeSlot
    set { api with table := fillSlot t slotIndex request }
    return t.nextHandle

def findSlot (missing : RequestApiError) (handle : Nat) : ApiM E Nat := do
  orFail missing ((← get).table.findSlotByHandle handle)

variable (handle : Nat)

def getRequestCacheState : ApiM E CacheState := do
  validate
  let slotIndex ← findSlot .notFound handle
  let api ← get
  let slot := api.table.slot slotIndex
  let physicalBlockCount ←
    if slot.computedPromptTokenCount ≠ 0 ∧ api.runtime.scheduler.prefixCache.isSome then
      let probe ← onRuntime (onPrefixCache
        (PrefixCache.probeSequenceResidency slot.sequenceId slot.computedPromptTokenCount))
      pure probe.1
    else pure 0
  return {
    state := slot.state
    computedPromptTokenCount := slot.computedPromptTokenCount
    lastCommittedPrefixTokenCount := slot.lastCommittedPrefixTokenCount
    physicalBlockCount
    requestId := slot.requestId
    sequenceId := slot.sequenceId
    lastCommittedPrefixHash := slot.lastCommittedPrefixHash }

/-- Tell the speculator that a sequence is over; a sequence it does not know is no error. -/
def cancelSpeculatorSequence (settings : RequestApiSettings) (sequenceId : Nat) :
    RuntimeM E Unit := do
  if (← get).speculationIsEnabled settings then
    match ← attempt (onSpeculator .notFound (E.model.cancelSequence sequenceId)) with
    | .ok _ => pure ()
    | .error .notFound => pure ()
    | .error status => throw status

/-- Release a sequence in the scheduler, and record that it was asked to. -/
def releaseSchedulerSequence (sequenceId : Nat) : ApiM E Unit := do
  modify fun api => { api with releasedSequenceIds := sequenceId :: api.releasedSequenceIds }
  onRuntime (onScheduler (Scheduler.releaseSequence sequenceId))

def releaseSlotSequence : ApiM E Unit := do
  let api ← get
  let sequenceId := (api.table.slot slotIndex).sequenceId
  if sequenceId ≠ 0 then
    onRuntime (cancelSpeculatorSequence api.toRequestApiSettings sequenceId)
    releaseSchedulerSequence sequenceId
    modifyTable fun t => t.setSlot slotIndex { t.slot slotIndex with sequenceId := 0 }

/-- The table after a slot was finished by its owner. -/
def finishGeneration : SlotTable :=
  let finished := t.setSlot slotIndex
    { t.slot slotIndex with
      remainingThinkingTokenBudget := 0
      remainingOutputTokenBudget := 0
      state := .completed }
  { finished with completedRequestCount := t.completedRequestCount + 1 }

def leaveQueue : SlotTable :=
  { t with queuedRequestCount := wrappingPred t.queuedRequestCount }

def finishRequestGeneration : ApiM E Unit := do
  validate
  let slotIndex ← findSlot .notFound handle
  let api ← get
  let slot := api.table.slot slotIndex
  match slot.state with
  | .completed => pure ()
  | .cancelled => throw .notFound
  | .runningPrefill | .runningDecode | .runningSpeculativeVerify | .waitingPrefixCohort =>
    throw .busy
  | .queuedPrefill =>
    if api.table.queuedRequestCount = 0 then throw .invalidArgument
    else
      modifyTable leaveQueue
      modifyTable (finishGeneration · slotIndex)
  | .readyDecode => modifyTable (finishGeneration · slotIndex)
  | .readySpeculativeVerify =>
    onRuntime (cancelSpeculatorSequence api.toRequestApiSettings slot.sequenceId)
    modifyTable (finishGeneration · slotIndex)
  | .free => throw .invalidArgument

/-- The table after the slot of a request that is in no dispatch was cancelled. -/
def cancelSlot : SlotTable :=
  let slot := t.slot slotIndex
  let cancelled := t.setSlot slotIndex { slot with state := .cancelled }
  { cancelled with
    queuedRequestCount :=
      if slot.state = .queuedPrefill then wrappingPred t.queuedRequestCount
      else t.queuedRequestCount
    completedRequestCount :=
      if slot.state = .completed then wrappingPred t.completedRequestCount
      else t.completedRequestCount
    cancelledRequestCount := t.cancelledRequestCount + 1 }

/-- Only running prefills and decodes are refused. -/
def cancelRequest : ApiM E Unit := do
  validate
  let slotIndex ← findSlot .notFound handle
  let state := ((← get).table.slot slotIndex).state
  if state = .cancelled then pure ()
  else if state = .runningPrefill ∨ state = .runningDecode then throw .busy
  else
    modifyTable (cancelSlot · slotIndex)
    releaseSlotSequence slotIndex

/-- Put a slot back in front of the free chain. -/
def freeSlot : SlotTable :=
  { (t.removeSlotHash slotIndex).setSlot slotIndex { freeSlotNext := t.freeSlotHead } with
    freeSlotHead := slotIndex }

def releaseCompletedRequest : ApiM E Unit := do
  validate
  let slotIndex ← findSlot .notFound handle
  let state := ((← get).table.slot slotIndex).state
  if state ≠ .completed ∧ state ≠ .cancelled then throw .busy
  else
    releaseSlotSequence slotIndex
    modifyTable (freeSlot · slotIndex)

end RequestApi

end SparkPipe
