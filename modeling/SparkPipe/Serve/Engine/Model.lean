import SparkPipe.Serve.Engine.Records

/-!
# The serving engine: data, construction and submission

The engine owns a table of request records, an event ring and the buffers in which dispatches are
staged. Flags words are groups of Booleans, one for each defined bit. Statistics that are never
read back are left out.

Two records are kept that no operation reads: the calls the engine made about dispatches, and the
calls of the release callback with the state the request API was in, both the latest first.
-/

open Program

namespace SparkPipe

def defaultOutputTokenBudget : Nat := 1024

def defaultMaxContextTokens : Nat := 1048576

def defaultMaxPumpSteps : Nat := 256

def defaultRequestIdBase : Nat := 1000000000

def maxStopTokenIds : Nat := 8

structure EngineFlags where
  requireProductionRuntimeContract : Bool := false
  autoReleaseCompletedRequests : Bool := false
  clampBudgetToContext : Bool := false
  dynamicRequestTokenStorage : Bool := false
  deriving DecidableEq

def engineDefaultFlags : EngineFlags where
  requireProductionRuntimeContract := true
  autoReleaseCompletedRequests := true
  clampBudgetToContext := true

structure RuntimeContractFlags where
  (prefillAcceptsBulkTokenWindows prefillWritesResidentKv decodeConsumesResidentKv
    decodeReturnsTokenIds usesRequestKvBlockTables internalBatchingEnabled jitKvPrefetchConnected
    officialDsaIndexshare boundedLongContextAttention indexshareStageBoundaryState
    mlaCompressedKvCache tailWindowValidationOnly : Bool := false)

/-- The configuration of an engine that no operation changes. -/
structure EngineSettings where
  flags : EngineFlags
  defaultThinkingTokenBudget : Nat
  defaultOutputTokenBudget : Nat
  defaultMaxPrefillTokensPerStep : Nat
  maxContextTokens : Nat
  hostPrefillTokenStride : Nat
  hostPrefillLaneCapacity : Nat
  executionPhysicalBlockIndices : Option (List Nat)
  kvBlockLaneStride : Nat
  kvBlockLaneCapacity : Nat
  laneCountCapacity : Nat
  stopTokenIds : List Nat

/-- What the engine did about dispatches, with its outcome. -/
inductive DispatchCall
  | scheduled (dispatch : ServingDispatch)
  | completed (succeeded : Bool)
  | cancelled (succeeded : Bool)
  | retried (succeeded : Bool)
  | pending

structure ReleaseCall (S : EngineSeams) where
  requestApi : S.Api
  requestHandle : Nat
  succeeded : Bool

structure ServingEngine (S : EngineSeams) extends EngineSettings where
  nextGeneratedRequestId : Nat
  requestApi : S.Api
  host : S.Host
  table : RecordTable
  events : EventRing ServingEvent
  hostPrefillTokenIds : List Nat
  kvStaging : KvStaging
  dispatchCalls : List DispatchCall
  releaseCalls : List (ReleaseCall S)

abbrev EngineM (S : EngineSeams) := EStateM ServingStatus (ServingEngine S)

/-! ### The constructor -/

section New

variable {S : EngineSeams}

structure EngineConfiguration (S : EngineSeams) where
  flags : EngineFlags
  runtimeContractFlags : RuntimeContractFlags
  defaultThinkingTokenBudget : Nat := 0
  defaultOutputTokenBudget : Nat := 0
  defaultMaxPrefillTokensPerStep : Nat := 0
  maxContextTokens : Nat := 0
  requestIdBase : Nat := 0
  requestApi : S.Api
  host : S.Host
  requestRecordCapacity : UInt32
  requestTokenStride : Nat
  eventRingCapacity : Nat
  hostPrefillTokenStride : Nat
  hostPrefillLaneCapacity : Nat
  executionPhysicalBlockIndices : Option (List Nat) := none
  kvBlockLaneStride : Nat
  kvBlockLaneCapacity : Nat
  laneCountCapacity : Nat
  stopTokenIds : List Nat := []

def normalizeEngineFlags (flags : EngineFlags) : EngineFlags :=
  if flags = {} then engineDefaultFlags else flags

/-- The events one pump step may push at most. -/
def eventRingSafetyMargin : Nat :=
  maxDispatchRequestCount * maxDecodeTokensPerLane + maxDispatchRequestCount + 8

def RuntimeContractFlags.isProduction (flags : RuntimeContractFlags) : Bool :=
  !flags.tailWindowValidationOnly && flags.prefillAcceptsBulkTokenWindows &&
    flags.prefillWritesResidentKv && flags.decodeConsumesResidentKv &&
    flags.decodeReturnsTokenIds && flags.usesRequestKvBlockTables &&
    flags.internalBatchingEnabled && flags.officialDsaIndexshare &&
    flags.boundedLongContextAttention && flags.indexshareStageBoundaryState &&
    flags.mlaCompressedKvCache

def RuntimeContractFlags.matchesRequestApi (flags : RuntimeContractFlags)
    (configurationFlags : RequestApiFlags) : Bool :=
  (!flags.internalBatchingEnabled ||
    (configurationFlags.prefillBatching && configurationFlags.decodeBatching)) &&
  (!flags.jitKvPrefetchConnected || configurationFlags.jitKvPrefetch)

def EngineConfiguration.isValid (config : EngineConfiguration S) : Bool :=
  let flags := normalizeEngineFlags config.flags
  (!flags.requireProductionRuntimeContract || config.runtimeContractFlags.isProduction) &&
  config.requestRecordCapacity ≠ 0 &&
  eventRingSafetyMargin < config.eventRingCapacity &&
  config.hostPrefillTokenStride ≠ 0 && config.hostPrefillLaneCapacity ≠ 0 &&
  config.kvBlockLaneStride ≠ 0 && config.kvBlockLaneCapacity ≠ 0 &&
  config.kvBlockLaneCapacity ≤ config.kvBlockLaneStride &&
  config.laneCountCapacity ≠ 0 &&
  (if flags.dynamicRequestTokenStorage then config.requestTokenStride = 0
    else config.requestTokenStride ≠ 0) &&
  config.runtimeContractFlags.matchesRequestApi (S.api.configurationFlags config.requestApi) &&
  config.stopTokenIds.length ≤ maxStopTokenIds

def ServingEngine.new (config : EngineConfiguration S) : Except ServingStatus (ServingEngine S) :=
  if config.isValid = false then .error .invalidArgument
  else
    .ok {
      flags := normalizeEngineFlags config.flags
      defaultThinkingTokenBudget := config.defaultThinkingTokenBudget
      defaultOutputTokenBudget :=
        if config.defaultOutputTokenBudget = 0 then SparkPipe.defaultOutputTokenBudget
        else config.defaultOutputTokenBudget
      defaultMaxPrefillTokensPerStep := config.defaultMaxPrefillTokensPerStep
      maxContextTokens :=
        if config.maxContextTokens = 0 then defaultMaxContextTokens else config.maxContextTokens
      hostPrefillTokenStride := config.hostPrefillTokenStride
      hostPrefillLaneCapacity := config.hostPrefillLaneCapacity
      executionPhysicalBlockIndices := config.executionPhysicalBlockIndices
      kvBlockLaneStride := config.kvBlockLaneStride
      kvBlockLaneCapacity := config.kvBlockLaneCapacity
      laneCountCapacity := config.laneCountCapacity
      stopTokenIds := config.stopTokenIds
      nextGeneratedRequestId :=
        if config.requestIdBase = 0 then defaultRequestIdBase else config.requestIdBase
      requestApi := config.requestApi
      host := config.host
      table := RecordTable.initial config.requestRecordCapacity.toNat
        (if (normalizeEngineFlags config.flags).dynamicRequestTokenStorage then 0
          else config.requestTokenStride)
      events := { capacity := config.eventRingCapacity }
      hostPrefillTokenIds := List.replicate
        (config.hostPrefillTokenStride * config.hostPrefillLaneCapacity) 0
      kvStaging :=
        { hostPhysicalBlockIndices := List.replicate
            (config.kvBlockLaneStride * config.laneCountCapacity) 0
          lanePhysicalBlockCounts := List.replicate config.laneCountCapacity 0 }
      dispatchCalls := []
      releaseCalls := [] }

end New

/-! ### Components -/

namespace ServingEngine

variable {S : EngineSeams} {α : Type}

def onRequestApi (m : EStateM ServingStatus S.Api α) : EngineM S α :=
  onPart ServingEngine.requestApi (fun engine requestApi => { engine with requestApi }) id m

def onHost (m : EStateM ServingStatus S.Host α) : EngineM S α :=
  onPart ServingEngine.host (fun engine host => { engine with host }) id m

def onPrefillStaging (m : EStateM ServingStatus (S.Api × List Nat) α) : EngineM S α :=
  onPart (fun engine => (engine.requestApi, engine.hostPrefillTokenIds)) (fun engine staged =>
      { engine with requestApi := staged.1, hostPrefillTokenIds := staged.2 }) id m

def onKvStaging (m : EStateM ServingStatus (S.Api × KvStaging) α) : EngineM S α :=
  onPart (fun engine => (engine.requestApi, engine.kvStaging))
    (fun engine staged => { engine with requestApi := staged.1, kvStaging := staged.2 }) id m

def modifyTable (f : RecordTable → RecordTable) : EngineM S Unit :=
  modify fun engine => { engine with table := f engine.table }

def noteDispatchCall (call : DispatchCall) : EngineM S Unit :=
  modify fun engine => { engine with dispatchCalls := call :: engine.dispatchCalls }

/-- Run a settlement and record its outcome. -/
def settleNoted (call : Bool → DispatchCall) (m : EStateM ServingStatus S.Api Unit) :
    EngineM S Unit := do
  match ← attempt (onRequestApi m) with
  | .ok _ => noteDispatchCall (call true)
  | .error status =>
    noteDispatchCall (call false)
    throw status

/-! ### Events -/

def pushEvent (event : ServingEvent) : EngineM S Unit :=
  onPart ServingEngine.events (fun engine events => { engine with events }) id
    (EventRing.push event)

def simpleEvent (kind : ServingEventKind) (status : ServingStatus) (record : RequestRecord) :
    ServingEvent :=
  { kind
    status
    requestId := record.requestId
    sequenceId := record.sequenceId
    requestHandle := record.requestHandle
    promptTokenCount := record.promptTokenCount }

def pushSimpleEvent (kind : ServingEventKind) (status : ServingStatus) (recordIndex : Nat) :
    EngineM S Unit := do
  pushEvent (simpleEvent kind status ((← get).table.record recordIndex))

/-! ### Submission -/

structure SubmitResult where
  promptTokenCount : Nat := 0
  requiredTokenCapacity : Nat := 0
  thinkingTokenBudget : Nat := 0
  outputTokenBudget : Nat := 0
  requestId : Nat := 0
  sequenceId : Nat := 0
  requestHandle : Nat := 0

structure SubmitTokenIdsRequest where
  flags : RequestFlags := {}
  priority : Nat := 0
  thinkingTokenBudget : Nat := 0
  outputTokenBudget : Nat := 0
  maxPrefillTokensPerStep : Nat := 0
  requestId : Nat := 0
  sequenceId : Nat := 0
  tokenIds : List Nat

/-- Double a capacity until it suffices or cannot be doubled within the limit. -/
def growTokenCapacity (required limit : Nat) : Nat → Nat → Nat
  | 0, capacity => capacity
  | rounds + 1, capacity =>
    if capacity < required ∧ capacity ≤ limit / 2 then
      growTokenCapacity required limit rounds (capacity * 2)
    else capacity

def grownTokenCapacity (required limit capacity : Nat) : Nat :=
  min (max (growTokenCapacity required limit required (if capacity = 0 then 64 else capacity))
    required) limit

def ensureRecordTokenCapacity (recordIndex requiredTokenCapacity : Nat) : EngineM S Unit := do
  let engine ← get
  let record := engine.table.record recordIndex
  if requiredTokenCapacity = 0 ∨ engine.maxContextTokens < requiredTokenCapacity then
    throw .capacityExceeded
  else if requiredTokenCapacity ≤ record.tokenCapacity then pure ()
  else if engine.flags.dynamicRequestTokenStorage = false then throw .capacityExceeded
  else
    let grown := grownTokenCapacity requiredTokenCapacity engine.maxContextTokens
      record.tokenCapacity
    modifyTable fun t => t.setRecord recordIndex
      { record with
        tokenIds := record.tokenIds.take grown ++
          List.replicate (grown - record.tokenIds.length) 0
        tokenCapacity := grown }

/-- The thinking and the output budget a request gets. -/
def applyContextBudget (settings : EngineSettings) (promptTokenCount requestedThinkingTokenBudget
    requestedOutputTokenBudget : Nat) : Except ServingStatus (Nat × Nat) :=
  if promptTokenCount = 0 ∨ settings.maxContextTokens < promptTokenCount then
    .error .capacityExceeded
  else
    let thinking :=
      if requestedThinkingTokenBudget ≠ 0 then requestedThinkingTokenBudget
      else settings.defaultThinkingTokenBudget
    let output :=
      if requestedOutputTokenBudget ≠ 0 then requestedOutputTokenBudget
      else settings.defaultOutputTokenBudget
    if settings.flags.clampBudgetToContext = false then
      if settings.maxContextTokens < promptTokenCount + thinking + output then
        .error .capacityExceeded
      else .ok (thinking, output)
    else
      let available := settings.maxContextTokens - promptTokenCount
      let thinking := min thinking available
      let output := min output (available - thinking)
      if thinking = 0 ∧ output = 0 then
        if settings.maxContextTokens < promptTokenCount + 1 then .error .capacityExceeded
        else .ok (thinking, 1)
      else .ok (thinking, output)

/-- The sequence that the request API assigned to a request it just accepted. -/
def resolveSubmittedSequence (requestHandle requestId : Nat) : EngineM S Nat := do
  if requestHandle = 0 ∨ requestId = 0 then throw .invalidArgument
  else
    let cacheState ← onRequestApi (S.api.requestCacheState requestHandle)
    if cacheState.requestId ≠ requestId ∨ cacheState.sequenceId = 0 then throw .internalError
    else return cacheState.sequenceId

/-- Take a request back from the request API, whatever it answers. -/
def withdrawRequest (requestHandle : Nat) : EngineM S Unit := do
  let _ ← (attempt (onRequestApi (S.api.cancelRequest requestHandle)) :
    EngineM S (Except ServingStatus Unit))
  let _ ← (attempt (onRequestApi (S.api.releaseCompletedRequest requestHandle)) :
    EngineM S (Except ServingStatus Unit))

/-- The parameters of a request that are passed on to the request API. -/
structure SubmitParameters where
  flags : RequestFlags
  priority : Nat
  thinkingTokenBudget : Nat
  outputTokenBudget : Nat
  maxPrefillTokensPerStep : Nat
  requestId : Nat
  sequenceId : Nat

def apiSubmitRequest (settings : EngineSettings) (record : RequestRecord)
    (parameters : SubmitParameters) : SubmitRequest where
  flags := parameters.flags
  priority := parameters.priority
  promptTokenCount := UInt32.ofNat record.promptTokenCount
  thinkingTokenBudget := parameters.thinkingTokenBudget
  outputTokenBudget := parameters.outputTokenBudget
  maxPrefillTokensPerStep :=
    if parameters.maxPrefillTokensPerStep ≠ 0 then parameters.maxPrefillTokensPerStep
    else settings.defaultMaxPrefillTokensPerStep
  requestId := parameters.requestId
  sequenceId := parameters.sequenceId
  promptTokenIds := record.tokenIds.take record.promptTokenCount

/-- The record is claimed only after the request API has accepted the request. -/
def submitPreparedRecord (recordIndex : Nat) (parameters : SubmitParameters) :
    EngineM S SubmitResult := do
  let engine ← get
  let record := engine.table.record recordIndex
  let requestHandle ← onRequestApi
    (S.api.submit (apiSubmitRequest engine.toEngineSettings record parameters))
  match ← attempt (resolveSubmittedSequence requestHandle parameters.requestId) with
  | .error status =>
    withdrawRequest requestHandle
    throw status
  | .ok sequenceId =>
    let t := (← get).table
    if recordIndex ≠ t.freeRecordHead ∨ (t.record recordIndex).state ≠ .free then
      withdrawRequest requestHandle
      throw .internalError
    else
      modifyTable (RecordTable.claimRecord · recordIndex parameters.requestId sequenceId
        requestHandle)
      pushSimpleEvent .requestAccepted .ok recordIndex
      return {
        promptTokenCount := record.promptTokenCount
        requiredTokenCapacity := record.promptTokenCount
        thinkingTokenBudget := parameters.thinkingTokenBudget
        outputTokenBudget := parameters.outputTokenBudget
        requestId := parameters.requestId
        sequenceId
        requestHandle }

/-- The id of a request, generated when the caller gives none. -/
def takeRequestId (requestId : Nat) : EngineM S Nat := do
  if requestId ≠ 0 then return requestId
  else
    let generated := (← get).nextGeneratedRequestId
    modify fun engine => { engine with nextGeneratedRequestId := generated + 1 }
    return generated

/-- Write the prompt to a free record, which stays free. -/
def prepareRecord (recordIndex : Nat) (tokenIds : List Nat)
    (thinkingTokenBudget outputTokenBudget : Nat) : EngineM S (Nat × Nat) := do
  let (thinking, output) ← liftExcept (applyContextBudget (← get).toEngineSettings tokenIds.length
    thinkingTokenBudget outputTokenBudget)
  let required := tokenIds.length + thinking + output
  if 2 ^ 32 - 1 < required then throw .capacityExceeded
  else
    ensureRecordTokenCapacity recordIndex required
    modifyTable fun t => t.modifyRecord recordIndex fun record =>
      { record with
        tokenIds := tokenIds ++ record.tokenIds.drop tokenIds.length
        promptTokenCount := tokenIds.length }
    return (thinking, output)

def submitTokenIds (request : SubmitTokenIdsRequest) : EngineM S SubmitResult := do
  if request.tokenIds = [] then throw .invalidArgument
  else
    let recordIndex ← orFail .capacityExceeded (← get).table.findFreeRecord
    let (thinkingTokenBudget, outputTokenBudget) ← prepareRecord recordIndex request.tokenIds
      request.thinkingTokenBudget request.outputTokenBudget
    let requestId ← takeRequestId request.requestId
    submitPreparedRecord recordIndex
      { flags := request.flags
        priority := request.priority
        thinkingTokenBudget
        outputTokenBudget
        maxPrefillTokensPerStep := request.maxPrefillTokensPerStep
        requestId
        sequenceId := request.sequenceId }

end ServingEngine

end SparkPipe
