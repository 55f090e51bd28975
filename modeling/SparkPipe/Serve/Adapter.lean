import SparkPipe.Sched.Scheduler.Run
import SparkPipe.Serve.Engine.Model
import SparkPipe.Serve.RequestApi.Views

/-!
# The adapter between the request API and the serving engine

The engine sees a dispatch without the decisions of the scheduler, so that the adapter keeps the
full dispatch of everything that was scheduled and not yet settled. What the engine hands back is
matched with a kept dispatch by its kind, its handles and its request ids; a settlement takes the
match out, whatever its outcome.
-/

open Program

namespace SparkPipe

def ServingStatus.ofRequestApi : RequestApiError → ServingStatus
  | .invalidArgument => .invalidArgument
  | .capacityExceeded => .capacityExceeded
  | .notFound => .notFound
  | .busy => .busy
  | .internalError => .internalError
  | .moduleNotValidated => .moduleNotValidated
  | .hashMismatch => .hashMismatch

structure RequestApiAdapter (E : Seams) where
  api : RequestApi E
  inflight : List Dispatch
  inflightCapacity : Nat

abbrev AdapterM (E : Seams) := EStateM ServingStatus (RequestApiAdapter E)

namespace RequestApiAdapter

variable {E : Seams} {α : Type}

def servingLane (lane : DispatchLane) : ServingLane where
  requestHandle := lane.requestHandle
  requestId := lane.requestId
  speculativeCommittedTokenCount := lane.speculativeCommittedTokenCount
  speculativeAcceptedTokenCount := lane.speculativeAcceptedTokenCount
  speculativeFallbackTokenId := lane.speculativeFallbackTokenId
  speculativeDraftTokenIds := lane.speculativeDraftTokenIds
  decodeCommittedTokenCount := lane.decodeCommittedTokenCount

/-- What the engine sees of a dispatch. -/
def dtoFromFull (full : Dispatch) : ServingDispatch where
  accepted := full.accepted
  kind := full.kind
  flags := full.flags
  lanes := full.lanes.map servingLane
  speculativeTokenCount := full.speculativeTokenCount
  speculativeVerifierTokenCount := full.speculativeVerifierTokenCount
  mtpDraftTokenBudget := full.mtpDraftTokenBudget

def syncLane (dto : ServingLane) (full : DispatchLane) : DispatchLane :=
  { full with
    speculativeCommittedTokenCount := dto.speculativeCommittedTokenCount
    speculativeAcceptedTokenCount := dto.speculativeAcceptedTokenCount
    speculativeFallbackTokenId := dto.speculativeFallbackTokenId
    decodeCommittedTokenCount := dto.decodeCommittedTokenCount
    speculativeDraftTokenIds := dto.speculativeDraftTokenIds }

variable (dto : ServingDispatch)

/-- Take over what the engine may have written. -/
def syncDtoIntoFull (full : Dispatch) : Dispatch :=
  { full with
    flags := dto.flags
    speculativeTokenCount := dto.speculativeTokenCount
    speculativeVerifierTokenCount := dto.speculativeVerifierTokenCount
    lanes := full.lanes.zipIdx.map fun indexed =>
      syncLane (dto.lanes.getD indexed.2 {}) indexed.1 }

/-- A dispatch without decisions, for the entry points that read none. -/
def fullFromDto : Dispatch where
  accepted := dto.accepted
  kind := dto.kind
  flags := dto.flags
  speculativeTokenCount := dto.speculativeTokenCount
  speculativeVerifierTokenCount := dto.speculativeVerifierTokenCount
  mtpDraftTokenBudget := dto.mtpDraftTokenBudget
  lanes := dto.lanes.map fun lane =>
    { requestHandle := lane.requestHandle, requestId := lane.requestId }

def isInflight (full : Dispatch) : Bool :=
  full.kind = dto.kind &&
    full.lanes.map DispatchLane.requestHandle = dto.lanes.map ServingLane.requestHandle &&
    full.lanes.map DispatchLane.requestId = dto.lanes.map ServingLane.requestId

def findInflight (adapter : RequestApiAdapter E) (dto : ServingDispatch) : Option Nat :=
  adapter.inflight.findIdx? (isInflight dto)

def onApi (m : ApiM E α) : AdapterM E α :=
  onPart RequestApiAdapter.api (fun adapter api => { adapter with api })
    ServingStatus.ofRequestApi m

/-- The kept dispatch that a dispatch of the engine stands for, with its index. -/
def lookupFull : AdapterM E (Nat × Dispatch) := do
  let adapter ← get
  let index ← orFail .invalidArgument (adapter.findInflight dto)
  return (index, adapter.inflight.getD index {})

def takeFull : AdapterM E Dispatch := do
  let (index, full) ← lookupFull dto
  modify fun adapter => { adapter with inflight := adapter.inflight.eraseIdx index }
  return full

def liftStatus (outcome : Except RequestApiError α) : AdapterM E α :=
  match outcome with
  | .ok a => pure a
  | .error e => throw (.ofRequestApi e)

/-! ### Scheduling and settlement -/

/-- Schedule the next dispatch into an empty record. -/
def scheduleFull : AdapterM E Dispatch := fun adapter =>
  match RequestApi.scheduleNext { api := adapter.api, dispatch := {} } with
  | .ok _ scheduled => .ok scheduled.dispatch { adapter with api := scheduled.api }
  | .error e scheduled => .error (.ofRequestApi e) { adapter with api := scheduled.api }

def scheduleNext : AdapterM E ServingDispatch := do
  let full ← scheduleFull
  let adapter ← get
  if full.accepted = false ∨ full.kind = .none then throw .invalidArgument
  else if adapter.inflightCapacity ≤ adapter.inflight.length then throw .capacityExceeded
  else
    modify fun adapter => { adapter with inflight := adapter.inflight ++ [full] }
    return dtoFromFull full

def completeDispatch : AdapterM E Unit := do
  let full ← takeFull dto
  onApi (RequestApi.completeDispatch (syncDtoIntoFull dto full))

def cancelDispatch : AdapterM E Unit := do
  let full ← takeFull dto
  onApi (RequestApi.cancelDispatch full)

def retryDecodeDispatch : AdapterM E Unit := do
  let full ← takeFull dto
  onApi (RequestApi.retryDecodeDispatch full)

/-! ### Views -/

def describePrefillDispatch : AdapterM E PrefillDispatchView := do
  let (_, full) ← lookupFull dto
  let view ← liftStatus (RequestApi.describePrefillDispatch full)
  return {
    kind := view.kind
    activeSequenceCount := view.activeSequenceCount
    promptTokenOffset := view.promptTokenOffset
    promptTokenCount := view.promptTokenCount
    promptTokenStride := view.promptTokenStride
    laneCount := view.laneCount
    lanes := view.lanes.map PromptLaneView.toPrefillDispatchLaneView }

def copyPrefillDispatchTokenIds (destinationTokenStride destinationLaneCapacity : Nat) :
    EStateM ServingStatus (RequestApiAdapter E × List Nat) Unit := do
  let (adapter, destination) ← get
  let index ← orFail .invalidArgument (adapter.findInflight dto)
  match RequestApi.copyPrefillDispatchTokenIds (adapter.inflight.getD index {}) destination
      destinationTokenStride destinationLaneCapacity with
  | .ok destination => set (adapter, destination)
  | .error e => throw (.ofRequestApi e)

def buildDispatchKvBlockTableView
    (executionPhysicalBlockIndices : Option (List Nat)) (laneStride laneCapacity : Nat) :
    EStateM ServingStatus (RequestApiAdapter E × KvStaging) KvBlockTableView := do
  let (adapter, _) ← get
  let index ← orFail .invalidArgument (adapter.findInflight dto)
  onPart (fun state => (state.1.api, state.2))
    (fun state built => ({ state.1 with api := built.1 }, built.2)) ServingStatus.ofRequestApi
    (RequestApi.buildDispatchKvBlockTableView (adapter.inflight.getD index {})
      executionPhysicalBlockIndices laneStride laneCapacity)

def describeDecodeDispatch : AdapterM E DecodeDispatchView := do
  let (_, full) ← lookupFull dto
  onApi (RequestApi.describeDecodeDispatch full)

/-! ### Speculation -/

/-- The outcome stays on the kept dispatch; its visible part is copied back. -/
def resolveSpeculativeVerifyDispatch (verifierTokenIds : List Nat)
    (verifierLaneStride verifierTokenCount : Nat) : AdapterM E ServingDispatch := do
  let (index, full) ← lookupFull dto
  let resolved ← resolveFull index (syncDtoIntoFull dto full)
  return { dto with
    lanes := dto.lanes.zipIdx.map fun indexed =>
      let lane := resolved.lanes.getD indexed.2 {}
      { indexed.1 with
        speculativeCommittedTokenCount := lane.speculativeCommittedTokenCount
        speculativeAcceptedTokenCount := lane.speculativeAcceptedTokenCount
        speculativeFallbackTokenId := lane.speculativeFallbackTokenId } }
where
  resolveFull (index : Nat) (full : Dispatch) : AdapterM E Dispatch := fun adapter =>
    let keep (scheduled : Scheduling E) : RequestApiAdapter E :=
      { adapter with
        api := scheduled.api
        inflight := adapter.inflight.set index scheduled.dispatch }
    match RequestApi.resolveSpeculativeVerifyDispatch verifierTokenIds verifierLaneStride
        verifierTokenCount { api := adapter.api, dispatch := full } with
    | .ok _ scheduled => .ok scheduled.dispatch (keep scheduled)
    | .error e scheduled => .error (.ofRequestApi e) (keep scheduled)

/-- The engine arms a dispatch that it has completed, so it is usually not kept. -/
def armMtpVerifyDispatch (draftTokenIds : List Nat)
    (draftLaneStride draftTokenCount : Nat) : AdapterM E Unit := do
  let adapter ← get
  match adapter.findInflight dto with
  | some index =>
    let full := syncDtoIntoFull dto (adapter.inflight.getD index {})
    set { adapter with inflight := adapter.inflight.set index full }
    onApi (RequestApi.armMtpVerifyDispatch full draftTokenIds draftLaneStride draftTokenCount)
  | none =>
    onApi (RequestApi.armMtpVerifyDispatch (fullFromDto dto) draftTokenIds draftLaneStride
      draftTokenCount)

def requestCacheState (handle : Nat) : AdapterM E RequestCacheState := do
  let cacheState ← onApi (RequestApi.getRequestCacheState handle)
  return {
    state := cacheState.state
    requestId := cacheState.requestId
    sequenceId := cacheState.sequenceId }

end RequestApiAdapter

/-- The request API behind its adapter, as the engine sees it. -/
def servingRequestApi (E : Seams) : ServingRequestApi (RequestApiAdapter E) where
  configurationFlags adapter := adapter.api.configurationFlags
  submit request := RequestApiAdapter.onApi (RequestApi.submit request)
  requestCacheState := RequestApiAdapter.requestCacheState
  cancelRequest handle := RequestApiAdapter.onApi (RequestApi.cancelRequest handle)
  releaseCompletedRequest handle :=
    RequestApiAdapter.onApi (RequestApi.releaseCompletedRequest handle)
  finishRequestGeneration handle :=
    RequestApiAdapter.onApi (RequestApi.finishRequestGeneration handle)
  scheduleNext := RequestApiAdapter.scheduleNext
  describePrefillDispatch := RequestApiAdapter.describePrefillDispatch
  copyPrefillDispatchTokenIds := RequestApiAdapter.copyPrefillDispatchTokenIds
  buildDispatchKvBlockTableView := RequestApiAdapter.buildDispatchKvBlockTableView
  describeDecodeDispatch := RequestApiAdapter.describeDecodeDispatch
  resolveSpeculativeVerifyDispatch := RequestApiAdapter.resolveSpeculativeVerifyDispatch
  completeDispatch := RequestApiAdapter.completeDispatch
  armMtpVerifyDispatch := RequestApiAdapter.armMtpVerifyDispatch
  retryDecodeDispatch := RequestApiAdapter.retryDecodeDispatch
  cancelDispatch := RequestApiAdapter.cancelDispatch

/-! ### A small engine -/

/-- Two slots that are served by single prefills and by decode batches. -/
def smallApiConfig (scheduler : Scheduler) : RequestApiConfig smallApiSeams where
  configurationFlags := { decodeBatching := true }
  requestCapacity := 2
  scheduler

/-- The callbacks of a host without a state of its own. -/
structure HostCallbacks where
  prefill : ServingPrefillDispatch → EStateM ServingStatus Unit Unit := fun _ => pure ()
  decode : ServingDecodeDispatch → DecodeResult → EStateM ServingStatus Unit DecodeResult :=
    fun _ result => pure result
  release : Option (Nat → Nat → Nat → Nat → EStateM ServingStatus Unit Unit) := none

variable (callbacks : HostCallbacks)

def smallSeams : EngineSeams where
  Api := RequestApiAdapter smallApiSeams
  api := servingRequestApi smallApiSeams
  Host := Unit
  prefillFunction := callbacks.prefill
  decodeFunction := callbacks.decode
  releaseSequenceFunction := callbacks.release

/-- Two records over the request API of two slots. -/
def smallEngineConfig (flags : EngineFlags)
    (api : RequestApi smallApiSeams) : EngineConfiguration (smallSeams callbacks) where
  flags
  runtimeContractFlags := {}
  requestApi := ({ api, inflight := [], inflightCapacity := 8 } : RequestApiAdapter smallApiSeams)
  host := ()
  requestRecordCapacity := 2
  requestTokenStride := 64
  eventRingCapacity := 10000
  hostPrefillTokenStride := 16
  hostPrefillLaneCapacity := 2
  kvBlockLaneStride := 16
  kvBlockLaneCapacity := 16
  laneCountCapacity := 2

/-- An engine over fresh components. -/
def IsSmallEngine (flags : EngineFlags) (engine : ServingEngine (smallSeams callbacks)) : Prop :=
  ∃ arena cache scheduler api, KvArena.new PrefixCache.smallArenaConfig = .ok arena ∧
    PrefixCache.new PrefixCache.smallConfig arena = .ok cache ∧
    Scheduler.new (SchedulerRun.smallSchedulerConfig cache) = .ok scheduler ∧
    RequestApi.new (smallApiConfig scheduler) = .ok api ∧
    ServingEngine.new (smallEngineConfig callbacks flags api) = .ok engine

end SparkPipe
