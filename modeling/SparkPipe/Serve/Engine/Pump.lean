import SparkPipe.Serve.Engine.Model

/-!
# The serving engine: dispatches, the pump and the end of requests

The pump takes dispatches from the request API, hands them to the callbacks of the host and
settles them. A program that may rewrite the dispatch it works on runs over `Dispatching`, the
engine with that dispatch; the decode report is passed by value since nothing reads it after the
call. Flat per-lane arrays are built from the used lanes only.
-/

open Program

namespace SparkPipe

/-- An engine at work on a dispatch. -/
structure Dispatching (S : EngineSeams) where
  engine : ServingEngine S
  dispatch : ServingDispatch

abbrev DispatchM (S : EngineSeams) := EStateM ServingStatus (Dispatching S)

/-- The end of one round of the pump. -/
inductive PumpOutcome
  | exit (status : ServingStatus)
  | proceed (pendingDispatchCount : Nat)

/-- A row of a flat array. -/
def paddedTo (stride : Nat) (row : List Nat) : List Nat :=
  row.take stride ++ List.replicate (stride - row.length) 0

namespace ServingEngine

variable {S : EngineSeams} {α : Type}

def onEngine (m : EngineM S α) : DispatchM S α :=
  onPart Dispatching.engine (fun state engine => { state with engine }) id m

variable (dispatch : ServingDispatch)

/-- Run a program on a dispatch; the dispatch is returned whatever the outcome. -/
def withDispatch (m : DispatchM S Unit) :
    EngineM S (Except ServingStatus Unit × ServingDispatch) := fun engine =>
  match m { engine, dispatch } with
  | .ok _ state => .ok (.ok (), state.dispatch) state.engine
  | .error status state => .ok (.error status, state.dispatch) state.engine

/-- Replace the status with which a program fails. -/
def failAs (status : ServingStatus) (m : EngineM S α) : EngineM S α :=
  onPart id (fun _ engine => engine) (fun _ => status) m

variable (recordIndex : Nat)

def markRecord (state : RecordState) : EngineM S Unit :=
  modifyTable fun t => t.modifyRecord recordIndex fun record => { record with state }

/-! ### The end of a request -/

/-- The release callback, if there is one, is called before the request API is asked. -/
def releaseDownstream : EngineM S Unit := do
  match S.releaseSequenceFunction with
  | none => pure ()
  | some release =>
    let engine ← get
    let record := engine.table.record recordIndex
    let tokenCount := record.promptTokenCount + record.streamedDecodeTokenCount
    if tokenCount = 0 ∨ 2 ^ 32 - 1 < tokenCount then throw .capacityExceeded
    else
      let outcome ← attempt (onHost
        (release record.requestId record.requestHandle record.sequenceId tokenCount))
      modify fun after =>
        { after with
          releaseCalls :=
            { requestApi := engine.requestApi
              requestHandle := record.requestHandle
              succeeded := outcome.isOk } :: after.releaseCalls }
      liftExcept outcome

variable (requestHandle : Nat)

def releaseCompletedRequest : EngineM S Unit := do
  let recordIndex ← orFail .notFound ((← get).table.findRecordByHandle requestHandle)
  releaseDownstream recordIndex
  match ← attempt (onRequestApi (S.api.releaseCompletedRequest requestHandle)) with
  | .ok _ | .error .notFound =>
    let engine ← get
    modifyTable (RecordTable.freeRecord · recordIndex engine.flags.dynamicRequestTokenStorage)
  | .error status => throw status

/-- Cancel the record of one lane of a failed dispatch, unless its request is over. -/
def failDispatchLane (failureStatus : ServingStatus) (lane : ServingLane) : EngineM S Unit := do
  match (← get).table.findRecordByHandle lane.requestHandle with
  | none => pure ()
  | some recordIndex =>
    let record := (← get).table.record recordIndex
    if record.state = .completed ∨ record.state = .cancelled then pure ()
    else
      markRecord recordIndex .cancelled
      let _ ← (attempt (pushSimpleEvent .requestCancelled failureStatus recordIndex) :
        EngineM S (Except ServingStatus Unit))

def failDispatchRequests (failureStatus : ServingStatus) : EngineM S Unit :=
  forM (dispatch.lanes.take maxDispatchRequestCount) (failDispatchLane failureStatus)

def concludeRecord (recordIndex requestHandle : Nat) : EngineM S Unit := do
  markRecord recordIndex .completed
  pushSimpleEvent .requestCompleted .ok recordIndex
  if (← get).flags.autoReleaseCompletedRequests then
    let _ ← (attempt (releaseCompletedRequest requestHandle) :
      EngineM S (Except ServingStatus Unit))

/-! ### Prefill -/

def prefillProgressEvent (prefillView : PrefillDispatchView)
    (lane : PrefillDispatchLaneView) : ServingEvent :=
  { kind := .prefillProgress
    promptTokenOffset := lane.promptTokenOffset
    promptTokenCount := lane.promptTokenCount
    dispatchKind := prefillView.kind
    dispatchFlags := dispatch.flags
    requestId := lane.requestId
    sequenceId := lane.sequenceId
    requestHandle := lane.requestHandle }

def publishPrefillEvents (prefillView : PrefillDispatchView) : EngineM S Unit :=
  forM (prefillView.lanes.take prefillView.laneCount) fun lane =>
    failAs .capacityExceeded (pushEvent (prefillProgressEvent dispatch prefillView lane))

def servingPrefillDispatch (engine : ServingEngine S) (dispatch : ServingDispatch)
    (stepIndex : Nat) (prefillView : PrefillDispatchView) (kvBlockTableView : KvBlockTableView) :
    ServingPrefillDispatch :=
  { stepIndex
    dispatchKind := dispatch.kind
    activeSequenceCount := prefillView.activeSequenceCount
    laneCount := prefillView.laneCount
    promptTokenOffset := prefillView.promptTokenOffset
    promptTokenCount := prefillView.promptTokenCount
    promptTokenStride := prefillView.promptTokenStride
    hostTokenStride := engine.hostPrefillTokenStride
    hostTokenIds := engine.hostPrefillTokenIds
    lanes := prefillView.lanes
    kvBlockTableView }

/-- Whether the staging buffers can hold a prefill. -/
def prefillFits (settings : EngineSettings) (prefillView : PrefillDispatchView) : Bool :=
  prefillView.laneCount ≤ settings.hostPrefillLaneCapacity &&
    prefillView.laneCount ≤ settings.laneCountCapacity &&
    prefillView.promptTokenStride ≤ settings.hostPrefillTokenStride

def buildKvBlockTableView : EngineM S KvBlockTableView := do
  let engine ← get
  onKvStaging (S.api.buildDispatchKvBlockTableView dispatch engine.executionPhysicalBlockIndices
    engine.kvBlockLaneStride engine.kvBlockLaneCapacity)

/-- Everything a prefill needs before its callback is called. -/
def stagePrefill : EngineM S (PrefillDispatchView × KvBlockTableView) := do
  let prefillView ← onRequestApi (S.api.describePrefillDispatch dispatch)
  let engine ← get
  if prefillFits engine.toEngineSettings prefillView = false then throw .capacityExceeded
  else
    onPrefillStaging (S.api.copyPrefillDispatchTokenIds dispatch engine.hostPrefillTokenStride
      engine.hostPrefillLaneCapacity)
    let kvBlockTableView ← buildKvBlockTableView dispatch
    return (prefillView, kvBlockTableView)

/-- Run the prefill callback; the value says whether it keeps the dispatch for later. -/
def callPrefill (stepIndex : Nat) (prefillView : PrefillDispatchView)
    (kvBlockTableView : KvBlockTableView) : EngineM S Bool := do
  match ← attempt (onHost (S.prefillFunction (servingPrefillDispatch (← get) dispatch stepIndex
      prefillView kvBlockTableView))) with
  | .ok _ => return false
  | .error .pending =>
    noteDispatchCall .pending
    return true
  | .error status => throw status

/-- A callback that keeps the dispatch is followed by the events all the same. -/
def invokePrefill (stepIndex : Nat) : EngineM S Unit := do
  let (prefillView, kvBlockTableView) ← stagePrefill dispatch
  let kept ← callPrefill dispatch stepIndex prefillView kvBlockTableView
  failAs .ioError (publishPrefillEvents dispatch prefillView)
  if kept then throw .pending else pure ()

def completePrefillDispatch : EngineM S Unit := do
  if dispatch.isPrefill = false then throw .invalidArgument
  else settleNoted .completed (S.api.completeDispatch dispatch)

/-! ### Decode: the report -/

def maximumTokenCount : Nat :=
  if dispatch.kind = .speculativeVerifyBatch then dispatch.speculativeVerifierTokenCount
  else if dispatch.flags.mtpCommit then dispatch.mtpDraftTokenBudget + 1
  else 1

def laneIsValid (tokenStride : Nat) (lane : DecodeResultLane) :
    Bool :=
  lane.tokenCount ≠ 0 && lane.tokenCount ≤ maximumTokenCount dispatch &&
    lane.tokenCount ≤ tokenStride &&
    lane.draftTokenCount ≤ mtpMaxDraftTokenCount &&
    (lane.draftTokenCount = 0 || dispatch.takesDrafts) &&
    (dispatch.kind = .speculativeVerifyBatch || dispatch.flags.mtpCommit ||
      lane.tokenCount = 1)

variable (result : DecodeResult)

def decodeResultIsValid : Bool :=
  result.laneCount = dispatch.requestCount && result.laneCount ≠ 0 &&
    result.laneCount ≤ maxDispatchRequestCount && result.tokenStride ≠ 0 &&
    result.tokenStride ≤ maxDecodeTokensPerLane &&
    maximumTokenCount dispatch ≠ 0 &&
    maximumTokenCount dispatch ≤ maxDecodeTokensPerLane &&
    (List.range result.laneCount).all fun laneIndex =>
      laneIsValid dispatch result.tokenStride (result.lane laneIndex)

def validateDecodeResult : Except ServingStatus Unit :=
  if decodeResultIsValid dispatch result then .ok () else .error .invalidArgument

/-- The tokens the verifier reported, one row for each lane. -/
def verifierTokenIds (verifierTokenCount : Nat) : List Nat :=
  (List.range result.laneCount).flatMap fun laneIndex =>
    paddedTo maxDecodeTokensPerLane ((result.lane laneIndex).tokenIds.take verifierTokenCount)

def resolveSpeculativeDecode : DispatchM S Unit := do
  let dispatch := (← get).dispatch
  if dispatch.kind ≠ .speculativeVerifyBatch then pure ()
  else
    let verifierTokenCount := (result.lane 0).tokenCount
    if (List.range result.laneCount).all (fun laneIndex =>
        (result.lane laneIndex).tokenCount = verifierTokenCount) = false then
      throw .invalidArgument
    else
      let resolved ← onEngine (onRequestApi (S.api.resolveSpeculativeVerifyDispatch dispatch
        (verifierTokenIds result verifierTokenCount) maxDecodeTokensPerLane verifierTokenCount))
      modify fun state => { state with dispatch := resolved }

/-- The tokens of a verify lane end with the fallback token at the first rejected draft. -/
def clampLane (lane : ServingLane) (reported : DecodeResultLane) :
    Except ServingStatus DecodeResultLane :=
  if lane.speculativeCommittedTokenCount = 0 ∨
      lane.speculativeCommittedTokenCount ≠ lane.speculativeAcceptedTokenCount + 1 ∨
      reported.tokenCount < lane.speculativeCommittedTokenCount then .error .invalidArgument
  else
    .ok { reported with
      tokenIds := reported.tokenIds.set lane.speculativeAcceptedTokenCount
        lane.speculativeFallbackTokenId
      tokenCount := lane.speculativeCommittedTokenCount }

def clampSpeculativeVerifyDecodeResult : Except ServingStatus DecodeResult :=
  if dispatch.kind ≠ .speculativeVerifyBatch then .ok result
  else
    (List.range result.laneCount).foldlM (fun result laneIndex => do
      let clamped ← clampLane (dispatch.lanes.getD laneIndex {}) (result.lane laneIndex)
      return result.setLane laneIndex clamped) result

/-- Drafts that a decode reports apart from its tokens. -/
def separateDraftTokens : Except ServingStatus (Nat × List Nat) :=
  let draftTokenCount := (result.lane 0).draftTokenCount
  if dispatch.takesDrafts = false ∨ mtpMaxDraftTokenCount < draftTokenCount then
    .error .invalidArgument
  else if (List.range result.laneCount).all (fun laneIndex =>
      (result.lane laneIndex).draftTokenCount = draftTokenCount) = false then
    .error .invalidArgument
  else
    .ok (draftTokenCount, (List.range result.laneCount).flatMap fun laneIndex =>
      paddedTo mtpMaxDraftTokenCount ((result.lane laneIndex).draftTokenIds.take draftTokenCount))

/-- Drafts that a decode reports behind the first token of each lane are cut off there. -/
def trailingDraftTokens : Except ServingStatus (Nat × List Nat × DecodeResult) :=
  let draftTokenCount := (result.lane 0).tokenCount - 1
  if mtpMaxDraftTokenCount < dispatch.mtpDraftTokenBudget then .error .invalidArgument
  else if (List.range result.laneCount).all (fun laneIndex =>
      (result.lane laneIndex).tokenCount ≠ 0 &&
      (result.lane laneIndex).tokenCount - 1 ≤ dispatch.mtpDraftTokenBudget &&
      (result.lane laneIndex).tokenCount - 1 = draftTokenCount) = false then
    .error .invalidArgument
  else
    .ok (draftTokenCount, (List.range result.laneCount).flatMap (fun laneIndex =>
        paddedTo mtpMaxDraftTokenCount
          (((result.lane laneIndex).tokenIds.drop 1).take draftTokenCount)),
      (List.range result.laneCount).foldl (fun result laneIndex =>
        result.setLane laneIndex { result.lane laneIndex with tokenCount := 1 }) result)

def captureMtpDraftTokens : Except ServingStatus (Nat × List Nat × DecodeResult) :=
  if result.laneCount ≠ 0 ∧ (result.lane 0).draftTokenCount ≠ 0 then
    (separateDraftTokens dispatch result).map fun drafts => (drafts.1, drafts.2, result)
  else if dispatch.kind ≠ .decodeBatch ∨ dispatch.flags.mtpCommit = false then .ok (0, [], result)
  else trailingDraftTokens dispatch result

def resolveMtpDecode : DispatchM S Unit := do
  let dispatch := (← get).dispatch
  if dispatch.kind ≠ .decodeBatch ∨ dispatch.flags.mtpCommit = false then pure ()
  else
    forM (List.range result.laneCount) fun laneIndex => do
      if (result.lane laneIndex).tokenCount = 0 then throw .invalidArgument
      else
        modify fun state =>
          { state with
            dispatch := { state.dispatch with
              lanes := state.dispatch.lanes.set laneIndex
                { state.dispatch.lanes.getD laneIndex {} with decodeCommittedTokenCount := 1 } } }

/-! ### Decode: the events -/

/-- How many tokens of a lane are streamed, and whether the lane ends the request. -/
def streamedTokenCount (stopTokenIds : List Nat) (lane : DecodeResultLane) : Nat × Bool :=
  match (List.range lane.tokenCount).find? fun tokenIndex =>
      decide (lane.tokenIds.getD tokenIndex 0 ∈ stopTokenIds) with
  | some tokenIndex => (tokenIndex + 1, true)
  | none => (lane.tokenCount, lane.finishRequest)

def tokenEvent (record : RequestRecord) (tokenId tokenIndex tokenCount : Nat) : ServingEvent :=
  { kind := .token
    tokenId
    tokenIndex
    tokenCount
    dispatchKind := dispatch.kind
    dispatchFlags := dispatch.flags
    requestId := record.requestId
    sequenceId := record.sequenceId
    requestHandle := record.requestHandle }

/-- Append one token to the text of a record, and stream it unless the lane is suppressed. -/
def publishToken (lane : DecodeResultLane) (laneTokenCount tokenIndex : Nat) : EngineM S Unit := do
  let record := (← get).table.record recordIndex
  let tokenId := lane.tokenIds.getD tokenIndex 0
  let absoluteIndex := record.promptTokenCount + record.streamedDecodeTokenCount + tokenIndex
  if record.tokenCapacity ≤ absoluteIndex then throw .capacityExceeded
  else
    modifyTable fun t => t.setRecord recordIndex
      { record with tokenIds := record.tokenIds.set absoluteIndex tokenId }
    if lane.tokenStreamSuppressed then pure ()
    else
      failAs .capacityExceeded
        (pushEvent (tokenEvent dispatch record tokenId absoluteIndex laneTokenCount))

/-- Stream one lane; the handles of the lanes that end their requests are collected. -/
def publishLane (finishHandles : List Nat) (laneIndex : Nat) : EngineM S (List Nat) := do
  let requestHandle := (dispatch.lanes.getD laneIndex {}).requestHandle
  let recordIndex ← orFail .invalidArgument ((← get).table.findRecordByHandle requestHandle)
  let lane := result.lane laneIndex
  let (laneTokenCount, laneFinish) := streamedTokenCount (← get).stopTokenIds lane
  forM (List.range laneTokenCount) (publishToken dispatch recordIndex lane laneTokenCount)
  modifyTable fun t => t.modifyRecord recordIndex fun record =>
    { record with streamedDecodeTokenCount := record.streamedDecodeTokenCount + laneTokenCount }
  return if laneFinish then finishHandles ++ [requestHandle] else finishHandles

def publishDecodeEvents : EngineM S (List Nat) :=
  (List.range result.laneCount).foldlM (publishLane dispatch result) []

/-! ### Decode: the settlement -/

def completeFinishedHandle : EngineM S Unit := do
  match (← get).table.findRecordByHandle requestHandle with
  | none => pure ()
  | some recordIndex =>
    match ← attempt (onRequestApi (S.api.finishRequestGeneration requestHandle)) with
    | .ok _ | .error .notFound => concludeRecord recordIndex requestHandle
    | .error status => throw status

def completeFinishedHandles (finishHandles : List Nat) : EngineM S Unit :=
  forM finishHandles completeFinishedHandle

def completeBudgetFinishedRequest (lane : ServingLane) : EngineM S Unit := do
  match (← get).table.findRecordByHandle lane.requestHandle with
  | none => pure ()
  | some recordIndex =>
    match ← attempt (onRequestApi (S.api.requestCacheState lane.requestHandle)) with
    | .error .notFound => pure ()
    | .error status => throw status
    | .ok cacheState =>
      if cacheState.state = .completed then concludeRecord recordIndex lane.requestHandle
      else pure ()

def completeBudgetFinishedRequests : EngineM S Unit :=
  forM dispatch.lanes completeBudgetFinishedRequest

/-- Drafts that cannot be armed because a request is gone are dropped. -/
def armDrafts (draftTokenCount : Nat) (draftTokenIds : List Nat) : EngineM S Unit := do
  if draftTokenCount = 0 then pure ()
  else
    match ← attempt (onRequestApi (S.api.armMtpVerifyDispatch dispatch draftTokenIds
        mtpMaxDraftTokenCount draftTokenCount)) with
    | .ok _ | .error .notFound => pure ()
    | .error status => throw status

/-- What is left to do for an accepted report once its dispatch is settled. -/
structure DecodeReport where
  draftTokenCount : Nat
  draftTokenIds : List Nat
  finishHandles : List Nat

/-- Check, rewrite and stream a report. -/
def acceptDecodeResult : DispatchM S DecodeReport := do
  liftExcept (validateDecodeResult (← get).dispatch result)
  resolveSpeculativeDecode result
  let result ← liftExcept (clampSpeculativeVerifyDecodeResult (← get).dispatch result)
  let (draftTokenCount, draftTokenIds, result) ←
    liftExcept (captureMtpDraftTokens (← get).dispatch result)
  resolveMtpDecode result
  let finishHandles ← onEngine (publishDecodeEvents (← get).dispatch result)
  return { draftTokenCount, draftTokenIds, finishHandles }

/-- Arm the drafts of a settled decode and announce the requests that it ended. -/
def concludeDecode (report : DecodeReport) : EngineM S Unit := do
  armDrafts dispatch report.draftTokenCount report.draftTokenIds
  completeFinishedHandles report.finishHandles
  completeBudgetFinishedRequests dispatch

def completeDecodeDispatch : DispatchM S Unit := do
  let report ← acceptDecodeResult result
  let dispatch := (← get).dispatch
  onEngine do
    settleNoted .completed (S.api.completeDispatch dispatch)
    concludeDecode dispatch report

/-- The input token of a lane is the last token of its record. -/
def decodeInput (t : RecordTable) (dispatch : ServingDispatch) (laneIndex : Nat) :
    Except ServingStatus Nat :=
  match t.findRecordByHandle (dispatch.lanes.getD laneIndex {}).requestHandle with
  | none => .error .invalidArgument
  | some recordIndex =>
    let record := t.record recordIndex
    let length := record.promptTokenCount + record.streamedDecodeTokenCount
    if record.promptTokenCount = 0 ∨ record.tokenCapacity < length then .error .invalidArgument
    else .ok (record.tokenIds.getD (length - 1) 0)

def fillDecodeInputs (t : RecordTable) (dispatch : ServingDispatch)
    (decodeView : DecodeDispatchView) : Except ServingStatus (List Nat) :=
  (List.range decodeView.laneCount).mapM (decodeInput t dispatch)

def servingDecodeDispatch (kvBlockTableView : KvBlockTableView)
    (decodeView : DecodeDispatchView) (inputTokenIds : List Nat) : ServingDecodeDispatch :=
  let speculativeTokenCount :=
    if dispatch.kind = .speculativeVerifyBatch then dispatch.speculativeTokenCount else 0
  { dispatchKind := dispatch.kind
    requestCount := dispatch.requestCount
    activeSequenceCount := kvBlockTableView.laneCount
    requestDispatch := dispatch
    kvBlockTableView
    decodeView
    inputTokenIds
    speculativeTokenCount
    speculativeDraftTokenIds := (List.range decodeView.laneCount).map fun laneIndex =>
      paddedTo maxSpeculativeTokens
        ((dispatch.lanes.getD laneIndex {}).speculativeDraftTokenIds.take speculativeTokenCount) }

/-- Run the decode callback and note when it keeps the dispatch for later. -/
def callDecode (decodeDispatch : ServingDecodeDispatch) (empty : DecodeResult) :
    EngineM S DecodeResult := do
  match ← attempt (onHost (S.decodeFunction decodeDispatch empty)) with
  | .ok result => return result
  | .error .pending =>
    noteDispatchCall .pending
    throw .pending
  | .error status => throw status

/-- Everything a decode needs before its callback is called. -/
def stageDecode : EngineM S ServingDecodeDispatch := do
  let kvBlockTableView ← buildKvBlockTableView dispatch
  let decodeView ← onRequestApi (S.api.describeDecodeDispatch dispatch)
  let inputTokenIds ← liftExcept (fillDecodeInputs (← get).table dispatch decodeView)
  return servingDecodeDispatch dispatch kvBlockTableView decodeView inputTokenIds

def invokeDecode : DispatchM S Unit := do
  let dispatch := (← get).dispatch
  let result ← onEngine do
    let decodeDispatch ← stageDecode dispatch
    callDecode decodeDispatch (DecodeResult.new dispatch.requestCount maxDecodeTokensPerLane)
  completeDecodeDispatch result

/-! ### The pump -/

def invokeDispatch (stepIndex : Nat) : DispatchM S Unit := do
  let dispatch := (← get).dispatch
  if dispatch.isPrefill then
    onEngine do
      invokePrefill dispatch stepIndex
      completePrefillDispatch dispatch
  else if dispatch.isDecode then invokeDecode
  else throw .invalidArgument

variable (stopAfterOne : Bool)

/-- A dispatch that is neither kept nor refused as busy is cancelled, and its requests fail. -/
def failedStep (pendingDispatchCount : Nat) (dispatch : ServingDispatch)
    (status : ServingStatus) : EngineM S PumpOutcome := do
  if status = .pending ∧ (dispatch.isPrefill || dispatch.isDecode) then
    return if stopAfterOne then .exit .pending else .proceed (pendingDispatchCount + 1)
  else if status = .busy ∧ dispatch.isPrefill then return .exit .busy
  else
    let _ ← (attempt (settleNoted .cancelled (S.api.cancelDispatch dispatch)) :
      EngineM S (Except ServingStatus Unit))
    failDispatchRequests dispatch status
    return .exit status

/-- The end of a round; a decode that was refused as busy is handed back. -/
def settleStep (pendingDispatchCount : Nat) (decode : Bool)
    (dispatch : ServingDispatch) : Except ServingStatus Unit → EngineM S PumpOutcome
  | .ok _ => return if stopAfterOne then .exit .ok else .proceed pendingDispatchCount
  | .error status => do
      if status = .busy ∧ decode then
        match ← attempt (settleNoted .retried (S.api.retryDecodeDispatch dispatch)) with
        | .ok _ => return .exit .busy
        | .error retryStatus =>
          failedStep stopAfterOne pendingDispatchCount dispatch retryStatus
      else failedStep stopAfterOne pendingDispatchCount dispatch status

def serveDispatch (stepIndex pendingDispatchCount : Nat)
    (dispatch : ServingDispatch) : EngineM S PumpOutcome := do
  noteDispatchCall (.scheduled dispatch)
  let (outcome, invoked) ← withDispatch dispatch (invokeDispatch stepIndex)
  settleStep stopAfterOne pendingDispatchCount dispatch.isDecode invoked outcome

def pumpStep (stepIndex pendingDispatchCount : Nat) : EngineM S PumpOutcome := do
  if (← get).events.freeCount < eventRingSafetyMargin then return .exit .busy
  else
    match ← attempt (onRequestApi S.api.scheduleNext) with
    | .error status =>
      return .exit (if (status = .notFound ∨ status = .busy) ∧ pendingDispatchCount ≠ 0
        then .pending else status)
    | .ok dispatch =>
      if dispatch.accepted = false ∨ dispatch.kind = .none then return .exit .busy
      else serveDispatch stopAfterOne stepIndex pendingDispatchCount dispatch

def pumpLoop (stopAfterOne : Bool) : Nat → Nat → Nat → EngineM S ServingStatus
  | 0, _, pendingDispatchCount => return if pendingDispatchCount ≠ 0 then .pending else .ok
  | steps + 1, stepIndex, pendingDispatchCount => do
      match ← pumpStep stopAfterOne stepIndex pendingDispatchCount with
      | .exit status => return status
      | .proceed pendingDispatchCount =>
        pumpLoop stopAfterOne steps (stepIndex + 1) pendingDispatchCount

def pumpStepLimit (maxDispatchSteps : Nat) : Nat :=
  if maxDispatchSteps ≠ 0 then maxDispatchSteps else defaultMaxPumpSteps

def pump (maxDispatchSteps : Nat) : EngineM S Unit := do
  let status ← pumpLoop stopAfterOne (pumpStepLimit maxDispatchSteps) 0 0
  if status = .ok then pure () else throw status

end ServingEngine

end SparkPipe
