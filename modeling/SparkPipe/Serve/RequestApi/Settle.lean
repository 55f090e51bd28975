import SparkPipe.Serve.RequestApi.Schedule

/-!
# Settling a dispatch

An accepted dispatch is completed, cancelled or, for decode steps, retried. The scheduler is
settled first; the lanes follow one by one, and a lane that cannot be settled ends the call with
an error.
-/

open Program

namespace SparkPipe.RequestApi

variable {E : Seams}

/-! ### The end of a wave -/

/-- The slot after a wave of its prompt was computed. -/
def commitWave (slot : Slot) (committedTokenCount resultHash : Nat) : Slot :=
  let committed := min committedTokenCount slot.promptTokenCount.toNat
  let settled :=
    { slot with
      inflightPrefillDispatchCount := slot.inflightPrefillDispatchCount - 1
      completedPrefillStepCount := slot.completedPrefillStepCount + 1 }
  if slot.computedPromptTokenCount < committed then
    { settled with
      computedPromptTokenCount := committed
      lastCommittedPrefixTokenCount := committed
      lastCommittedPrefixHash := resultHash }
  else settled

variable (t : SlotTable)

/-- Back to the queue, to decoding, or to the end if there is no budget. -/
def leavePrefill (slotIndex : Nat) (slot : Slot) : SlotTable :=
  if slot.computedPromptTokenCount < slot.promptTokenCount.toNat then
    { t.setSlot slotIndex
        { slot with
          dispatchedPromptTokenCount :=
            min slot.dispatchedPromptTokenCount slot.computedPromptTokenCount
          state := .queuedPrefill } with
      queuedRequestCount := t.queuedRequestCount + 1 }
  else if slot.hasRemainingBudget then t.setSlot slotIndex { slot with state := .readyDecode }
  else
    { t.setSlot slotIndex { slot with state := .completed } with
      completedRequestCount := t.completedRequestCount + 1 }

def leaveRunning : SlotTable :=
  { t with runningRequestCount := wrappingPred t.runningRequestCount }

/-- A slot with other waves in flight waits for them. -/
def finishSlotAfterPrefill (slotIndex committedTokenCount resultHash : Nat) :
    SlotTable :=
  let slot := commitWave (t.slot slotIndex) committedTokenCount resultHash
  if slot.inflightPrefillDispatchCount ≠ 0 then (leaveRunning t).setSlot slotIndex slot
  else leavePrefill (leaveRunning t) slotIndex slot

/-- A lane of a batch does not look at other waves. -/
def finishSlotAfterPrefillBatchLane (slotIndex committedTokenCount resultHash : Nat) : SlotTable :=
  leavePrefill (leaveRunning t) slotIndex
    (commitWave (t.slot slotIndex) committedTokenCount resultHash)

/-! ### Completion -/

/-- The slot of a lane, which must be in the given state. -/
def findLaneSlot (expected : SlotState) (lane : DispatchLane) : ApiM E Nat := do
  let slotIndex ← findSlot .invalidArgument lane.requestHandle
  if ((← get).table.slot slotIndex).state ≠ expected then throw .invalidArgument
  else return slotIndex

variable (decision : SchedulerDecision)

/-- The leader of a prefill. A leader that was cancelled meanwhile is passed over. -/
def completePrefillLeader (lane : DispatchLane) : ApiM E Unit := do
  let slotIndex ← findSlot .invalidArgument lane.requestHandle
  let state := ((← get).table.slot slotIndex).state
  if state = .cancelled then pure ()
  else if state ≠ .runningPrefill then throw .invalidArgument
  else
    modifyTable (finishSlotAfterPrefill · slotIndex decision.cacheCommitTokenCountAfterStep
      decision.prefixCacheResultHash)

/-- A follower is bound to the blocks that were computed for the leader. -/
def completePrefillFollower (leaderSequenceId : Nat) (lane : DispatchLane) : ApiM E Unit := do
  let slotIndex ← findLaneSlot .waitingPrefixCohort lane
  if decision.cacheCommitTokenCountAfterStep ≠ 0 then
    let sequenceId := ((← get).table.slot slotIndex).sequenceId
    let _ ← onRuntime (onPrefixCache (PrefixCache.bindCommittedPrefixFromSequence leaderSequenceId
      sequenceId decision.cacheCommitTokenCountAfterStep))
  modifyTable (finishSlotAfterPrefill · slotIndex decision.cacheCommitTokenCountAfterStep
    decision.prefixCacheResultHash)

def completePrefillLanes : List DispatchLane → ApiM E Unit
  | [] => pure ()
  | leader :: followers => do
      completePrefillLeader decision leader
      forM followers (completePrefillFollower decision leader.sequenceId)

def completePrefillBatchLane (lane : DispatchLane) (admitted : PrefillBatchLane) : ApiM E Unit := do
  let slotIndex ← findLaneSlot .runningPrefill lane
  modifyTable (finishSlotAfterPrefillBatchLane · slotIndex
    admitted.cacheCommitTokenCountAfterStep admitted.prefixCacheResultHash)

/-- A lane that produces drafts must report one token within its budget. -/
def completeDecodeLane (mtpCommit : Bool) (lane : DispatchLane) : ApiM E Unit := do
  let slotIndex ← findLaneSlot .runningDecode lane
  let slot := (← get).table.slot slotIndex
  if mtpCommit = true ∧ (lane.decodeCommittedTokenCount ≠ 1 ∨
      slot.remainingDecodeBudget < lane.decodeCommittedTokenCount) then
    throw .invalidArgument
  else
    finishSlotAfterDecode slotIndex (if mtpCommit then lane.decodeCommittedTokenCount else 1)

variable (dispatch : Dispatch)

/-- What a lane of a verification reports. -/
def verifiedLaneOf (lane : DispatchLane) : VerifiedLane where
  proposedTokenCount := dispatch.speculativeTokenCount
  acceptedDraftTokenCount := lane.speculativeAcceptedTokenCount
  committedTokenCount := lane.speculativeCommittedTokenCount
  fallbackTokenId := lane.speculativeFallbackTokenId
  resolutionPathId := lane.speculativeResolutionPathId
  mtpVerify := dispatch.flags.mtpSpeculativeVerify

def completeVerifyLane (lane : DispatchLane) : ApiM E Unit := do
  let slotIndex ← findLaneSlot .runningSpeculativeVerify lane
  finishSlotAfterSpeculativeVerify slotIndex (verifiedLaneOf dispatch lane)

/-- Settle a decision of a dispatch, if it has one. -/
def settleDecision {α : Type} (decision : Option α) (settle : α → SchedM Unit) : ApiM E α := do
  let decision ← orFail .invalidArgument decision
  onRuntime (onScheduler (settle decision))
  return decision

def completeDispatch : ApiM E Unit := do
  validate
  if dispatch.accepted = false ∨ dispatch.requestCount = 0 then throw .invalidArgument
  else
    match dispatch.kind with
    | .prefill =>
      let decision ← settleDecision dispatch.prefillDecision Scheduler.complete
      completePrefillLanes decision dispatch.lanes
    | .prefillBatch =>
      let decision ← settleDecision dispatch.prefillBatchDecision Scheduler.completePrefillBatch
      forM (dispatch.lanes.zip decision.lanes) fun lane =>
        completePrefillBatchLane lane.1 lane.2
    | .decodeBatch =>
      let _ ← settleDecision dispatch.decodeBatchDecision Scheduler.completeDecodeBatch
      forM dispatch.lanes (completeDecodeLane dispatch.flags.mtpCommit)
    | .speculativeVerifyBatch =>
      let _ ← settleDecision dispatch.decodeBatchDecision Scheduler.completeDecodeBatch
      if dispatch.speculativeTokenCount = 0 ∨
          maxSpeculativeTokens < dispatch.speculativeTokenCount then
        throw .invalidArgument
      else forM dispatch.lanes (completeVerifyLane dispatch)
    | .none => throw .invalidArgument

/-! ### Cancellation -/

/-- The table after the slot of a lane was cancelled. -/
def cancelRunningSlot (slotIndex : Nat) : SlotTable :=
  { (leaveRunning t).setSlot slotIndex { t.slot slotIndex with state := .cancelled } with
    cancelledRequestCount := t.cancelledRequestCount + 1 }

def cancelLane (expected : SlotState) (lane : DispatchLane) : ApiM E Unit := do
  let slotIndex ← findLaneSlot expected lane
  modifyTable (cancelRunningSlot · slotIndex)
  releaseSlotSequence slotIndex

/-- The speculator is told before the lane is cancelled; its answer is ignored. -/
def cancelVerifyLane (lane : DispatchLane) : ApiM E Unit := do
  let slotIndex ← findLaneSlot .runningSpeculativeVerify lane
  let api ← get
  if api.runtime.speculationIsEnabled api.toRequestApiSettings then
    let _ ← onRuntime (attempt (onSpeculator .notFound
      (E.model.cancelSequence (api.table.slot slotIndex).sequenceId)))
  modifyTable (cancelRunningSlot · slotIndex)
  releaseSlotSequence slotIndex

def cancelPrefillLanes : List DispatchLane → ApiM E Unit
  | [] => pure ()
  | leader :: followers => do
      cancelLane .runningPrefill leader
      forM followers (cancelLane .waitingPrefixCohort)

def cancelDispatch : ApiM E Unit := do
  validate
  if dispatch.accepted = false then throw .invalidArgument
  else
    match dispatch.kind with
    | .prefill =>
      let _ ← settleDecision dispatch.prefillDecision Scheduler.cancel
      cancelPrefillLanes dispatch.lanes
    | .prefillBatch =>
      let _ ← settleDecision dispatch.prefillBatchDecision Scheduler.cancelPrefillBatch
      forM dispatch.lanes (cancelLane .runningPrefill)
    | .decodeBatch =>
      let _ ← settleDecision dispatch.decodeBatchDecision Scheduler.cancelDecodeBatch
      forM dispatch.lanes (cancelLane .runningDecode)
    | .speculativeVerifyBatch =>
      let _ ← settleDecision dispatch.decodeBatchDecision Scheduler.cancelDecodeBatch
      forM dispatch.lanes cancelVerifyLane
    | .none => throw .invalidArgument

/-! ### Retry -/

def retryDecodeTokenCount : Nat :=
  if dispatch.kind = .speculativeVerifyBatch then dispatch.speculativeTokenCount else 1

/-- The state of a lane of a dispatch that can be retried. -/
def retriedState : SlotState :=
  if dispatch.kind = .decodeBatch then .runningDecode else .runningSpeculativeVerify

def retryDecodeCountersAreValid : Bool :=
  dispatch.accepted &&
  (dispatch.kind = .decodeBatch || dispatch.kind = .speculativeVerifyBatch) &&
  dispatch.requestCount ≠ 0 && dispatch.requestCount ≤ t.runningRequestCount &&
  t.scheduledDecodeDispatchCount ≠ 0 &&
  retryDecodeTokenCount dispatch ≠ 0 &&
  (dispatch.kind ≠ .speculativeVerifyBatch ||
    if dispatch.flags.mtpSpeculativeVerify then t.mtpVerifyDispatchCount ≠ 0
    else t.dsparkVerifyDispatchCount ≠ 0)

def retryDecodeSlotIsValid (lane : DispatchLane) : Bool :=
  (t.findSlotByHandle lane.requestHandle).any fun slotIndex =>
    (t.slot slotIndex).state = retriedState dispatch &&
      retryDecodeTokenCount dispatch ≤ (t.slot slotIndex).scheduledDecodeTokenCount

def restoreRetriedDecodeSlot (t : SlotTable) (lane : DispatchLane) :
    SlotTable :=
  match t.findSlotByHandle lane.requestHandle with
  | none => t
  | some slotIndex =>
    let slot := t.slot slotIndex
    t.setSlot slotIndex
      { slot with
        scheduledDecodeTokenCount :=
          slot.scheduledDecodeTokenCount - retryDecodeTokenCount dispatch
        state :=
          if dispatch.kind = .decodeBatch then .readyDecode else .readySpeculativeVerify }

def restoreRetriedDecodeCounters : SlotTable :=
  let verifies := dispatch.kind = .speculativeVerifyBatch
  { t with
    runningRequestCount := t.runningRequestCount - dispatch.requestCount
    scheduledDecodeDispatchCount := t.scheduledDecodeDispatchCount - 1
    mtpVerifyDispatchCount :=
      if verifies ∧ dispatch.flags.mtpSpeculativeVerify then t.mtpVerifyDispatchCount - 1
      else t.mtpVerifyDispatchCount
    dsparkVerifyDispatchCount :=
      if verifies ∧ dispatch.flags.mtpSpeculativeVerify = false then
        t.dsparkVerifyDispatchCount - 1
      else t.dsparkVerifyDispatchCount }

/-- Everything is checked before the scheduler is asked. -/
def retryDecodeDispatch : ApiM E Unit := do
  validate
  let t := (← get).table
  if retryDecodeCountersAreValid t dispatch = false ∨
      dispatch.lanes.all (retryDecodeSlotIsValid t dispatch) = false then
    throw .invalidArgument
  else
    let _ ← settleDecision dispatch.decodeBatchDecision Scheduler.cancelDecodeBatch
    modifyTable fun t =>
      restoreRetriedDecodeCounters
        (dispatch.lanes.foldl (restoreRetriedDecodeSlot dispatch) t) dispatch

end SparkPipe.RequestApi
