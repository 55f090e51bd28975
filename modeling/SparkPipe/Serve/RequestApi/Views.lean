import SparkPipe.Serve.Engine.Seams
import SparkPipe.Serve.RequestApi.Settle

/-!
# What an accepted dispatch looks like to those who execute it

The request API describes the prompt ranges and the decode positions of a dispatch, copies the
scheduled tokens and writes the tables of the KV blocks that the dispatch reads and writes. The
slot table is only read; the tables of a decode may extend the sequences of its lanes.
-/

open Program

namespace SparkPipe

/-- One lane of a prefill with its prompt. -/
structure PromptLaneView extends PrefillDispatchLaneView where
  promptTokenIds : List Nat

structure PromptDispatchView where
  kind : DispatchKind
  activeSequenceCount : Nat
  laneCount : Nat
  promptTokenOffset : Nat := 0
  promptTokenCount : Nat := 0
  promptTokenStride : Nat
  lanes : List PromptLaneView := []

/-- Write a row to a flat array. -/
def writeRow (cells : List Nat) (base : Nat) (row : List Nat) : List Nat :=
  cells.take base ++ row ++ cells.drop (base + row.length)

namespace RequestApi

variable {E : Seams}

/-! ### Prefill -/

variable (dispatch : Dispatch)

def dispatchLaneCount : Nat :=
  match dispatch.kind with
  | .prefill => dispatch.prefillDecision.elim 0 SchedulerDecision.activeSequenceCount
  | .prefillBatch => dispatch.prefillBatchDecision.elim 0 PrefillBatchDecision.activeSequenceCount
  | .decodeBatch | .speculativeVerifyBatch =>
    dispatch.decodeBatchDecision.elim 0 BatchDecision.activeSequenceCount
  | .none => 0

def describePrompt (decision : SchedulerDecision) : Except RequestApiError PromptDispatchView :=
  let lane := dispatch.lanes.getD 0 {}
  if decision.accepted = false ∨ decision.activeSequenceCount ≠ 1 ∨
      decision.scheduledPromptTokenCount = 0 ∨ decision.promptTokenIds = [] then
    .error .invalidArgument
  else
    .ok {
      kind := dispatch.kind
      activeSequenceCount := decision.activeSequenceCount
      laneCount := 1
      promptTokenOffset := decision.scheduledPromptTokenOffset
      promptTokenCount := decision.scheduledPromptTokenCount
      promptTokenStride := decision.scheduledPromptTokenCount
      lanes := [{
        requestIndex := 0
        promptTokenOffset := decision.scheduledPromptTokenOffset
        promptTokenCount := decision.scheduledPromptTokenCount
        requestSlotIndex := lane.requestSlotIndex
        requestId := lane.requestId
        sequenceId := lane.sequenceId
        requestHandle := lane.requestHandle
        promptTokenIds := decision.promptTokenIds }] }

/-- Lanes at different offsets have no common offset, which is then zero. -/
def describeBatchLane (view : PromptDispatchView)
    (indexed : (PrefillBatchLane × DispatchLane) × Nat) :
    Except RequestApiError PromptDispatchView :=
  let ((scheduled, lane), laneIndex) := indexed
  if scheduled.activeSequenceCount = 0 ∨ scheduled.scheduledPromptTokenCount = 0 ∨
      view.promptTokenStride < scheduled.scheduledPromptTokenCount ∨
      scheduled.promptTokenIds = [] then
    .error .invalidArgument
  else
    .ok { view with
      promptTokenOffset :=
        if laneIndex = 0 then scheduled.scheduledPromptTokenOffset
        else if view.promptTokenOffset ≠ scheduled.scheduledPromptTokenOffset then 0
        else view.promptTokenOffset
      promptTokenCount := max view.promptTokenCount scheduled.scheduledPromptTokenCount
      lanes := view.lanes ++ [{
        requestIndex := scheduled.requestIndex
        promptTokenOffset := scheduled.scheduledPromptTokenOffset
        promptTokenCount := scheduled.scheduledPromptTokenCount
        requestSlotIndex := lane.requestSlotIndex
        requestId := lane.requestId
        sequenceId := lane.sequenceId
        requestHandle := lane.requestHandle
        promptTokenIds := scheduled.promptTokenIds }] }

def describePromptBatch (decision : PrefillBatchDecision) :
    Except RequestApiError PromptDispatchView :=
  let laneCount := decision.activeSequenceCount
  if decision.accepted = false ∨ laneCount = 0 ∨ maxDispatchRequestCount < laneCount ∨
      decision.maximumScheduledPromptTokenCount = 0 then
    .error .invalidArgument
  else
    ((decision.lanes.zip dispatch.lanes).take laneCount).zipIdx.foldlM describeBatchLane
      { kind := dispatch.kind
        activeSequenceCount := laneCount
        laneCount
        promptTokenStride := decision.maximumScheduledPromptTokenCount }

def describePrefillDispatch : Except RequestApiError PromptDispatchView :=
  if dispatch.accepted = false then .error .invalidArgument
  else
    match dispatch.kind, dispatch.prefillDecision, dispatch.prefillBatchDecision with
    | .prefill, some decision, _ => describePrompt dispatch decision
    | .prefillBatch, _, some decision => describePromptBatch dispatch decision
    | _, _, _ => .error .invalidArgument

/-- The row of a lane holds its scheduled tokens, filled up with zeros. -/
def copyLaneTokenIds (destinationTokenStride : Nat) (destination : List Nat)
    (indexed : PromptLaneView × Nat) : List Nat :=
  let scheduled :=
    (indexed.1.promptTokenIds.drop indexed.1.promptTokenOffset).take indexed.1.promptTokenCount
  writeRow destination (indexed.2 * destinationTokenStride)
    (scheduled ++ List.replicate (destinationTokenStride - indexed.1.promptTokenCount) 0)

def copyPrefillDispatchTokenIds (destination : List Nat)
    (destinationTokenStride destinationLaneCapacity : Nat) :
    Except RequestApiError (List Nat) := do
  let view ← describePrefillDispatch dispatch
  if destinationLaneCapacity < view.laneCount ∨ destinationTokenStride < view.promptTokenStride ∨
      destination.length < (view.laneCount - 1) * destinationTokenStride + view.promptTokenStride
      then
    throw .invalidArgument
  else return view.lanes.zipIdx.foldl (copyLaneTokenIds destinationTokenStride) destination

/-! ### Decode -/

/-- Whether the recorded outcome of the last verification fits the position of a slot. -/
def resolutionFits (slot : Slot) (sequencePosition : Nat) : Bool :=
  if slot.mtpResolutionProposedTokenCount = 0 then
    slot.mtpResolutionBasePosition = 0 &&
      slot.mtpResolutionAcceptedTokenCount = 0 &&
      slot.mtpResolutionCommittedTokenCount = 0 &&
      slot.mtpResolutionPathId = MtpTree.resolutionNone
  else
    slot.mtpResolutionProposedTokenCount ≤ mtpMaxDraftTokenCount &&
      slot.mtpResolutionCommittedTokenCount = slot.mtpResolutionAcceptedTokenCount + 1 &&
      slot.mtpResolutionBasePosition + slot.mtpResolutionCommittedTokenCount =
        sequencePosition &&
      MtpTree.resolutionIsValid slot.mtpResolutionProposedTokenCount
        slot.mtpResolutionAcceptedTokenCount slot.mtpResolutionPathId

/-- The position of a lane is that of its last token. -/
def describeDecodeLane (t : SlotTable) (indexed : DispatchLane × Nat) :
    Except RequestApiError DecodeDispatchLaneView :=
  match t.findSlotByHandle indexed.1.requestHandle with
  | none => .error .invalidArgument
  | some slotIndex =>
    let slot := t.slot slotIndex
    let sequencePosition := slot.computedPromptTokenCount + slot.completedDecodeTokenCount - 1
    if indexed.1.requestSlotIndex ≠ slotIndex ∨ slot.computedPromptTokenCount = 0 ∨
        (slot.state ≠ .runningDecode ∧ slot.state ≠ .runningSpeculativeVerify) then
      .error .invalidArgument
    else if 2 ^ 32 - 2 < sequencePosition then .error .invalidArgument
    else if resolutionFits slot sequencePosition = false then .error .internalError
    else
      .ok {
        requestIndex := indexed.2
        sequencePosition
        contextTokenCount := sequencePosition + 1
        requestSlotIndex := slotIndex
        requestId := slot.requestId
        sequenceId := slot.sequenceId
        requestHandle := slot.handle
        mtpResolutionBasePosition := slot.mtpResolutionBasePosition
        mtpResolutionProposedTokenCount := slot.mtpResolutionProposedTokenCount
        mtpResolutionAcceptedTokenCount := slot.mtpResolutionAcceptedTokenCount
        mtpResolutionCommittedTokenCount := slot.mtpResolutionCommittedTokenCount
        mtpResolutionPathId := slot.mtpResolutionPathId }

def describeDecodeDispatch : ApiM E DecodeDispatchView := do
  validate
  if dispatch.accepted = false ∨
      (dispatch.kind ≠ .decodeBatch ∧ dispatch.kind ≠ .speculativeVerifyBatch) ∨
      dispatch.requestCount = 0 ∨ maxDispatchRequestCount < dispatch.requestCount then
    throw .invalidArgument
  else
    let lanes ← liftExcept (dispatch.lanes.zipIdx.mapM (describeDecodeLane (← get).table))
    return {
      kind := dispatch.kind
      activeSequenceCount := dispatch.requestCount
      laneCount := dispatch.requestCount
      speculativeTokenCount := dispatch.speculativeTokenCount
      lanes }

/-! ### Block tables -/

abbrev TableM (E : Seams) := EStateM RequestApiError (RequestApi E × KvStaging)

def onTableApi {α : Type} (m : ApiM E α) : TableM E α :=
  onPart Prod.fst (fun state api => (api, state.2)) id m

def modifyStaging (f : KvStaging → KvStaging) : TableM E Unit :=
  modify fun state => (state.1, f state.2)

def clearLaneCounts (staging : KvStaging) : KvStaging :=
  { staging with
    lanePhysicalBlockCounts := List.replicate staging.lanePhysicalBlockCounts.length 0 }

def writeTable (laneIndex base : Nat) (table : List Nat) (staging : KvStaging) : KvStaging where
  hostPhysicalBlockIndices := writeRow staging.hostPhysicalBlockIndices base table
  lanePhysicalBlockCounts := staging.lanePhysicalBlockCounts.set laneIndex table.length

def buildPrefillTable (laneCapacity : Nat) : TableM E Unit := do
  modifyStaging clearLaneCounts
  let decision ← orFail .invalidArgument dispatch.prefillDecision
  let table ← onTableApi (onRuntime (onScheduler (Scheduler.buildKvBlockTable decision)))
  if laneCapacity < table.length ∨
      (← get).2.hostPhysicalBlockIndices.length < table.length then throw .capacityExceeded
  else modifyStaging (writeTable 0 0 table)

def writeBatchTable (laneStride : Nat) (indexed : List Nat × Nat) : TableM E Unit := do
  let base := indexed.2 * laneStride
  if (← get).2.hostPhysicalBlockIndices.length < base + indexed.1.length then
    throw .capacityExceeded
  else modifyStaging (writeTable indexed.2 base indexed.1)

variable (laneStride laneCapacity : Nat)

def buildPrefillBatchTables : TableM E Unit := do
  let decision ← orFail .invalidArgument dispatch.prefillBatchDecision
  let tables ← onTableApi (onRuntime (onScheduler
    (Scheduler.buildPrefillBatchKvBlockTables decision laneCapacity)))
  if (← get).2.lanePhysicalBlockCounts.length < tables.length then throw .invalidArgument
  else forM tables.zipIdx (writeBatchTable laneStride)

/-- The tokens beyond the next one for which a decode needs room. -/
def tableSpeculativeTokenCount : Nat :=
  if dispatch.kind = .speculativeVerifyBatch then
    if dispatch.flags.mtpTreeVerify then MtpTree.contextExtension
    else dispatch.speculativeTokenCount
  else if dispatch.flags.mtpCommit then dispatch.mtpDraftTokenBudget
  else 0

/-- The blocks of a decoding lane, after its sequence was given room for the step. -/
def decodeLaneTable (lane : DispatchLane) : ApiM E (List Nat) := do
  let slotIndex ← findSlot .invalidArgument lane.requestHandle
  let slot := (← get).table.slot slotIndex
  if (slot.state ≠ .runningDecode ∧ slot.state ≠ .runningSpeculativeVerify) ∨
      slot.computedPromptTokenCount = 0 then throw .invalidArgument
  else
    onRuntime do
      let required ← ensureDecodeSlotKvCapacity slot (tableSpeculativeTokenCount dispatch)
      onPrefixCache (PrefixCache.buildPhysicalBlockTable slot.sequenceId required)

def buildDecodeLaneTable (indexed : DispatchLane × Nat) : TableM E Unit := do
  let table ← onTableApi (decodeLaneTable dispatch indexed.1)
  let base := indexed.2 * laneStride
  if laneCapacity < table.length ∨
      (← get).2.hostPhysicalBlockIndices.length < base + table.length then throw .capacityExceeded
  else modifyStaging (writeTable indexed.2 base table)

def buildDispatchKvBlockTables : TableM E Unit := do
  onTableApi validate
  let staging := (← get).2
  if dispatch.accepted = false ∨ staging.hostPhysicalBlockIndices = [] ∨
      staging.lanePhysicalBlockCounts = [] ∨ laneCapacity = 0 ∨ laneStride < laneCapacity then
    throw .invalidArgument
  else
    match dispatch.kind with
    | .prefill => buildPrefillTable dispatch laneCapacity
    | .prefillBatch => buildPrefillBatchTables dispatch laneStride laneCapacity
    | .decodeBatch | .speculativeVerifyBatch =>
      if staging.lanePhysicalBlockCounts.length < dispatch.requestCount then
        throw .invalidArgument
      else
        modifyStaging clearLaneCounts
        forM dispatch.lanes.zipIdx (buildDecodeLaneTable dispatch laneStride laneCapacity)
    | .none => throw .invalidArgument

def buildDispatchKvBlockTableView
    (executionPhysicalBlockIndices : Option (List Nat)) (laneStride laneCapacity : Nat) :
    TableM E KvBlockTableView := do
  onTableApi validate
  let laneCount := dispatchLaneCount dispatch
  let staging := (← get).2
  if dispatch.accepted = false ∨ laneCount = 0 ∨
      staging.lanePhysicalBlockCounts.length < laneCount ∨
      staging.hostPhysicalBlockIndices = [] ∨ laneCapacity = 0 ∨ laneStride < laneCapacity then
    throw .invalidArgument
  else
    buildDispatchKvBlockTables dispatch laneStride laneCapacity
    let (api, staging) ← get
    return {
      blockTokenCount := api.runtime.prefixCacheBlockTokenCount
      laneCount
      laneStride
      laneCapacity
      physicalBlockIndices :=
        some (executionPhysicalBlockIndices.getD staging.hostPhysicalBlockIndices)
      lanePhysicalBlockCounts := some staging.lanePhysicalBlockCounts
      hostPhysicalBlockIndices := staging.hostPhysicalBlockIndices
      hostLanePhysicalBlockCounts := staging.lanePhysicalBlockCounts }

end RequestApi

end SparkPipe
