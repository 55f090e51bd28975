import SparkPipe.Serve.RequestApi.Speculation

/-!
# Scheduling the next dispatch

One call makes at most one dispatch: it chooses the slot to serve, brings the blocks it needs to
the device, asks the scheduler for admission and, once admitted, writes the slots and the
dispatch record. What is written after an admission is given by functions of the slot table
alone, one for each kind of dispatch.
-/

open Program

namespace SparkPipe.RequestApi

variable {E : Seams}

def onApiRuntime {α : Type} (m : RuntimeM E α) : ScheduleM E α := onApi (onRuntime m)

def raiseFlags (raise : DispatchFlags → DispatchFlags) : ScheduleM E Unit :=
  modifyDispatch fun dispatch => { dispatch with flags := raise dispatch.flags }

def initializeDispatch (flags : DispatchFlags) : ScheduleM E Unit :=
  modifyDispatch fun _ => { flags }

/-- Refuse because blocks are still on their way. -/
def refusePending : ScheduleM E Unit := do
  raiseFlags fun flags => { flags with jitPrefetchPending := true }
  throw .busy

/-- Bring the blocks of the selected slots to the device. -/
def runSlotArrayCriticalJitKvPrefetch (selectedSlots : List Nat) : ScheduleM E Unit := do
  let api := (← get).api
  let settings := api.toRequestApiSettings
  let slots := api.table.slots
  if settings.jitPrefetchIsEnabled then
    let criticalBlocks ← onApiRuntime (selectedSlots.foldlM (fun indices slotIndex =>
      collectIfFound settings (slots.getD slotIndex {}) indices) [])
    let plan ← onApiRuntime (buildSlotArrayJitKvPrefetchPlan settings slots selectedSlots)
    modifyDispatch fun dispatch => { dispatch with kvPrefetchPlan := plan }
    match ← onApiRuntime (attempt
        (dispatchJitKvPrefetchWithProtectedBlocks settings slots plan criticalBlocks)) with
    | .error .busy => refusePending
    | .error status => throw status
    | .ok _ =>
      if plan.prefetchBlockCount ≠ 0 then
        raiseFlags fun flags => { flags with jitPrefetchedKv := true }

/-! ### How a slot enters a dispatch -/

variable (slot : Slot)

def dispatchLaneOf (slotIndex : Nat) : DispatchLane :=
  { requestHandle := slot.handle
    requestSlotIndex := slotIndex
    requestId := slot.requestId
    sequenceId := slot.sequenceId }

/-- The slot after one more wave of its prompt was dispatched. -/
def dispatchWave (committedTokenCount : Nat) : Slot :=
  let dispatched :=
    if slot.inflightPrefillDispatchCount = 0 ∧
        slot.dispatchedPromptTokenCount < slot.computedPromptTokenCount then
      slot.computedPromptTokenCount
    else slot.dispatchedPromptTokenCount
  { slot with
    dispatchedPromptTokenCount :=
      max dispatched (min committedTokenCount slot.promptTokenCount.toNat)
    inflightPrefillDispatchCount := slot.inflightPrefillDispatchCount + 1
    scheduledPrefillStepCount := slot.scheduledPrefillStepCount + 1 }

variable (t : SlotTable)

/-- Only a queued slot leaves the queue. -/
def startPrefill (slotIndex committedTokenCount : Nat) : SlotTable :=
  let slot := t.slot slotIndex
  let queued := slot.state = .queuedPrefill
  let started := t.setSlot slotIndex
    { dispatchWave slot committedTokenCount with
      state := if queued then .runningPrefill else slot.state }
  { started with
    queuedRequestCount :=
      if queued then wrappingPred t.queuedRequestCount else t.queuedRequestCount
    runningRequestCount := t.runningRequestCount + 1 }

def joinPrefixCohort (slotIndex : Nat) : SlotTable :=
  let slot := t.slot slotIndex
  let joined := t.setSlot slotIndex
    { slot with
      state := .waitingPrefixCohort
      scheduledPrefillStepCount := slot.scheduledPrefillStepCount + 1 }
  { joined with
    queuedRequestCount := wrappingPred t.queuedRequestCount
    runningRequestCount := t.runningRequestCount + 1 }

/-- Every lane of a batch is counted out of the queue. -/
def startPrefillBatchLane (slotIndex committedTokenCount : Nat) : SlotTable :=
  let slot := t.slot slotIndex
  let started := t.setSlot slotIndex
    { dispatchWave slot committedTokenCount with state := .runningPrefill }
  { started with
    queuedRequestCount := wrappingPred t.queuedRequestCount
    runningRequestCount := t.runningRequestCount + 1 }

def startDecodeLane (slotIndex : Nat) : SlotTable :=
  let slot := discardMtpDraft (t.slot slotIndex)
  { t.setSlot slotIndex
      { slot with
        state := .runningDecode
        scheduledDecodeTokenCount := slot.scheduledDecodeTokenCount + 1 } with
    runningRequestCount := t.runningRequestCount + 1 }

def startVerifyLane (slotIndex draftTokenCount : Nat) : SlotTable :=
  let slot := t.slot slotIndex
  { t.setSlot slotIndex
      { slot with
        state := .runningSpeculativeVerify
        scheduledDecodeTokenCount := slot.scheduledDecodeTokenCount + draftTokenCount } with
    runningRequestCount := t.runningRequestCount + 1 }

/-! ### Prefills -/

/-- With reuse across sequences the scheduler finds the computed part in the cache. -/
def fillPrefillSchedulerRequest (runtime : Runtime E) (slot : Slot)
    (maxScheduledPromptTokenCount : Nat) : SchedulerRequest :=
  { activeSequenceCount := 1
    promptTokenCount := slot.promptTokenCount
    prefill := true
    computedPromptTokenCount :=
      if runtime.crossSequencePrefixReuseIsEnabled then 0
      else max slot.computedPromptTokenCount slot.dispatchedPromptTokenCount
    maxScheduledPromptTokenCount :=
      if maxScheduledPromptTokenCount ≠ 0 then maxScheduledPromptTokenCount
      else slot.maxPrefillTokensPerStep
    sequenceId := slot.sequenceId
    promptTokenIds := some slot.promptTokenIds }

variable (settings : RequestApiSettings)

/-- Whether a slot waits for the leader of a prefix cohort. -/
def mayJoinPrefixCohort (runtime : Runtime E)
    (leaderSlotIndex sharedPrefixTokenCount : Nat) (t : SlotTable) (slotIndex : Nat) : Bool :=
  let leader := t.slot leaderSlotIndex
  let candidate := t.slot slotIndex
  slotIndex ≠ leaderSlotIndex && candidate.state = .queuedPrefill &&
    runtime.slotCanSpeculate settings candidate == runtime.slotCanSpeculate settings leader &&
    sharedPrefixTokenCount ≤ sharedCachePrefixTokenCount runtime leader candidate

/-- Add a slot to a prefix cohort that has room. -/
def extendPrefixCohort (runtime : Runtime E)
    (leaderSlotIndex sharedPrefixTokenCount : Nat) (cohort : SlotTable × List DispatchLane)
    (slotIndex : Nat) : SlotTable × List DispatchLane :=
  if maxDispatchRequestCount ≤ cohort.2.length then cohort
  else if mayJoinPrefixCohort settings runtime leaderSlotIndex sharedPrefixTokenCount cohort.1
      slotIndex then
    (joinPrefixCohort cohort.1 slotIndex,
      cohort.2 ++ [dispatchLaneOf (cohort.1.slot slotIndex) slotIndex])
  else cohort

/-- The leader of a prefill with the slots that wait for it. -/
def startPrefixCohort (runtime : Runtime E)
    (slotIndex sharedPrefixTokenCount committedTokenCount : Nat) (t : SlotTable) :
    SlotTable × List DispatchLane :=
  let started := startPrefill t slotIndex committedTokenCount
  let leaderLane := dispatchLaneOf (started.slot slotIndex) slotIndex
  if sharedPrefixTokenCount = 0 then (started, [leaderLane])
  else
    (List.range started.slots.length).foldl
      (extendPrefixCohort settings runtime slotIndex sharedPrefixTokenCount)
      (started, [leaderLane])

/-- The shared prefix ends where the step ends. -/
def cohortPrefixTokenCount (decision : SchedulerDecision) (sharedPrefixTokenCount : Nat) : Nat :=
  min sharedPrefixTokenCount
    (min decision.cacheCommitTokenCountAfterStep slot.promptTokenCount.toNat)

def prefillDispatch (runtime : Runtime E) (leader : Slot)
    (decision : SchedulerDecision) (prefixTokenCount : Nat) (familySelected : Bool)
    (lanes : List DispatchLane) (dispatch : Dispatch) : Dispatch :=
  let blockTokenCount := runtime.prefixCacheBlockTokenCount
  { dispatch with
    accepted := true
    kind := .prefill
    lanes
    highestPriority := leader.priority
    sharedPrefixTokenCount := prefixTokenCount
    sharedPrefixBlockCount :=
      if blockTokenCount = 0 then dispatch.sharedPrefixBlockCount
      else prefixTokenCount / blockTokenCount
    prefixCacheParentHash := decision.prefixCacheParentHash
    prefixCacheResultHash := decision.prefixCacheResultHash
    prefillDecision := some decision
    flags :=
      { dispatch.flags with
        dsparkTapCapture :=
          dispatch.flags.dsparkTapCapture || runtime.slotCanSpeculate settings leader
        prefixCohort := dispatch.flags.prefixCohort || 1 < lanes.length
        prefixFamilySelected :=
          dispatch.flags.prefixFamilySelected || (1 < lanes.length && familySelected) } }

def acceptPrefill (slotIndex sharedPrefixTokenCount : Nat) (familySelected : Bool)
    (decision : SchedulerDecision) : ScheduleM E Unit :=
  modify fun s =>
    let settings := s.api.toRequestApiSettings
    let prefixTokenCount :=
      cohortPrefixTokenCount (s.api.table.slot slotIndex) decision sharedPrefixTokenCount
    let cohort := startPrefixCohort settings s.api.runtime slotIndex prefixTokenCount
      decision.cacheCommitTokenCountAfterStep s.api.table
    { api := { s.api with table := cohort.1 }
      dispatch := prefillDispatch settings s.api.runtime (cohort.1.slot slotIndex) decision
        prefixTokenCount familySelected cohort.2 s.dispatch }

def schedulePrefill (slotIndex selectedSharedPrefixTokenCount : Nat) : ScheduleM E Unit := do
  let api := (← get).api
  let settings := api.toRequestApiSettings
  let slots := api.table.slots
  let slot := api.table.slot slotIndex
  if reservePrefillResidentKvBlocks settings api.runtime slot
      (residentKvBlockCount slots api.runtime) = none then throw .busy
  else
    let sharedPrefixTokenCount :=
      if selectedSharedPrefixTokenCount ≠ 0 then selectedSharedPrefixTokenCount
      else findBestSharedPrefixTokenCount settings slots api.runtime slotIndex
    let reusablePrefixTokenCount ← onApiRuntime (probeReusablePrefixTokenCount slot)
    let resident ← onApiRuntime
      (prefillCachedBlocksAreResident settings slot slot.promptTokenCount.toNat)
    if resident = false then throw .busy
    else
      let request := fillPrefillSchedulerRequest api.runtime slot
        (sharedPrefixTokenCount - reusablePrefixTokenCount)
      let decision ← onApiRuntime (onScheduler (Scheduler.admitRequest request))
      if decision.accepted = false then
        modifyDispatch fun dispatch => { dispatch with prefillDecision := some decision }
      else
        acceptPrefill slotIndex sharedPrefixTokenCount
          (decide (selectedSharedPrefixTokenCount ≠ 0)) decision

/-! ### Prefill batches -/

/-- Add members to a prefill batch until it is full or nothing fits any more. -/
def selectPrefillBatchMembers (settings : RequestApiSettings) (slots : List Slot)
    (leaderSlotIndex leaderPrefillBlockCount : Nat) (requireResident : Bool) :
    Nat → Option (Nat × Nat) → List (Nat × Nat) → Nat → RuntimeM E (List (Nat × Nat))
  | rounds + 1, some member, selected, reservedBlockCount => do
      match reservePrefillResidentKvBlocks settings (← get) (slots.getD member.1 {})
          reservedBlockCount with
      | none => if selected = [] then throw .busy else return selected
      | some reservedBlockCount =>
        let selected := selected ++ [member]
        let next ← findBestPrefillBatchMember settings slots leaderSlotIndex leaderPrefillBlockCount
          (selected.map fun member => (slots.getD member.1 {}).handle) requireResident
        selectPrefillBatchMembers settings slots leaderSlotIndex leaderPrefillBlockCount
          requireResident rounds next selected reservedBlockCount
  | _, _, selected, _ => pure selected

variable (slots : List Slot)

/-- The members of a prefill batch with the tokens of their next steps. -/
def collectPrefillBatch (firstSlotIndex : Nat) : RuntimeM E (List (Nat × Nat)) := do
  let first := slots.getD firstSlotIndex {}
  if settings.prefillBatchingIsEnabled = false ∨ first.state ≠ .queuedPrefill then throw .notFound
  else if
      (← prefillCachedBlocksAreResident settings first first.promptTokenCount.toNat) = false then
    throw .busy
  else
    let (scheduledPromptTokenCount, _) ← nextPrefillStepTokenCount first
    let runtime ← get
    let blockCount := prefillBlockCountForScheduledTokens runtime scheduledPromptTokenCount
    if blockCount = 0 then throw .notFound
    else
      let batchTarget := min (currentPipelineBatchWidth settings slots runtime.scheduler)
        maxDispatchRequestCount
      let selected ← selectPrefillBatchMembers settings slots firstSlotIndex blockCount
        (first.hasRealtimePriority || settings.asyncJitPrefetchIsEnabled) batchTarget
        (some (firstSlotIndex, scheduledPromptTokenCount)) []
        (residentKvBlockCount slots runtime)
      if selected.length < 2 then throw .notFound else return selected

def startPrefillBatch (members : List (Nat × PrefillBatchLane)) : SlotTable × List DispatchLane :=
  members.foldl (fun started member =>
    (startPrefillBatchLane started.1 member.1 member.2.cacheCommitTokenCountAfterStep,
      started.2 ++ [dispatchLaneOf (started.1.slot member.1) member.1])) (t, [])

variable (firstSlotIndex : Nat)

def acceptPrefillBatch (selectedSlots : List Nat)
    (decision : PrefillBatchDecision) : ScheduleM E Unit :=
  modify fun s =>
    let started := startPrefillBatch s.api.table
      ((selectedSlots.take decision.packedRequestCount).zip decision.lanes)
    let first := started.1.slot firstSlotIndex
    { api := { s.api with table := started.1 }
      dispatch :=
        { s.dispatch with
          accepted := true
          kind := .prefillBatch
          lanes := started.2
          highestPriority := first.priority
          prefillBatchDecision := some decision
          flags :=
            { s.dispatch.flags with
              prefillBatch := true
              dsparkTapCapture := s.dispatch.flags.dsparkTapCapture ||
                s.api.runtime.slotCanSpeculate s.api.toRequestApiSettings first } } }

def schedulePrefillBatch : ScheduleM E Unit := do
  let api := (← get).api
  let settings := api.toRequestApiSettings
  let slots := api.table.slots
  let selected ← onApiRuntime (collectPrefillBatch settings slots firstSlotIndex)
  let selectedSlots := selected.map Prod.fst
  runSlotArrayCriticalJitKvPrefetch selectedSlots
  forM selectedSlots fun slotIndex => do
    let slot := slots.getD slotIndex {}
    if (← onApiRuntime (prefillCachedBlocksAreResident settings slot
        slot.promptTokenCount.toNat)) = false then refusePending
  let requests := selected.map fun member =>
    fillPrefillSchedulerRequest api.runtime (slots.getD member.1 {}) member.2
  let decision ← onApiRuntime (onScheduler (Scheduler.admitPrefillBatch requests))
  if decision.accepted = false then
    modifyDispatch fun dispatch => { dispatch with prefillBatchDecision := some decision }
  else acceptPrefillBatch firstSlotIndex selectedSlots decision

/-! ### Decode batches -/

/-- Admit the slots whose blocks fit the budget, and return them. -/
def admitDecodeBatchMembers (selectedSlots : List Nat) (contextExtension : Nat) :
    ScheduleM E (List Nat) := do
  let api := (← get).api
  let settings := api.toRequestApiSettings
  let slots := api.table.slots
  let selectedSlots ← liftExcept
    (applyActiveKvBlockBudget settings slots api.runtime selectedSlots contextExtension)
  forM selectedSlots fun slotIndex => do
    let _ ← onApiRuntime (ensureDecodeSlotKvCapacity (slots.getD slotIndex {}) contextExtension)
  runSlotArrayCriticalJitKvPrefetch selectedSlots
  forM selectedSlots fun slotIndex => do
    if (← onApiRuntime (decodeBlocksAreResident settings (slots.getD slotIndex {}))) = false then
      refusePending
  let decision ← onApiRuntime (onScheduler (Scheduler.admitDecodeBatch
    (selectedSlots.map fun _ => SchedulerRequest.decodeRequest 1)))
  modifyDispatch fun dispatch => { dispatch with decodeBatchDecision := some decision }
  return selectedSlots

/-- How many slots a decode batch may hold. -/
def decodeBatchWidth (scheduler : Scheduler) :
    Nat :=
  if settings.decodeBatchingIsEnabled then currentPipelineBatchWidth settings slots scheduler else 1

/-- Whether the slots that go with a leader must have their blocks on the device. -/
def requiresResidentMembers (leader : Slot) : Bool :=
  leader.hasRealtimePriority || !settings.jitPrefetchIsEnabled ||
    settings.asyncJitPrefetchIsEnabled

def startDecodeBatch (selectedSlots : List Nat) : SlotTable × List DispatchLane :=
  selectedSlots.foldl (fun started slotIndex =>
    (startDecodeLane started.1 slotIndex,
      started.2 ++ [{ dispatchLaneOf (started.1.slot slotIndex) slotIndex with
                      decodeCommittedTokenCount := 1 }])) (t, [])

def acceptDecodeBatch (selectedSlots : List Nat) (mtpDraftTokenBudget : Nat) : ScheduleM E Unit :=
  modify fun s =>
    let started := startDecodeBatch s.api.table selectedSlots
    let first := started.1.slot firstSlotIndex
    let commits := mtpDraftTokenBudget ≠ 0 ∧ selectedSlots.all fun slotIndex =>
      !(started.1.slot slotIndex).flags.disableSpeculation
    { api :=
        { s.api with
          table :=
            { started.1 with
              scheduledDecodeDispatchCount := started.1.scheduledDecodeDispatchCount + 1 } }
      dispatch :=
        { s.dispatch with
          accepted := true
          kind := .decodeBatch
          lanes := started.2
          highestPriority := first.priority
          mtpDraftTokenBudget :=
            if commits then mtpDraftTokenBudget else s.dispatch.mtpDraftTokenBudget
          flags :=
            { s.dispatch.flags with
              dsparkTapCapture := s.dispatch.flags.dsparkTapCapture ||
                s.api.runtime.slotCanSpeculate s.api.toRequestApiSettings first
              mtpCommit := s.dispatch.flags.mtpCommit || decide commits } } }

def scheduleDecodeBatch : ScheduleM E Unit := do
  let api := (← get).api
  let settings := api.toRequestApiSettings
  let slots := api.table.slots
  let selectedSlots ← onApiRuntime (collectDecodeBatchMembers settings slots firstSlotIndex
    (requiresResidentMembers settings (slots.getD firstSlotIndex {}))
    (decodeBatchWidth settings slots api.runtime.scheduler))
  let budget := decodeBatchMtpBudget settings slots (← get).api.runtime selectedSlots
  let selectedSlots ← admitDecodeBatchMembers selectedSlots budget
  let decision ← orFail .internalError (← get).dispatch.decodeBatchDecision
  if decision.accepted then
    acceptDecodeBatch firstSlotIndex (selectedSlots.take decision.packedRequestCount) budget

/-! ### Verifications -/

variable (source : SpeculativeSource)

variable (draft : DraftResult)

/-- The rows one lane of a verification takes. -/
def verifierRowCount : Nat :=
  match source with
  | .mtp => MtpTree.verifierRowCount
  | .drafter => draft.tokenCount + 1

/-- The tokens a verification may append to the context beyond the first. -/
def verifierContextExtension : Nat :=
  match source with
  | .mtp => MtpTree.contextExtension
  | .drafter => draft.tokenCount

/-- The head of the record of a verification. -/
def verifyDispatch (leader : Slot) (leaderCanSpeculate : Bool) (dispatch : Dispatch) : Dispatch :=
  let head :=
    { dispatch with
      lanes := []
      highestPriority := leader.priority
      speculativeTokenCount := draft.tokenCount
      speculativeVerifierTokenCount := verifierRowCount source draft }
  match source with
  | .mtp =>
    { head with
      mtpDraftTokenBudget := MtpTree.candidateCount
      speculativeMaxCommittedTokenCount := MtpTree.maxCommittedTokenCount
      flags :=
        { dispatch.flags with
          mtpSpeculativeVerify := true
          mtpTreeVerify := true
          dsparkTapCapture := dispatch.flags.dsparkTapCapture || leaderCanSpeculate } }
  | .drafter =>
    { head with
      speculativeMaxCommittedTokenCount := draft.tokenCount + 1
      flags :=
        { dispatch.flags with dsparkSpeculativeVerify := true, dsparkTapCapture := true } }

/-- The lane of a slot whose draft is verified. -/
def verifyLaneOf (slotIndex : Nat) (draft : DraftResult) : DispatchLane :=
  { dispatchLaneOf slot slotIndex with
    speculativeDraftTokenIds := draft.tokenIds.take draft.tokenCount ++
      List.replicate (maxSpeculativeTokens - draft.tokenCount) 0
    speculativeConfidenceMilli := draft.confidenceMilli.take draft.tokenCount ++
      List.replicate (maxSpeculativeTokens - draft.tokenCount) 0 }

/-- Start one lane; its draft must be like the leader's. -/
def startSpeculativeVerifyLane (draftTokenCount slotIndex : Nat) : ScheduleM E Unit := do
  let api := (← get).api
  let slot := api.table.slot slotIndex
  let (draft, draftSource) ← liftExcept
    (getSlotSpeculativeDraft api.toRequestApiSettings api.runtime slot (some source))
  if draftSource ≠ source ∨ draft.tokenCount ≠ draftTokenCount then throw .invalidArgument
  else
    modify fun s =>
      { api := { s.api with table := startVerifyLane s.api.table slotIndex draft.tokenCount }
        dispatch :=
          { s.dispatch with lanes := s.dispatch.lanes ++ [verifyLaneOf slot slotIndex draft] } }

def countVerifyDispatch (t : SlotTable) : SlotTable :=
  let counted := { t with scheduledDecodeDispatchCount := t.scheduledDecodeDispatchCount + 1 }
  match source with
  | .mtp => { counted with mtpVerifyDispatchCount := t.mtpVerifyDispatchCount + 1 }
  | .drafter => { counted with dsparkVerifyDispatchCount := t.dsparkVerifyDispatchCount + 1 }

def acceptSpeculativeVerifyBatch (selectedSlots : List Nat) : ScheduleM E Unit := do
  modifyDispatch fun dispatch =>
    { dispatch with accepted := true, kind := .speculativeVerifyBatch }
  if source = .mtp ∧ draft.tokenCount ≠ MtpTree.candidateCount then throw .moduleNotValidated
  else
    let api := (← get).api
    let first := api.table.slot firstSlotIndex
    modifyDispatch (verifyDispatch source draft first
      (api.runtime.slotCanSpeculate api.toRequestApiSettings first))
    forM selectedSlots (startSpeculativeVerifyLane source draft.tokenCount)
    onApi (modifyTable (countVerifyDispatch source))

/-- The source that is asked first. -/
def preferredSpeculativeSource (runtime : Runtime E) : Option SpeculativeSource :=
  if settings.configurationFlags.preferDsparkSpeculation && runtime.speculationIsEnabled settings
  then some .drafter else none

def scheduleSpeculativeVerifyBatch : ScheduleM E Unit := do
  let api := (← get).api
  let settings := api.toRequestApiSettings
  let slots := api.table.slots
  let first := api.table.slot firstSlotIndex
  let (draft, source) ← liftExcept (getSlotSpeculativeDraft settings api.runtime first
    (preferredSpeculativeSource settings api.runtime))
  if draft.tokenCount = 0 then throw .notFound
  else
    let rowLimitedTarget := settings.decodeExecutionRowCapacity / verifierRowCount source draft
    if rowLimitedTarget = 0 then throw .capacityExceeded
    else
      let batchTarget := min rowLimitedTarget
        (min maxDispatchRequestCount (decodeBatchWidth settings slots api.runtime.scheduler))
      let selectedSlots ← onApiRuntime (collectSpeculativeVerifyBatchMembers settings slots
        firstSlotIndex draft.tokenCount source (requiresResidentMembers settings first) batchTarget)
      let selectedSlots ←
        admitDecodeBatchMembers selectedSlots (verifierContextExtension source draft)
      let decision ← orFail .internalError (← get).dispatch.decodeBatchDecision
      if decision.accepted then
        acceptSpeculativeVerifyBatch firstSlotIndex source draft
          (selectedSlots.take decision.packedRequestCount)

/-! ### The entry point -/

/-- The slots that were found and the one that is served. -/
structure ReadyChoice where
  prefillSlot : Option Nat
  decodeSlot : Option Nat
  speculativeVerifySlot : Option Nat
  chosenSlot : Option Nat
  chosenIsPrefill : Bool
  selectedSharedPrefixTokenCount : Nat := 0

/-- The best prefill: the leader of the best family, if that beats the best single slot. -/
def findPrefill : ApiM E (Option Nat × Nat) := do
  let api ← get
  let prefillSlot ← onRuntime (findBestPrefillSlot api.toRequestApiSettings api.table.slots false)
  match ← buildBestPrefixFamilyChoice with
  | none => return (prefillSlot, 0)
  | some choice =>
    if prefixFamilyChoiceBeatsPrefillSlot (← get).table.slots choice prefillSlot then
      return (some choice.leaderSlot, choice.sharedPrefixTokenCount)
    else return (prefillSlot, 0)

/-- The best decode and the best verification. -/
def findDecodeAndVerify (requireResident : Bool) : ApiM E (Option Nat × Option Nat) := do
  let api ← get
  let settings := api.toRequestApiSettings
  let slots := api.table.slots
  let speculativeVerifySlot ← onRuntime (findBestSchedulableSlot settings slots
    Slot.isSchedulableSpeculativeVerify [] requireResident)
  let decodeSlot ← onRuntime
    (findBestSchedulableSlot settings slots Slot.isSchedulableDecode [] requireResident)
  return (decodeSlot, speculativeVerifySlot)

def chooseAmong (prefillSlot : Option Nat) (selectedSharedPrefixTokenCount : Nat)
    (decodeSlot speculativeVerifySlot : Option Nat) : ApiM E ReadyChoice := do
  let api ← get
  let (chosenSlot, chosenIsPrefill) ← onRuntime (chooseReadySlot api.toRequestApiSettings
    api.table.slots prefillSlot decodeSlot speculativeVerifySlot)
  return { prefillSlot, decodeSlot, speculativeVerifySlot, chosenSlot, chosenIsPrefill
           selectedSharedPrefixTokenCount }

/-- The first choice, which does not mind blocks that can be prefetched. -/
def chooseReady : ApiM E ReadyChoice := do
  let (prefillSlot, selectedSharedPrefixTokenCount) ← findPrefill
  let (decodeSlot, speculativeVerifySlot) ←
    findDecodeAndVerify (!(← get).toRequestApiSettings.jitPrefetchIsEnabled)
  if prefillSlot = none ∧ decodeSlot = none ∧ speculativeVerifySlot = none then throw .notFound
  else chooseAmong prefillSlot selectedSharedPrefixTokenCount decodeSlot speculativeVerifySlot

/-- The choice among slots whose blocks are on the device. -/
def chooseResident : ApiM E ReadyChoice := do
  let api ← get
  let prefillSlot ← onRuntime (findBestPrefillSlot api.toRequestApiSettings api.table.slots true)
  let (decodeSlot, speculativeVerifySlot) ← findDecodeAndVerify true
  chooseAmong prefillSlot 0 decodeSlot speculativeVerifySlot

/-- Poll the pending copies and protect what is likely to be next. -/
def prepareSchedule : ScheduleM E Unit := do
  let api := (← get).api
  let settings := api.toRequestApiSettings
  let slots := api.table.slots
  if settings.asyncJitPrefetchIsEnabled then
    onApiRuntime (pollPendingJitKvPrefetches settings slots)
    if api.runtime.asyncJitPrefetchCompletionCount <
        (← get).api.runtime.asyncJitPrefetchCompletionCount then
      raiseFlags fun flags => { flags with jitPrefetchedKv := true }
  onApiRuntime (refreshLookaheadPrefixProtections settings slots)

def prefetchChosen (chosenSlot : Option Nat) : ScheduleM E Unit :=
  match chosenSlot with
  | none => throw .notFound
  | some slotIndex => runSlotArrayCriticalJitKvPrefetch [slotIndex]

variable (choice : ReadyChoice)

/-- Bring the blocks of the chosen slot to the device, or serve another slot meanwhile. -/
def prefetchChoice : ScheduleM E ReadyChoice := do
  let settings := (← get).api.toRequestApiSettings
  match ← attempt (prefetchChosen choice.chosenSlot) with
  | .ok _ =>
    let api := (← get).api
    onApiRuntime (runOpportunisticJitKvPrefetch settings api.table.slots choice.chosenSlot)
    return choice
  | .error .busy =>
    if settings.asyncJitPrefetchIsEnabled then
      let flags := (← get).dispatch.flags
      let choice ← onApi chooseResident
      if choice.chosenSlot = none then throw .busy
      else
        initializeDispatch { flags with jitPrefetchPending := true }
        prefetchChosen choice.chosenSlot
        return choice
    else throw .busy
  | .error status => throw status

/-- Try a prefill batch; whether it was accepted. -/
def tryPrefillBatch (prefillSlot : Nat) : ScheduleM E Bool := do
  match ← attempt (schedulePrefillBatch prefillSlot) with
  | .ok _ => return (← get).dispatch.accepted
  | .error .busy => return false
  | .error .notFound => return false
  | .error status => throw status

/-- A prefill that preempts the queue says so. -/
def prefillPreempts (choice : ReadyChoice) (prefillSlot : Slot) : Bool :=
  (choice.decodeSlot.any fun slotIndex =>
    prefillSlot.hasHigherSchedulingPriorityThan (slots.getD slotIndex {})) ||
    olderLowerPrioritySchedulableSlotExists slots prefillSlot

/-- Serve a prefill; the result says whether the call is over. -/
def servePrefill (prefillSlot : Nat) : ScheduleM E Bool := do
  let api := (← get).api
  let settings := api.toRequestApiSettings
  let slots := api.table.slots
  let slot := slots.getD prefillSlot {}
  if prefillPreempts slots choice slot then
    raiseFlags fun flags => { flags with priorityPreemptedQueue := true }
  let sharedPrefixTokenCount :=
    if choice.selectedSharedPrefixTokenCount ≠ 0 then choice.selectedSharedPrefixTokenCount
    else findBestSharedPrefixTokenCount settings slots api.runtime prefillSlot
  let reusablePrefixTokenCount ← onApiRuntime (probeReusablePrefixTokenCount slot)
  let batched ←
    if sharedPrefixTokenCount ≤ reusablePrefixTokenCount then tryPrefillBatch prefillSlot
    else pure false
  if batched then return true
  else
    let status ← attempt (schedulePrefill prefillSlot choice.selectedSharedPrefixTokenCount)
    match status with
    | .ok _ => if (← get).dispatch.accepted then return true else decodeInstead choice (pure ())
    | .error .busy => decodeInstead choice (throw .busy)
    | .error status => throw status
where
  /-- Without a decode to serve, the outcome of the prefill is the outcome of the call. -/
  decodeInstead (choice : ReadyChoice) (outcome : ScheduleM E Unit) : ScheduleM E Bool := do
    if choice.decodeSlot = none ∧ choice.speculativeVerifySlot = none then
      outcome
      return true
    else
      initializeDispatch { jitPrefetchPending := (← get).dispatch.flags.jitPrefetchPending }
      return false

/-- The blocks of a slot that is to be decoded must be on the device. -/
def checkDecodeSlot (slotIndex : Nat) : ScheduleM E Unit := do
  let api := (← get).api
  let slot := api.table.slot slotIndex
  if (← onApiRuntime (decodeBlocksAreResident api.toRequestApiSettings slot)) = false then
    refusePending
  else if olderLowerPrioritySchedulableSlotExists api.table.slots slot then
    raiseFlags fun flags => { flags with priorityPreemptedQueue := true }

def serveDecode (chosenSlot : Option Nat) : ScheduleM E Unit := do
  match choice.speculativeVerifySlot with
  | some slotIndex =>
    if chosenSlot = some slotIndex then
      checkDecodeSlot slotIndex
      scheduleSpeculativeVerifyBatch slotIndex
    else serveDecodeSlot
  | none => serveDecodeSlot
where
  serveDecodeSlot : ScheduleM E Unit := do
    let slotIndex ← orFail .invalidArgument choice.decodeSlot
    checkDecodeSlot slotIndex
    scheduleDecodeBatch slotIndex

def serveChoice : ScheduleM E Unit := do
  if choice.chosenIsPrefill then
    let prefillSlot ← orFail .internalError choice.prefillSlot
    if ← servePrefill choice prefillSlot then pure ()
    else serveDecode choice (choice.decodeSlot <|> choice.speculativeVerifySlot)
  else serveDecode choice choice.chosenSlot

def scheduleNext : ScheduleM E Unit := do
  onApi validate
  initializeDispatch {}
  prepareSchedule
  let choice ← onApi chooseReady
  let choice ← prefetchChoice choice
  serveChoice choice

end SparkPipe.RequestApi
