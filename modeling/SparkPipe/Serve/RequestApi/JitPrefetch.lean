import SparkPipe.Serve.RequestApi.Planning

/-!
# Just-in-time prefetch

Before a dispatch runs, the blocks it reads must be resident. The request API collects the
blocks of the slots concerned, asks the backend to copy those that are not resident, marks them
resident and trims the residents down to the budget, sparing the blocks of running slots. With
asynchronous prefetch a copy is started and polled by later calls.
-/

open Program

namespace SparkPipe.RequestApi

variable {E : Seams} (settings : RequestApiSettings) (slots : List Slot)

/-! ### Collecting blocks -/

def collectPhysicalBlockIndex (indices : List Nat) (physicalBlockIndex : Nat) : List Nat :=
  if indices.contains physicalBlockIndex ∨ maxPrefetchSourceBlockCount ≤ indices.length then indices
  else indices ++ [physicalBlockIndex]

variable (sourceBlocks : List PrefetchSourceBlock)

def collectPrefetchSourceBlock (sourceBlock : PrefetchSourceBlock) : List PrefetchSourceBlock :=
  let duplicate := sourceBlocks.any fun existing =>
    existing.physicalBlockIndex == sourceBlock.physicalBlockIndex &&
      existing.blockHash == sourceBlock.blockHash &&
      existing.contentHash == sourceBlock.contentHash
  if duplicate ∨ maxPrefetchSourceBlockCount ≤ sourceBlocks.length then sourceBlocks
  else sourceBlocks ++ [sourceBlock]

variable (slot : Slot)

def collectPrefillSlotBlocks (indices : List Nat) : RuntimeM E (List Nat) := do
  let probe ← onPrefixCache
    (PrefixCache.probePhysicalBlockTable slot.promptTokenIds maxPrefetchSourceBlockCount)
  return probe.2.foldl collectPhysicalBlockIndex indices

def collectDecodeSlotBlocks (indices : List Nat) : RuntimeM E (List Nat) := do
  let required ← ensurePendingDecodeSlotKvCapacity settings slot
  let table ← onPrefixCache (PrefixCache.buildPhysicalBlockTable slot.sequenceId required)
  return table.foldl collectPhysicalBlockIndex indices

/-- Whether a slot that is not waiting for a prefill step has blocks to keep. -/
def holdsDecodeBlocks : Bool :=
  (slot.isSchedulableDecode || slot.isSchedulableSpeculativeVerify ||
    slot.state = .runningDecode || slot.state = .runningSpeculativeVerify ||
    slot.state = .runningPrefill || slot.state = .waitingPrefixCohort) &&
    slot.computedPromptTokenCount ≠ 0

def collectProtectedSlotBlocks (indices : List Nat) : RuntimeM E (List Nat) :=
  if slot.isSchedulablePrefill then collectPrefillSlotBlocks slot indices
  else if holdsDecodeBlocks slot then collectDecodeSlotBlocks settings slot indices
  else pure indices

/-- A slot without blocks is passed over. -/
def collectIfFound (indices : List Nat) : RuntimeM E (List Nat) := do
  match ← attempt (collectProtectedSlotBlocks settings slot indices) with
  | .ok indices => return indices
  | .error .notFound => return indices
  | .error status => throw status

def collectRunningProtectedBlocks (indices : List Nat) : RuntimeM E (List Nat) :=
  slots.foldlM (fun indices slot =>
    if maxPrefetchSourceBlockCount ≤ indices.length ∨
        (slot.state ≠ .runningPrefill ∧ slot.state ≠ .runningDecode ∧
          slot.state ≠ .waitingPrefixCohort) then pure indices
    else collectIfFound settings slot indices) indices

def collectPrefillSlotPrefetchSources (sourceBlocks : List PrefetchSourceBlock) :
    RuntimeM E (List PrefetchSourceBlock) := do
  let probe ← onPrefixCache (PrefixCache.probeReusablePrefixPrefetchSources slot.promptTokenIds
    maxPrefetchSourceBlockCount)
  return probe.2.foldl collectPrefetchSourceBlock sourceBlocks

def collectDecodeSlotPrefetchSources (sourceBlocks : List PrefetchSourceBlock) :
    RuntimeM E (List PrefetchSourceBlock) := do
  let required ← ensurePendingDecodeSlotKvCapacity settings slot
  let sources ← onPrefixCache (PrefixCache.buildSequencePrefetchSources slot.sequenceId required)
  return sources.foldl collectPrefetchSourceBlock sourceBlocks

/-! ### Lookahead -/

/-- Keeps the better of the best slot so far and a candidate. -/
def betterSlot (best : Option Nat) (slotIndex : Nat) : Option Nat :=
  match best with
  | none => some slotIndex
  | some bestIndex =>
    if (slots.getD slotIndex {}).hasHigherSchedulingPriorityThan (slots.getD bestIndex {}) then
      some slotIndex
    else best

def findBestPrefetchLookaheadSlot (selectedHandles : List Nat) : Option Nat :=
  (List.range slots.length).foldl (fun best slotIndex =>
    let slot := slots.getD slotIndex {}
    if (slot.isSchedulablePrefill || slot.isSchedulableDecode ||
        slot.isSchedulableSpeculativeVerify) && !selectedHandles.contains slot.handle then
      betterSlot slots best slotIndex
    else best) none

/-- Protects the prompts of the best slots, one after the other. -/
def protectLookaheadSlots : Nat → List Nat → RuntimeM E Unit
  | 0, _ => pure ()
  | rounds + 1, selectedHandles =>
    if maxPrefetchSourceBlockCount ≤ selectedHandles.length then pure ()
    else
      match findBestPrefetchLookaheadSlot slots selectedHandles with
      | none => pure ()
      | some slotIndex => do
          let slot := slots.getD slotIndex {}
          if slot.promptTokenIds ≠ [] then
            let _ ← onPrefixCache
              (PrefixCache.protectPromptLookahead slot.promptTokenIds slot.priority)
          protectLookaheadSlots rounds (selectedHandles ++ [slot.handle])

def refreshLookaheadPrefixProtections : RuntimeM E Unit := do
  if settings.queueAwarePrefixCacheEvictionIsEnabled then
    onPrefixCache PrefixCache.resetLookaheadProtection
    protectLookaheadSlots slots settings.prefetchLookaheadRequestCount []

/-! ### Residency -/

/-- Trims the residents, sparing a plan, given blocks, pending copies and running slots. -/
def applyJitKvResidencyPolicy (protectedPlan : Option PrefetchPlan)
    (additionalProtectedBlocks : List Nat) : RuntimeM E Unit := do
  let runtime ← get
  if settings.jitPrefetchIsEnabled && settings.maxResidentKvBlockCount ≠ 0 &&
      runtime.scheduler.prefixCache.isSome then
    let planned := (protectedPlan.elim [] PrefetchPlan.blocks).map PrefetchBlock.physicalBlockIndex
    let pending := (runtime.pendingPrefetches.filter PendingPrefetch.active).flatMap fun pending =>
      pending.prefetchPlan.blocks.map PrefetchBlock.physicalBlockIndex
    let collected :=
      (planned ++ additionalProtectedBlocks ++ pending).foldl collectPhysicalBlockIndex []
    let protectedBlocks ← collectRunningProtectedBlocks settings slots collected
    let _ ← onPrefixCache (PrefixCache.trimResidentBlocksByReuseScore
      settings.maxResidentKvBlockCount protectedBlocks)

variable (runtime : Runtime E)

def prefetchBlockIsResident (block : PrefetchBlock) : Bool :=
  runtime.crossSequencePrefixReuseIsEnabled &&
    runtime.scheduler.prefixCache.any fun cache =>
      block.physicalBlockIndex < cache.arena.physicalBlockCount &&
        cache.arena.isAllocated block.physicalBlockIndex &&
        cache.arena.isResident block.physicalBlockIndex &&
        cache.arena.generation block.physicalBlockIndex == block.generation

def prefetchPlanIsResident (plan : PrefetchPlan) : Bool :=
  plan.blocks.all (prefetchBlockIsResident runtime)

def pendingPrefetchesCoverPlan (plan : PrefetchPlan) : Bool :=
  plan.blocks.all fun block =>
    prefetchBlockIsResident runtime block ||
      runtime.pendingPrefetches.any fun pending =>
        pending.active && pending.prefetchPlan.blocks.any fun pendingBlock =>
          pendingBlock.physicalBlockIndex == block.physicalBlockIndex &&
            pendingBlock.generation == block.generation

/-! ### Copying -/

def setPendingPrefetch (pendingIndex : Nat) (pending : PendingPrefetch) : RuntimeM E Unit :=
  modify fun runtime =>
    { runtime with pendingPrefetches := runtime.pendingPrefetches.set pendingIndex pending }

/-- Poll one copy. A copy that is over leaves its place, whatever its outcome. -/
def pollOnePendingPrefetch (pendingIndex : Nat) : RuntimeM E Unit := do
  let pending := (← get).pendingPrefetches.getD pendingIndex {}
  if pending.active = false then throw .invalidArgument
  else
    let status ← onBackend
      (attempt (E.kvPrefetch.pollPrefetch pending.prefetchId pending.prefetchPlan))
    setPendingPrefetch pendingIndex { pending with pollCount := pending.pollCount + 1 }
    match status with
    | .error .busy => throw .busy
    | .error status =>
      setPendingPrefetch pendingIndex {}
      throw status
    | .ok _ =>
      onError (do
          onPrefixCacheArena (markPrefetchPlanResident settings.arenaResidentBlockCapacity
            pending.prefetchPlan)
          applyJitKvResidencyPolicy settings slots (some pending.prefetchPlan) [])
        (setPendingPrefetch pendingIndex {})
      modify fun runtime =>
        { runtime with
          asyncJitPrefetchCompletionCount := runtime.asyncJitPrefetchCompletionCount + 1 }
      setPendingPrefetch pendingIndex {}

def pollPendingJitKvPrefetches : RuntimeM E Unit := do
  forM (List.range (← get).pendingPrefetches.length) fun pendingIndex => do
    if ((← get).pendingPrefetches.getD pendingIndex {}).active then
      match ← attempt (pollOnePendingPrefetch settings slots pendingIndex) with
      | .ok _ => pure ()
      | .error .busy => pure ()
      | .error status => throw status

variable (plan : PrefetchPlan)

def startAsyncJitKvPrefetch : RuntimeM E Unit := do
  let runtime ← get
  let pendingIndex ← orFail .busy
    (runtime.pendingPrefetches.findIdx? fun pending => !pending.active)
  let prefetchId := runtime.nextPrefetchId
  let nextPrefetchId := (prefetchId + 1) % 2 ^ 64
  set { runtime with nextPrefetchId := if nextPrefetchId = 0 then 1 else nextPrefetchId }
  onBackend (E.kvPrefetch.startPrefetch prefetchId plan)
  setPendingPrefetch pendingIndex { active := true, prefetchId, prefetchPlan := plan }
  pollOnePendingPrefetch settings slots pendingIndex

variable (protectedBlocks : List Nat)

def dispatchAsyncJitKvPrefetch : RuntimeM E Unit := do
  if plan.prefetchBlockCount = 0 ∨ prefetchPlanIsResident (← get) plan then
    applyJitKvResidencyPolicy settings slots (some plan) protectedBlocks
  else
    pollPendingJitKvPrefetches settings slots
    let runtime ← get
    if prefetchPlanIsResident runtime plan then
      applyJitKvResidencyPolicy settings slots (some plan) protectedBlocks
    else if pendingPrefetchesCoverPlan runtime plan then throw .busy
    else startAsyncJitKvPrefetch settings slots plan

def dispatchJitKvPrefetchWithProtectedBlocks : RuntimeM E Unit := do
  if settings.jitPrefetchIsEnabled = false then pure ()
  else if settings.asyncJitPrefetchIsEnabled then
    dispatchAsyncJitKvPrefetch settings slots plan protectedBlocks
  else
    if plan.prefetchBlockCount ≠ 0 then
      onBackend (E.kvPrefetch.prefetch plan)
      onPrefixCacheArena (markPrefetchPlanResidentWithProtectedBlocks
        settings.arenaResidentBlockCapacity plan protectedBlocks)
    applyJitKvResidencyPolicy settings slots (some plan) protectedBlocks

/-! ### Plans -/

def planCollectedBlocks : RuntimeM E PrefetchPlan := do
  let cache ← orFail .invalidArgument (← get).scheduler.prefixCache
  liftExcept (buildPrefetchPlanFromSourceBlocks cache.arena sourceBlocks
    (prefetchFlagsOf cache.arena) settings.prefetchLaneCount)

/-- The sources of one selected slot, which must be schedulable. -/
def collectSelectedSlotSources (slotIndex : Nat) : RuntimeM E (List PrefetchSourceBlock) :=
  let slot := slots.getD slotIndex {}
  if maxPrefetchSourceBlockCount ≤ sourceBlocks.length then pure sourceBlocks
  else if slot.isSchedulablePrefill then collectPrefillSlotPrefetchSources slot sourceBlocks
  else if slot.isSchedulableDecode || slot.isSchedulableSpeculativeVerify then
    collectDecodeSlotPrefetchSources settings slot sourceBlocks
  else throw .invalidArgument

def buildSlotArrayJitKvPrefetchPlan (selectedSlots : List Nat) : RuntimeM E PrefetchPlan := do
  if selectedSlots = [] then throw .invalidArgument
  else if settings.jitPrefetchIsEnabled = false then return {}
  else
    let sourceBlocks ← selectedSlots.foldlM (collectSelectedSlotSources settings slots) []
    planCollectedBlocks settings sourceBlocks

/-- The sources of the best slots, one after the other. -/
def collectLookaheadSources :
    Nat → List Nat → List PrefetchSourceBlock → RuntimeM E (List PrefetchSourceBlock)
  | 0, _, sourceBlocks => pure sourceBlocks
  | rounds + 1, selectedHandles, sourceBlocks =>
    if maxPrefetchSourceBlockCount ≤ selectedHandles.length then pure sourceBlocks
    else
      match findBestPrefetchLookaheadSlot slots selectedHandles with
      | none => pure sourceBlocks
      | some slotIndex => do
          let slot := slots.getD slotIndex {}
          let sourceBlocks ←
            if slot.isSchedulablePrefill then collectPrefillSlotPrefetchSources slot sourceBlocks
            else collectDecodeSlotPrefetchSources settings slot sourceBlocks
          if maxPrefetchSourceBlockCount ≤ sourceBlocks.length then pure sourceBlocks
          else collectLookaheadSources rounds (selectedHandles ++ [slot.handle]) sourceBlocks

def buildJitKvPrefetchPlan : RuntimeM E PrefetchPlan := do
  if settings.jitPrefetchIsEnabled = false then
    let cache ← orFail .invalidArgument (← get).scheduler.prefixCache
    liftExcept (buildPrefetchPlan cache.arena [] settings.prefetchLaneCount)
  else
    let sourceBlocks ← collectLookaheadSources settings slots
      settings.prefetchLookaheadRequestCount [] []
    planCollectedBlocks settings sourceBlocks

def prefetchPlanFitsResidentLimit : Bool :=
  settings.maxResidentKvBlockCount = 0 ||
    ((protectedBlocks ++ plan.blocks.map PrefetchBlock.physicalBlockIndex).foldl
      collectPhysicalBlockIndex []).length ≤ settings.maxResidentKvBlockCount

def runOpportunisticJitKvPrefetch (protectedSlot : Option Nat) : RuntimeM E Unit := do
  if settings.jitPrefetchIsEnabled then
    let protectedBlocks ←
      match protectedSlot with
      | none => pure []
      | some slotIndex => collectIfFound settings (slots.getD slotIndex {}) []
    let plan ← buildJitKvPrefetchPlan settings slots
    if prefetchPlanFitsResidentLimit settings plan protectedBlocks = false then
      applyJitKvResidencyPolicy settings slots none protectedBlocks
    else
      match ← attempt (dispatchJitKvPrefetchWithProtectedBlocks settings slots plan
          protectedBlocks) with
      | .ok _ => pure ()
      | .error .busy => applyJitKvResidencyPolicy settings slots none protectedBlocks
      | .error .capacityExceeded => applyJitKvResidencyPolicy settings slots none protectedBlocks
      | .error status => throw status

end SparkPipe.RequestApi
