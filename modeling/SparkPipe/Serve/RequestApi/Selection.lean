import SparkPipe.Serve.RequestApi.JitPrefetch

/-!
# Selection of slots

Which slot is served next, and which slots go with it: the best shape of a prefill batch, the
family of prompts whose common prefix saves the most work, the members of a decode batch, and
the choice between a prefill, a decode and a verification.
-/

open Program

namespace SparkPipe.RequestApi

variable {E : Seams} (settings : RequestApiSettings) (slots : List Slot)

/-! ### Prefix families -/

structure PrefixFamilyChoice where
  leaderSlot : Nat
  sharedPrefixTokenCount : Nat
  realtimePriority : Bool
  savedPromptTokenCount : Nat

structure PrefixFamilyGroup where
  prefixHash : Nat
  sharedPrefixTokenCount : Nat
  requestCount : Nat := 0
  cappedRequestCount : Nat := 0
  realtimePriority : Bool := false
  highestPriority : Nat
  earliestSubmissionOrder : Nat := 2 ^ 64 - 1
  leaderSlot : Option Nat := none

def prefixFamilySavedTokenCount (sharedPrefixTokenCount requestCount : Nat) : Nat :=
  if sharedPrefixTokenCount = 0 ∨ requestCount < 2 then 0
  else sharedPrefixTokenCount * (requestCount - 1)

variable (group : PrefixFamilyGroup)

def PrefixFamilyGroup.savedTokenCount : Nat :=
  prefixFamilySavedTokenCount group.sharedPrefixTokenCount group.cappedRequestCount

def prefixFamilyGroupIsBetter (candidate : PrefixFamilyGroup)
    (current : Option PrefixFamilyGroup) : Bool :=
  if candidate.cappedRequestCount < 2 then false
  else
    match current with
    | none => true
    | some current =>
      if current.cappedRequestCount < 2 then true
      else if candidate.highestPriority ≠ current.highestPriority then
        current.highestPriority < candidate.highestPriority
      else if candidate.realtimePriority ≠ current.realtimePriority then
        candidate.realtimePriority
      else if candidate.savedTokenCount ≠ current.savedTokenCount then
        current.savedTokenCount < candidate.savedTokenCount
      else if candidate.cappedRequestCount ≠ current.cappedRequestCount then
        current.cappedRequestCount < candidate.cappedRequestCount
      else if candidate.sharedPrefixTokenCount ≠ current.sharedPrefixTokenCount then
        current.sharedPrefixTokenCount < candidate.sharedPrefixTokenCount
      else candidate.earliestSubmissionOrder < current.earliestSubmissionOrder

def prefixFamilyLeaderIsBetter (candidate : Slot) (current : Option Slot) : Bool :=
  match current with
  | none => true
  | some current =>
    if candidate.priority ≠ current.priority then current.priority < candidate.priority
    else candidate.submissionOrder < current.submissionOrder

variable (groups : List PrefixFamilyGroup)

def findPrefixFamilyGroup (prefixHash sharedPrefixTokenCount priority : Nat) : Option Nat :=
  groups.findIdx? fun group =>
    group.prefixHash == prefixHash && group.sharedPrefixTokenCount == sharedPrefixTokenCount &&
      group.highestPriority == priority

/-- The groups with the wanted one, and its place; there is a limit to their number. -/
def acquirePrefixFamilyGroup (prefixHash sharedPrefixTokenCount priority : Nat) :
    Option (List PrefixFamilyGroup × Nat) :=
  match findPrefixFamilyGroup groups prefixHash sharedPrefixTokenCount priority with
  | some groupIndex => some (groups, groupIndex)
  | none =>
    if prefixFamilyGroupCapacity ≤ groups.length then none
    else
      some (groups ++ [{ prefixHash, sharedPrefixTokenCount, highestPriority := priority }],
        groups.length)

def addSlotToPrefixFamilyGroup (slotIndex : Nat) (slot : Slot) :
    PrefixFamilyGroup :=
  { group with
    requestCount := group.requestCount + 1
    cappedRequestCount :=
      if group.cappedRequestCount < maxDispatchRequestCount then group.cappedRequestCount + 1
      else group.cappedRequestCount
    highestPriority := max group.highestPriority slot.priority
    realtimePriority := group.realtimePriority || slot.hasRealtimePriority
    earliestSubmissionOrder := min group.earliestSubmissionOrder slot.submissionOrder
    leaderSlot :=
      if prefixFamilyLeaderIsBetter slot (group.leaderSlot.map fun leader => slots.getD leader {})
      then some slotIndex else group.leaderSlot }

/-- Hash whole blocks of a prompt until enough tokens are hashed. -/
def hashPromptBlocks (promptTokenIds : List Nat) (blockTokenCount neededTokenCount : Nat) :
    Nat → Nat → Nat → Except RequestApiError (Nat × Nat)
  | 0, hashedTokenCount, hash => .ok (hashedTokenCount, hash)
  | rounds + 1, hashedTokenCount, hash =>
    if hashedTokenCount < neededTokenCount then
      match hashPromptTokens blockTokenCount hash
          ((promptTokenIds.drop hashedTokenCount).take blockTokenCount) with
      | .ok blockHash =>
        hashPromptBlocks promptTokenIds blockTokenCount neededTokenCount rounds
          (hashedTokenCount + blockTokenCount) blockHash.promptHash
      | .error status => .error (.ofPrefixCache status)
    else .ok (hashedTokenCount, hash)

/-- The slot with the hash of a prefix, continued from the prefix that was hashed before. -/
def extendPrefixScanHash (slot : Slot) (blockTokenCount neededTokenCount : Nat) :
    Except RequestApiError Slot := do
  let restart := slot.prefixScanHashedTokenCount = 0 ∨
    neededTokenCount < slot.prefixScanHashedTokenCount ∨
    slot.prefixScanHashedTokenCount % blockTokenCount ≠ 0
  let (hashedTokenCount, hash) ←
    if restart then
      hashPromptBlocks slot.promptTokenIds blockTokenCount neededTokenCount neededTokenCount 0
        emptyParentHash
    else
      hashPromptBlocks slot.promptTokenIds blockTokenCount neededTokenCount neededTokenCount
        slot.prefixScanHashedTokenCount slot.prefixScanHash
  return { slot with prefixScanHashedTokenCount := hashedTokenCount, prefixScanHash := hash }

/-- Enter a slot into the group of each of its block prefixes up to a length. -/
def scanSlotPrefixes (blockTokenCount maximumPrefixTokenCount slotIndex : Nat) :
    Nat → Nat → List PrefixFamilyGroup × Slot → List PrefixFamilyGroup × Slot
  | 0, _, scan => scan
  | rounds + 1, prefixTokenCount, (groups, slot) =>
    if maximumPrefixTokenCount < prefixTokenCount then (groups, slot)
    else
      match extendPrefixScanHash slot blockTokenCount prefixTokenCount with
      | .error _ => (groups, slot)
      | .ok slot =>
        let groups :=
          match acquirePrefixFamilyGroup groups slot.prefixScanHash prefixTokenCount
              slot.priority with
          | none => groups
          | some (groups, groupIndex) =>
            groups.modify groupIndex (addSlotToPrefixFamilyGroup slots · slotIndex slot)
        scanSlotPrefixes blockTokenCount maximumPrefixTokenCount slotIndex rounds
          (prefixTokenCount + blockTokenCount) (groups, slot)

/-- Scan one slot: the next step of its prompt bounds the prefixes that are entered. -/
def scanFamilySlot (slotIndex : Nat) : ApiM E (List PrefixFamilyGroup) := do
  let api ← get
  let slot := api.table.slot slotIndex
  if slot.isSchedulablePrefill = false ∨ slot.promptTokenIds = [] then return groups
  else
    let (scheduled, reusable) ← onRuntime (nextPrefillStepTokenCount slot)
    if scheduled = 0 then return groups
    else
      let blockTokenCount := api.runtime.prefixCacheBlockTokenCount
      let maximum :=
        roundDownToMultiple (min (reusable + scheduled) slot.promptTokenCount.toNat) blockTokenCount
      let start := roundDownToMultiple (reusable + blockTokenCount) blockTokenCount
      let start := if start ≤ reusable then start + blockTokenCount else start
      let (groups, slot) := scanSlotPrefixes api.table.slots blockTokenCount maximum slotIndex
        (maximum + 1) start (groups, slot)
      modifyTable (·.setSlot slotIndex slot)
      return groups

def choiceOfGroup : Option PrefixFamilyChoice :=
  match group.leaderSlot with
  | none => none
  | some leaderSlot =>
    if group.cappedRequestCount < 2 ∨ group.savedTokenCount = 0 then none
    else
      some {
        leaderSlot
        sharedPrefixTokenCount := group.sharedPrefixTokenCount
        realtimePriority := group.realtimePriority
        savedPromptTokenCount := group.savedTokenCount }

def buildBestPrefixFamilyChoice : ApiM E (Option PrefixFamilyChoice) := do
  let api ← get
  if api.prefixCohortingIsEnabled = false ∨ api.runtime.scheduler.prefixCache = none ∨
      api.runtime.prefixCacheBlockTokenCount = 0 then return none
  else
    let groups ← (List.range api.requestCapacity).foldlM scanFamilySlot []
    return (groups.foldl (fun best group =>
      if prefixFamilyGroupIsBetter group best then some group else best) none).bind choiceOfGroup

def prefixFamilyChoiceBeatsPrefillSlot (choice : PrefixFamilyChoice) (slotIndex : Option Nat) :
    Bool :=
  match slotIndex with
  | none => choice.savedPromptTokenCount ≠ 0
  | some slotIndex =>
    let slot := slots.getD slotIndex {}
    let leader := slots.getD choice.leaderSlot {}
    if choice.savedPromptTokenCount = 0 then false
    else if leader.priority ≠ slot.priority then slot.priority < leader.priority
    else if choice.realtimePriority ≠ slot.hasRealtimePriority then choice.realtimePriority
    else true

/-! ### Prefill batches -/

structure PrefillBatchShape where
  slot : Nat
  scheduledPromptTokenCount : Nat
  residentCachedBlocks : Bool
  realtimePriority : Bool
  compatibleRequestCount : Nat
  graphPaddingCount : Nat

/-- The smallest bucket that holds so many sequences, or zero. -/
def batchBucketCapacityForSequenceCount (activeSequenceCount : Nat) : Nat :=
  (StagePlan.batchBuckets.find? fun bucket => activeSequenceCount ≤ bucket).getD 0

/-- The tokens of the next step of a candidate that may go with the leader. -/
def slotIsCompatiblePrefillBatchMember (leaderSlotIndex candidateSlotIndex : Nat)
    (leaderPrefillBlockCount : Nat) (requireResidentCachedBlocks : Bool) :
    RuntimeM E (Option Nat) := do
  let runtime ← get
  let leader := slots.getD leaderSlotIndex {}
  let candidate := slots.getD candidateSlotIndex {}
  if candidateSlotIndex = leaderSlotIndex ∨ candidate.isSchedulablePrefill = false ∨
      runtime.slotCanSpeculate settings candidate ≠ runtime.slotCanSpeculate settings leader then
    return none
  else
    let resident ←
      if requireResidentCachedBlocks = true ∨ candidate.priority < leader.priority then
        prefillCachedBlocksAreResident settings candidate candidate.promptTokenCount.toNat
      else pure true
    if resident = false then return none
    else
      let (scheduled, _) ← nextPrefillStepTokenCount candidate
      let blockCount := prefillBlockCountForScheduledTokens (← get) scheduled
      if blockCount = 0 ∨ blockCount ≠ leaderPrefillBlockCount then return none
      else return some scheduled

/-- Counts the slots that could go with a leader, up to the target. -/
def countCompatiblePrefillMembers (slotIndex leaderPrefillBlockCount batchTarget : Nat) :
    RuntimeM E Nat :=
  (List.range slots.length).foldlM (fun count candidateIndex => do
    if batchTarget ≤ count then return count
    else
      match ← slotIsCompatiblePrefillBatchMember settings slots slotIndex candidateIndex
          leaderPrefillBlockCount true with
      | some _ => return count + 1
      | none => return count) 1

def evaluatePrefillBatchShape (slotIndex : Nat) (requireResidentCachedBlocks : Bool) :
    RuntimeM E (Option PrefillBatchShape) := do
  let slot := slots.getD slotIndex {}
  let promptTokenCount := slot.promptTokenCount.toNat
  if slot.isSchedulablePrefill = false then return none
  else
    let admissible ←
      if requireResidentCachedBlocks then
        prefillCachedBlocksAreResident settings slot promptTokenCount
      else pure true
    if admissible = false then return none
    else
      let (scheduledPromptTokenCount, _) ← nextPrefillStepTokenCount slot
      if scheduledPromptTokenCount = 0 then return none
      else
        let residentCachedBlocks ← prefillCachedBlocksAreResident settings slot promptTokenCount
        let runtime ← get
        let blockCount := prefillBlockCountForScheduledTokens runtime scheduledPromptTokenCount
        if blockCount = 0 then return none
        else
          let batchTarget := min maxDispatchRequestCount
            (currentPipelineBatchWidth settings slots runtime.scheduler)
          let compatibleRequestCount ←
            if settings.prefillBatchingIsEnabled then
              countCompatiblePrefillMembers settings slots slotIndex blockCount batchTarget
            else pure 1
          let bucketCapacity := batchBucketCapacityForSequenceCount compatibleRequestCount
          if bucketCapacity = 0 then return none
          else
            return some {
              slot := slotIndex
              scheduledPromptTokenCount
              residentCachedBlocks
              realtimePriority := slot.hasRealtimePriority
              compatibleRequestCount
              graphPaddingCount := bucketCapacity - compatibleRequestCount }

def prefillShapeIsBetter (candidate : PrefillBatchShape) (current : Option PrefillBatchShape) :
    Bool :=
  match current with
  | none => true
  | some current =>
    let candidateSlot := slots.getD candidate.slot {}
    let currentSlot := slots.getD current.slot {}
    if candidateSlot.priority ≠ currentSlot.priority then
      currentSlot.priority < candidateSlot.priority
    else if candidate.realtimePriority ≠ current.realtimePriority then
      candidate.realtimePriority
    else if candidate.residentCachedBlocks ≠ current.residentCachedBlocks then
      candidate.residentCachedBlocks
    else if candidate.compatibleRequestCount ≠ current.compatibleRequestCount then
      current.compatibleRequestCount < candidate.compatibleRequestCount
    else if candidate.graphPaddingCount ≠ current.graphPaddingCount then
      candidate.graphPaddingCount < current.graphPaddingCount
    else if candidate.scheduledPromptTokenCount ≠ current.scheduledPromptTokenCount then
      current.scheduledPromptTokenCount < candidate.scheduledPromptTokenCount
    else candidateSlot.hasHigherSchedulingPriorityThan currentSlot

def findBestPrefillSlot (requireResidentCachedBlocks : Bool) : RuntimeM E (Option Nat) := do
  let best ← (List.range slots.length).foldlM (fun best slotIndex => do
    match ← evaluatePrefillBatchShape settings slots slotIndex requireResidentCachedBlocks with
    | none => return best
    | some shape =>
      return if prefillShapeIsBetter slots shape best then some shape else best) none
  return best.map PrefillBatchShape.slot

/-- Higher priority first, then the longer step, then earlier submission. -/
def prefillBatchCandidateIsBetter (candidate : Nat × Nat) (best : Option (Nat × Nat)) : Bool :=
  match best with
  | none => true
  | some best =>
    let slot := slots.getD candidate.1 {}
    let bestSlot := slots.getD best.1 {}
    if slot.priority ≠ bestSlot.priority then bestSlot.priority < slot.priority
    else if candidate.2 ≠ best.2 then best.2 < candidate.2
    else slot.submissionOrder < bestSlot.submissionOrder

def findBestPrefillBatchMember (leaderSlotIndex leaderPrefillBlockCount : Nat)
    (selectedHandles : List Nat) (requireResidentCachedBlocks : Bool) :
    RuntimeM E (Option (Nat × Nat)) :=
  (List.range slots.length).foldlM (fun best slotIndex => do
    match ← slotIsCompatiblePrefillBatchMember settings slots leaderSlotIndex slotIndex
        leaderPrefillBlockCount requireResidentCachedBlocks with
    | none => return best
    | some scheduled =>
      if selectedHandles.contains (slots.getD slotIndex {}).handle then return best
      else if prefillBatchCandidateIsBetter slots (slotIndex, scheduled) best then
        return some (slotIndex, scheduled)
      else return best) none

/-! ### Decode batches -/

/-- The place of a slot among selected ones; the first place is kept for the leader. -/
def insertionIndex (slot : Slot) (selectedSlots : List Nat) : Nat → Nat
  | 0 => 0
  | place + 1 =>
    if 0 < place ∧ slot.hasHigherSchedulingPriorityThan
        (slots.getD (selectedSlots.getD place 0) {}) then
      insertionIndex slot selectedSlots place
    else place + 1

/-- Sorted insertion that drops the last slot when the batch is full. -/
def insertBatchMemberByPriority (selectedSlots : List Nat) (selectedCapacity slotIndex : Nat) :
    List Nat :=
  let slot := slots.getD slotIndex {}
  if selectedCapacity ≤ 1 then selectedSlots
  else if selectedCapacity ≤ selectedSlots.length then
    let tail := slots.getD (selectedSlots.getD (selectedCapacity - 1) 0) {}
    if slot.hasHigherSchedulingPriorityThan tail = false then selectedSlots
    else
      let kept := selectedSlots.take (selectedCapacity - 1)
      kept.insertIdx (insertionIndex slots slot kept kept.length) slotIndex
  else
    selectedSlots.insertIdx (insertionIndex slots slot selectedSlots selectedSlots.length) slotIndex

/-- Whether the blocks of a slot allow it to join a leader. -/
def memberBlocksAreResident (leader slot : Slot) (requireResidentKv : Bool) : RuntimeM E Bool :=
  if requireResidentKv = true ∨ slot.priority < leader.priority then
    decodeBlocksAreResident settings slot
  else pure true

def collectDecodeBatchMembers (leaderSlotIndex : Nat) (requireResidentKv : Bool)
    (selectedCapacity : Nat) : RuntimeM E (List Nat) :=
  let leader := slots.getD leaderSlotIndex {}
  (List.range slots.length).foldlM (fun selectedSlots slotIndex => do
    let slot := slots.getD slotIndex {}
    let runtime ← get
    if slotIndex = leaderSlotIndex ∨ slot.isSchedulableDecode = false ∨
        runtime.slotCanSpeculate settings slot ≠ runtime.slotCanSpeculate settings leader then
      return selectedSlots
    else if ← memberBlocksAreResident settings leader slot requireResidentKv then
      return insertBatchMemberByPriority slots selectedSlots selectedCapacity slotIndex
    else return selectedSlots) [leaderSlotIndex]

def collectSpeculativeVerifyBatchMembers (leaderSlotIndex leaderTokenCount : Nat)
    (leaderSource : SpeculativeSource) (requireResidentKv : Bool) (selectedCapacity : Nat) :
    RuntimeM E (List Nat) :=
  let leader := slots.getD leaderSlotIndex {}
  (List.range slots.length).foldlM (fun selectedSlots slotIndex => do
    let slot := slots.getD slotIndex {}
    let runtime ← get
    if slotIndex = leaderSlotIndex ∨ slot.isSchedulableSpeculativeVerify = false ∨
        runtime.slotCanSpeculate settings slot ≠ runtime.slotCanSpeculate settings leader then
      return selectedSlots
    else if ← memberBlocksAreResident settings leader slot requireResidentKv then
      match getSlotSpeculativeDraft settings (← get) slot (some leaderSource) with
      | .ok (draft, source) =>
        if source = leaderSource ∧ draft.tokenCount = leaderTokenCount then
          return insertBatchMemberByPriority slots selectedSlots selectedCapacity slotIndex
        else return selectedSlots
      | .error _ => return selectedSlots
    else return selectedSlots) [leaderSlotIndex]

/-! ### The slot to serve -/

def findBestSchedulableSlot (isSchedulable : Slot → Bool) (excludedHandles : List Nat)
    (requireResidentKv : Bool) : RuntimeM E (Option Nat) :=
  (List.range slots.length).foldlM (fun best slotIndex => do
    let slot := slots.getD slotIndex {}
    if isSchedulable slot = false then return best
    else
      let resident ←
        if requireResidentKv then decodeBlocksAreResident settings slot else pure true
      if resident = false ∨ excludedHandles.contains slot.handle then return best
      else return betterSlot slots best slotIndex) none

def olderLowerPrioritySchedulableSlotExists (chosen : Slot) : Bool :=
  slots.any fun slot =>
    (slot.isSchedulablePrefill || slot.isSchedulableDecode) &&
      slot.submissionOrder < chosen.submissionOrder &&
      slot.priority < chosen.priority

/-- A decode batch that is not full yet waits for a prefill of at least its priority. -/
def shouldFillDecodeBatch (runtime : Runtime E) (prefillSlot decodeSlot : Slot) : Bool :=
  settings.decodeBatchingIsEnabled && decodeSlot.priority ≤ prefillSlot.priority &&
    (slots.countP fun slot =>
      slot.isSchedulableDecode && slot.priority == decodeSlot.priority) <
        currentPipelineBatchWidth settings slots runtime.scheduler

/-- Whether a prefill goes before the decode that was found. -/
def prefillWins (runtime : Runtime E) (prefillSlot decodeSlot : Slot) : Bool :=
  prefillSlot.hasHigherSchedulingPriorityThan decodeSlot ||
    (prefillSlot.hasSameSchedulingPriority decodeSlot &&
      prefillHasResidentKvHeadroom settings slots runtime prefillSlot) ||
    shouldFillDecodeBatch settings slots runtime prefillSlot decodeSlot

/-- Whether a verification goes before what was chosen. -/
def verifyWins (verifySlot chosen : Slot) (chosenIsPrefill : Bool) : Bool :=
  chosen.priority < verifySlot.priority ||
    (verifySlot.hasSameSchedulingPriority chosen &&
      (chosenIsPrefill || verifySlot.state = .readySpeculativeVerify))

/-- The slot to serve, and whether it is served by a prefill. -/
def chooseReadySlot (prefillSlot decodeSlot speculativeVerifySlot : Option Nat) :
    RuntimeM E (Option Nat × Bool) := do
  modify fun runtime =>
    { runtime with
      scheduler := runtime.scheduler.setPrefillDemand (if prefillSlot.isSome then 1 else 0) }
  let runtime ← get
  let slotAt := fun slotIndex => slots.getD slotIndex {}
  let chosenIsPrefill :=
    match prefillSlot, decodeSlot with
    | none, _ => false
    | some _, none => true
    | some prefillIndex, some decodeIndex =>
      prefillWins settings slots runtime (slotAt prefillIndex) (slotAt decodeIndex)
  let chosenSlot := if chosenIsPrefill then prefillSlot else decodeSlot
  return match speculativeVerifySlot, chosenSlot with
    | none, _ => (chosenSlot, chosenIsPrefill)
    | some verifyIndex, none => (some verifyIndex, false)
    | some verifyIndex, some chosenIndex =>
      if verifyWins (slotAt verifyIndex) (slotAt chosenIndex) chosenIsPrefill then
        (some verifyIndex, false)
      else (chosenSlot, chosenIsPrefill)

end SparkPipe.RequestApi
