import SparkPipe.Core.PrefixCache.Model
import SparkPipe.Sched.StagePlan

/-!
# The request scheduler

The scheduler prices a request against a stage plan, looks its prompt up in the prefix
cache, reserves the blocks of the part of the prompt it schedules, and counts the request
on every stage of the pipeline until the decision is settled.

A flags word is a group of Booleans, one for each defined bit, so that the checks for
unknown flags have no counterpart. The normalised configuration is a part of the scheduler
that no operation changes. The statistics counters are never read back and are left out.
-/

open Program

namespace SparkPipe

def defaultQueueDepthPerSpark : Nat := 1

def batchRequestCapacityFactor : Nat := 2

/-- How the scheduler fails. -/
inductive SchedulerError
  | invalidArgument
  | capacityExceeded
  | notFound
  | busy
  | duplicate
  | moduleNotValidated
  | internalError
  deriving DecidableEq

def SchedulerError.ofPrefixCache : PrefixCacheError → SchedulerError
  | .invalidArgument => .invalidArgument
  | .capacityExceeded => .capacityExceeded
  | .notFound => .notFound
  | .busy => .busy
  | .duplicate => .duplicate
  | .moduleNotValidated => .moduleNotValidated
  | .internalError => .internalError

def SchedulerError.ofStagePlan : StagePlanError → SchedulerError
  | .invalidArgument _ => .invalidArgument
  | .capacityExceeded _ => .capacityExceeded
  | .abiMismatch _ => .internalError
  | .internalError _ => .internalError

/-- What the scheduler may do. -/
structure ConfigurationFlags where
  (chunkedPrefill prefixCache cudagraphPadding prefillDecodeInterleave kvCacheRequired
    measuredDecodeBucketSelection crossSequencePrefixReuse : Bool := false)
  deriving DecidableEq

/-- What the constructor reads. -/
structure SchedulerConfig where
  sparkCount : Nat
  queueDepthPerSpark : Nat
  measuredProfileId : Nat
  stageGeometry : StagePlanGeometry
  estimatedLayerCostNs : Nat
  estimatedFinalStageExtraCostNs : Nat
  quantizationMode : QuantizationMode
  maxPrefillTokensPerStep : Nat
  defaultMaxPrefillTokensPerStep : Nat
  maxContextTokens : Nat
  maxBatchBucket : Nat
  prefixCacheBlockTokens : Nat
  configurationFlags : ConfigurationFlags
  prefixCache : Option PrefixCache

/-- A scheduling request; its prompt length is a 32-bit word. -/
structure SchedulerRequest where
  activeSequenceCount : Nat
  promptTokenCount : UInt32 := 0
  decode : Bool := false
  prefill : Bool := false
  computedPromptTokenCount : Nat := 0
  cachedPrefixTokenCount : Nat := 0
  maxScheduledPromptTokenCount : Nat := 0
  sequenceId : Nat := 0
  promptTokenIds : Option (List Nat) := none

def SchedulerRequest.decodeRequest (activeSequenceCount : Nat) : SchedulerRequest :=
  { activeSequenceCount, decode := true }

def SchedulerRequest.prefillRequest (activeSequenceCount : Nat) (promptTokenCount : UInt32)
    (sequenceId : Nat) (promptTokenIds : List Nat) : SchedulerRequest :=
  { activeSequenceCount
    promptTokenCount
    prefill := true
    sequenceId
    promptTokenIds := some promptTokenIds }

/-- What a decision does. -/
structure DecisionFlags where
  (prefillChunk prefillFinalChunk prefixCacheUsed cudagraphPadding decodeStep prefillStep
    prefillReservedDecodeSlot decodeBypassPrefill adaptiveDecodePack adaptivePrefillPack
    measuredDecodeBucket : Bool := false)

/-- What a stage does. -/
structure DispatchStageFlags where
  (decode prefill prefillChunk prefillFinalChunk cudagraphPadding prefillReservedDecodeSlot
    decodeBypassPrefill adaptiveDecodePack adaptivePrefillPack measuredDecodeBucket : Bool := false)

/-- One request packed into a decode batch. -/
structure PackedRequest where
  requestIndex : Nat
  activeSequenceOffset : Nat
  activeSequenceCount : Nat
  scheduledTokenCount : Nat
  totalScheduledTokenCount : Nat

/-- What one stage of the pipeline is asked to do. -/
structure DispatchStage where
  sparkIndex : Nat
  batchBucket : Nat
  firstLayerIndex : Nat
  layerCount : Nat
  stageFlags : StageFlags
  dispatchFlags : DispatchStageFlags
  activeSequenceCount : Nat
  graphSequenceCapacity : Nat
  graphSequencePaddingCount : Nat
  scheduledPromptTokenOffset : Nat
  scheduledPromptTokenCount : Nat
  cachedPrefixTokenCount : Nat
  estimatedServiceTimeNs : Nat

/-- The outcome of an admission. -/
structure SchedulerDecision where
  accepted : Bool := false
  batchBucket : Nat := 0
  quantizationMode : QuantizationMode
  sparkCount : Nat
  stageCount : Nat := 0
  rejectedStatus : Option SchedulerError := none
  decisionFlags : DecisionFlags := {}
  activeSequenceCount : Nat := 0
  graphSequenceCapacity : Nat := 0
  graphSequencePaddingCount : Nat := 0
  promptTokenCount : Nat := 0
  computedPromptTokenCount : Nat := 0
  cachedPrefixTokenCount : Nat := 0
  prefixCacheBlockCount : Nat := 0
  scheduledPromptTokenOffset : Nat := 0
  scheduledPromptTokenCount : Nat := 0
  remainingPromptTokenCountAfterStep : Nat := 0
  prefillBlockCount : Nat := 0
  cacheCommitTokenCountAfterStep : Nat := 0
  kvBlockTokenCount : Nat := 0
  kvPhysicalBlockCount : Nat := 0
  kvCachedPhysicalBlockCount : Nat := 0
  kvPendingPhysicalBlockCount : Nat := 0
  kvBlockTableTokenCount : Nat := 0
  prefixCacheReservationEpoch : Nat := 0
  prefixCacheParentHash : Nat := 0
  prefixCacheResultHash : Nat := 0
  sequenceId : Nat := 0
  promptTokenIds : List Nat := []
  totalScheduledTokenCount : Nat := 0
  estimatedCriticalPathNs : Nat := 0
  kvPhysicalBlockIndices : List Nat := []
  stagePlan : StagePlan := { abiVersion := 0, descriptorBytes := 0 }
  dispatchStages : List DispatchStage := []

/-- One prompt of a prefill batch. -/
structure PrefillBatchLane where
  requestIndex : Nat
  activeSequenceOffset : Nat
  activeSequenceCount : Nat
  promptTokenCount : Nat
  computedPromptTokenCount : Nat
  cachedPrefixTokenCount : Nat
  scheduledPromptTokenOffset : Nat
  scheduledPromptTokenCount : Nat
  remainingPromptTokenCountAfterStep : Nat
  cacheCommitTokenCountAfterStep : Nat
  prefixCacheBlockCount : Nat
  kvBlockTokenCount : Nat
  kvPhysicalBlockCount : Nat
  kvCachedPhysicalBlockCount : Nat
  kvPendingPhysicalBlockCount : Nat
  kvBlockTableTokenCount : Nat
  prefixCacheReservationEpoch : Nat
  prefixCacheParentHash : Nat
  prefixCacheResultHash : Nat
  sequenceId : Nat
  promptTokenIds : List Nat

/-- The outcome for a batch of decodes. -/
structure BatchDecision where
  accepted : Bool := false
  rejectedStatus : Option SchedulerError := none
  sourceRequestCount : Nat
  packedRequestCount : Nat := 0
  batchBucket : Nat := 0
  activeSequenceCount : Nat := 0
  graphSequenceCapacity : Nat := 0
  graphSequencePaddingCount : Nat := 0
  decisionFlags : DecisionFlags := {}
  totalScheduledTokenCount : Nat := 0
  estimatedCriticalPathNs : Nat := 0
  stageDecision : SchedulerDecision := { quantizationMode := .nvfp4, sparkCount := 0 }
  packedRequests : List PackedRequest := []

/-- The outcome for a batch of prefills. -/
structure PrefillBatchDecision where
  accepted : Bool := false
  rejectedStatus : Option SchedulerError := none
  sourceRequestCount : Nat
  packedRequestCount : Nat := 0
  batchBucket : Nat := 0
  activeSequenceCount : Nat := 0
  graphSequenceCapacity : Nat := 0
  graphSequencePaddingCount : Nat := 0
  decisionFlags : DecisionFlags := {}
  maximumScheduledPromptTokenCount : Nat := 0
  totalScheduledTokenCount : Nat := 0
  estimatedCriticalPathNs : Nat := 0
  stageDecision : SchedulerDecision := { quantizationMode := .nvfp4, sparkCount := 0 }
  lanes : List PrefillBatchLane := []

/-- The normalised configuration, which no operation changes. -/
structure SchedulerSettings where
  stageGeometry : StagePlanGeometry
  estimatedLayerCostNs : Nat
  estimatedFinalStageExtraCostNs : Nat
  sparkCount : Nat
  queueDepthPerSpark : Nat
  measuredProfileId : Nat
  quantizationMode : QuantizationMode
  maxPrefillTokensPerStep : Nat
  maxContextTokens : Nat
  maxBatchBucket : Nat
  prefixCacheBlockTokens : Nat
  configurationFlags : ConfigurationFlags

/-- The settings, the prefix cache and the work in flight. -/
structure Scheduler extends SchedulerSettings where
  prefixCache : Option PrefixCache
  sparkInflightCounts : List Nat
  prefillDemand : Bool := false

/-- Methods of the scheduler, which may fail. -/
abbrev SchedM := EStateM SchedulerError Scheduler

/-- A stage plan with the costs it was made from. -/
structure PlanAndCosts where
  stagePlan : StagePlan
  layerCostNs : List Nat
  finalStageExtraCostNs : Nat

/-- Zero rounds nothing. -/
def roundDownToMultiple (value multiple : Nat) : Nat :=
  if multiple = 0 then value else value - value % multiple

/-- The cost of the layers of a stage. -/
def stageCostNs (costs : PlanAndCosts) (stage : StagePlanStage) : Nat :=
  ((costs.layerCostNs.drop stage.firstLayerIndex).take stage.layerCount).sum +
    if stage.flags.finalToken then costs.finalStageExtraCostNs else 0

/-- The service time of every stage of a plan, in stage order. -/
def stageServiceTimes (costs : PlanAndCosts) (prefillBlockCount : Nat) : List Nat :=
  (costs.stagePlan.stages.take costs.stagePlan.stageCount).map fun stage =>
    stageCostNs costs stage * prefillBlockCount

/-- The time of the slowest stage. -/
def planCriticalPathNs (costs : PlanAndCosts) (prefillBlockCount : Nat) : Nat :=
  (stageServiceTimes costs (max prefillBlockCount 1)).foldl max 0

/-- Cached tokens count as computed. -/
def effectiveComputedPromptTokenCount (request : SchedulerRequest)
    (cachedPrefixTokenCount : Nat) : Nat :=
  max request.computedPromptTokenCount cachedPrefixTokenCount

/-- The two packing flags are set by the batch entry points. -/
def buildDispatchFlags (flags : DecisionFlags) : DispatchStageFlags :=
  { decode := flags.decodeStep
    prefill := flags.prefillStep
    prefillChunk := flags.prefillChunk
    prefillFinalChunk := flags.prefillFinalChunk
    cudagraphPadding := flags.cudagraphPadding
    prefillReservedDecodeSlot := flags.prefillReservedDecodeSlot
    decodeBypassPrefill := flags.decodeBypassPrefill
    measuredDecodeBucket := flags.measuredDecodeBucket }

/-- How the reservations of a retired batch are settled. -/
inductive ReservationSettlement
  | commit
  | cancel
  deriving DecidableEq

namespace Scheduler

/-- A scheduler without work in flight. -/
def new (config : SchedulerConfig) : Except SchedulerError Scheduler :=
  if config.maxBatchBucket ≠ StagePlan.maxBatchBucket ∨ config.configurationFlags = {} ∨
      config.prefixCacheBlockTokens = 0 ∨ config.defaultMaxPrefillTokensPerStep = 0 ∨
      config.maxContextTokens = 0 then
    .error .invalidArgument
  else if config.configurationFlags.prefixCache ∧
      config.prefixCache.map PrefixCache.blockTokenCount ≠ some config.prefixCacheBlockTokens then
    .error .invalidArgument
  else if config.measuredProfileId = StagePlan.profileUniformEstimated ∧
      config.estimatedLayerCostNs = 0 then
    .error .invalidArgument
  else if config.stageGeometry.layerCount = 0 ∨
      StagePlan.maxLayerCount < config.stageGeometry.layerCount ∨
      config.stageGeometry.layerCount < config.stageGeometry.firstRoutedLayer then
    .error .invalidArgument
  else .ok
    { stageGeometry := config.stageGeometry
      estimatedLayerCostNs := config.estimatedLayerCostNs
      estimatedFinalStageExtraCostNs := config.estimatedFinalStageExtraCostNs
      sparkCount := config.sparkCount
      queueDepthPerSpark :=
        if config.queueDepthPerSpark = 0 then defaultQueueDepthPerSpark
        else config.queueDepthPerSpark
      measuredProfileId := config.measuredProfileId
      quantizationMode := config.quantizationMode.normalize
      maxPrefillTokensPerStep :=
        max (if config.maxPrefillTokensPerStep = 0 then config.defaultMaxPrefillTokensPerStep
          else config.maxPrefillTokensPerStep) config.prefixCacheBlockTokens
      maxContextTokens := config.maxContextTokens
      maxBatchBucket := config.maxBatchBucket
      prefixCacheBlockTokens := config.prefixCacheBlockTokens
      configurationFlags := config.configurationFlags
      prefixCache := config.prefixCache
      sparkInflightCounts := List.replicate config.sparkCount 0 }

variable (s : Scheduler)

def maxPackedRequestCount : Nat := s.maxBatchBucket

def maxBatchRequestCount : Nat := s.maxBatchBucket * batchRequestCapacityFactor

def promptCacheIsEnabled : Bool := s.configurationFlags.prefixCache

def crossSequencePrefixReuseIsEnabled : Bool :=
  s.configurationFlags.crossSequencePrefixReuse

def chunkedPrefillIsEnabled : Bool := s.configurationFlags.chunkedPrefill

def cudaGraphPaddingIsEnabled : Bool := s.configurationFlags.cudagraphPadding

def measuredDecodeBucketSelectionIsEnabled : Bool :=
  s.configurationFlags.measuredDecodeBucketSelection

def prefillDecodeInterleaveIsEnabled : Bool :=
  s.configurationFlags.prefillDecodeInterleave

/-- A decision that is not accepted. -/
def emptyDecision : SchedulerDecision :=
  { quantizationMode := s.quantizationMode, sparkCount := s.sparkCount }

/-! ### Pricing -/

/-- The plan and the costs of the measured profile. -/
def measuredPlanAndCosts (batchBucket : Nat) : Except SchedulerError PlanAndCosts :=
  Except.mapError .ofStagePlan do
    let stagePlan ← StagePlan.buildMeasuredBalancedForQuantization s.stageGeometry
      s.measuredProfileId batchBucket s.quantizationMode s.sparkCount
    let profile ← StagePlan.loadMeasuredCostProfileForQuantization s.stageGeometry
      s.measuredProfileId batchBucket s.quantizationMode
    return { stagePlan, layerCostNs := profile.layerCostNs,
             finalStageExtraCostNs := profile.finalStageExtraCostNs }

/-- The plan for a bucket, by its measured costs. -/
def buildMeasuredPlanAndCosts (batchBucket : Nat) : Except SchedulerError PlanAndCosts :=
  if s.measuredProfileId = StagePlan.profileUniformEstimated then
    Except.mapError .ofStagePlan do
      let profile ← StagePlan.loadUniformCostProfile s.stageGeometry s.estimatedLayerCostNs
        s.estimatedFinalStageExtraCostNs
      let stagePlan ← StagePlan.buildBalancedWithFinalCost s.stageGeometry profile.layerCostNs
        profile.finalStageExtraCostNs s.sparkCount
      return { stagePlan, layerCostNs := profile.layerCostNs,
               finalStageExtraCostNs := profile.finalStageExtraCostNs }
  else s.measuredPlanAndCosts batchBucket

/-- The better of two buckets; one without a plan is passed over. -/
def considerBucket (best : Nat × Nat) (candidateBucket : Nat) : Nat × Nat :=
  match s.buildMeasuredPlanAndCosts candidateBucket with
  | .error _ => best
  | .ok costs =>
    let candidate := planCriticalPathNs costs 1
    if candidate < best.2 ∨ (candidate = best.2 ∧ candidateBucket < best.1) then
      (candidateBucket, candidate)
    else best

/-- The bucket for a decode step and the smallest one that fits. -/
def selectDecodeBatchBucket (activeSequenceCount : Nat) : Except SchedulerError (Nat × Nat) := do
  let minimalBucket ←
    Except.mapError .ofStagePlan (StagePlan.selectBatchBucket activeSequenceCount)
  if !s.measuredDecodeBucketSelectionIsEnabled || activeSequenceCount ≤ StagePlan.bucketB16 then
    return (minimalBucket, minimalBucket)
  else
    let candidates := StagePlan.batchBuckets.filter (activeSequenceCount ≤ ·)
    return ((candidates.foldl s.considerBucket (minimalBucket, 2 ^ 64 - 1)).1, minimalBucket)

variable (request : SchedulerRequest)

/-- The bucket of a request, and the smallest one that holds it. -/
def selectRequestBatchBucket : Except SchedulerError (Nat × Nat) :=
  if request.decode then s.selectDecodeBatchBucket request.activeSequenceCount
  else
    match StagePlan.selectBatchBucket request.activeSequenceCount with
    | .ok batchBucket => .ok (batchBucket, batchBucket)
    | .error _ => .error .capacityExceeded

/-- The time of one decode; zero is an error. -/
def estimateDecodeChunkNs (executionRowCount : Nat) : Except SchedulerError Nat := do
  let buckets ← s.selectDecodeBatchBucket executionRowCount
  let costs ← s.buildMeasuredPlanAndCosts buckets.1
  if planCriticalPathNs costs 1 = 0 then throw .moduleNotValidated
  return planCriticalPathNs costs 1

/-- Adds up the work of the chunks. -/
def sumDecodeChunkWorkNs (s : Scheduler) (rowsPerSequence maximumSequencesPerChunk : Nat) :
    Nat → Nat → Nat → Except SchedulerError (Nat × Nat)
  | 0, remaining, total => .ok (remaining, total)
  | chunks + 1, remaining, total => do
      let chunkSequenceCount := min remaining maximumSequencesPerChunk
      let work ← s.estimateDecodeChunkNs (chunkSequenceCount * rowsPerSequence)
      if 2 ^ 64 ≤ total + work then throw .capacityExceeded
      s.sumDecodeChunkWorkNs rowsPerSequence maximumSequencesPerChunk chunks
        (remaining - chunkSequenceCount) (total + work)

/-- The time of a decode that is cut into chunks. -/
def estimateDecodeWorkNs (logicalSequenceCount rowsPerSequence executionRowCapacity : Nat) :
    Except SchedulerError Nat := do
  let shape ← Except.mapError .ofStagePlan
    (StagePlan.executionChunkShape logicalSequenceCount rowsPerSequence executionRowCapacity)
  let (remaining, total) ← s.sumDecodeChunkWorkNs rowsPerSequence shape.maximumSequencesPerChunk
    shape.chunkCount logicalSequenceCount 0
  if remaining ≠ 0 then throw .internalError
  return total

/-! ### The pipeline -/

/-- Prefills leave one place of a deep queue free, and so do decodes while one waits. -/
def stageHasCapacity (sparkIndex : Nat) (requestIsPrefill : Bool) : Bool :=
  let inflight := s.sparkInflightCounts.getD sparkIndex 0
  let reservedSlot :=
    s.prefillDecodeInterleaveIsEnabled && 1 < s.queueDepthPerSpark &&
      (requestIsPrefill || s.prefillDemand)
  sparkIndex < s.sparkCount && inflight < s.queueDepthPerSpark &&
    (!reservedSlot || inflight < s.queueDepthPerSpark - 1)

/-- Every stage of a plan has room. -/
def stagesHaveCapacity (plan : StagePlan) (requestIsPrefill : Bool) : Bool :=
  (List.range plan.stageCount).all (s.stageHasCapacity · requestIsPrefill)

/-- A decode would overtake work in flight. -/
def decodeBypassIsActive : Bool :=
  s.prefillDecodeInterleaveIsEnabled && (s.sparkInflightCounts.take s.sparkCount).any (· ≠ 0)

/-- Note whether prefills wait. -/
def setPrefillDemand (prefillDemand : Nat) : Scheduler :=
  { s with prefillDemand := prefillDemand ≠ 0 }

/-- Spread the requests over the ranks. -/
def selectPipelineBatchWidth (activeRequestCount batchCapacity : Nat) : Nat :=
  if s.sparkCount = 0 ∨ activeRequestCount = 0 ∨ batchCapacity = 0 then 0
  else min batchCapacity
    (activeRequestCount / s.sparkCount + if activeRequestCount % s.sparkCount ≠ 0 then 1 else 0)

/-- Counts one more decision on each of the first stages. -/
def occupyStages (stageCount : Nat) : Scheduler :=
  { s with
    sparkInflightCounts := s.sparkInflightCounts.zipIdx.map fun indexed =>
      if indexed.2 < stageCount then indexed.1 + 1 else indexed.1 }

/-! ### The prefix cache -/

/-- Run a method of the prefix cache, if there is one. -/
def onCache {α : Type} (m : CacheM α) : SchedM α := fun s =>
  match s.prefixCache with
  | none => .error .invalidArgument s
  | some cache =>
    onPart (fun _ => cache) (fun s cache => { s with prefixCache := some cache })
      SchedulerError.ofPrefixCache m s

/-- The first `tokenCount` prompt tokens of a request that has so many. -/
def promptSlice (tokenCount : Nat) : Option (List Nat) :=
  request.promptTokenIds.bind fun tokenIds =>
    if tokenCount ≤ tokenIds.length then some (tokenIds.take tokenCount) else none

/-- The tokens of a prompt that other sequences have cached. -/
def lookupCachedPrefixTokenCount : SchedM Nat := do
  let s ← get
  if !request.prefill || !s.promptCacheIsEnabled || !s.crossSequencePrefixReuseIsEnabled then
    return 0
  else
    let tokenIds ← orFail .invalidArgument (promptSlice request request.promptTokenCount.toNat)
    let lookup ← onCache (PrefixCache.probePrompt request.sequenceId tokenIds)
    return lookup.matchedTokenCount

/-- Reserve the blocks of a prompt prefix. -/
def reservePrompt (tokenCount : Nat) : SchedM Reservation := do
  let tokenIds ← orFail .invalidArgument (promptSlice request tokenCount)
  let s ← get
  if s.crossSequencePrefixReuseIsEnabled then
    onCache (PrefixCache.reservePrompt request.sequenceId tokenIds)
  else
    onCache (PrefixCache.reserveSequencePrompt request.sequenceId tokenIds)

/-- At least one block. -/
def requestMaxPrefillTokensPerStep : Nat :=
  max s.prefixCacheBlockTokens
    (if request.maxScheduledPromptTokenCount = 0 ∨
        s.maxPrefillTokensPerStep < request.maxScheduledPromptTokenCount then
      s.maxPrefillTokensPerStep
    else request.maxScheduledPromptTokenCount)

/-- The next chunk of a prompt. -/
def scheduledPrefillTokenCount (computedPromptTokenCount : Nat) : Nat :=
  let remaining := request.promptTokenCount.toNat - computedPromptTokenCount
  let step := s.requestMaxPrefillTokensPerStep request
  let rounded := roundDownToMultiple step s.prefixCacheBlockTokens
  if !s.chunkedPrefillIsEnabled then remaining
  else if remaining ≤ step then remaining
  else if rounded = 0 then min remaining s.prefixCacheBlockTokens
  else rounded

/-- The blocks of a prompt, at least one. -/
def prefillBlockCount (promptTokenCount : Nat) : Nat :=
  if promptTokenCount = 0 then 1
  else (promptTokenCount + s.prefixCacheBlockTokens - 1) / s.prefixCacheBlockTokens

/-- The part of a prompt that one step covers. -/
structure PrefillPlan where
  cachedPrefixTokenCount : Nat := 0
  computedPromptTokenCount : Nat := 0
  scheduledPromptTokenCount : Nat := 0
  remainingPromptTokenCountAfterStep : Nat := 0
  prefillBlockCount : Nat := 1

/-- The end of the scheduled part, up to which blocks are reserved and committed. -/
def PrefillPlan.endTokenCount (plan : PrefillPlan) : Nat :=
  plan.computedPromptTokenCount + plan.scheduledPromptTokenCount

/-- Probe the cache for a prompt and choose the part to schedule. -/
def planPrefill : SchedM PrefillPlan := do
  let cachedPrefixTokenCount ← lookupCachedPrefixTokenCount request
  let s ← get
  let computedPromptTokenCount :=
    effectiveComputedPromptTokenCount request cachedPrefixTokenCount
  let scheduledPromptTokenCount := s.scheduledPrefillTokenCount request computedPromptTokenCount
  return {
    cachedPrefixTokenCount
    computedPromptTokenCount
    scheduledPromptTokenCount
    remainingPromptTokenCountAfterStep :=
      request.promptTokenCount.toNat - computedPromptTokenCount - scheduledPromptTokenCount
    prefillBlockCount := s.prefillBlockCount scheduledPromptTokenCount }

/-- The hash of the computed part of a prompt; without it the reservation is cancelled. -/
def prefixCacheParentHash (computedPromptTokenCount : Nat)
    (reservationEpoch : Nat) : SchedM (Except SchedulerError Nat) := do
  if computedPromptTokenCount = 0 then return .ok emptyParentHash
  else
    let tokenIds ← orFail .invalidArgument (promptSlice request computedPromptTokenCount)
    let s ← get
    match hashPromptTokens s.prefixCacheBlockTokens emptyParentHash tokenIds with
    | .ok hash => return .ok hash.promptHash
    | .error status =>
      let _ ← attempt (onCache (PrefixCache.cancelReservation request.sequenceId reservationEpoch))
      return .error (.ofPrefixCache status)

/-! ### Single requests -/

/-- Exactly one kind, and the fields that kind allows. -/
def requestIsValid : Bool :=
  request.activeSequenceCount ≠ 0 && request.decode != request.prefill &&
  (!request.decode ||
    (request.promptTokenCount.toNat == 0 && request.computedPromptTokenCount == 0 &&
      request.cachedPrefixTokenCount == 0 && request.maxScheduledPromptTokenCount == 0 &&
      request.sequenceId == 0 && request.promptTokenIds.isNone)) &&
  (!request.prefill ||
    (request.promptTokenCount.toNat ≠ 0 && request.cachedPrefixTokenCount == 0 &&
      (!s.promptCacheIsEnabled ||
        (request.sequenceId ≠ 0 &&
          request.promptTokenIds.any fun tokenIds =>
            request.promptTokenCount.toNat ≤ tokenIds.length)) &&
      (!(s.promptCacheIsEnabled && s.crossSequencePrefixReuseIsEnabled) ||
        request.computedPromptTokenCount == 0) &&
      request.computedPromptTokenCount < request.promptTokenCount.toNat))

/-- Refuse a malformed request. -/
def validateRequest : SchedM Unit := do
  let s ← get
  if s.requestIsValid request then pure () else throw .invalidArgument

/-- The flags of an accepted request. -/
def buildDecisionFlags (batchBucket : Nat)
    (plan : PrefillPlan) (decodeBypassActive : Bool) : DecisionFlags :=
  { decodeStep := request.decode
    decodeBypassPrefill := request.decode && decodeBypassActive
    prefillStep := request.prefill
    prefillReservedDecodeSlot := request.prefill && s.prefillDecodeInterleaveIsEnabled &&
      1 < s.queueDepthPerSpark
    prefillFinalChunk := request.prefill && plan.remainingPromptTokenCountAfterStep == 0
    prefillChunk := request.prefill && plan.scheduledPromptTokenCount ≠ 0 &&
      plan.remainingPromptTokenCountAfterStep ≠ 0
    prefixCacheUsed := request.prefill && plan.cachedPrefixTokenCount ≠ 0
    cudagraphPadding :=
      s.cudaGraphPaddingIsEnabled && request.activeSequenceCount < batchBucket }

variable (decision : SchedulerDecision)

/-- Refuse with a status. -/
def reject (status : SchedulerError) : SchedulerDecision :=
  { decision with accepted := false, rejectedStatus := some status }

/-- What all stages of one decision have in common. -/
structure StageWork where
  batchBucket : Nat
  dispatchFlags : DispatchStageFlags
  activeSequenceCount : Nat
  graphSequencePaddingCount : Nat
  scheduledPromptTokenOffset : Nat
  scheduledPromptTokenCount : Nat
  cachedPrefixTokenCount : Nat
  prefillBlockCount : Nat

/-- The work of each stage. -/
def dispatchStagesFor (costs : PlanAndCosts) (work : StageWork) : List DispatchStage :=
  (costs.stagePlan.stages.take costs.stagePlan.stageCount).zipIdx.map fun indexed =>
    { sparkIndex := indexed.2
      batchBucket := work.batchBucket
      firstLayerIndex := indexed.1.firstLayerIndex
      layerCount := indexed.1.layerCount
      stageFlags := indexed.1.flags
      dispatchFlags := work.dispatchFlags
      activeSequenceCount := work.activeSequenceCount
      graphSequenceCapacity := work.batchBucket
      graphSequencePaddingCount := work.graphSequencePaddingCount
      scheduledPromptTokenOffset := work.scheduledPromptTokenOffset
      scheduledPromptTokenCount := work.scheduledPromptTokenCount
      cachedPrefixTokenCount := work.cachedPrefixTokenCount
      estimatedServiceTimeNs := stageCostNs costs indexed.1 * work.prefillBlockCount }

/-- The fields of an accepted decision before those of the prefix cache. -/
def acceptedDecision (buckets : Nat × Nat)
    (costs : PlanAndCosts) (plan : PrefillPlan) : SchedulerDecision :=
  { s.emptyDecision with
    accepted := true
    batchBucket := buckets.1
    stageCount := costs.stagePlan.stageCount
    decisionFlags :=
      { s.buildDecisionFlags request buckets.1 plan s.decodeBypassIsActive with
        measuredDecodeBucket := request.decode && buckets.1 ≠ buckets.2 }
    activeSequenceCount := request.activeSequenceCount
    graphSequenceCapacity := buckets.1
    graphSequencePaddingCount := buckets.1 - request.activeSequenceCount
    promptTokenCount := request.promptTokenCount.toNat
    computedPromptTokenCount := plan.computedPromptTokenCount
    cachedPrefixTokenCount := plan.cachedPrefixTokenCount
    prefixCacheBlockCount := plan.cachedPrefixTokenCount / s.prefixCacheBlockTokens
    scheduledPromptTokenOffset := plan.computedPromptTokenCount
    scheduledPromptTokenCount := plan.scheduledPromptTokenCount
    remainingPromptTokenCountAfterStep := plan.remainingPromptTokenCountAfterStep
    prefillBlockCount := plan.prefillBlockCount
    cacheCommitTokenCountAfterStep := plan.endTokenCount
    stagePlan := costs.stagePlan }

/-- The prefix-cache fields of a decision. -/
def withReservation (reservation : Reservation) :
    SchedulerDecision :=
  { decision with
    kvBlockTokenCount := s.prefixCacheBlockTokens
    kvPhysicalBlockCount := reservation.physicalBlockCount
    kvCachedPhysicalBlockCount := reservation.cachedPhysicalBlockCount
    kvPendingPhysicalBlockCount := reservation.pendingPhysicalBlockCount
    kvBlockTableTokenCount := reservation.reservedTokenCount
    prefixCacheReservationEpoch := reservation.reservationEpoch
    prefixCacheResultHash := reservation.lastBlockHash
    kvPhysicalBlockIndices := reservation.physicalBlockIndices }

/-- Complete an accepted decision with its stages and count it on the pipeline. -/
def dispatch (costs : PlanAndCosts) (decision : SchedulerDecision) : SchedM SchedulerDecision := do
  modify (·.occupyStages costs.stagePlan.stageCount)
  return {
    decision with
    sequenceId := request.sequenceId
    promptTokenIds := request.promptTokenIds.getD []
    totalScheduledTokenCount :=
      if request.prefill then request.activeSequenceCount * decision.scheduledPromptTokenCount
      else request.activeSequenceCount
    estimatedCriticalPathNs := (stageServiceTimes costs decision.prefillBlockCount).foldl max 0
    dispatchStages := dispatchStagesFor costs
      { batchBucket := decision.batchBucket
        dispatchFlags := buildDispatchFlags decision.decisionFlags
        activeSequenceCount := request.activeSequenceCount
        graphSequencePaddingCount := decision.graphSequencePaddingCount
        scheduledPromptTokenOffset := decision.computedPromptTokenCount
        scheduledPromptTokenCount := decision.scheduledPromptTokenCount
        cachedPrefixTokenCount := decision.cachedPrefixTokenCount
        prefillBlockCount := decision.prefillBlockCount } }

/-- The plan of a prefill and its reservation; a decode has neither. -/
def planAndReserve : SchedM (PrefillPlan × Option Reservation) := do
  if request.prefill then
    let plan ← planPrefill request
    let s ← get
    if s.promptCacheIsEnabled then
      let reservation ← reservePrompt request plan.endTokenCount
      return (plan, some reservation)
    else return (plan, none)
  else return ({}, none)

/-- Admit a request that the pipeline has room for. -/
def admitOnStages (buckets : Nat × Nat) (costs : PlanAndCosts) : SchedM SchedulerDecision := do
  match ← attempt (planAndReserve request) with
  | .error status =>
    let s ← get
    return reject { s.emptyDecision with stagePlan := costs.stagePlan } status
  | .ok (plan, reservation) =>
    let s ← get
    let decision := s.acceptedDecision request buckets costs plan
    if request.prefill && s.promptCacheIsEnabled then
      let reservation ← orFail .internalError reservation
      let decision := s.withReservation decision reservation
      match ← prefixCacheParentHash request plan.computedPromptTokenCount
          reservation.reservationEpoch with
      | .error status => return reject decision status
      | .ok parentHash =>
        dispatch request costs { decision with prefixCacheParentHash := parentHash }
    else dispatch request costs decision

/-- A request that cannot be served now is rejected by an unaccepted decision. -/
def admitRequest : SchedM SchedulerDecision := do
  validateRequest request
  let s ← get
  match s.selectRequestBatchBucket request with
  | .error status => return reject s.emptyDecision status
  | .ok buckets =>
    match s.buildMeasuredPlanAndCosts buckets.1 with
    | .error status => return reject s.emptyDecision status
    | .ok costs =>
      if s.stagesHaveCapacity costs.stagePlan request.prefill then
        admitOnStages request buckets costs
      else return reject { s.emptyDecision with stagePlan := costs.stagePlan } .busy

/-- Only accepted decisions are settled. -/
def validateAcceptedDecision : SchedM Unit := do
  let s ← get
  if decision.accepted = false ∨ decision.stageCount = 0 ∨ s.sparkCount < decision.stageCount ∨
      decision.dispatchStages.length < decision.stageCount then
    throw .invalidArgument

/-- Every stage is checked before the first one is released. -/
def releaseDecisionInflight : SchedM Unit := do
  let s ← get
  let stages := decision.dispatchStages.take decision.stageCount
  if stages.any fun stage =>
      s.sparkCount ≤ stage.sparkIndex ||
        s.sparkInflightCounts.getD stage.sparkIndex 0 == 0 then
    throw .invalidArgument
  else
    set { s with
      sparkInflightCounts := stages.foldl (fun counts (stage : DispatchStage) =>
        counts.set stage.sparkIndex (counts.getD stage.sparkIndex 0 - 1)) s.sparkInflightCounts }

/-- Settle a decision, and commit what it has computed. -/
def complete : SchedM Unit := do
  validateAcceptedDecision decision
  releaseDecisionInflight decision
  let s ← get
  if decision.decisionFlags.prefillStep ∧ s.promptCacheIsEnabled ∧
      decision.cacheCommitTokenCountAfterStep ≠ 0 then
    onCache (PrefixCache.commitReservation decision.sequenceId decision.prefixCacheReservationEpoch)

/-- Settle a decision, and drop its reservation. -/
def cancel : SchedM Unit := do
  validateAcceptedDecision decision
  releaseDecisionInflight decision
  let s ← get
  if decision.decisionFlags.prefillStep ∧ s.promptCacheIsEnabled ∧
      decision.prefixCacheReservationEpoch ≠ 0 then
    onCache (PrefixCache.cancelReservation decision.sequenceId decision.prefixCacheReservationEpoch)

/-! ### Decode batches -/

/-- Packs requests until one does not fit; one that could never fit refuses the batch. -/
def packDecodeRequests (capacity : Nat) : List (SchedulerRequest × Nat) → List PackedRequest → Nat →
      Except SchedulerError (List PackedRequest × Nat)
  | [], packed, activeSequenceCount => .ok (packed, activeSequenceCount)
  | (request, requestIndex) :: rest, packed, activeSequenceCount =>
    if capacity ≤ packed.length then .ok (packed, activeSequenceCount)
    else if capacity < request.activeSequenceCount then .error .capacityExceeded
    else if capacity < activeSequenceCount + request.activeSequenceCount then
      .ok (packed, activeSequenceCount)
    else packDecodeRequests capacity rest
      (packed ++ [{ requestIndex
                    activeSequenceOffset := activeSequenceCount
                    activeSequenceCount := request.activeSequenceCount
                    scheduledTokenCount := request.activeSequenceCount
                    totalScheduledTokenCount := request.activeSequenceCount }])
      (activeSequenceCount + request.activeSequenceCount)

variable (requests : List SchedulerRequest)

/-- All requests are decodes. -/
def validateDecodeBatchRequest : SchedM Unit := do
  let s ← get
  if requests = [] ∨ s.maxBatchRequestCount < requests.length % 2 ^ 32 ∨
      requests.all (fun request => s.requestIsValid request && request.decode) = false then
    throw .invalidArgument

/-- Refuse the batch. -/
def rejectDecodeBatch (sourceRequestCount : Nat) (status : SchedulerError) : BatchDecision :=
  { sourceRequestCount, rejectedStatus := some status }

/-- Marks a decision and its stages as a packed decode batch. -/
def markDecodePack : SchedulerDecision :=
  { decision with
    decisionFlags := { decision.decisionFlags with adaptiveDecodePack := true }
    dispatchStages := decision.dispatchStages.zipIdx.map fun indexed =>
      if indexed.2 < decision.stageCount then
        { indexed.1 with
          dispatchFlags := { indexed.1.dispatchFlags with adaptiveDecodePack := true } }
      else indexed.1 }

/-- Admit as many decodes as fit. -/
def admitDecodeBatch : SchedM BatchDecision := do
  let sourceRequestCount := requests.length % 2 ^ 32
  validateDecodeBatchRequest requests
  let s ← get
  match packDecodeRequests s.maxPackedRequestCount requests.zipIdx [] 0 with
  | .error status => return rejectDecodeBatch sourceRequestCount status
  | .ok (packedRequests, activeSequenceCount) =>
    if packedRequests.length = 0 ∨ activeSequenceCount = 0 then
      return rejectDecodeBatch sourceRequestCount .capacityExceeded
    else
      let stageDecision ← admitRequest (SchedulerRequest.decodeRequest activeSequenceCount)
      if stageDecision.accepted = false then
        return rejectDecodeBatch sourceRequestCount
          (stageDecision.rejectedStatus.getD .internalError)
      else
        let stageDecision := markDecodePack stageDecision
        return {
          accepted := true
          sourceRequestCount
          packedRequestCount := packedRequests.length
          batchBucket := stageDecision.batchBucket
          activeSequenceCount
          graphSequenceCapacity := stageDecision.graphSequenceCapacity
          graphSequencePaddingCount := stageDecision.graphSequencePaddingCount
          decisionFlags := stageDecision.decisionFlags
          totalScheduledTokenCount := stageDecision.totalScheduledTokenCount
          estimatedCriticalPathNs := stageDecision.estimatedCriticalPathNs
          stageDecision
          packedRequests }

def validateAcceptedDecodeBatch (decision : BatchDecision) : SchedM Unit :=
  if decision.accepted = false ∨ decision.packedRequestCount = 0 ∨
      decision.decisionFlags.adaptiveDecodePack = false then
    throw .invalidArgument
  else pure ()

/-- Settle a batch of decodes. -/
def completeDecodeBatch (decision : BatchDecision) : SchedM Unit := do
  validateAcceptedDecodeBatch decision
  complete decision.stageDecision

/-- Take a batch of decodes back. -/
def cancelDecodeBatch (decision : BatchDecision) : SchedM Unit := do
  validateAcceptedDecodeBatch decision
  releaseDecisionInflight decision.stageDecision

/-! ### Prefill batches -/

/-- All requests are prefills of one sequence. -/
def validatePrefillBatchRequest : SchedM Unit := do
  let s ← get
  if requests = [] ∨ s.maxBatchRequestCount < requests.length % 2 ^ 32 ∨
      requests.all (fun request => s.requestIsValid request && request.prefill &&
        request.activeSequenceCount == 1) = false then
    throw .invalidArgument

/-- How many requests are packed, and how many sequences they hold. -/
def packPrefillRequests (capacity : Nat) : List SchedulerRequest → Nat → Nat → Nat × Nat
  | [], packed, activeSequenceCount => (packed, activeSequenceCount)
  | request :: rest, packed, activeSequenceCount =>
    if capacity ≤ packed ∨ capacity < activeSequenceCount + request.activeSequenceCount then
      (packed, activeSequenceCount)
    else packPrefillRequests capacity rest (packed + 1)
      (activeSequenceCount + request.activeSequenceCount)

/-- Refuse the batch. -/
def rejectPrefillBatch (sourceRequestCount : Nat) (status : SchedulerError) :
    PrefillBatchDecision :=
  { sourceRequestCount, rejectedStatus := some status }

variable (lanes : List PrefillBatchLane)

/-- Drop the reservations that were made so far. -/
def cancelAcceptedPrefillBatchReservations : SchedM Unit := do
  let s ← get
  if s.promptCacheIsEnabled then
    forM lanes fun lane =>
      if lane.prefixCacheReservationEpoch = 0 then pure ()
      else onCache (PrefixCache.cancelReservation lane.sequenceId lane.prefixCacheReservationEpoch)

/-- The plan and the reservation of one lane. -/
def planLane : SchedM (PrefillPlan × Reservation) := do
  let plan ← planPrefill request
  if plan.scheduledPromptTokenCount = 0 then throw .invalidArgument
  else
    let reservation ← reservePrompt request plan.endTokenCount
    return (plan, reservation)

/-- The lane of an accepted prefill. -/
def laneOf (requestIndex : Nat) (plan : PrefillPlan)
    (reservation : Reservation) (parentHash : Nat) : PrefillBatchLane :=
  { requestIndex
    activeSequenceOffset := requestIndex
    activeSequenceCount := request.activeSequenceCount
    promptTokenCount := request.promptTokenCount.toNat
    computedPromptTokenCount := plan.computedPromptTokenCount
    cachedPrefixTokenCount := plan.cachedPrefixTokenCount
    scheduledPromptTokenOffset := plan.computedPromptTokenCount
    scheduledPromptTokenCount := plan.scheduledPromptTokenCount
    remainingPromptTokenCountAfterStep := plan.remainingPromptTokenCountAfterStep
    cacheCommitTokenCountAfterStep := plan.endTokenCount
    prefixCacheBlockCount := plan.cachedPrefixTokenCount / s.prefixCacheBlockTokens
    kvBlockTokenCount := s.prefixCacheBlockTokens
    kvPhysicalBlockCount := reservation.physicalBlockCount
    kvCachedPhysicalBlockCount := reservation.cachedPhysicalBlockCount
    kvPendingPhysicalBlockCount := reservation.pendingPhysicalBlockCount
    kvBlockTableTokenCount := reservation.reservedTokenCount
    prefixCacheReservationEpoch := reservation.reservationEpoch
    prefixCacheParentHash := parentHash
    prefixCacheResultHash := reservation.lastBlockHash
    sequenceId := request.sequenceId
    promptTokenIds := request.promptTokenIds.getD [] }

/-- Adds one lane; a failure gives back the reservations of the lanes before it. -/
def admitLane (indexed : SchedulerRequest × Nat) : SchedM (List PrefillBatchLane) := do
  let (plan, reservation) ← onError (planLane indexed.1)
    (cancelAcceptedPrefillBatchReservations lanes)
  match ← prefixCacheParentHash indexed.1 plan.computedPromptTokenCount
      reservation.reservationEpoch with
  | .error status =>
    let _ ← attempt (cancelAcceptedPrefillBatchReservations lanes)
    throw status
  | .ok parentHash =>
    let s ← get
    return lanes ++ [s.laneOf indexed.1 indexed.2 plan reservation parentHash]

/-- The flags of a batch of prefills. -/
def prefillBatchFlags (graphSequencePaddingCount : Nat) : DecisionFlags :=
  let anyRemaining := lanes.any (·.remainingPromptTokenCountAfterStep ≠ 0)
  { prefillStep := true
    adaptivePrefillPack := true
    prefillChunk := anyRemaining
    prefillFinalChunk := !anyRemaining
    prefixCacheUsed := lanes.any (·.cachedPrefixTokenCount ≠ 0)
    cudagraphPadding := graphSequencePaddingCount ≠ 0 && s.cudaGraphPaddingIsEnabled
    prefillReservedDecodeSlot :=
      s.prefillDecodeInterleaveIsEnabled && 1 < s.queueDepthPerSpark }

/-- The accepted decision over admitted lanes. -/
def prefillBatchDecision (sourceRequestCount packedRequestCount : Nat)
    (activeSequenceCount batchBucket : Nat) (costs : PlanAndCosts)
    (lanes : List PrefillBatchLane) : PrefillBatchDecision :=
  let graphSequencePaddingCount := batchBucket - activeSequenceCount
  let decisionFlags := s.prefillBatchFlags lanes graphSequencePaddingCount
  let maximumScheduledPromptTokenCount :=
    (lanes.map PrefillBatchLane.scheduledPromptTokenCount).foldl max 0
  let maximumPrefillBlockCount :=
    (lanes.map fun lane => s.prefillBlockCount lane.scheduledPromptTokenCount).foldl max 1
  let totalScheduledTokenCount := (lanes.map PrefillBatchLane.scheduledPromptTokenCount).sum
  let estimatedCriticalPathNs := (stageServiceTimes costs maximumPrefillBlockCount).foldl max 0
  { accepted := true
    sourceRequestCount
    packedRequestCount
    batchBucket
    activeSequenceCount
    graphSequenceCapacity := batchBucket
    graphSequencePaddingCount
    decisionFlags
    maximumScheduledPromptTokenCount
    totalScheduledTokenCount
    estimatedCriticalPathNs
    lanes
    stageDecision :=
      { s.emptyDecision with
        accepted := true
        batchBucket
        stageCount := costs.stagePlan.stageCount
        decisionFlags
        activeSequenceCount
        graphSequenceCapacity := batchBucket
        graphSequencePaddingCount
        scheduledPromptTokenCount := maximumScheduledPromptTokenCount
        prefillBlockCount := maximumPrefillBlockCount
        totalScheduledTokenCount
        estimatedCriticalPathNs
        stagePlan := costs.stagePlan
        dispatchStages := dispatchStagesFor costs
          { batchBucket
            dispatchFlags := { buildDispatchFlags decisionFlags with adaptivePrefillPack := true }
            activeSequenceCount
            graphSequencePaddingCount
            scheduledPromptTokenOffset := 0
            scheduledPromptTokenCount := maximumScheduledPromptTokenCount
            cachedPrefixTokenCount := 0
            prefillBlockCount := maximumPrefillBlockCount } } }

/-- The bucket and the plan of a prefill batch, if the pipeline has room. -/
def prefillBatchPlan (packedRequestCount activeSequenceCount : Nat) :
    Except SchedulerError (Nat × PlanAndCosts) := do
  if packedRequestCount = 0 ∨ activeSequenceCount = 0 then throw .capacityExceeded
  let batchBucket ←
    Except.mapError .ofStagePlan (StagePlan.selectBatchBucket activeSequenceCount)
  let costs ← s.measuredPlanAndCosts batchBucket
  if s.stagesHaveCapacity costs.stagePlan true then return (batchBucket, costs)
  else throw .busy

/-- Admit as many prefills as fit, or none. -/
def admitPrefillBatch : SchedM PrefillBatchDecision := do
  let sourceRequestCount := requests.length % 2 ^ 32
  validatePrefillBatchRequest requests
  let s ← get
  let (packedRequestCount, activeSequenceCount) :=
    packPrefillRequests s.maxPackedRequestCount requests 0 0
  match s.prefillBatchPlan packedRequestCount activeSequenceCount with
  | .error status => return rejectPrefillBatch sourceRequestCount status
  | .ok (batchBucket, costs) =>
    let lanes ← (requests.take packedRequestCount).zipIdx.foldlM admitLane []
    modify (·.occupyStages costs.stagePlan.stageCount)
    return s.prefillBatchDecision sourceRequestCount packedRequestCount activeSequenceCount
      batchBucket costs lanes

def validateAcceptedPrefillBatchDecision (decision : PrefillBatchDecision) : SchedM Unit := do
  let s ← get
  if decision.accepted = false ∨ decision.packedRequestCount = 0 ∨
      s.maxPackedRequestCount < decision.packedRequestCount ∨
      decision.stageDecision.accepted = false ∨
      decision.decisionFlags.adaptivePrefillPack = false ∨
      decision.lanes.length < decision.packedRequestCount then
    throw .invalidArgument

/-- Commit or drop the reservation of a lane. -/
def settleLane (settlement : ReservationSettlement) (lane : PrefillBatchLane) : SchedM Unit :=
  if lane.prefixCacheReservationEpoch = 0 then pure ()
  else
    match settlement with
    | .commit => onCache
        (PrefixCache.commitReservation lane.sequenceId lane.prefixCacheReservationEpoch)
    | .cancel => onCache
        (PrefixCache.cancelReservation lane.sequenceId lane.prefixCacheReservationEpoch)

/-- Settle a batch of prefills, lane by lane. -/
def retirePrefillBatch (decision : PrefillBatchDecision) (settlement : ReservationSettlement) :
    SchedM Unit := do
  validateAcceptedPrefillBatchDecision decision
  releaseDecisionInflight decision.stageDecision
  forM (decision.lanes.take decision.packedRequestCount) (settleLane settlement)

/-- Commit every lane. -/
def completePrefillBatch (decision : PrefillBatchDecision) : SchedM Unit :=
  retirePrefillBatch decision .commit

/-- Drop every lane. -/
def cancelPrefillBatch (decision : PrefillBatchDecision) : SchedM Unit :=
  retirePrefillBatch decision .cancel

/-! ### Block tables and the end of a sequence -/

/-- The blocks of an accepted prefill. -/
def buildKvBlockTable : SchedM (List Nat) := do
  validateAcceptedDecision decision
  let s ← get
  if s.promptCacheIsEnabled = false ∨ decision.decisionFlags.prefillStep = false then
    throw .invalidArgument
  else
    onCache
      (PrefixCache.buildPhysicalBlockTable decision.sequenceId decision.kvBlockTableTokenCount)

/-- The block table of one lane, which must fit the row it is written to. -/
def buildLaneKvBlockTable (laneCapacity : Nat) (lane : PrefillBatchLane) : SchedM (List Nat) := do
  if lane.sequenceId = 0 ∨ lane.kvBlockTableTokenCount = 0 then throw .invalidArgument
  else
    let table ← onCache
      (PrefixCache.buildPhysicalBlockTable lane.sequenceId lane.kvBlockTableTokenCount)
    if laneCapacity < table.length % 2 ^ 32 then throw .capacityExceeded
    else return table

/-- The blocks of each lane. -/
def buildPrefillBatchKvBlockTables (decision : PrefillBatchDecision) (laneCapacity : Nat) :
    SchedM (List (List Nat)) := do
  validateAcceptedPrefillBatchDecision decision
  let s ← get
  if s.promptCacheIsEnabled = false ∨ laneCapacity = 0 then throw .invalidArgument
  else (decision.lanes.take decision.packedRequestCount).mapM (buildLaneKvBlockTable laneCapacity)

/-- Drop what a sequence holds in the cache. -/
def releaseSequence (sequenceId : Nat) : SchedM Unit := do
  let s ← get
  if sequenceId = 0 then throw .invalidArgument
  else if s.promptCacheIsEnabled then onCache (PrefixCache.releaseSequence sequenceId)

end Scheduler

end SparkPipe
