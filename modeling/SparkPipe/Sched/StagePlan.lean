import Mathlib.Algebra.GroupWithZero.Nat

/-!
# The stage planner

A stage plan cuts the layers of a model into contiguous pipeline stages. The cut rules keep
the dense layers whole in the first stage and bound the routed layers of a stage. A plan
comes from a dynamic program that minimises the largest stage cost over a cost profile.

The flags word of a stage is a group of Booleans, so the check for unknown flags has no
counterpart. Costs are natural numbers; the running sum of the layer costs is reduced to
the 64-bit range where the planner looks for an overflow.
-/

namespace SparkPipe

namespace StagePlan

def maxLayerCount : Nat := 128

def maxRoutedLayersPerStage : Nat := 8

def currentSparkCount : Nat := 13

def maxStageCount : Nat := currentSparkCount

def measuredProfile20260701 : Nat := 20260701

/-- Profile zero plans from one uniform estimate for every layer. -/
def profileUniformEstimated : Nat := 0

def bucketB16 : Nat := 16
def bucketB32 : Nat := 32
def bucketB64 : Nat := 64
def bucketB128 : Nat := 128
def bucketB256 : Nat := 256
def bucketB512 : Nat := 512
def bucketB1024 : Nat := 1024

def maxBatchBucket : Nat := bucketB1024

def batchBuckets : List Nat :=
  [bucketB16, bucketB32, bucketB64, bucketB128, bucketB256, bucketB512, bucketB1024]

/-- The cost of a state that is not reached. -/
def unreachableCost : Nat := (2 ^ 64 - 1) / 4

def abiVersionWord : Nat := 1

def descriptorBytesWord : Nat := 16 + maxStageCount * 16

end StagePlan

/-- Errors of the planner, with the text each of them carries. -/
inductive StagePlanError
  | invalidArgument (message : String)
  | capacityExceeded (message : String)
  | abiMismatch (message : String)
  | internalError (message : String)

structure StagePlanGeometry where
  layerCount : Nat
  firstRoutedLayer : Nat
  maxRoutedLayersPerStage : Nat := StagePlan.maxRoutedLayersPerStage

structure StageFlags where
  finalToken : Bool := false
  inputHidden : Bool := false
  outputHidden : Bool := false
  densePrefix : Bool := false

/-- The layer range of one pipeline stage. -/
structure StagePlanStage where
  firstLayerIndex : Nat := 0
  layerCount : Nat := 0
  flags : StageFlags := {}

structure StagePlan where
  abiVersion : Nat := StagePlan.abiVersionWord
  descriptorBytes : Nat := StagePlan.descriptorBytesWord
  stageCount : Nat := 0
  stages : List StagePlanStage := []

/-- The cost of every layer, and that of emitting the token. -/
structure CostProfile where
  layerCostNs : List Nat
  finalStageExtraCostNs : Nat

inductive QuantizationMode
  | auto
  | nvfp4
  | fp8E4m3
  deriving DecidableEq

def QuantizationMode.normalize : QuantizationMode → QuantizationMode
  | .auto => .nvfp4
  | mode => mode

namespace StagePlan

def batchBucketIsSupported (batchBucket : Nat) : Bool := batchBuckets.contains batchBucket

/-- The smallest bucket that holds the sequences, or zero. -/
def selectBatchBucketValue (activeSequenceCount : Nat) : Nat :=
  if activeSequenceCount = 0 ∨ maxBatchBucket < activeSequenceCount then 0
  else (batchBuckets.find? (activeSequenceCount ≤ ·)).getD bucketB1024

def selectBatchBucket (activeSequenceCount : Nat) : Except StagePlanError Nat :=
  if activeSequenceCount = 0 then .error (.invalidArgument "active sequence count is zero")
  else if selectBatchBucketValue activeSequenceCount = 0 then
    .error (.capacityExceeded "active sequence count exceeds the maximum batch bucket")
  else .ok (selectBatchBucketValue activeSequenceCount)

def routedLayerCountForRange
    (firstLayerIndex layerCount firstRoutedLayer totalLayerCount : Nat) : Nat :=
  min (firstLayerIndex + layerCount) totalLayerCount - max firstLayerIndex firstRoutedLayer

variable (geometry : StagePlanGeometry)

/-- The cut rules for one stage. -/
def layerRangeIsValid (firstLayerIndex layerCount : Nat) : Bool :=
  if layerCount = 0 ∨ geometry.layerCount ≤ firstLayerIndex then false
  else if geometry.layerCount - firstLayerIndex < layerCount then false
  -- A dense prefix exists only where a routed region follows it.
  else if geometry.firstRoutedLayer < geometry.layerCount ∧
      ((firstLayerIndex ≠ 0 ∧ firstLayerIndex < geometry.firstRoutedLayer) ∨
        firstLayerIndex + layerCount < geometry.firstRoutedLayer) then false
  else routedLayerCountForRange firstLayerIndex layerCount geometry.firstRoutedLayer
    geometry.layerCount ≤ geometry.maxRoutedLayersPerStage

/-- The flags of the stage at `stageIndex` of `stageCount`. -/
def stageFlagsAt (stageCount stageIndex : Nat) (stage : StagePlanStage) : StageFlags :=
  { inputHidden := true
    outputHidden := stageIndex + 1 < stageCount
    finalToken := ¬ stageIndex + 1 < stageCount
    densePrefix := decide (stage.firstLayerIndex = 0 ∧
      geometry.firstRoutedLayer ≤ stage.layerCount) }

def assignStageFlags (plan : StagePlan) : StagePlan :=
  { plan with
    stages := plan.stages.zipIdx.map fun indexed =>
      if indexed.2 < plan.stageCount then
        { indexed.1 with flags := stageFlagsAt geometry plan.stageCount indexed.2 indexed.1 }
      else indexed.1 }

/-- The next first layer, and the final stages seen so far. -/
structure ValidateCursor where
  expectedFirstLayerIndex : Nat := 0
  finalStageCount : Nat := 0

def validateStage (stageCount : Nat) (cursor : ValidateCursor)
    (indexed : StagePlanStage × Nat) : Except StagePlanError ValidateCursor :=
  let stage := indexed.1
  let next := { cursor with expectedFirstLayerIndex := stage.firstLayerIndex + stage.layerCount }
  if stage.firstLayerIndex ≠ cursor.expectedFirstLayerIndex then
    .error (.invalidArgument "stage layers are not contiguous")
  else if layerRangeIsValid geometry stage.firstLayerIndex stage.layerCount = false then
    .error (.invalidArgument "stage layer range violates GLM-5.2 cut rules")
  else if stage.flags.finalToken then
    if indexed.2 + 1 ≠ stageCount then
      .error (.invalidArgument "final-token stage is not the last stage")
    else .ok { next with finalStageCount := cursor.finalStageCount + 1 }
  else if stage.flags.outputHidden = false then
    .error (.invalidArgument "non-final stage must emit hidden state")
  else .ok next

def validate (plan : StagePlan) : Except StagePlanError Unit :=
  if plan.abiVersion ≠ abiVersionWord ∨ plan.descriptorBytes ≠ descriptorBytesWord then
    .error (.abiMismatch "stage plan ABI mismatch")
  else if plan.stageCount = 0 ∨ maxStageCount < plan.stageCount then
    .error (.invalidArgument "stage count is outside supported range")
  else if plan.stages.length < plan.stageCount then
    .error (.invalidArgument "stage table holds fewer entries than stage count")
  else do
    let cursor ← (plan.stages.take plan.stageCount).zipIdx.foldlM
      (validateStage geometry plan.stageCount) {}
    if cursor.expectedFirstLayerIndex ≠ geometry.layerCount then
      .error (.invalidArgument "stage plan does not cover all GLM-5.2 layers")
    else if cursor.finalStageCount ≠ 1 then
      .error (.invalidArgument "stage plan must contain exactly one final-token stage")
    else .ok ()

/-- Flags are assigned and the plan is validated. -/
def finish (plan : StagePlan) : Except StagePlanError StagePlan := do
  let plan := assignStageFlags geometry plan
  plan.validate geometry
  return plan

/-- Running sums of the layer costs, the latest first. -/
def prefixCosts : List Nat → List Nat → Except StagePlanError (List Nat)
  | costs, [] => .ok costs.reverse
  | costs, layerCost :: rest =>
    let sum := (costs.headD 0 + layerCost) % 2 ^ 64
    if layerCost = 0 then .error (.invalidArgument "layer cost cannot be zero")
    else if sum < costs.headD 0 then
      .error (.capacityExceeded "layer cost prefix overflow")
    else prefixCosts (sum :: costs) rest

/-- A state of the dynamic program: its cost and where its last stage starts. -/
structure PlanCell where
  bestCost : Nat := unreachableCost
  bestSplit : Option Nat := none

/-- Tries to end a stage at `layerIndex` that starts at `splitLayerIndex`. -/
def improveCell (prefixCostNs : List Nat)
    (finalStageExtraCostNs : Option Nat) (previous : List PlanCell) (layerIndex : Nat)
    (cell : PlanCell) (splitLayerIndex : Nat) : PlanCell :=
  let reached := (previous.getD splitLayerIndex {}).bestCost
  let segmentCost := prefixCostNs.getD layerIndex 0 - prefixCostNs.getD splitLayerIndex 0
  if reached = unreachableCost then cell
  else if layerRangeIsValid geometry splitLayerIndex (layerIndex - splitLayerIndex) = false then
    cell
  -- Only the last row is charged the cost of the final stage.
  else if 2 ^ 64 - 1 - finalStageExtraCostNs.getD 0 < segmentCost ∧
      finalStageExtraCostNs.isSome then cell
  else
    let candidateCost := max reached (segmentCost + finalStageExtraCostNs.getD 0)
    if candidateCost < cell.bestCost then
      { bestCost := candidateCost, bestSplit := some splitLayerIndex }
    else cell

/-- The row of the dynamic program that follows `previous`. -/
def nextRow (prefixCostNs : List Nat)
    (finalStageExtraCostNs : Option Nat) (previous : List PlanCell) : List PlanCell :=
  (List.range (geometry.layerCount + 1)).map fun layerIndex =>
    (List.range layerIndex).foldl
      (improveCell geometry prefixCostNs finalStageExtraCostNs previous layerIndex) {}

/-- The rows for `0 .. stageCount` stages. -/
def planRows (geometry : StagePlanGeometry) (prefixCostNs : List Nat)
    (finalStageExtraCostNs stageCount : Nat) : Nat → List (List PlanCell)
  | 0 => [{ bestCost := 0 } :: List.replicate geometry.layerCount {}]
  | stageIndex + 1 =>
    let rows := planRows geometry prefixCostNs finalStageExtraCostNs stageCount stageIndex
    rows ++ [nextRow geometry prefixCostNs
      (if stageIndex + 1 = stageCount then some finalStageExtraCostNs else none)
      (rows.getD stageIndex [])]

/-- Follows the recorded splits back over `stageIndex` stages. -/
def backtrack (rows : List (List PlanCell)) :
    Nat → Nat → List StagePlanStage → Except StagePlanError (List StagePlanStage)
  | 0, _, stages => .ok stages
  | stageIndex + 1, currentLayerIndex, stages =>
    match ((rows.getD (stageIndex + 1) []).getD currentLayerIndex {}).bestSplit with
    | none => .error (.internalError "stage-plan backtrack failed")
    | some splitLayerIndex =>
      backtrack rows stageIndex splitLayerIndex
        ({ firstLayerIndex := splitLayerIndex
           layerCount := currentLayerIndex - splitLayerIndex } :: stages)

variable (layerCostNs : List Nat)

/-- The exact dynamic program that minimises the largest stage cost. -/
def buildBalancedWithFinalCost
    (finalStageExtraCostNs stageCount : Nat) : Except StagePlanError StagePlan :=
  if layerCostNs.length < geometry.layerCount ∨ stageCount = 0 ∨ maxStageCount < stageCount then
    .error (.invalidArgument "invalid balanced stage-plan input")
  else do
    let prefixCostNs ← prefixCosts [0] (layerCostNs.take geometry.layerCount)
    let rows := planRows geometry prefixCostNs finalStageExtraCostNs stageCount stageCount
    if ((rows.getD stageCount []).getD geometry.layerCount {}).bestCost = unreachableCost then
      .error (.capacityExceeded "stage count cannot satisfy the cut rules")
    else
      let stages ← backtrack rows stageCount geometry.layerCount []
      finish geometry { stageCount, stages }

/-! ## Cost profiles -/

/-- Spreads the cost of a segment over its layers, the rest over the earliest. -/
def storeUniformSegmentCost (segmentCostNs firstLayerIndex layerCount : Nat)
    (layerCostNs : List Nat) : List Nat :=
  (List.range layerCount).foldl (fun layerCostNs layerOffset =>
    layerCostNs.set (firstLayerIndex + layerOffset)
      (segmentCostNs / layerCount + if layerOffset < segmentCostNs % layerCount then 1 else 0))
    layerCostNs

/-- Stores thirteen measured segments of six layers each. -/
def storeRingCosts (stageCostNs layerCostNs : List Nat) : List Nat :=
  stageCostNs.zipIdx.foldl (fun layerCostNs indexed =>
    storeUniformSegmentCost indexed.1 (indexed.2 * 6) 6 layerCostNs) layerCostNs

def loadMeasuredB64CostProfile : CostProfile :=
  { layerCostNs := storeRingCosts
      [50660288, 45685889, 45232480, 45782816, 44223711, 45062784, 45439968, 45055391, 45370304,
        46190688, 44552225, 45824320, 46449792] layerCostNs
    finalStageExtraCostNs := 0 }

def loadMeasuredB128CostProfile : CostProfile :=
  { layerCostNs := storeRingCosts
      [177756500, 188399000, 193653016, 197361562, 195107453, 195583047, 192805688, 194702031,
        195701188, 193026547, 196165188, 190992359, 194542891] layerCostNs
    finalStageExtraCostNs := 0 }

def loadMeasuredB32CostProfile : CostProfile :=
  { layerCostNs := storeRingCosts
      [39691000, 35142000, 33496000, 36755000, 38837000, 41760000, 46160000, 56283000, 60862000,
        69126000, 72429000, 81610000, 73314000] layerCostNs
    finalStageExtraCostNs := 39342000 }

/-- Scales every cost by `numerator / denominator`, rounding up. -/
def scaleCostProfile (profile : CostProfile) (numerator denominator : Nat) : CostProfile :=
  let scale cost := (cost * numerator + denominator - 1) / denominator
  { layerCostNs := profile.layerCostNs.map scale
    finalStageExtraCostNs := scale profile.finalStageExtraCostNs }

def loadEstimatedLargeBatchCostProfile (batchBucket : Nat) (layerCostNs : List Nat) :
    Except StagePlanError CostProfile :=
  if batchBucket < bucketB128 ∨ batchBucketIsSupported batchBucket = false then
    .error (.invalidArgument "invalid large-batch profile bucket")
  else .ok (scaleCostProfile (loadMeasuredB128CostProfile layerCostNs) batchBucket bucketB128)

def loadUniformCostProfile (layerCostNsEstimate finalStageExtraCostNsEstimate : Nat) :
    Except StagePlanError CostProfile :=
  if layerCostNsEstimate = 0 ∨ geometry.layerCount = 0 ∨ maxLayerCount < geometry.layerCount then
    .error (.invalidArgument "invalid uniform cost-profile input")
  else .ok
    { layerCostNs := List.replicate geometry.layerCount layerCostNsEstimate
      finalStageExtraCostNs := finalStageExtraCostNsEstimate }

variable (measuredProfileId batchBucket : Nat)

/-- The quantization mode has no effect on the profile. -/
def loadMeasuredCostProfileForQuantization (_quantizationMode : QuantizationMode) :
    Except StagePlanError CostProfile :=
  let layerCostNs := List.replicate geometry.layerCount 0
  if measuredProfileId ≠ measuredProfile20260701 then
    .error (.invalidArgument "unknown measured profile")
  else if batchBucket = bucketB64 then .ok (loadMeasuredB64CostProfile layerCostNs)
  else if batchBucket = bucketB128 then .ok (loadMeasuredB128CostProfile layerCostNs)
  else if bucketB128 < batchBucket ∧ batchBucketIsSupported batchBucket then
    loadEstimatedLargeBatchCostProfile batchBucket layerCostNs
  else if batchBucket = bucketB32 ∨ batchBucket = bucketB16 then
    .ok (loadMeasuredB32CostProfile layerCostNs)
  else .error (.invalidArgument "unsupported batch bucket")

def buildMeasuredBalancedForQuantization (quantizationMode : QuantizationMode)
    (stageCount : Nat) : Except StagePlanError StagePlan :=
  match loadMeasuredCostProfileForQuantization geometry measuredProfileId batchBucket
      quantizationMode with
  | .error (.invalidArgument _) =>
    .error (.invalidArgument "measured stage-plan profile is unavailable")
  | .error error => .error error
  | .ok profile => buildBalancedWithFinalCost geometry profile.layerCostNs
      profile.finalStageExtraCostNs stageCount

structure ExecutionChunkShape where
  maximumSequencesPerChunk : Nat
  chunkCount : Nat

/-- How many sequences fit one execution, and how many executions that takes. -/
def executionChunkShape (logicalSequenceCount rowsPerSequence executionRowCapacity : Nat) :
    Except StagePlanError ExecutionChunkShape :=
  let fitting := min executionRowCapacity maxBatchBucket / rowsPerSequence
  if logicalSequenceCount = 0 ∨ rowsPerSequence = 0 ∨ executionRowCapacity = 0 then
    .error (.invalidArgument "invalid execution chunk-shape input")
  else if fitting = 0 then
    .error (.capacityExceeded "one sequence does not fit the execution row capacity")
  else
    let maximumSequencesPerChunk := min fitting logicalSequenceCount
    .ok
      { maximumSequencesPerChunk
        chunkCount := logicalSequenceCount / maximumSequencesPerChunk +
          if logicalSequenceCount % maximumSequencesPerChunk ≠ 0 then 1 else 0 }

end StagePlan

end SparkPipe
