import SparkPipe.Serve.RequestApi.Seams

/-!
# Prefetch plans over the arena

A plan lists the nonresident blocks that a backend has to copy, spread over the copy lanes in
turn. Once they are copied the plan is marked resident, which first makes room for the blocks
that were not resident before.
-/

open Program

namespace SparkPipe

namespace PrefetchPlan

variable (plan : PrefetchPlan)

def prefetchBlockCount : Nat := plan.blocks.length

def alreadyContainsBlock (physicalBlockIndex : Nat) : Bool :=
  plan.blocks.any (·.physicalBlockIndex == physicalBlockIndex)

def containsBlockBeforeIndex (blockIndexLimit physicalBlockIndex : Nat) :
    Bool :=
  (plan.blocks.take blockIndexLimit).any (·.physicalBlockIndex == physicalBlockIndex)

def isValid : Bool :=
  plan.laneCount ≠ 0 && plan.laneCount ≤ maxPrefetchLaneCount &&
  plan.prefetchBlockCount ≤ prefetchBlockCapacity &&
  plan.blocks.all fun block =>
    block.laneIndex < plan.laneCount && (block.flags.key || block.flags.value)

end PrefetchPlan

/-- Programs over the arena with the errors of the request API. -/
abbrev ArenaM := EStateM RequestApiError KvArena

variable (arena : KvArena)

def arenaHasValuePayload : Bool := arena.valueBlockStrideBytes ≠ 0

def validatePrefetchSourceBlock (sourceBlock : PrefetchSourceBlock)
    (flags : PrefetchBlockFlags) : Except RequestApiError Unit :=
  if arena.physicalBlockCount ≤ sourceBlock.physicalBlockIndex ∨
      (flags.key = false ∧ flags.value = false) then .error .invalidArgument
  else if flags.value ∧ arenaHasValuePayload arena = false then .error .invalidArgument
  else if sourceBlock.tokenCapacity ≠ 0 ∧ sourceBlock.tokenCapacity < sourceBlock.tokenCount then
    .error .invalidArgument
  else .ok ()

/-- Adds a block on the next lane; only an allocated block has a view. -/
def prefetchPlanAddSourceBlock (plan : PrefetchPlan)
    (sourceBlock : PrefetchSourceBlock) (flags : PrefetchBlockFlags) :
    Except RequestApiError PrefetchPlan :=
  if arena.isAllocated sourceBlock.physicalBlockIndex then
    let laneIndex := plan.blocks.length % plan.laneCount
    .ok {
      plan with
      blocks := plan.blocks ++
        [{ laneIndex
           physicalBlockIndex := sourceBlock.physicalBlockIndex
           tokenCapacity := arena.blockTokenCount
           firstTokenIndex := sourceBlock.firstTokenIndex
           tokenCount := sourceBlock.tokenCount
           flags
           generation := arena.generation sourceBlock.physicalBlockIndex
           parentHash := sourceBlock.parentHash
           blockHash := sourceBlock.blockHash
           contentHash := sourceBlock.contentHash }]
      laneBlockCounts :=
        plan.laneBlockCounts.set laneIndex (plan.laneBlockCounts.getD laneIndex 0 + 1) }
  else .error .internalError

def prefetchPlanConsiderSourceBlock (flags : PrefetchBlockFlags)
    (plan : PrefetchPlan) (sourceBlock : PrefetchSourceBlock) :
    Except RequestApiError PrefetchPlan := do
  validatePrefetchSourceBlock arena sourceBlock flags
  let physicalBlockIndex := sourceBlock.physicalBlockIndex
  if plan.alreadyContainsBlock physicalBlockIndex then
    return { plan with duplicateBlockCount := plan.duplicateBlockCount + 1 }
  else if arena.isAllocated physicalBlockIndex = false then throw .notFound
  else if sourceBlock.generation ≠ 0 ∧
      sourceBlock.generation ≠ arena.generation physicalBlockIndex then
    throw .hashMismatch
  else if arena.isResident physicalBlockIndex then
    return { plan with residentBlockCount := plan.residentBlockCount + 1 }
  else if prefetchBlockCapacity ≤ plan.prefetchBlockCount then throw .capacityExceeded
  else prefetchPlanAddSourceBlock arena plan sourceBlock flags

def buildPrefetchPlanFromSourceBlocks (sourceBlocks : List PrefetchSourceBlock)
    (flags : PrefetchBlockFlags) (laneCount : Nat) : Except RequestApiError PrefetchPlan :=
  if laneCount = 0 ∨ maxPrefetchLaneCount < laneCount then .error .invalidArgument
  else
    sourceBlocks.foldlM (prefetchPlanConsiderSourceBlock arena flags)
      { laneCount, requestedPhysicalBlockCount := sourceBlocks.length }

def prefetchFlagsOf : PrefetchBlockFlags :=
  { key := true, value := arenaHasValuePayload arena }

def buildPrefetchPlan (physicalBlockIndices : List Nat) (laneCount : Nat) :
    Except RequestApiError PrefetchPlan :=
  if prefetchBlockCapacity < physicalBlockIndices.length then .error .capacityExceeded
  else
    buildPrefetchPlanFromSourceBlocks arena (physicalBlockIndices.map fun physicalBlockIndex =>
        { physicalBlockIndex, tokenCapacity := 0, firstTokenIndex := 0, tokenCount := 0
          generation := 0, parentHash := 0, blockHash := 0, contentHash := 0 })
      (prefetchFlagsOf arena) laneCount

/-- The translation of a failed trim. -/
def RequestApiError.ofTrim : KvArenaError → RequestApiError
  | .capacityExceeded => .capacityExceeded
  | .invalidArgument => .invalidArgument
  | _ => .internalError

/-- Run an arena operation, translating its errors. -/
def onKvArena {α : Type} (translate : KvArenaError → RequestApiError)
    (m : EStateM KvArenaError KvArena α) : ArenaM α :=
  onPart id (fun _ arena => arena) translate m

variable (residentBlockCapacity : Nat)

def makeRoomForPrefetch (plan : PrefetchPlan)
    (protectedBlocks : List Nat) (newResidentBlockCount : Nat) : ArenaM Unit := do
  if residentBlockCapacity < newResidentBlockCount then throw .capacityExceeded
  else if (← get).residentBlockCount + newResidentBlockCount ≤ residentBlockCapacity then
    pure ()
  else
    let _ ← onKvArena .ofTrim (KvArena.trimResidentBlocks
      (protectedBlocks ++ plan.blocks.map PrefetchBlock.physicalBlockIndex)
      (residentBlockCapacity - newResidentBlockCount))

/-- Checks one block of a plan and counts it if it is not resident yet. -/
def countNewResidentBlock (plan : PrefetchPlan) (count : Nat)
    (indexed : PrefetchBlock × Nat) : Except RequestApiError Nat :=
  let physicalBlockIndex := indexed.1.physicalBlockIndex
  if arena.physicalBlockCount ≤ physicalBlockIndex then .error .invalidArgument
  else if arena.isAllocated physicalBlockIndex = false then .error .notFound
  else if arena.generation physicalBlockIndex ≠ indexed.1.generation then .error .hashMismatch
  else if arena.isResident physicalBlockIndex = false ∧
      plan.containsBlockBeforeIndex indexed.2 physicalBlockIndex = false then .ok (count + 1)
  else .ok count

/-- Return an outcome that was computed without effects. -/
def liftExcept {ε σ α : Type} : Except ε α → EStateM ε σ α
  | .ok a => pure a
  | .error e => throw e

def markPrefetchPlanResidentWithProtectedBlocks
    (plan : PrefetchPlan) (protectedBlocks : List Nat) : ArenaM Unit := do
  if plan.isValid = false then throw .invalidArgument
  else
    let arena ← get
    let newResidentBlockCount ← liftExcept
      (plan.blocks.zipIdx.foldlM (countNewResidentBlock arena plan) 0)
    makeRoomForPrefetch residentBlockCapacity plan protectedBlocks newResidentBlockCount
    forM plan.blocks fun block =>
      onKvArena (fun _ => .internalError) (KvArena.markBlockResident block.physicalBlockIndex)

def markPrefetchPlanResident (plan : PrefetchPlan) : ArenaM Unit :=
  markPrefetchPlanResidentWithProtectedBlocks residentBlockCapacity plan []

/-- The binary search for the largest target that a trim accepts. -/
def probeCapacityLoop : Nat → Nat → Nat → EStateM KvArenaError KvArena Nat
  | 0, low, _ => pure low
  | rounds + 1, low, high =>
    if low < high then do
      let mid := low + (high - low + 1) / 2
      match ← (attempt (KvArena.trimResidentBlocks [] mid) :
        EStateM KvArenaError KvArena (Except KvArenaError Nat)) with
      | .ok _ => probeCapacityLoop rounds mid high
      | .error _ => probeCapacityLoop rounds low (mid - 1)
    else pure low

def probeResidentBlockCapacity : EStateM KvArenaError KvArena Nat := do
  let physicalBlockCount := (← get).physicalBlockCount
  probeCapacityLoop physicalBlockCount 0 physicalBlockCount

end SparkPipe
