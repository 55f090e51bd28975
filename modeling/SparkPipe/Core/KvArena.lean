import SparkPipe.Program.Basic
import SparkPipe.Program.Table

/-!
# The paged KV block arena

The arena owns a fixed table of KV blocks. A block is claimed by `acquireBlock` with a
reference count of zero, referenced by `retainBlock`, dereferenced by
`releaseBlockReference`, and leaves the allocated state only through `freeBlock`;
`recycleBlock` re-arms an unreferenced block in place. Residency is a second bit, managed
by `markBlockResident`, `markBlockNonresident` and the two trimming loops.

The flags word of a block is a pair of Booleans, one for each defined bit. Device
addresses, the key stride and the cumulative statistics are never read back and are left out;
the value stride tells whether there is a value payload.
-/

open Program

namespace SparkPipe

inductive KvArenaError
  | invalidArgument
  | capacityExceeded
  | notFound
  | busy
  | internal
  deriving DecidableEq

/-- The arena's record of a block. -/
structure KvBlock where
  allocated : Bool := false
  resident : Bool := false
  tokenCapacity : Nat := 0
  referenceCount : Nat := 0
  generation : Nat := 0
  lastUsedEpoch : Nat := 0
  deriving DecidableEq

/-- The part of a block that says who owns it. -/
structure BlockOwnership where
  allocated : Bool
  referenceCount : Nat
  generation : Nat

def KvBlock.ownership (block : KvBlock) : BlockOwnership :=
  { allocated := block.allocated
    referenceCount := block.referenceCount
    generation := block.generation }

structure KvArenaConfig where
  physicalBlockCount : UInt32
  blockTokenCount : UInt32
  residentBlockCapacity : UInt32
  layerCount : UInt32
  kvHeadCount : UInt32
  headDim : UInt32
  bytesPerScalar : UInt32
  keyBlockStrideBytes : UInt64
  valueBlockStrideBytes : UInt64
  keyDeviceBase : UInt64
  valueDeviceBase : UInt64
  deriving DecidableEq

/-- The arena: its geometry, its block table and its residency counter. -/
structure KvArena where
  blockTokenCount : Nat
  residentBlockCapacity : Nat
  valueBlockStrideBytes : Nat
  blocks : List KvBlock
  epoch : Nat
  residentBlockCount : Nat
  deriving DecidableEq

/-- Maximum tokens per block, for the arena and for the prefix cache over it. -/
def maxBlockTokens : Nat := 256

def maxLayerCount : Nat := 256

/-- The bytes of the scalars of a block, in a 64-bit word. -/
def KvArenaConfig.defaultBlockStrideBytes (config : KvArenaConfig) : Nat :=
  config.blockTokenCount.toNat * config.layerCount.toNat * config.kvHeadCount.toNat *
    config.headDim.toNat * config.bytesPerScalar.toNat % 2 ^ 64

namespace KvArena

/-- A fresh, unallocated block of the arena's geometry. -/
def makeBlock (blockTokenCount : Nat) : KvBlock := { tokenCapacity := blockTokenCount }

def new (config : KvArenaConfig) : Except KvArenaError KvArena :=
  if config.physicalBlockCount = 0 ∨ config.blockTokenCount = 0 ∨
      maxBlockTokens < config.blockTokenCount.toNat ∨
      config.physicalBlockCount < config.residentBlockCapacity ∨
      config.layerCount = 0 ∨ maxLayerCount < config.layerCount.toNat ∨
      config.kvHeadCount = 0 ∨ config.headDim = 0 ∨ config.bytesPerScalar = 0 ∨
      config.keyDeviceBase = 0 ∨
      (config.valueDeviceBase = 0 ∧ config.valueBlockStrideBytes ≠ 0) then
    .error .invalidArgument
  else
    .ok {
      blockTokenCount := config.blockTokenCount.toNat
      residentBlockCapacity :=
        if config.residentBlockCapacity ≠ 0 then config.residentBlockCapacity.toNat
        else config.physicalBlockCount.toNat
      valueBlockStrideBytes :=
        if config.valueDeviceBase = 0 ∧ config.valueBlockStrideBytes = 0 then 0
        else if config.valueBlockStrideBytes ≠ 0 then config.valueBlockStrideBytes.toNat
        else config.defaultBlockStrideBytes
      blocks := List.replicate config.physicalBlockCount.toNat
        (makeBlock config.blockTokenCount.toNat)
      epoch := 0
      residentBlockCount := 0 }

variable (a : KvArena)

/-- Number of physical blocks; the block table is never resized. -/
def physicalBlockCount : Nat := a.blocks.length

variable (physicalBlockIndex : Nat)

/-- A block; out of range, an unallocated one. -/
def block : KvBlock :=
  a.blocks.getD physicalBlockIndex {}

def isAllocated : Bool :=
  (a.block physicalBlockIndex).allocated

def isResident : Bool :=
  (a.block physicalBlockIndex).resident

def referenceCount : Nat :=
  (a.block physicalBlockIndex).referenceCount

def generation : Nat :=
  (a.block physicalBlockIndex).generation

def lastUsedEpoch : Nat :=
  (a.block physicalBlockIndex).lastUsedEpoch

/-- Advance the epoch, rewrite one block and stamp it. -/
def stamp (residentBlockCount : Nat) (f : KvBlock → KvBlock) : KvArena :=
  { a with
    epoch := a.epoch + 1
    residentBlockCount
    blocks := a.blocks.set physicalBlockIndex
      { f (a.block physicalBlockIndex) with lastUsedEpoch := a.epoch + 1 } }

/-- The residency counter after the resident bit of one block is cleared. -/
def residentCountWithout : Nat :=
  if a.isResident physicalBlockIndex then a.residentBlockCount - 1 else a.residentBlockCount

/-! ### Ownership -/

/-- Claim the first free block; its reference count starts at zero. -/
def acquireBlock : EStateM KvArenaError KvArena Nat := fun a =>
  match a.blocks.findIdx? (fun block => !block.allocated) with
  | some index =>
    .ok index (a.stamp index a.residentBlockCount fun block =>
      { block with
        allocated := true, resident := false, referenceCount := 0,
        generation := block.generation + 1 })
  | none => .error .capacityExceeded a

/-- Re-arm an allocated, unreferenced block in place. -/
def recycleBlock : EStateM KvArenaError KvArena Unit := fun a =>
  if !a.isAllocated physicalBlockIndex then .error .invalidArgument a
  else if a.referenceCount physicalBlockIndex ≠ 0 then .error .busy a
  else
    .ok () (a.stamp physicalBlockIndex (a.residentCountWithout physicalBlockIndex) fun block =>
      { block with
        allocated := true, resident := false, generation := block.generation + 1 })

/-- One more reference. -/
def retainBlock : EStateM KvArenaError KvArena Unit := fun a =>
  if !a.isAllocated physicalBlockIndex then .error .invalidArgument a
  else
    .ok () (a.stamp physicalBlockIndex a.residentBlockCount fun block =>
      { block with referenceCount := block.referenceCount + 1 })

/-- Drop one reference; releasing at zero is rejected. -/
def releaseBlockReference : EStateM KvArenaError KvArena Unit :=
  fun a =>
    if !a.isAllocated physicalBlockIndex ∨ a.referenceCount physicalBlockIndex = 0 then
      .error .invalidArgument a
    else
      .ok () (a.stamp physicalBlockIndex a.residentBlockCount fun block =>
        { block with referenceCount := block.referenceCount - 1 })

/-- Free an unreferenced block; a free block stays so. -/
def freeBlock : EStateM KvArenaError KvArena Unit := fun a =>
  if a.physicalBlockCount ≤ physicalBlockIndex then .error .invalidArgument a
  else if !a.isAllocated physicalBlockIndex then .ok () a
  else if a.referenceCount physicalBlockIndex ≠ 0 then .error .busy a
  else
    .ok () (a.stamp physicalBlockIndex (a.residentCountWithout physicalBlockIndex) fun block =>
      { block with
        allocated := false, resident := false, generation := block.generation + 1 })

/-! ### Residency -/

/-- The unprotected resident with the fewest references, then the oldest stamp, then the lowest
index. -/
def selectResidentEvictionVictim (protectedBlocks : List Nat) : Option Nat :=
  (List.range a.physicalBlockCount).foldl (fun victim index =>
    if !a.isAllocated index || !a.isResident index || protectedBlocks.contains index then victim
    else
      match victim with
      | none => some index
      | some current =>
        if a.referenceCount index < a.referenceCount current ∨
            (a.referenceCount index = a.referenceCount current ∧
              a.lastUsedEpoch index < a.lastUsedEpoch current) then
          some index
        else victim) none

/-- Clear the resident bit of a block chosen by the trimming loop. -/
def evictResidentBlock : KvArena :=
  a.stamp physicalBlockIndex (a.residentBlockCount - 1) fun block =>
    { block with resident := false }

/-- The trimming loop; the excess over the target bounds the rounds. -/
def trimLoop (protectedBlocks : List Nat) (targetResidentBlockCount : Nat) :
    Nat → Nat → EStateM KvArenaError KvArena Nat
  | 0, evicted => pure evicted
  | fuel + 1, evicted => fun a =>
      if targetResidentBlockCount < a.residentBlockCount then
        match a.selectResidentEvictionVictim protectedBlocks with
        | none => .error .capacityExceeded a
        | some victim =>
          trimLoop protectedBlocks targetResidentBlockCount fuel (evicted + 1)
            (a.evictResidentBlock victim)
      else .ok evicted a

variable (protectedBlocks : List Nat)

def trimResidentBlocksInner (targetResidentBlockCount : Nat) :
    EStateM KvArenaError KvArena Nat := fun a =>
  trimLoop protectedBlocks targetResidentBlockCount
    (a.residentBlockCount - targetResidentBlockCount) 0 a

/-- Evict unprotected residents down to a target, or fail for want of victims. -/
def trimResidentBlocks (targetResidentBlockCount : Nat) :
    EStateM KvArenaError KvArena Nat := fun a =>
  if a.residentBlockCapacity < targetResidentBlockCount then .error .invalidArgument a
  else trimResidentBlocksInner protectedBlocks targetResidentBlockCount a

/-- Ensure that some more blocks can become resident. -/
def makeRoomForResidentBlocks (newResidentBlockCount : Nat) :
    EStateM KvArenaError KvArena Unit := fun a =>
  if a.residentBlockCapacity < newResidentBlockCount then .error .capacityExceeded a
  else if a.residentBlockCount + newResidentBlockCount ≤ a.residentBlockCapacity then .ok () a
  else
    (do let _ ← trimResidentBlocksInner protectedBlocks
          (a.residentBlockCapacity - newResidentBlockCount)) a

/-- Mark an allocated block resident, making room for it. -/
def markBlockResident : EStateM KvArenaError KvArena Unit := do
  let a ← get
  if !a.isAllocated physicalBlockIndex then throw .invalidArgument
  else do
    if !a.isResident physicalBlockIndex then do
      makeRoomForResidentBlocks [physicalBlockIndex] 1
      modify fun a => { a with residentBlockCount := a.residentBlockCount + 1 }
    modify fun a =>
      a.stamp physicalBlockIndex a.residentBlockCount fun block => { block with resident := true }

/-- The block leaves residency. -/
def markBlockNonresident : EStateM KvArenaError KvArena Unit :=
  fun a =>
    if !a.isAllocated physicalBlockIndex then .error .invalidArgument a
    else
      .ok () (a.stamp physicalBlockIndex (a.residentCountWithout physicalBlockIndex)
        fun block => { block with resident := false })

/-- The loop of `evictResidentBlocksToLimit`, bounded like `trimLoop`. -/
def evictLoop (maxResidentBlockCount : Nat) (protectedBlocks : List Nat) :
    Nat → Nat → EStateM KvArenaError KvArena Nat
  | 0, evicted => pure evicted
  | fuel + 1, evicted => do
      let a ← get
      if maxResidentBlockCount < a.residentBlockCount then
        match a.selectResidentEvictionVictim protectedBlocks with
        | none => pure evicted
        | some victim => do
            markBlockNonresident victim
            evictLoop maxResidentBlockCount protectedBlocks fuel (evicted + 1)
      else pure evicted

/-- Evict unprotected residents until a limit holds or no victim is left. -/
def evictResidentBlocksToLimit (maxResidentBlockCount : Nat) (protectedBlocks : List Nat) :
    EStateM KvArenaError KvArena Nat := fun a =>
  evictLoop maxResidentBlockCount protectedBlocks (a.residentBlockCount - maxResidentBlockCount) 0 a

def reset : KvArena :=
  { a with
    blocks := List.replicate a.physicalBlockCount (makeBlock a.blockTokenCount)
    epoch := 0
    residentBlockCount := 0 }

end KvArena

end SparkPipe
