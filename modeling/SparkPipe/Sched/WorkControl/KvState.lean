import SparkPipe.Program.Basic
import SparkPipe.Program.Probing
import SparkPipe.Sched.WorkControl.Packet

/-!
# The KV state of a rank

A rank keeps a directory of the KV blocks of its sequences. A directory entry names a block
record, several entries may name one record, and the record owns a physical block or, when it is
swapped out, a backing slot. Both tables are open addressed; their sizes are powers of two, so
that masking a hash is taking a remainder.

The parallel arrays over physical blocks are one list of records here, and a pin count is kept
for every block, with a flag that says whether pins are configured. Counters that are never read
back (readiness, sharing, store and load counts) are left out. The calls of the swap hooks and the
evictions are recorded in `KvState.swapLog`, the latest first; no operation reads that record.
-/

open Program

namespace SparkPipe

/-! ### Keys -/

/-- The identity of a block; the lowest bit of `high` is set for a private one. -/
structure KvKey where
  low : Nat := 0
  high : Nat := 0
  deriving DecidableEq

/-- The key of a vacant cell. -/
def KvKey.isEmpty (key : KvKey) : Bool := key.low = 0 && key.high = 0

namespace WorkControl

/-- The finalizer of `splitmix64`. -/
def kvMix (value : Nat) : Nat :=
  let value := Nat.xor value (value >>> 30)
  let value := value * 0xbf58476d1ce4e5b9 % 2 ^ 64
  let value := Nat.xor value (value >>> 27)
  let value := value * 0x94d049bb133111eb % 2 ^ 64
  Nat.xor value (value >>> 31)

/-- The key of a block of one sequence; the lowest bit of `high` is set. -/
def privateKey (sequenceId logicalBlockIndex : Nat) : KvKey :=
  let low := kvMix (Nat.xor sequenceId (logicalBlockIndex * 0x9e3779b97f4a7c15 % 2 ^ 64))
  { low, high := Nat.lor (kvMix (Nat.xor low 0xd6e8feb86659fd93)) 1 }

/-- The key of a shared block; the lowest bit of `high` is clear. -/
def contentKey (digestLow digestHigh : Nat) : KvKey :=
  { low := digestLow, high := Nat.land (Nat.lor digestHigh 2) (2 ^ 64 - 2) }

/-- The tokens of a lane below its drafts. -/
def kvCommittedFrontier (lane : WorkControlLane) : Nat :=
  let outstandingTokenCount := lane.speculativeTokenCount + lane.mtpDraftTokenCount
  if outstandingTokenCount < lane.contextTokenCount then
    lane.contextTokenCount - outstandingTokenCount
  else 0

/-- The content key that was published for a committed block, or the private one. -/
def kvSelectKey (laneKeys : Option (List KvKey)) (sequenceId logicalBlockIndex blockEndToken
    committedFrontier : Nat) : KvKey :=
  match laneKeys with
  | none => privateKey sequenceId logicalBlockIndex
  | some keys =>
    let key := keys.getD logicalBlockIndex {}
    if blockEndToken ≤ committedFrontier ∧ key.isEmpty = false then contentKey key.low key.high
    else privateKey sequenceId logicalBlockIndex

end WorkControl

/-! ### Data -/

/-- No block, and the end of a list. -/
def kvInvalidBlockIndex : Nat := 2 ^ 32 - 1

/-- Where the content of a record is. -/
inductive KvResidency
  | none
  | gpu
  | nvme
  deriving DecidableEq

/-- How far a physical block is computed. -/
inductive KvEntryState
  | missing
  | inFlight
  | resident
  | transient
  deriving DecidableEq

/-- The record that a block of a sequence uses. -/
structure KvDirectoryEntry where
  key : KvKey := {}
  blockKey : KvKey := {}
  deriving DecidableEq

/-- A record: where its block is, and how many entries name it. -/
structure KvBlockEntry where
  key : KvKey := {}
  physicalBlockIndex : Nat := 0
  backingBlockIndex : Nat := 0
  referenceCount : Nat := 0
  residencyState : KvResidency := .none
  backingValid : Bool := false
  prefetchMark : Nat := 0
  deriving DecidableEq

namespace KvBlockEntry

/-- The record of a key with its first reference. -/
@[grind =] def fresh (key : KvKey) (physicalBlockIndex backingBlockIndex : Nat) : KvBlockEntry :=
  { key, physicalBlockIndex, backingBlockIndex, referenceCount := 1, residencyState := .gpu }

variable (entry : KvBlockEntry)

/-- One more reference. -/
@[grind =] def retained : KvBlockEntry :=
  { entry with referenceCount := entry.referenceCount + 1 }

/-- One reference less. -/
@[grind =] def released : KvBlockEntry :=
  { entry with referenceCount := entry.referenceCount - 1 }

/-- The backing slot is valid, or no longer. -/
@[grind =] def withBacking (backingValid : Bool) : KvBlockEntry :=
  { entry with backingValid }

/-- The content is in the backing slot. -/
@[grind =] def spilled : KvBlockEntry :=
  { entry with physicalBlockIndex := kvInvalidBlockIndex, residencyState := .nvme }

/-- The content is in a physical block. -/
@[grind =] def loaded (physicalBlockIndex : Nat) : KvBlockEntry :=
  { entry with physicalBlockIndex, residencyState := .gpu }

@[grind =] def rekeyed (key : KvKey) : KvBlockEntry := { entry with key }

/-- The record carries the mark of a collection. -/
@[grind =] def marked (prefetchMark : Nat) : KvBlockEntry := { entry with prefetchMark }

end KvBlockEntry

/-- A block to fetch from its backing slot. -/
structure KvPrefetchEntry where
  key : KvKey
  backingBlockIndex : Nat
  deriving DecidableEq

/-- A block of the device. -/
structure KvPhysicalBlock where
  key : KvKey := {}
  state : KvEntryState := .missing
  lastUsedEpoch : Nat := 0
  pinCount : Nat := 0
  deriving DecidableEq

namespace KvPhysicalBlock

variable (block : KvPhysicalBlock)

/-- The block of nobody; pins stay. -/
@[grind =] def cleared : KvPhysicalBlock :=
  { block with key := {}, lastUsedEpoch := 0, state := .missing }

/-- The block is used for a key. -/
@[grind =] def assigned (key : KvKey) (epoch : Nat) (state : KvEntryState) :
    KvPhysicalBlock :=
  { block with key, lastUsedEpoch := epoch, state }

/-- The block with so many pins. -/
@[grind =] def withPins (pinCount : Nat) : KvPhysicalBlock := { block with pinCount }

/-- The block in a state. -/
@[grind =] def withState (state : KvEntryState) : KvPhysicalBlock :=
  { block with state }

/-- The block was used in an epoch. -/
@[grind =] def usedAt (epoch : Nat) : KvPhysicalBlock :=
  { block with lastUsedEpoch := epoch }

@[grind =] def rekeyed (key : KvKey) : KvPhysicalBlock := { block with key }

end KvPhysicalBlock

/-- The cell where the search for a key starts. -/
def kvIndexHome (size : Nat) (key : KvKey) : Nat := key.low % size

/-- The directory as a probing table. -/
def kvDirectorySlots : Slots KvDirectoryEntry KvKey where
  keyOf := KvDirectoryEntry.key
  vacant := {}
  home := kvIndexHome
  home_lt _ _ hpos := Nat.mod_lt _ hpos

/-- The records as a probing table. -/
def kvBlockSlots : Slots KvBlockEntry KvKey where
  keyOf := KvBlockEntry.key
  vacant := {}
  home := kvIndexHome
  home_lt _ _ hpos := Nat.mod_lt _ hpos

/-- The hooks that copy blocks between the device and their backing slots. -/
structure SwapHooks where
  Store : Type
  store : KvKey → Nat → Nat → EStateM WorkControlError Store Unit
  load : KvKey → Nat → Nat → EStateM WorkControlError Store Unit

/-- A call of a hook with its outcome, or the loss of a physical block. -/
inductive SwapEvent
  | store (key : KvKey) (physicalBlockIndex backingBlockIndex : Nat) (succeeded : Bool)
  | load (key : KvKey) (physicalBlockIndex backingBlockIndex : Nat) (succeeded : Bool)
  | spill (key : KvKey) (physicalBlockIndex backingBlockIndex : Nat)

structure KvState (W : SwapHooks) where
  laneStride : Nat
  blockTokenCount : Nat
  laneBlockKeyStride : Nat
  nextPhysicalBlockIndex : Nat
  freeBackingBlockHead : Nat
  directoryEntryCount : Nat
  blockEntryCount : Nat
  swappedBlockCount : Nat
  epoch : Nat
  controlGeneration : Nat
  allocatedPhysicalBlockCount : Nat
  prefetchGeneration : Nat
  physicalBlockIndices : List Nat
  lanePhysicalBlockCounts : List Nat
  physicalBlocks : List KvPhysicalBlock
  hasPins : Bool
  directoryEntries : List KvDirectoryEntry
  blockEntries : List KvBlockEntry
  laneBlockKeys : Option (List KvKey)
  backingBlockFreeNext : List Nat
  swapHooks : Option W.Store
  swapLog : List SwapEvent

/-- Operations on the tables, which may fail. -/
abbrev KvM (W : SwapHooks) := EStateM WorkControlError (KvState W)

namespace KvState

open WorkControl

variable {W : SwapHooks}

variable (s : KvState W)

/-- The lanes of the host table. -/
def laneCapacity : Nat := s.lanePhysicalBlockCounts.length

/-- The cells of the host table. -/
def tableEntryCapacity : Nat := s.physicalBlockIndices.length

/-- The blocks of the device. -/
def physicalBlockCapacity : Nat := s.physicalBlocks.length

/-- The cells of the directory. -/
def directoryCapacity : Nat := s.directoryEntries.length

/-- The cells for records. -/
def blockEntryCapacity : Nat := s.blockEntries.length

/-- Zero when swapping is not configured. -/
def backingBlockCapacity : Nat := s.backingBlockFreeNext.length

/-- The records that may exist at once. -/
def blockEntryLimit : Nat :=
  if s.backingBlockCapacity ≠ 0 then s.backingBlockCapacity else s.physicalBlockCapacity

/-- Zero passes as well. -/
def isPowerOfTwo (n : Nat) : Bool := Nat.land n (n - 1) = 0

/-- The checks of the constructor. -/
def capacitiesAreValid (laneCapacity laneStride blockTokenCount physicalBlockCapacity
    directoryCapacity blockEntryCapacity : Nat) : Bool :=
  laneCapacity ≠ 0 && laneStride ≠ 0 && blockTokenCount ≠ 0 &&
    physicalBlockCapacity ≠ 0 && physicalBlockCapacity ≤ (2 ^ 32 - 1) / 2 &&
    physicalBlockCapacity * 2 ≤ directoryCapacity && isPowerOfTwo directoryCapacity &&
    physicalBlockCapacity * 2 ≤ blockEntryCapacity && isPowerOfTwo blockEntryCapacity

/-- An empty state without backing slots, pins or shared keys. -/
def new (laneCapacity laneStride blockTokenCount physicalBlockCapacity directoryCapacity
    blockEntryCapacity : UInt32) : Except WorkControlError (KvState W) :=
  if capacitiesAreValid laneCapacity.toNat laneStride.toNat blockTokenCount.toNat
      physicalBlockCapacity.toNat directoryCapacity.toNat blockEntryCapacity.toNat = false then
    .error .invalidArgument
  else if 2 ^ 32 - 1 < laneCapacity.toNat * laneStride.toNat then .error .capacityExceeded
  else
    .ok {
      laneStride := laneStride.toNat
      blockTokenCount := blockTokenCount.toNat
      laneBlockKeyStride := 0
      nextPhysicalBlockIndex := 0
      freeBackingBlockHead := kvInvalidBlockIndex
      directoryEntryCount := 0
      blockEntryCount := 0
      swappedBlockCount := 0
      epoch := 0
      controlGeneration := 0
      allocatedPhysicalBlockCount := 0
      prefetchGeneration := 0
      physicalBlockIndices :=
        List.replicate (laneCapacity.toNat * laneStride.toNat) kvInvalidBlockIndex
      lanePhysicalBlockCounts := List.replicate laneCapacity.toNat 0
      physicalBlocks := List.replicate physicalBlockCapacity.toNat {}
      hasPins := false
      directoryEntries := List.replicate directoryCapacity.toNat {}
      blockEntries := List.replicate blockEntryCapacity.toNat {}
      laneBlockKeys := none
      backingBlockFreeNext := []
      swapHooks := none
      swapLog := [] }

/-- Backing slots, each linked to the next one. -/
def freshBackingBlocks (backingBlockCapacity : Nat) : List Nat :=
  (List.range backingBlockCapacity).map fun index =>
    if index + 1 < backingBlockCapacity then index + 1 else kvInvalidBlockIndex

/-! ### Configuration -/

/-- Give an unused state its backing slots and hooks. -/
def configureKvSwap (backingBlockCapacity : Nat) (swapHooks : W.Store) : KvM W Unit := do
  let s ← get
  if backingBlockCapacity = 0 ∨ s.directoryCapacity / 2 < backingBlockCapacity ∨
      s.directoryEntryCount ≠ 0 ∨ s.allocatedPhysicalBlockCount ≠ 0 ∨
      s.backingBlockCapacity ≠ 0 then throw .invalidArgument
  else
    set { s with
      freeBackingBlockHead := 0
      backingBlockFreeNext := freshBackingBlocks backingBlockCapacity
      swapHooks := some swapHooks }

/-- Let an unused state count pins. -/
def configureKvPins : KvM W Unit := do
  let s ← get
  if s.hasPins ∨ s.directoryEntryCount ≠ 0 ∨ s.allocatedPhysicalBlockCount ≠ 0 then
    throw .invalidArgument
  else
    set { s with
      hasPins := true
      physicalBlocks := s.physicalBlocks.map (KvPhysicalBlock.withPins · 0) }

/-- Set the keys of shared blocks, or none. -/
def configureKvSharing (laneBlockKeys : Option (List KvKey)) (laneBlockKeyStride : Nat) :
    KvM W Unit := do
  let s ← get
  if laneBlockKeys.isNone ≠ decide (laneBlockKeyStride = 0) ∨ s.laneStride < laneBlockKeyStride then
    throw .invalidArgument
  else set { s with laneBlockKeys, laneBlockKeyStride }

/-! ### Physical blocks -/

variable (physicalBlockIndex : Nat)

/-- A physical block. -/
def physicalBlock : KvPhysicalBlock :=
  s.physicalBlocks.getD physicalBlockIndex {}

/-- Write a physical block. -/
def setPhysicalBlock (block : KvPhysicalBlock) : KvState W :=
  { s with physicalBlocks := s.physicalBlocks.set physicalBlockIndex block }

/-- Whether pins keep a block from being taken. -/
def isPinned : Bool :=
  s.hasPins && (s.physicalBlock physicalBlockIndex).pinCount ≠ 0

/-- Pin a block in use once more. -/
def pinPhysicalBlock : KvM W Unit := do
  let s ← get
  let block := s.physicalBlock physicalBlockIndex
  if s.physicalBlockCapacity ≤ physicalBlockIndex ∨ block.key.isEmpty ∨ s.hasPins = false ∨
      block.pinCount = 2 ^ 32 - 1 then throw .invalidArgument
  else set (s.setPhysicalBlock physicalBlockIndex (block.withPins (block.pinCount + 1)))

/-- Take back one pin. -/
def unpinPhysicalBlock : KvM W Unit := do
  let s ← get
  let block := s.physicalBlock physicalBlockIndex
  if s.physicalBlockCapacity ≤ physicalBlockIndex ∨ s.hasPins = false ∨ block.pinCount = 0 then
    throw .invalidArgument
  else set (s.setPhysicalBlock physicalBlockIndex (block.withPins (block.pinCount - 1)))

/-- A physical block is free again. -/
def kvClearPhysicalBlock : KvState W :=
  s.setPhysicalBlock physicalBlockIndex (s.physicalBlock physicalBlockIndex).cleared

/-- A free physical block is used for a key. -/
def kvAssignPhysicalBlock (key : KvKey) (state : KvEntryState) : KvState W :=
  { s.setPhysicalBlock physicalBlockIndex
      ((s.physicalBlock physicalBlockIndex).assigned key s.epoch state) with
    allocatedPhysicalBlockCount := s.allocatedPhysicalBlockCount + 1 }

/-! ### Generations -/

/-- Start a generation with empty tables. -/
def resetKvGeneration (controlGeneration : Nat) : KvState W :=
  { s with
    physicalBlockIndices := List.replicate s.tableEntryCapacity kvInvalidBlockIndex
    lanePhysicalBlockCounts := List.replicate s.laneCapacity 0
    physicalBlocks := List.replicate s.physicalBlockCapacity {}
    directoryEntries := List.replicate s.directoryCapacity {}
    blockEntries := List.replicate s.blockEntryCapacity {}
    backingBlockFreeNext := freshBackingBlocks s.backingBlockCapacity
    freeBackingBlockHead := if s.backingBlockCapacity = 0 then kvInvalidBlockIndex else 0
    nextPhysicalBlockIndex := 0
    directoryEntryCount := 0
    blockEntryCount := 0
    swappedBlockCount := 0
    epoch := 0
    allocatedPhysicalBlockCount := 0
    controlGeneration }

/-- A later generation resets the tables, an earlier one is refused. -/
def advanceKvGeneration (controlGeneration : Nat) : KvM W Unit := do
  let s ← get
  if controlGeneration = 0 then throw .invalidArgument
  else if controlGeneration < s.controlGeneration then throw .validationFailed
  else if controlGeneration ≠ s.controlGeneration then
    set (s.resetKvGeneration controlGeneration)
  else pure ()

/-- A packet of an older generation is not found. -/
def selectKvGeneration (packet : WorkControlPacket) : KvM W Unit := do
  match ← (attempt (advanceKvGeneration packet.controlGeneration) :
      KvM W (Except WorkControlError Unit)) with
  | .ok _ => pure ()
  | .error .validationFailed => throw .notFound
  | .error e => throw e

/-! ### The two tables -/

variable (slot : Nat)

/-- The directory entry of a cell. -/
def directoryEntry : KvDirectoryEntry :=
  kvDirectorySlots.entry s.directoryEntries slot

/-- The record of a cell. -/
def blockEntry : KvBlockEntry := kvBlockSlots.entry s.blockEntries slot

/-- Write a cell of the directory. -/
def setDirectoryEntry (entry : KvDirectoryEntry) : KvState W :=
  { s with directoryEntries := s.directoryEntries.set slot entry }

/-- Write a cell of the records. -/
def setBlockEntry (entry : KvBlockEntry) : KvState W :=
  { s with blockEntries := s.blockEntries.set slot entry }

variable (sequenceId logicalBlockIndex : Nat)

/-- The cell of a block of a sequence. -/
def findDirectory : Option Nat :=
  kvDirectorySlots.find s.directoryEntries (privateKey sequenceId logicalBlockIndex)

variable (blockKey : KvKey)

/-- The cell of a record. -/
def findBlock : Option Nat :=
  kvBlockSlots.find s.blockEntries blockKey

/-- The record that a block of a sequence is held in. -/
def kvSequenceBlock : Option Nat := do
  let slot ← s.findDirectory sequenceId logicalBlockIndex
  s.findBlock (s.directoryEntry slot).blockKey

/-! ### Backing slots -/

/-- The first free backing slot is taken off the list. -/
def kvTakeBacking : KvState W :=
  { s with
    freeBackingBlockHead :=
      s.backingBlockFreeNext.getD s.freeBackingBlockHead kvInvalidBlockIndex
    backingBlockFreeNext := s.backingBlockFreeNext.set s.freeBackingBlockHead kvInvalidBlockIndex }

/-- Put a backing slot on the free list. -/
def kvPutBacking (backingBlockIndex : Nat) (s : KvState W) : KvState W :=
  { s with
    freeBackingBlockHead := backingBlockIndex
    backingBlockFreeNext := s.backingBlockFreeNext.set backingBlockIndex s.freeBackingBlockHead }

/-- Without swapping a record has no backing slot. -/
def kvBackingAcquire : KvM W Nat := do
  let s ← get
  if s.backingBlockCapacity = 0 then return kvInvalidBlockIndex
  else
    if s.backingBlockCapacity ≤ s.freeBackingBlockHead then throw .capacityExceeded
    else
      set s.kvTakeBacking
      return s.freeBackingBlockHead

/-- Free the backing slot of a record, if slots are used. -/
def kvBackingRelease (backingBlockIndex : Nat) : KvM W Unit := do
  let s ← get
  if s.backingBlockCapacity = 0 then
    if backingBlockIndex = kvInvalidBlockIndex then pure () else throw .internalError
  else if s.backingBlockCapacity ≤ backingBlockIndex ∨
      s.backingBlockFreeNext.getD backingBlockIndex 0 ≠ kvInvalidBlockIndex then
    throw .internalError
  else set (s.kvPutBacking backingBlockIndex)

/-! ### Hooks -/

/-- Call a hook, which must be there, and record the call. -/
def callHook (call : EStateM WorkControlError W.Store Unit) (event : Bool → SwapEvent) :
    KvM W Unit := fun s =>
  match s.swapHooks with
  | none => .error .internalError s
  | some store =>
    match call store with
    | .ok _ store =>
      .ok () { s with swapHooks := some store, swapLog := event true :: s.swapLog }
    | .error e store =>
      .error e { s with swapHooks := some store, swapLog := event false :: s.swapLog }

/-- A record loses its physical block. -/
def kvEvict (slot physicalBlockIndex : Nat) (s : KvState W) : KvState W :=
  { (s.setBlockEntry slot (s.blockEntry slot).spilled).kvClearPhysicalBlock physicalBlockIndex with
    allocatedPhysicalBlockCount := s.allocatedPhysicalBlockCount - 1
    swappedBlockCount := s.swappedBlockCount + 1
    swapLog := .spill (s.blockEntry slot).key physicalBlockIndex
      (s.blockEntry slot).backingBlockIndex :: s.swapLog }

/-- Write a block to its backing slot, unless the copy is valid, and give it up. -/
def kvSpillBlock (slot physicalBlockIndex : Nat) : KvM W Unit := do
  let entry := (← get).blockEntry slot
  if entry.backingValid then pure ()
  else
    callHook (W.store entry.key physicalBlockIndex entry.backingBlockIndex)
      (.store entry.key physicalBlockIndex entry.backingBlockIndex)
    modify fun s => s.setBlockEntry slot ((s.blockEntry slot).withBacking true)
  modify (kvEvict slot physicalBlockIndex)

/-- The hand of the clock goes on to the next physical block. -/
def kvMoveHand : KvState W :=
  { s with
    nextPhysicalBlockIndex := (s.nextPhysicalBlockIndex + 1) % s.physicalBlockCapacity }

/-- The clock sweep: a free block, else the first unpinned one of an earlier epoch. -/
def kvAcquireLoop : Nat → KvM W Nat
  | 0 => throw .capacityExceeded
  | rounds + 1 => do
      let s ← get
      let physicalBlockIndex := s.nextPhysicalBlockIndex
      let block := s.physicalBlock physicalBlockIndex
      set s.kvMoveHand
      if s.isPinned physicalBlockIndex then kvAcquireLoop rounds
      else if block.key.isEmpty then return physicalBlockIndex
      else if s.backingBlockCapacity = 0 ∨ block.state ≠ .resident ∨
          block.lastUsedEpoch = s.epoch then kvAcquireLoop rounds
      else
        let slot ← orFail .internalError (s.findBlock block.key)
        kvSpillBlock slot physicalBlockIndex
        return physicalBlockIndex

/-- Find a physical block, evicting if none is free. -/
def kvAcquirePhysicalBlock : KvM W Nat := do
  kvAcquireLoop (← get).physicalBlockCapacity

/-- The key of a block that belongs to no sequence. -/
def transientKey : KvKey := privateKey (2 ^ 64 - 1) physicalBlockIndex

/-- Lend a physical block: it is transient and pinned. -/
def kvLend (s : KvState W) : KvState W :=
  let s := s.kvAssignPhysicalBlock physicalBlockIndex (transientKey physicalBlockIndex) .transient
  s.setPhysicalBlock physicalBlockIndex ((s.physicalBlock physicalBlockIndex).withPins 1)

/-- Lend a physical block outside the tables. -/
def acquireTransientPhysicalBlock : KvM W Nat := do
  if (← get).hasPins = false then throw .invalidArgument
  else
    let physicalBlockIndex ← kvAcquirePhysicalBlock
    modify (kvLend physicalBlockIndex)
    return physicalBlockIndex

/-- A lent block is free again. -/
def kvTakeBack (s : KvState W) : KvState W :=
  let s := s.setPhysicalBlock physicalBlockIndex ((s.physicalBlock physicalBlockIndex).withPins 0)
  { s.kvClearPhysicalBlock physicalBlockIndex with
    allocatedPhysicalBlockCount := s.allocatedPhysicalBlockCount - 1 }

/-- Take back a lent block. -/
def releaseTransientPhysicalBlock : KvM W Unit := do
  let s ← get
  let block := s.physicalBlock physicalBlockIndex
  if s.physicalBlockCapacity ≤ physicalBlockIndex ∨ block.state ≠ .transient ∨
      block.key ≠ transientKey physicalBlockIndex ∨ s.allocatedPhysicalBlockCount = 0 ∨
      s.hasPins = false ∨ block.pinCount ≠ 1 then throw .invalidArgument
  else set (s.kvTakeBack physicalBlockIndex)

/-! ### Records -/

/-- The first reference to a key. -/
def kvInstall (physicalBlockIndex backingBlockIndex : Nat) (s : KvState W) : KvState W :=
  let s := s.setBlockEntry slot (.fresh blockKey physicalBlockIndex backingBlockIndex)
  { s with blockEntryCount := s.blockEntryCount + 1 }.kvAssignPhysicalBlock physicalBlockIndex
    blockKey .missing

/-- Take a reference on a record; the first one gets it a block and a backing slot. -/
def kvBlockResolve : KvM W Unit := do
  let s ← get
  match kvBlockSlots.probe s.blockEntries blockKey with
  | none => throw .capacityExceeded
  | some (slot, true) => set (s.setBlockEntry slot (s.blockEntry slot).retained)
  | some (slot, false) =>
    if s.blockEntryLimit ≤ s.blockEntryCount then throw .capacityExceeded
    else
      let backingBlockIndex ← kvBackingAcquire
      match ← (attempt kvAcquirePhysicalBlock : KvM W (Except WorkControlError Nat)) with
      | .error e =>
        let _ ← (attempt (kvBackingRelease backingBlockIndex) :
          KvM W (Except WorkControlError Unit))
        throw e
      | .ok physicalBlockIndex =>
        modify (kvInstall slot blockKey physicalBlockIndex backingBlockIndex)

/-- The physical block is cleared, or the record is no longer swapped out. -/
def kvVacate (entry : KvBlockEntry) (s : KvState W) : KvState W :=
  if entry.residencyState = .gpu then
    { s.kvClearPhysicalBlock entry.physicalBlockIndex with
      allocatedPhysicalBlockCount := s.allocatedPhysicalBlockCount - 1 }
  else { s with swappedBlockCount := s.swappedBlockCount - 1 }

/-- Erase a record. -/
def kvForget (s : KvState W) : KvState W :=
  { s with
    blockEntryCount := s.blockEntryCount - 1
    blockEntries := kvBlockSlots.erase s.blockEntries slot }

/-- Drop a reference; the last one gives the block and the backing slot back. -/
def kvBlockDeref : KvM W Unit := do
  let s ← get
  let slot ← orFail .notFound (s.findBlock blockKey)
  let entry := s.blockEntry slot
  if 1 < entry.referenceCount then set (s.setBlockEntry slot entry.released)
  else if entry.residencyState = .gpu ∧ s.isPinned entry.physicalBlockIndex then throw .busy
  else
    set (s.kvVacate entry)
    kvBackingRelease entry.backingBlockIndex
    modify (kvForget slot)

/-- Put a record under another key, with its physical block if it has one. -/
def kvRekeyBlock (sourceSlot : Nat) (blockKey : KvKey) : KvState W :=
  let entry := (s.blockEntry sourceSlot).rekeyed blockKey
  let blockEntries := kvBlockSlots.erase s.blockEntries sourceSlot
  let slot := ((kvBlockSlots.probe blockEntries blockKey).getD (kvInvalidBlockIndex, false)).1
  let s := { s with blockEntries := blockEntries.set slot entry }
  if entry.residencyState = .gpu then
    s.setPhysicalBlock entry.physicalBlockIndex
      ((s.physicalBlock entry.physicalBlockIndex).rekeyed blockKey)
  else s

/-- Let a directory entry name another record. -/
def kvRename (directorySlot : Nat) (blockKey : KvKey) (s : KvState W) : KvState W :=
  s.setDirectoryEntry directorySlot { key := (s.directoryEntry directorySlot).key, blockKey }

/-- Let a directory entry name the record of another key, or rename its own; a pinned block stays.
-/
def kvPromoteBlock (directorySlot : Nat) (blockKey : KvKey) : KvM W Unit := do
  let s ← get
  let previousKey := (s.directoryEntry directorySlot).blockKey
  let sourceSlot ← orFail .notFound (s.findBlock previousKey)
  let previous := s.blockEntry sourceSlot
  if previous.residencyState = .gpu ∧ s.isPinned previous.physicalBlockIndex then pure ()
  else if s.findBlock blockKey = none ∧ previous.referenceCount = 1 then
    set ((s.kvRekeyBlock sourceSlot blockKey).kvRename directorySlot blockKey)
  else
    kvBlockResolve blockKey
    kvBlockDeref previousKey
    modify (kvRename directorySlot blockKey)

/-- The block is used in this epoch. -/
def kvTouch (s : KvState W) : KvState W :=
  s.setPhysicalBlock physicalBlockIndex ((s.physicalBlock physicalBlockIndex).usedAt s.epoch)

/-- A record that was swapped out has a physical block again. -/
def kvReturn (physicalBlockIndex : Nat) (s : KvState W) : KvState W :=
  let s := s.setBlockEntry slot ((s.blockEntry slot).loaded physicalBlockIndex)
  { s with swappedBlockCount := s.swappedBlockCount - 1 }.kvAssignPhysicalBlock
    physicalBlockIndex blockKey .resident

/-- The physical block of a key, faulted back if it was swapped out. -/
def kvBlockResident : KvM W Nat := do
  let s ← get
  let slot ← orFail .notFound (s.findBlock blockKey)
  let entry := s.blockEntry slot
  if entry.residencyState = .gpu then
    set (s.kvTouch entry.physicalBlockIndex)
    return entry.physicalBlockIndex
  else
    let physicalBlockIndex ← kvAcquirePhysicalBlock
    callHook (W.load blockKey physicalBlockIndex entry.backingBlockIndex)
      (.load blockKey physicalBlockIndex entry.backingBlockIndex)
    modify (kvReturn slot blockKey physicalBlockIndex)
    return physicalBlockIndex

/-! ### Directory entries -/

/-- Fill a cell of the directory. -/
def kvEnter (key blockKey : KvKey) (s : KvState W) : KvState W :=
  { s.setDirectoryEntry slot { key, blockKey } with
    directoryEntryCount := s.directoryEntryCount + 1 }

/-- Erase a directory entry. -/
def kvLeave (s : KvState W) : KvState W :=
  { s with
    directoryEntryCount := s.directoryEntryCount - 1
    directoryEntries := kvDirectorySlots.erase s.directoryEntries slot }

/-- The directory entry of a block, made if it is missing. -/
def kvDirectoryAcquire : KvM W Nat := do
  let s ← get
  let directoryKey := privateKey sequenceId logicalBlockIndex
  match kvDirectorySlots.probe s.directoryEntries directoryKey with
  | none => throw .capacityExceeded
  | some (slot, found) =>
    if found = false then
      if s.directoryCapacity / 2 ≤ s.directoryEntryCount then throw .capacityExceeded
      else
        kvBlockResolve blockKey
        modify (kvEnter slot directoryKey blockKey)
    else if (s.directoryEntry slot).blockKey ≠ blockKey then kvPromoteBlock slot blockKey
    else pure ()
    kvBlockResident ((← get).directoryEntry slot).blockKey

/-- Drop a directory entry and its reference. -/
def kvDirectoryRelease : KvM W Unit := do
  let s ← get
  let slot ← orFail .notFound (s.findDirectory sequenceId logicalBlockIndex)
  kvBlockDeref (s.directoryEntry slot).blockKey
  modify (kvLeave slot)

end KvState

end SparkPipe
