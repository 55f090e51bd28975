import SparkPipe.Sched.WorkControl.KvState

/-!
# Block tables of packets

A packet is executed in three steps: its block table is built, which resolves every block of every
lane to a physical block; the packet runs; and its table is committed or cancelled. Sequences are
released on their own or by a release packet.
-/

open Program

namespace SparkPipe

/-- What a build reports; the host and the device view are the same. -/
structure KvTableView where
  blockTokenCount : Nat
  laneCount : Nat
  laneStride : Nat
  laneCapacity : Nat
  physicalBlockIndices : List Nat
  lanePhysicalBlockCounts : List Nat

namespace KvState

open WorkControl

variable {W : SwapHooks}

/-! ### Checks -/

variable (s : KvState W)

def countersAreValid : Bool :=
  decide (s.backingBlockCapacity = 0) = s.swapHooks.isNone &&
    s.backingBlockCapacity ≤ s.blockEntryCapacity / 2 &&
    s.blockEntryCount ≤ s.blockEntryLimit &&
    s.directoryEntryCount ≤ s.directoryCapacity / 2 &&
    s.allocatedPhysicalBlockCount ≤ s.physicalBlockCapacity &&
    s.swappedBlockCount ≤ s.blockEntryCount

variable (packet : WorkControlPacket)

variable (config : WorkControlConfig)

def kvStateStatus : Except WorkControlError Unit :=
  if capacitiesAreValid s.laneCapacity s.laneStride s.blockTokenCount s.physicalBlockCapacity
      s.directoryCapacity s.blockEntryCapacity = false ∨
      s.tableEntryCapacity ≠ s.laneCapacity * s.laneStride ∨ s.countersAreValid = false then
    .error .invalidArgument
  else
    match validatePacket packet config s.laneCapacity (2 ^ 32 - 1) with
    | .error _ => .error .invalidArgument
    | .ok _ =>
      if packet.blockTokenCount ≠ s.blockTokenCount ∨ s.laneStride < packet.maxBlocksPerSequence ∨
          s.laneCapacity < packet.activeSequenceCount then .error .capacityExceeded
      else .ok ()

def validateKvState : KvM W Unit :=
  fun s =>
    match s.kvStateStatus packet config with
    | .ok _ => .ok () s
    | .error e => .error e s

variable (lane : WorkControlLane)

def laneBlockCount : Nat :=
  blockCount lane.contextTokenCount packet.blockTokenCount

/-- The keys published for a lane, unless they are too few. -/
def kvLaneKeys (laneIndex count : Nat) : Option (List KvKey) :=
  match s.laneBlockKeys with
  | none => none
  | some keys =>
    let start := laneIndex * s.laneBlockKeyStride
    if s.laneBlockKeyStride < count ∨ keys.length < start + count then none
    else some ((keys.drop start).take count)

/-- The key under which a build wants a block of a lane. -/
def kvBlockKeyOf (laneIndex blockIndex : Nat) :
    KvKey :=
  let lane := packet.lane laneIndex
  kvSelectKey (s.kvLaneKeys laneIndex (laneBlockCount packet lane)) lane.sequenceId blockIndex
    ((blockIndex + 1) * packet.blockTokenCount) (kvCommittedFrontier lane)

/-- The blocks of the lanes, lane by lane. -/
def packetBlocks : List (Nat × Nat) :=
  (List.range packet.activeSequenceCount).flatMap fun laneIndex =>
    (List.range (laneBlockCount packet (packet.lane laneIndex))).map (laneIndex, ·)

def laneFits (laneIndex : Nat) : Bool :=
  laneBlockCount packet (packet.lane laneIndex) ≠ 0 &&
    laneBlockCount packet (packet.lane laneIndex) ≤ packet.maxBlocksPerSequence

/-- The directory entries and the new records that a packet would add. -/
def kvCountAdmission : Except WorkControlError (Nat × Nat) :=
  if (List.range packet.activeSequenceCount).all (fun laneIndex =>
      laneFits packet laneIndex &&
        laneBlockCount packet (packet.lane laneIndex) ≤ s.physicalBlockCapacity) = false then
    .error .capacityExceeded
  else
    .ok ((packetBlocks packet).countP fun block =>
        (s.findDirectory (packet.lane block.1).sequenceId block.2).isNone,
      (packetBlocks packet).countP fun block =>
        (s.findBlock (s.kvBlockKeyOf packet block.1 block.2)).isNone)

/-- Refuse a packet that cannot fit; the first bound is for no sharing at all. -/
def kvAdmitStatus : Except WorkControlError Unit :=
  if (List.range packet.activeSequenceCount).all (laneFits packet) = false then
    .error .capacityExceeded
  else
    let totalBlockCount := ((List.range packet.activeSequenceCount).map fun laneIndex =>
      laneBlockCount packet (packet.lane laneIndex)).sum
    if s.directoryEntryCount + totalBlockCount ≤ s.directoryCapacity / 2 ∧
        totalBlockCount ≤ s.physicalBlockCapacity then .ok ()
    else
      match s.kvCountAdmission packet with
      | .error e => .error e
      | .ok (newEntryCount, newBlockCount) =>
        if s.directoryCapacity / 2 < s.directoryEntryCount ∨
            s.directoryCapacity / 2 - s.directoryEntryCount < newEntryCount ∨
            s.physicalBlockCapacity < newBlockCount then .error .capacityExceeded
        else .ok ()

def kvAdmitPacket : KvM W Unit := fun s =>
  match s.kvAdmitStatus packet with
  | .ok _ => .ok () s
  | .error e => .error e s

/-! ### Building -/

/-- A prefill may start a missing block; a decode needs all but the last one resident. -/
def kvResolveEntryState (blockIndex count : Nat)
    (entryState : KvEntryState) : Except WorkControlError KvEntryState :=
  if packet.isPrefill then .ok (if entryState = .missing then .inFlight else entryState)
  else if blockIndex + 1 < count ∧ entryState ≠ .resident then .error .busy
  else if blockIndex + 1 = count ∧ entryState = .missing then .ok .inFlight
  else .ok entryState

/-- A block gets its state and its place in the table. -/
def kvTabulate (laneIndex blockIndex physicalBlockIndex : Nat) (state : KvEntryState)
    (s : KvState W) : KvState W :=
  { s.setPhysicalBlock physicalBlockIndex
      ((s.physicalBlock physicalBlockIndex).withState state) with
    physicalBlockIndices := s.physicalBlockIndices.set (laneIndex * s.laneStride + blockIndex)
      physicalBlockIndex }

/-- Resolve a block of a lane, whose keys were read before its first block. -/
def kvBuildBlock (laneIndex blockIndex : Nat) : KvM W Unit := do
  let lane := packet.lane laneIndex
  let key := (← get).kvBlockKeyOf packet laneIndex blockIndex
  let physicalBlockIndex ← kvDirectoryAcquire lane.sequenceId blockIndex key
  let s ← get
  match kvResolveEntryState packet blockIndex (laneBlockCount packet lane)
      (s.physicalBlock physicalBlockIndex).state with
  | .error e => throw e
  | .ok state =>
    set (s.kvTabulate laneIndex blockIndex physicalBlockIndex state)

def kvBuildLane (laneIndex : Nat) : KvM W Unit := do
  let s ← get
  let count := laneBlockCount packet (packet.lane laneIndex)
  if laneFits packet laneIndex = false ∨
      s.tableEntryCapacity < laneIndex * s.laneStride + count then throw .capacityExceeded
  else
    set { s with lanePhysicalBlockCounts := s.lanePhysicalBlockCounts.set laneIndex count }
    forM (List.range count) (kvBuildBlock packet laneIndex)

/-- The epoch of the next build; zero is left out. -/
def nextEpoch (epoch : Nat) : Nat := if (epoch + 1) % 2 ^ 64 = 0 then 1 else (epoch + 1) % 2 ^ 64

/-- The lanes of the packet are empty and a new epoch begins. -/
def kvStartEpoch (s : KvState W) : KvState W :=
  { s with
    lanePhysicalBlockCounts := List.replicate packet.activeSequenceCount 0 ++
      s.lanePhysicalBlockCounts.drop packet.activeSequenceCount
    epoch := nextEpoch s.epoch }

def buildHostKvBlockTable : KvM W KvTableView := do
  validateKvState packet config
  selectKvGeneration packet
  kvAdmitPacket packet
  modify (kvStartEpoch packet)
  forM (List.range packet.activeSequenceCount) (kvBuildLane packet)
  let s ← get
  return {
    blockTokenCount := packet.blockTokenCount
    laneCount := packet.activeSequenceCount
    laneStride := s.laneStride
    laneCapacity := s.laneStride
    physicalBlockIndices := s.physicalBlockIndices
    lanePhysicalBlockCounts := s.lanePhysicalBlockCounts }

/-! ### Settling -/

/-- Only packets of the current generation are settled. -/
def settlesGeneration : KvM W Unit := do
  validateKvState packet config
  if packet.controlGeneration ≠ (← get).controlGeneration then throw .notFound else pure ()

/-- Run a program for every block of every lane, lane by lane. -/
def forPacketBlocks (visit : Nat → Nat → KvM W Unit) : KvM W Unit :=
  forM (List.range packet.activeSequenceCount) fun laneIndex => do
    if laneFits packet laneIndex = false then throw .capacityExceeded
    else
      forM (List.range (laneBlockCount packet (packet.lane laneIndex))) fun blockIndex =>
        visit (packet.lane laneIndex).sequenceId blockIndex

/-- A block that is marked must be on the device. -/
def markBlock (entryState : KvEntryState) (sequenceId blockIndex : Nat) : KvM W Unit := do
  let s ← get
  let slot ← orFail .notFound (s.kvSequenceBlock sequenceId blockIndex)
  let physicalBlockIndex := (s.blockEntry slot).physicalBlockIndex
  if physicalBlockIndex = kvInvalidBlockIndex then throw .internalError
  else
    set (s.setPhysicalBlock physicalBlockIndex
      (((s.physicalBlock physicalBlockIndex).withState entryState).usedAt s.epoch))

def markTable (entryState : KvEntryState) : KvM W Unit := do
  settlesGeneration packet config
  forPacketBlocks packet (markBlock entryState)

/-- The last position that a lane writes, a word of 64 bits. -/
def writeEndToken : Nat :=
  (lane.sequencePosition + writtenPositionCount packet + (2 ^ 64 - 1)) % 2 ^ 64

/-- The blocks that a lane of the packet writes. -/
def writtenBlocks : List Nat :=
  let first := lane.sequencePosition / packet.blockTokenCount % 2 ^ 32
  let last := writeEndToken packet lane / packet.blockTokenCount % 2 ^ 32
  List.range' first (last + 1 - first)

/-- The backing copy of a block that was written is stale. -/
def invalidateBacking (sequenceId blockIndex : Nat) : KvM W Unit := do
  let s ← get
  let slot ← orFail .notFound (s.kvSequenceBlock sequenceId blockIndex)
  set (s.setBlockEntry slot ((s.blockEntry slot).withBacking false))

def commitHostKvBlockTable : KvM W Unit := do
  markTable packet config .resident
  if writtenPositionCount packet = 0 then throw .invalidArgument
  else
    forM (List.range packet.activeSequenceCount) fun laneIndex => do
      let lane := packet.lane laneIndex
      if lane.contextTokenCount ≤ writeEndToken packet lane then
        throw .invalidArgument
      else forM (writtenBlocks packet lane) (invalidateBacking lane.sequenceId)

/-- Only a block in flight on the device is given back. -/
def cancelBlock (sequenceId blockIndex : Nat) : KvM W Unit := do
  let s ← get
  match s.kvSequenceBlock sequenceId blockIndex with
  | none => pure ()
  | some slot =>
    let physicalBlockIndex := (s.blockEntry slot).physicalBlockIndex
    if physicalBlockIndex ≠ kvInvalidBlockIndex ∧
        (s.physicalBlock physicalBlockIndex).state = .inFlight then
      kvDirectoryRelease sequenceId blockIndex
    else pure ()

def cancelHostKvBlockTable : KvM W Unit := do
  settlesGeneration packet config
  forPacketBlocks packet cancelBlock

/-! ### Releasing and prefetching -/

def releaseBlock (sequenceId logicalBlockIndex : Nat) : KvM W Unit := do
  match ← (attempt (kvDirectoryRelease sequenceId logicalBlockIndex) :
      KvM W (Except WorkControlError Unit)) with
  | .ok _ | .error .notFound => pure ()
  | .error e => throw e

def releaseSequence (sequenceId logicalBlockCount : Nat) : KvM W Unit := do
  if sequenceId = 0 ∨ logicalBlockCount = 0 ∨ (← get).laneStride < logicalBlockCount then
    throw .invalidArgument
  else forM (List.range logicalBlockCount) (releaseBlock sequenceId)

def releasePacketSequences : KvM W Unit := do
  validateKvState packet config
  if packet.releasesSequences = false then throw .invalidArgument
  else if packet.controlGeneration < (← get).controlGeneration then pure ()
  else
    selectKvGeneration packet
    forM (List.range packet.laneCount) fun laneIndex =>
      let lane := packet.lane laneIndex
      releaseSequence lane.sequenceId (laneBlockCount packet lane)

/-- Collect the backing slot of a swapped record, once in a collection. -/
def collectBlock (mark entryCapacity : Nat) (packet : WorkControlPacket)
    (entries : List KvPrefetchEntry) (block : Nat × Nat) : KvM W (List KvPrefetchEntry) := do
  let s ← get
  match s.kvSequenceBlock (packet.lane block.1).sequenceId block.2 with
  | none => return entries
  | some slot =>
    let entry := s.blockEntry slot
    if entry.residencyState ≠ .nvme ∨ entry.backingValid = false ∨ entry.prefetchMark = mark then
      return entries
    else
      set (s.setBlockEntry slot (entry.marked mark))
      if entryCapacity ≤ entries.length then throw .capacityExceeded
      else
        return entries ++ [{ key := entry.key, backingBlockIndex := entry.backingBlockIndex }]

def collectPacket (mark entryCapacity : Nat)
    (entries : List KvPrefetchEntry) (packet : WorkControlPacket) :
    KvM W (List KvPrefetchEntry) := do
  validateKvState packet config
  if packet.controlGeneration ≠ (← get).controlGeneration ∨ packet.releasesSequences then
    return entries
  else (packetBlocks packet).foldlM (collectBlock mark entryCapacity packet) entries

def collectKvPrefetchEntries (packets : List WorkControlPacket) (config : WorkControlConfig)
    (entryCapacity : Nat) : KvM W (List KvPrefetchEntry) := do
  if packets = [] ∨ entryCapacity = 0 then throw .invalidArgument
  else
    modify fun s => { s with prefetchGeneration := (s.prefetchGeneration + 1) % 2 ^ 32 }
    let mark := (← get).prefetchGeneration % 2 ^ 29
    packets.foldlM (collectPacket config mark entryCapacity) []

end KvState

/-! ### Operations -/

/-- The operations of the state. -/
inductive KvOp (W : SwapHooks)
  | configureKvSwap (backingBlockCapacity : Nat) (swapHooks : W.Store)
  | configureKvPins
  | configureKvSharing (laneBlockKeys : Option (List KvKey)) (laneBlockKeyStride : Nat)
  | pinPhysicalBlock (physicalBlockIndex : Nat)
  | unpinPhysicalBlock (physicalBlockIndex : Nat)
  | advanceKvGeneration (controlGeneration : Nat)
  | acquireTransientPhysicalBlock
  | releaseTransientPhysicalBlock (physicalBlockIndex : Nat)
  | buildHostKvBlockTable (packet : WorkControlPacket) (config : WorkControlConfig)
  | commitHostKvBlockTable (packet : WorkControlPacket) (config : WorkControlConfig)
  | cancelHostKvBlockTable (packet : WorkControlPacket) (config : WorkControlConfig)
  | releaseSequence (sequenceId logicalBlockCount : Nat)
  | releasePacketSequences (packet : WorkControlPacket) (config : WorkControlConfig)
  | collectKvPrefetchEntries (packets : List WorkControlPacket) (config : WorkControlConfig)
      (entryCapacity : Nat)

/-- The state an operation leaves, whether it succeeds or not. -/
def KvOp.exec {W : SwapHooks} (op : KvOp W) (s : KvState W) : KvState W :=
  match op with
  | .configureKvSwap capacity hooks => finalState (KvState.configureKvSwap capacity hooks s)
  | .configureKvPins => finalState (KvState.configureKvPins s)
  | .configureKvSharing keys stride => finalState (KvState.configureKvSharing keys stride s)
  | .pinPhysicalBlock p => finalState (KvState.pinPhysicalBlock p s)
  | .unpinPhysicalBlock p => finalState (KvState.unpinPhysicalBlock p s)
  | .advanceKvGeneration generation => finalState (KvState.advanceKvGeneration generation s)
  | .acquireTransientPhysicalBlock => finalState (KvState.acquireTransientPhysicalBlock s)
  | .releaseTransientPhysicalBlock p => finalState (KvState.releaseTransientPhysicalBlock p s)
  | .buildHostKvBlockTable packet config =>
    finalState (KvState.buildHostKvBlockTable packet config s)
  | .commitHostKvBlockTable packet config =>
    finalState (KvState.commitHostKvBlockTable packet config s)
  | .cancelHostKvBlockTable packet config =>
    finalState (KvState.cancelHostKvBlockTable packet config s)
  | .releaseSequence q n => finalState (KvState.releaseSequence q n s)
  | .releasePacketSequences packet config =>
    finalState (KvState.releasePacketSequences packet config s)
  | .collectKvPrefetchEntries packets config capacity =>
    finalState (KvState.collectKvPrefetchEntries packets config capacity s)

end SparkPipe
