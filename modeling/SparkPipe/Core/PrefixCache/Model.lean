import SparkPipe.Core.KvResidency
import SparkPipe.Core.PrefixCache.Hash

/-!
# The content-addressed prefix cache

The cache keeps a table of entries, one for each cached KV block, and a table of bindings,
one for each block held by a sequence. Free cells of both tables are chained through their
`reserved` word. Every operation is a program over the cache state that keeps what it did
before an early error return.

A flags word is a group of Booleans, one for each defined bit. Lengths of token lists are
truncated to 32 bits where the code does so; the sums `token_offset + token_count` are not
reduced. They are words of 32 bits in the code, where a debug build panics on an overflow and a
release build wraps around. The statistics counters are never read back by the cache and are
left out.
-/

open Program

namespace SparkPipe

/-- Why a call fails. -/
inductive PrefixCacheError
  | invalidArgument
  | capacityExceeded
  | notFound
  | busy
  | duplicate
  | moduleNotValidated
  | internalError
  deriving DecidableEq

def PrefixCacheError.ofArena : KvArenaError → PrefixCacheError
  | .invalidArgument => .invalidArgument
  | .capacityExceeded => .capacityExceeded
  | .notFound => .notFound
  | .busy => .busy
  | .internal => .internalError

def noPhysicalBlock : Nat := 0xffffffff

def noEntry : Nat := 0xffffffff

/-- One cache entry; the default value is an unallocated entry. -/
structure Entry where
  valid : Bool := false
  reusable : Bool := false
  pending : Bool := false
  liveOnly : Bool := false
  tokenCount : Nat := 0
  firstTokenIndex : Nat := 0
  physicalBlockIndex : Nat := noPhysicalBlock
  referenceCount : Nat := 0
  reserved : Nat := 0
  lookaheadPriority : Nat := 0
  lookaheadRequestCount : Nat := 0
  parentHash : Nat := 0
  blockHash : Nat := 0
  contentHash : Nat := 0
  lastUsedTick : Nat := 0
  reservationEpoch : Nat := 0
  committedEpoch : Nat := 0
  lookaheadProtectionEpoch : Nat := 0
  deriving DecidableEq

namespace Entry

def label (e : Entry) : BlockLabel :=
  { parentHash := e.parentHash
    blockHash := e.blockHash
    contentHash := e.contentHash
    firstTokenIndex := e.firstTokenIndex
    tokenCount := e.tokenCount }

def isEvictable (e : Entry) : Bool := e.valid && !e.pending && e.referenceCount == 0

/-- A better victim has a lower lookahead priority, then an older tick. -/
def protectedVictimIsBetter (candidate current : Entry) : Bool :=
  if candidate.lookaheadPriority ≠ current.lookaheadPriority then
    candidate.lookaheadPriority < current.lookaheadPriority
  else candidate.lastUsedTick < current.lastUsedTick

end Entry

/-- A binding of a sequence to an entry. -/
structure Binding where
  valid : Bool := false
  pending : Bool := false
  entryIndex : Nat := noEntry
  firstTokenIndex : Nat := 0
  tokenCount : Nat := 0
  physicalBlockIndex : Nat := noPhysicalBlock
  reserved : Nat := 0
  sequenceId : Nat := 0
  parentHash : Nat := 0
  blockHash : Nat := 0
  acquireEpoch : Nat := 0
  deriving DecidableEq

structure PrefixCacheConfig where
  blockTokenCount : UInt32
  entryCount : UInt32
  physicalBlockCount : UInt32
  sequenceBindingCount : UInt32
  deriving DecidableEq

/-- The tables, their free lists, the arena and the clocks. -/
structure PrefixCache where
  blockTokenCount : Nat
  physicalBlockCount : Nat
  entries : List Entry
  bindings : List Binding
  arena : KvArena
  freeEntryHead : Nat
  freeBindingHead : Nat
  tick : Nat
  operationEpoch : Nat
  lookaheadProtectionEpoch : Nat
  deriving DecidableEq

abbrev CacheM := EStateM PrefixCacheError PrefixCache

/-- What a lookup returns. -/
structure Lookup where
  requestedTokenCount : Nat
  matchedTokenCount : Nat := 0
  matchedBlockCount : Nat := 0
  nextTokenIndex : Nat := 0
  physicalBlockIndex : Nat := noPhysicalBlock
  sequenceId : Nat
  lastBlockHash : Nat := emptyParentHash
  deriving DecidableEq

/-- What a reservation returns. -/
structure Reservation where
  requestedTokenCount : Nat
  reservedTokenCount : Nat := 0
  reusableTokenCount : Nat := 0
  physicalBlockCount : Nat := 0
  cachedPhysicalBlockCount : Nat := 0
  pendingPhysicalBlockCount : Nat := 0
  sequenceId : Nat
  reservationEpoch : Nat
  lastBlockHash : Nat := emptyParentHash
  physicalBlockIndices : List Nat := []
  deriving DecidableEq

/-- Descriptor of a block that may be prefetched. -/
structure PrefetchSourceBlock where
  physicalBlockIndex : Nat
  tokenCapacity : Nat
  firstTokenIndex : Nat
  tokenCount : Nat
  generation : Nat
  parentHash : Nat
  blockHash : Nat
  contentHash : Nat

/-- Residency of the blocks of a reusable prefix or of a bound sequence. -/
structure ResidencyProbe where
  residentBlockCount : Nat := 0
  nonresidentBlockCount : Nat := 0

/-- The length of a token list as a 32-bit word. -/
def tokenCountOf (tokenIds : List Nat) : Nat := tokenIds.length % 2 ^ 32

/-- The hash of a prompt and the shape of the blocks it was taken over. -/
structure PromptHash where
  tokenCount : Nat
  hashedTokenCount : Nat
  blockCount : Nat
  lastBlockTokenCount : Nat
  parentHash : Nat
  promptHash : Nat

/-- Hash a prompt block by block; the last block may be short. -/
def hashPromptTokens (blockTokenCount parentHash : Nat) (tokenIds : List Nat) :
    Except PrefixCacheError PromptHash :=
  if blockTokenCount = 0 ∨ maxBlockTokens < blockTokenCount then .error .invalidArgument
  else
    let blockCount := (tokenIds.length + blockTokenCount - 1) / blockTokenCount
    .ok
      { tokenCount := tokenCountOf tokenIds
        hashedTokenCount := tokenCountOf tokenIds
        blockCount
        lastBlockTokenCount :=
          if tokenIds.isEmpty then 0 else (tokenCountOf tokenIds - 1) % blockTokenCount + 1
        parentHash
        promptHash := (List.range blockCount).foldl (fun hashValue i =>
          hashBlock (blockTokens tokenIds (i * blockTokenCount) blockTokenCount) hashValue)
          parentHash }

namespace PrefixCache

/-- A table of `n` free cells, each linked to the next one. -/
def freeEntries (n : Nat) : List Entry :=
  (List.range n).map fun index => { reserved := if index + 1 < n then index + 1 else noEntry }

def freeBindings (n : Nat) : List Binding :=
  (List.range n).map fun index => { reserved := if index + 1 < n then index + 1 else noEntry }

/-- Build a cache over an arena, checking the two geometries against each other. -/
def new (config : PrefixCacheConfig) (arena : KvArena) : Except PrefixCacheError PrefixCache :=
  if config.blockTokenCount = 0 ∨ maxBlockTokens < config.blockTokenCount.toNat ∨
      config.entryCount = 0 ∨ config.physicalBlockCount = 0 ∨
      config.sequenceBindingCount = 0 then
    .error .invalidArgument
  else if arena.physicalBlockCount < config.physicalBlockCount.toNat ∨
      arena.blockTokenCount ≠ config.blockTokenCount.toNat then
    .error .invalidArgument
  else
    .ok {
      blockTokenCount := config.blockTokenCount.toNat
      physicalBlockCount := config.physicalBlockCount.toNat
      entries := freeEntries config.entryCount.toNat
      bindings := freeBindings config.sequenceBindingCount.toNat
      arena
      freeEntryHead := 0
      freeBindingHead := 0
      tick := 0
      operationEpoch := 0
      lookaheadProtectionEpoch := 0 }

/-! ### Reading the tables -/

variable (c : PrefixCache)

variable (entryIndex : Nat)

def entry : Entry := c.entries.getD entryIndex {}

variable (bindingIndex : Nat)

def binding : Binding := c.bindings.getD bindingIndex {}

variable (tokenCount : Nat)

def maximumReusableTokenCount : Nat :=
  if tokenCount ≤ 1 then 0 else (tokenCount - 1) - (tokenCount - 1) % c.blockTokenCount

def fullBlockTokenCount : Nat :=
  tokenCount - tokenCount % c.blockTokenCount

def ceilBlockCount : Nat :=
  (tokenCount + c.blockTokenCount - 1) / c.blockTokenCount

variable (e : Entry)

/-- A committed full block offered for cross-sequence reuse. -/
def isReusable : Bool :=
  e.valid && e.reusable && !e.pending && e.tokenCount == c.blockTokenCount

def hasCurrentLookaheadProtection : Bool :=
  c.lookaheadProtectionEpoch != 0 && e.lookaheadProtectionEpoch == c.lookaheadProtectionEpoch

/-- The entry under a label. -/
def findEntry (label : BlockLabel) (reusableOnly : Bool) : Option Nat :=
  c.entries.findIdx? fun e => e.valid && e.label == label && (!reusableOnly || c.isReusable e)

/-- The binding of a sequence to an entry. -/
def findBinding (sequenceId entryIndex : Nat) : Option Nat :=
  c.bindings.findIdx? fun b => b.valid && b.sequenceId == sequenceId && b.entryIndex == entryIndex

def findBindingAtTokenOffset (sequenceId firstTokenIndex : Nat) : Option Nat :=
  c.bindings.findIdx? fun b =>
    b.valid && b.sequenceId == sequenceId && b.firstTokenIndex == firstTokenIndex

def findFreeBinding : Option Nat :=
  if c.freeBindingHead = noEntry then none
  else if c.bindings.length ≤ c.freeBindingHead ∨ (c.binding c.freeBindingHead).valid then none
  else some c.freeBindingHead

/-- The best unprotected and the best protected victim so far. -/
def considerVictim (victims : Option Nat × Option Nat) (index : Nat) : Option Nat × Option Nat :=
  let e := c.entry index
  if !e.isEvictable then victims
  else if c.hasCurrentLookaheadProtection e then
    match victims.2 with
    | none => (victims.1, some index)
    | some current =>
      if e.protectedVictimIsBetter (c.entry current) then (victims.1, some index) else victims
  else
    match victims.1 with
    | none => (some index, victims.2)
    | some current =>
      if e.lastUsedTick < (c.entry current).lastUsedTick then (some index, victims.2)
      else victims

/-- The entry to overwrite next: a free one, else the best evictable one. -/
def selectVictim : Option Nat :=
  if c.freeEntryHead ≠ noEntry then
    if c.entries.length ≤ c.freeEntryHead ∨ (c.entry c.freeEntryHead).valid then none
    else some c.freeEntryHead
  else
    match c.entries.findIdx? fun e => !e.valid with
    | some index => some index
    | none =>
      let victims := (List.range c.entries.length).foldl c.considerVictim (none, none)
      victims.1.or victims.2

/-! ### Internal transitions -/

def onArena {α : Type} (m : EStateM KvArenaError KvArena α) : CacheM α :=
  onPart PrefixCache.arena (fun c arena => { c with arena }) PrefixCacheError.ofArena m

def setEntry : PrefixCache :=
  { c with entries := c.entries.set entryIndex e }

def setBinding (b : Binding) : PrefixCache :=
  { c with bindings := c.bindings.set bindingIndex b }

def touchEntry : PrefixCache :=
  { c.setEntry entryIndex { c.entry entryIndex with lastUsedTick := c.tick + 1 } with
    tick := c.tick + 1 }

/-- Free the block of an unreferenced entry and put the entry on the free list. -/
def invalidateEntry : CacheM Unit := do
  let c ← get
  if c.entries.length ≤ entryIndex then throw .invalidArgument
  else if !(c.entry entryIndex).valid then pure ()
  else if (c.entry entryIndex).referenceCount ≠ 0 then throw .busy
  else do
    if (c.entry entryIndex).physicalBlockIndex ≠ noPhysicalBlock then
      onArena (KvArena.freeBlock (c.entry entryIndex).physicalBlockIndex)
    modify fun c =>
      { c.setEntry entryIndex { reserved := c.freeEntryHead } with freeEntryHead := entryIndex }

/-- The content and the flags of a freshly installed entry. -/
structure Installation where
  label : BlockLabel
  liveOnly : Bool
  operationEpoch : Nat

/-- A freshly installed entry; it is pending and unreferenced. -/
def Installation.entry (i : Installation) (physicalBlockIndex tick : Nat) : Entry :=
  { valid := true
    pending := true
    liveOnly := i.liveOnly
    tokenCount := i.label.tokenCount
    firstTokenIndex := i.label.firstTokenIndex
    physicalBlockIndex
    parentHash := i.label.parentHash
    blockHash := i.label.blockHash
    contentHash := i.label.contentHash
    lastUsedTick := tick
    reservationEpoch := i.operationEpoch }

/-- Install a pending entry over a victim or a free entry. -/
def installEntry (i : Installation) : CacheM Unit := do
  let c ← get
  if c.entries.length ≤ entryIndex then throw .invalidArgument
  else do
    let physicalBlockIndex ←
      if (c.entry entryIndex).valid then
        if (c.entry entryIndex).referenceCount ≠ 0 then throw .busy
        else do
          onArena (KvArena.recycleBlock (c.entry entryIndex).physicalBlockIndex)
          pure (c.entry entryIndex).physicalBlockIndex
      else if c.freeEntryHead ≠ entryIndex then throw .internalError
      else do
        let physicalBlockIndex ← onArena KvArena.acquireBlock
        modify fun c => { c with freeEntryHead := (c.entry entryIndex).reserved }
        pure physicalBlockIndex
    modify fun c =>
      { c.setEntry entryIndex (i.entry physicalBlockIndex (c.tick + 1)) with tick := c.tick + 1 }

/-- Drop one binding and the references it holds. -/
def releaseBinding : CacheM Unit := do
  let c ← get
  if c.bindings.length ≤ bindingIndex then throw .invalidArgument
  else if !(c.binding bindingIndex).valid then pure ()
  else do
    let b := c.binding bindingIndex
    let e := c.entry b.entryIndex
    if c.entries.length ≤ b.entryIndex ∨ e.referenceCount = 0 then throw .invalidArgument
    else do
      onArena (KvArena.releaseBlockReference b.physicalBlockIndex)
      modify fun c =>
        { (c.setEntry b.entryIndex { e with referenceCount := e.referenceCount - 1 }).setBinding
            bindingIndex { reserved := c.freeBindingHead } with
          freeBindingHead := bindingIndex }

def bindingTo (entryIndex sequenceId operationEpoch : Nat) (pending : Bool) :
    Binding :=
  { valid := true
    pending
    entryIndex
    firstTokenIndex := e.firstTokenIndex
    tokenCount := e.tokenCount
    physicalBlockIndex := e.physicalBlockIndex
    sequenceId
    parentHash := e.parentHash
    blockHash := e.blockHash
    acquireEpoch := operationEpoch }

/-- Bind a sequence to an entry unless it is bound to it already. -/
def acquireEntryForSequence (sequenceId entryIndex operationEpoch : Nat)
    (bindingIsPending : Bool) : CacheM Unit := do
  let c ← get
  if c.entries.length ≤ entryIndex then throw .invalidArgument
  else
    match c.findBinding sequenceId entryIndex with
    | some bindingIndex =>
      if bindingIsPending then
        set (c.setBinding bindingIndex { c.binding bindingIndex with pending := true })
    | none => do
        let bindingIndex ← orFail .capacityExceeded c.findFreeBinding
        let e := c.entry entryIndex
        onArena (KvArena.retainBlock e.physicalBlockIndex)
        if c.freeBindingHead ≠ bindingIndex then do
          let _ ← attempt (onArena (KvArena.releaseBlockReference e.physicalBlockIndex))
          throw .internalError
        else
          modify fun c =>
            { (c.setBinding bindingIndex
                { bindingTo e entryIndex sequenceId operationEpoch bindingIsPending with
                  reserved := (c.binding bindingIndex).reserved }).setEntry entryIndex
                { e with referenceCount := e.referenceCount + 1 } with
              freeBindingHead := (c.binding bindingIndex).reserved }

/-- Release what a sequence acquired in an epoch, and drop its unheld pending entries. -/
def rollbackEpoch (sequenceId operationEpoch : Nat) : CacheM Unit := do
  let c ← get
  forM (List.range c.bindings.length) fun bindingIndex => do
    let b := (← get).binding bindingIndex
    if b.valid && b.sequenceId == sequenceId && b.acquireEpoch == operationEpoch then
      releaseBinding bindingIndex
  forM (List.range c.entries.length) fun entryIndex => do
    let e := (← get).entry entryIndex
    if e.valid && e.pending && e.reservationEpoch == operationEpoch && e.referenceCount == 0 then
      invalidateEntry entryIndex

/-! ### Probing -/

variable (sequenceId : Nat)

/-- The sequence's own entry at the offset if the label agrees, else a reusable one. -/
def matchForSequence (label : BlockLabel) : Option Nat :=
  let own := (c.findBindingAtTokenOffset sequenceId label.firstTokenIndex).bind fun bindingIndex =>
      let entryIndex := (c.binding bindingIndex).entryIndex
      if entryIndex < c.entries.length ∧ (c.entry entryIndex).valid ∧
          (c.entry entryIndex).label = label then
        some entryIndex
      else none
  own.or (c.findEntry label true)

/-- The loop of `probePrompt` over the blocks that may be reused. -/
def probeBlocks (sequenceId : Nat) (tokenIds : List Nat) : Nat → Nat → Nat → Lookup → CacheM Lookup
  | 0, _, _, lookup => pure lookup
  | blocks + 1, parentHash, tokenOffset, lookup => do
      let c ← get
      let label := labelAt tokenIds parentHash tokenOffset c.blockTokenCount
      match c.matchForSequence sequenceId label with
      | none => pure lookup
      | some entryIndex => do
          set (c.touchEntry entryIndex)
          probeBlocks sequenceId tokenIds blocks label.blockHash (tokenOffset + c.blockTokenCount)
            { lookup with
              matchedTokenCount := lookup.matchedTokenCount + c.blockTokenCount
              matchedBlockCount := lookup.matchedBlockCount + 1
              physicalBlockIndex := (c.entry entryIndex).physicalBlockIndex
              lastBlockHash := label.blockHash }

variable (tokenIds : List Nat)

/-- Probe for a cached prefix without acquiring it. -/
def probePrompt : CacheM Lookup := do
  if tokenIds.isEmpty ∨ sequenceId = 0 then throw .invalidArgument
  else do
    let c ← get
    let tokenCount := tokenCountOf tokenIds
    let lookup ← probeBlocks sequenceId tokenIds
      (c.maximumReusableTokenCount tokenCount / c.blockTokenCount) emptyParentHash 0
      { requestedTokenCount := tokenCount, sequenceId }
    pure { lookup with nextTokenIndex := lookup.matchedTokenCount }

/-- State of one walk along the reusable prefix chain. -/
structure ChainWalk where
  parentHash : Nat := 0
  blockHash : Nat := 0
  tokenOffset : Nat := 0
  reusableTokenCount : Nat := 0
  matchedBlockCount : Nat := 0

/-- Go to the next block; all calls but the first one advance the tick. -/
def walkAdvance (walk : ChainWalk) (c : PrefixCache) : ChainWalk × PrefixCache :=
  if walk.matchedBlockCount = 0 ∧ walk.tokenOffset = 0 then
    ({ walk with
        parentHash := emptyParentHash
        reusableTokenCount := c.maximumReusableTokenCount (tokenCountOf tokenIds) }, c)
  else
    ({ walk with
        parentHash := walk.blockHash
        tokenOffset := walk.tokenOffset + c.blockTokenCount },
      { c with tick := c.tick + 1 })

/-- Step the chain one block. A matched entry gets the next tick. -/
def walkNext (walk : ChainWalk) (c : PrefixCache) : Option Nat × ChainWalk × PrefixCache :=
  let (walk, c) := walkAdvance tokenIds walk c
  if walk.reusableTokenCount ≤ walk.tokenOffset then (none, walk, c)
  else
    let label := labelAt tokenIds walk.parentHash walk.tokenOffset c.blockTokenCount
    let walk := { walk with blockHash := label.blockHash }
    match c.findEntry label true with
    | none => (none, walk, c)
    | some entryIndex =>
      (some entryIndex, { walk with matchedBlockCount := walk.matchedBlockCount + 1 },
        c.setEntry entryIndex { c.entry entryIndex with lastUsedTick := c.tick + 1 })

/-- Visit the entries of the reusable prefix of a prompt. -/
def walkPrefix {α : Type} (tokenIds : List Nat) (visit : α → Nat → CacheM α) :
    Nat → ChainWalk → α → CacheM α
  | 0, _, acc => pure acc
  | rounds + 1, walk, acc => do
      match walkNext tokenIds walk (← get) with
      | (none, _, c) => do
          set c
          pure acc
      | (some entryIndex, walk, c) => do
          set c
          let acc ← visit acc entryIndex
          walkPrefix tokenIds visit rounds walk acc

/-- Visit the reusable prefix, with one round for each block and one that ends it. -/
def walkReusablePrefix {α : Type} (tokenIds : List Nat) (visit : α → Nat → CacheM α) (acc : α) :
    CacheM α := do
  let c ← get
  walkPrefix tokenIds visit
    (c.maximumReusableTokenCount (tokenCountOf tokenIds) / c.blockTokenCount + 1) {} acc

/-- The blocks of the reusable prefix, if the capacity suffices. -/
def probePhysicalBlockTable (physicalBlockCapacity : Nat) : CacheM (Nat × List Nat) := do
  if tokenIds.isEmpty then throw .invalidArgument
  else do
    let physicalBlockIndices ← walkReusablePrefix tokenIds
      (fun (indices : List Nat) entryIndex => do
        if physicalBlockCapacity ≤ indices.length then throw .capacityExceeded
        else do
          pure (indices ++ [((← get).entry entryIndex).physicalBlockIndex])) []
    pure (physicalBlockIndices.length * (← get).blockTokenCount, physicalBlockIndices)

def fillPrefetchSourceBlock : Except PrefixCacheError PrefetchSourceBlock :=
  let e := c.entry entryIndex
  if !e.valid ∨ e.physicalBlockIndex = noPhysicalBlock ∨
      c.physicalBlockCount ≤ e.physicalBlockIndex then
    .error .invalidArgument
  else
    .ok {
      physicalBlockIndex := e.physicalBlockIndex
      tokenCapacity := c.blockTokenCount
      firstTokenIndex := e.firstTokenIndex
      tokenCount := e.tokenCount
      generation :=
        if c.arena.isAllocated e.physicalBlockIndex then c.arena.generation e.physicalBlockIndex
        else 0
      parentHash := e.parentHash
      blockHash := e.blockHash
      contentHash := e.contentHash }

/-- Fail with the error of a result, or return its value. -/
def ofExcept {α : Type} : Except PrefixCacheError α → CacheM α
  | .ok a => pure a
  | .error e => throw e

/-- The prefetch descriptors of the reusable prefix. -/
def probeReusablePrefixPrefetchSources (sourceBlockCapacity : Nat) :
    CacheM (Nat × List PrefetchSourceBlock) := do
  if tokenIds.isEmpty then throw .invalidArgument
  else do
    let sourceBlocks ← walkReusablePrefix tokenIds
      (fun (blocks : List PrefetchSourceBlock) entryIndex => do
        if sourceBlockCapacity ≤ blocks.length then throw .capacityExceeded
        else do
          let block ← ofExcept ((← get).fillPrefetchSourceBlock entryIndex)
          pure (blocks ++ [block])) []
    pure (sourceBlocks.length * (← get).blockTokenCount, sourceBlocks)

/-- Count a block as nonresident if it is in range and not resident. -/
def countResidency (probe : ResidencyProbe) (physicalBlockIndex : Nat) :
    ResidencyProbe :=
  if physicalBlockIndex < c.physicalBlockCount ∧ !c.arena.isResident physicalBlockIndex then
    { probe with nonresidentBlockCount := probe.nonresidentBlockCount + 1 }
  else { probe with residentBlockCount := probe.residentBlockCount + 1 }

/-- The residency of the reusable prefix, with the matched token count. -/
def probeReusablePrefixResidency : CacheM (Nat × ResidencyProbe) := do
  if tokenIds.isEmpty then throw .invalidArgument
  else do
    let probe ← walkReusablePrefix tokenIds (fun (probe : ResidencyProbe) entryIndex => do
        let c ← get
        pure (c.countResidency probe (c.entry entryIndex).physicalBlockIndex)) {}
    pure ((probe.residentBlockCount + probe.nonresidentBlockCount) * (← get).blockTokenCount, probe)

/-! ### Lookahead protection -/

/-- Advance the lookahead protection epoch; on wrap-around every protection is cleared. -/
def resetLookaheadProtection : CacheM Unit :=
  modify fun c =>
    if (c.lookaheadProtectionEpoch + 1) % 2 ^ 64 = 0 then
      { c with
        lookaheadProtectionEpoch := 1
        entries := c.entries.map fun e =>
          { e with
            lookaheadProtectionEpoch := 0, lookaheadPriority := 0, lookaheadRequestCount := 0 } }
    else { c with lookaheadProtectionEpoch := c.lookaheadProtectionEpoch + 1 }

/-- An entry protected by one more request for the current epoch. -/
def protectEntry (demandWeight : Nat) : Entry :=
  if e.lookaheadProtectionEpoch ≠ c.lookaheadProtectionEpoch then
    { e with
      lookaheadProtectionEpoch := c.lookaheadProtectionEpoch
      lookaheadPriority := demandWeight
      lookaheadRequestCount := 1 }
  else
    { e with
      lookaheadPriority := max demandWeight e.lookaheadPriority
      lookaheadRequestCount := min (e.lookaheadRequestCount + 1) (2 ^ 32 - 1) }

/-- The loop of `protectPromptLookahead`; it returns the number of protected blocks. -/
def protectBlocks (tokenIds : List Nat) (demandWeight : Nat) : Nat → Nat → Nat → Nat → CacheM Nat
  | 0, _, _, protectedBlockCount => pure protectedBlockCount
  | blocks + 1, parentHash, tokenOffset, protectedBlockCount => do
      let c ← get
      let label := labelAt tokenIds parentHash tokenOffset c.blockTokenCount
      match c.findEntry label true with
      | none => pure protectedBlockCount
      | some entryIndex => do
          set (c.setEntry entryIndex (c.protectEntry (c.entry entryIndex) demandWeight))
          protectBlocks tokenIds demandWeight blocks label.blockHash
            (tokenOffset + c.blockTokenCount) (protectedBlockCount + 1)

/-- Protect the reusable prefix of a prompt; the tokens and blocks protected. -/
def protectPromptLookahead (demandWeight : Nat) : CacheM (Nat × Nat) := do
  if tokenIds.isEmpty then throw .invalidArgument
  else do
    if (← get).lookaheadProtectionEpoch = 0 then resetLookaheadProtection
    let c ← get
    let count ← protectBlocks tokenIds demandWeight
      (c.maximumReusableTokenCount (tokenCountOf tokenIds) / c.blockTokenCount)
      emptyParentHash 0 0
    pure (count * c.blockTokenCount, count)

/-! ### Reuse-scored residency trimming -/

/-- Addition and multiplication of 64-bit words that saturate. -/
def satAdd (x y : Nat) : Nat := min (x + y) (2 ^ 64 - 1)

def satMul (x y : Nat) : Nat := min (x * y) (2 ^ 64 - 1)

def reuseScoreLookaheadBase : Nat := 1000000000000000
def reuseScorePriorityWeight : Nat := 1000000000
def reuseScoreRequestWeight : Nat := 10000000
def reuseScoreReferenceWeight : Nat := 1000000000000
def reuseScoreTokenDepthWeight : Nat := 1024

variable (physicalBlockIndex : Nat)

/-- The most valuable valid entry that holds a physical block. -/
def findResidentEntryForPhysicalBlock : Option Nat :=
  (List.range c.entries.length).foldl (fun best index =>
    let e := c.entry index
    if !e.valid ∨ e.physicalBlockIndex ≠ physicalBlockIndex then best
    else
      match best with
      | none => some index
      | some current =>
        if (c.entry current).protectedVictimIsBetter e then some index else best) none

/-- The score a block is kept for; the depth of its prefix is a 32-bit word. -/
def computeResidentBlockKeepScore (entryIndex : Option Nat) : Nat :=
  let score := satAdd (c.arena.lastUsedEpoch physicalBlockIndex)
    (satMul (c.arena.referenceCount physicalBlockIndex) reuseScoreReferenceWeight)
  match entryIndex with
  | none => score
  | some index =>
    let e := c.entry index
    let score := satAdd score e.lastUsedTick
    let score := satAdd score (satMul e.referenceCount reuseScoreReferenceWeight)
    let score := satAdd score
      (satMul ((e.firstTokenIndex + e.tokenCount) % 2 ^ 32) reuseScoreTokenDepthWeight)
    if c.hasCurrentLookaheadProtection e then
      let score := satAdd score reuseScoreLookaheadBase
      let score := satAdd score (satMul e.lookaheadPriority reuseScorePriorityWeight)
      satAdd score (satMul e.lookaheadRequestCount reuseScoreRequestWeight)
    else score

/-- Eviction candidate of reuse-scored trimming. -/
structure ResidentEvictionCandidate where
  physicalBlockIndex : Nat
  hasPrefixEntry : Bool
  keepScore : Nat
  lastUsedEpoch : Nat

def ResidentEvictionCandidate.isBetter (candidate current : ResidentEvictionCandidate) : Bool :=
  if candidate.keepScore ≠ current.keepScore then candidate.keepScore < current.keepScore
  else if candidate.hasPrefixEntry ≠ current.hasPrefixEntry then !candidate.hasPrefixEntry
  else if candidate.lastUsedEpoch ≠ current.lastUsedEpoch then
    candidate.lastUsedEpoch < current.lastUsedEpoch
  else candidate.physicalBlockIndex < current.physicalBlockIndex

def residentEvictionCandidate :
    ResidentEvictionCandidate :=
  let entryIndex := c.findResidentEntryForPhysicalBlock physicalBlockIndex
  { physicalBlockIndex
    hasPrefixEntry := entryIndex.isSome
    keepScore := c.computeResidentBlockKeepScore physicalBlockIndex entryIndex
    lastUsedEpoch := c.arena.lastUsedEpoch physicalBlockIndex }

def selectResidentReuseScoreVictim (hardProtected : List Nat) : Option ResidentEvictionCandidate :=
  (List.range c.arena.physicalBlockCount).foldl (fun victim physicalBlockIndex =>
    if !c.arena.isAllocated physicalBlockIndex || !c.arena.isResident physicalBlockIndex ||
        hardProtected.contains physicalBlockIndex then victim
    else
      let candidate := c.residentEvictionCandidate physicalBlockIndex
      match victim with
      | none => some candidate
      | some current => if candidate.isBetter current then some candidate else victim) none

/-- The loop of `trimResidentBlocksByReuseScore`. -/
def trimByReuseScoreLoop (maxResidentBlockCount : Nat) (hardProtected : List Nat) :
    Nat → Nat → CacheM Nat
  | 0, evicted => pure evicted
  | fuel + 1, evicted => do
      let c ← get
      if maxResidentBlockCount < c.arena.residentBlockCount then
        match c.selectResidentReuseScoreVictim hardProtected with
        | none => throw .capacityExceeded
        | some victim => do
            onArena (KvArena.markBlockNonresident victim.physicalBlockIndex)
            trimByReuseScoreLoop maxResidentBlockCount hardProtected fuel (evicted + 1)
      else pure evicted

/-- Trim residents down to a limit, the least valuable block first. -/
def trimResidentBlocksByReuseScore (maxResidentBlockCount : Nat) (hardProtected : List Nat) :
    CacheM Nat := do
  let c ← get
  if c.arena.physicalBlockCount < maxResidentBlockCount then throw .invalidArgument
  else
    trimByReuseScoreLoop maxResidentBlockCount hardProtected
      (c.arena.residentBlockCount - maxResidentBlockCount) 0

/-! ### Lookup and reservation -/

def nextOperationEpoch : CacheM Nat := do
  modify fun c => { c with operationEpoch := c.operationEpoch + 1 }
  pure (← get).operationEpoch

/-- The loop of `lookupPrompt` over the matched blocks. -/
def lookupBlocks (sequenceId : Nat) (tokenIds : List Nat) (operationEpoch : Nat) :
    Nat → Nat → Nat → CacheM Unit
  | 0, _, _ => pure ()
  | blocks + 1, parentHash, tokenOffset => do
      let c ← get
      let label := labelAt tokenIds parentHash tokenOffset c.blockTokenCount
      let entryIndex ← orFail .internalError (c.findEntry label true)
      acquireEntryForSequence sequenceId entryIndex operationEpoch false
      lookupBlocks sequenceId tokenIds operationEpoch blocks label.blockHash
        (tokenOffset + c.blockTokenCount)

/-- Probe and then bind the matched reusable prefix. -/
def lookupPrompt : CacheM Lookup := do
  let probe ← probePrompt sequenceId tokenIds
  let operationEpoch ← nextOperationEpoch
  onError (lookupBlocks sequenceId tokenIds operationEpoch probe.matchedBlockCount
    emptyParentHash 0) (rollbackEpoch sequenceId operationEpoch)
  pure probe

/-- The progress of a reservation: the next block and the result so far. -/
structure ReserveCursor where
  parentHash : Nat
  tokenOffset : Nat
  reservation : Reservation

/-- The entry the sequence holds at the offset, else a reusable one if it may be shared. -/
def findForReservation (label : BlockLabel) (mayShare : Bool) : Option Nat :=
  let own := (c.findBindingAtTokenOffset sequenceId label.firstTokenIndex).bind fun bindingIndex =>
      let entryIndex := (c.binding bindingIndex).entryIndex
      if entryIndex < c.entries.length then some entryIndex else none
  own.or (if mayShare then c.findEntry label true else none)

/-- How a found entry is counted in the reservation. -/
def countFound (r : Reservation) (e : Entry) (blockTokenCount : Nat) :
    Reservation :=
  if c.isReusable e then
    { r with
      cachedPhysicalBlockCount := r.cachedPhysicalBlockCount + 1
      reusableTokenCount := r.reusableTokenCount + blockTokenCount }
  else if e.pending then { r with pendingPhysicalBlockCount := r.pendingPhysicalBlockCount + 1 }
  else r

/-- Find the entry of a block or install it over a victim, and count it. -/
def findOrInstall (i : Installation) (mayShare : Bool) (r : Reservation) :
    CacheM (Nat × Reservation) := do
  let c ← get
  match c.findForReservation sequenceId i.label mayShare with
  | some index => pure (index, c.countFound r (c.entry index) i.label.tokenCount)
  | none => do
      let victim ← orFail .capacityExceeded c.selectVictim
      installEntry victim i
      pure (victim, { r with pendingPhysicalBlockCount := r.pendingPhysicalBlockCount + 1 })

/-- Reserve one block: find or install its entry and bind the sequence to it. -/
def reserveBlock (allowCrossSequenceReuse : Bool)
    (operationEpoch : Nat) (cursor : ReserveCursor) : CacheM ReserveCursor := do
  let c ← get
  let tokenCount := tokenCountOf tokenIds
  let blockTokenCount := min c.blockTokenCount (tokenCount - cursor.tokenOffset)
  let isFullBlock := blockTokenCount == c.blockTokenCount
  let label := labelAt tokenIds cursor.parentHash cursor.tokenOffset blockTokenCount
  let mayShare := allowCrossSequenceReuse && isFullBlock &&
    cursor.tokenOffset < c.maximumReusableTokenCount tokenCount
  let (index, reservation) ← findOrInstall sequenceId
    { label, liveOnly := !isFullBlock || !allowCrossSequenceReuse, operationEpoch }
    mayShare cursor.reservation
  acquireEntryForSequence sequenceId index operationEpoch ((← get).entry index).pending
  let c ← get
  set (c.touchEntry index)
  pure {
    parentHash := label.blockHash
    tokenOffset := cursor.tokenOffset + blockTokenCount
    reservation := { reservation with
      physicalBlockIndices :=
        reservation.physicalBlockIndices ++ [(c.entry index).physicalBlockIndex] } }

def reservePromptInternal (allowCrossSequenceReuse : Bool) : CacheM Reservation := do
  if tokenIds.isEmpty ∨ sequenceId = 0 then throw .invalidArgument
  else do
    let tokenCount := tokenCountOf tokenIds
    let blockCount := (← get).ceilBlockCount tokenCount
    let operationEpoch ← nextOperationEpoch
    let cursor ← onError
      (iterate (reserveBlock sequenceId tokenIds allowCrossSequenceReuse operationEpoch) blockCount
        { parentHash := emptyParentHash
          tokenOffset := 0
          reservation :=
            { requestedTokenCount := tokenCount, sequenceId, reservationEpoch := operationEpoch } })
      (rollbackEpoch sequenceId operationEpoch)
    pure { cursor.reservation with
      reservedTokenCount := tokenCount
      physicalBlockCount := blockCount
      lastBlockHash := cursor.parentHash }

/-- Reserve the blocks of a prompt, reusing committed ones. -/
def reservePrompt : CacheM Reservation :=
  reservePromptInternal sequenceId tokenIds true

/-- Reserve the blocks of a prompt without cross-sequence reuse. -/
def reserveSequencePrompt : CacheM Reservation :=
  reservePromptInternal sequenceId tokenIds false

/-- A pending entry after its commit: a full shared block becomes reusable. -/
def commitEntry (reservationEpoch : Nat) : Entry :=
  if e.tokenCount = c.blockTokenCount ∧ !e.liveOnly then
    { e with pending := false, reusable := true, committedEpoch := reservationEpoch }
  else { e with pending := false, liveOnly := true, committedEpoch := reservationEpoch }

/-- What was reserved becomes resident. -/
def commitReservation (sequenceId reservationEpoch : Nat) : CacheM Unit := do
  if sequenceId = 0 ∨ reservationEpoch = 0 then throw .invalidArgument
  else do
    forM (List.range (← get).entries.length) fun entryIndex => do
      let e := (← get).entry entryIndex
      if e.valid && e.pending && e.reservationEpoch == reservationEpoch then do
        onArena (KvArena.markBlockResident e.physicalBlockIndex)
        modify fun c => c.setEntry entryIndex (c.commitEntry e reservationEpoch)
    modify fun c =>
      { c with
        bindings := c.bindings.map fun b =>
          if b.valid && b.sequenceId == sequenceId && b.acquireEpoch == reservationEpoch then
            { b with pending := false }
          else b }

/-- What was reserved is given up. -/
def cancelReservation (sequenceId reservationEpoch : Nat) : CacheM Unit := do
  if sequenceId = 0 ∨ reservationEpoch = 0 then throw .invalidArgument
  else rollbackEpoch sequenceId reservationEpoch

/-- Reserves a prompt and commits it. -/
def commitPrompt : CacheM Lookup := do
  let tokenCount := tokenCountOf tokenIds
  let reservation ← reservePrompt sequenceId tokenIds
  onError (commitReservation sequenceId reservation.reservationEpoch)
    (cancelReservation sequenceId reservation.reservationEpoch)
  let c ← get
  let committedTokenCount := c.fullBlockTokenCount tokenCount
  pure {
    requestedTokenCount := tokenCount
    matchedTokenCount := committedTokenCount
    matchedBlockCount := committedTokenCount / c.blockTokenCount
    nextTokenIndex := committedTokenCount
    sequenceId
    lastBlockHash := reservation.lastBlockHash }

/-! ### Growth, forking and release -/

/-- The next block, the parent hash, and the last short block that was found. -/
structure GrowCursor where
  blockIndex : Nat := 0
  parentHash : Nat := emptyParentHash
  short : Option (Nat × Nat) := none

/-- Check one block that the sequence already holds. -/
def checkHeldBlock (cursor : GrowCursor)
    (bindingIndex : Nat) : Except PrefixCacheError GrowCursor :=
  let firstTokenIndex := cursor.blockIndex * c.blockTokenCount
  let requiredBlockTokenCount := min c.blockTokenCount (tokenCount - firstTokenIndex)
  let b := c.binding bindingIndex
  let e := c.entry b.entryIndex
  if c.entries.length ≤ b.entryIndex ∨ c.physicalBlockCount ≤ b.physicalBlockIndex ∨
      b.tokenCount = 0 ∨ c.blockTokenCount < b.tokenCount then
    .error .invalidArgument
  else if !e.valid ∨ e.pending ∨ e.firstTokenIndex ≠ firstTokenIndex ∨
      e.physicalBlockIndex ≠ b.physicalBlockIndex ∨ e.tokenCount ≠ b.tokenCount then
    .error .busy
  else if b.tokenCount < requiredBlockTokenCount then
    if !e.liveOnly ∨ e.referenceCount ≠ 1 ∨ cursor.short.isSome then .error .moduleNotValidated
    else
      .ok {
        blockIndex := cursor.blockIndex + 1
        parentHash := b.blockHash
        short := some (bindingIndex, b.entryIndex) }
  else .ok { cursor with blockIndex := cursor.blockIndex + 1, parentHash := b.blockHash }

/-- Grow by one position: check the block held there or add a private one. -/
def growBlock (sequenceId tokenCount operationEpoch : Nat) (cursor : GrowCursor) :
    CacheM GrowCursor := do
  let c ← get
  let firstTokenIndex := cursor.blockIndex * c.blockTokenCount
  match c.findBindingAtTokenOffset sequenceId firstTokenIndex with
  | some bindingIndex => ofExcept (c.checkHeldBlock tokenCount cursor bindingIndex)
  | none => do
      let victim ← orFail .capacityExceeded c.selectVictim
      let blockHash := mixU64 (mixU64 cursor.parentHash sequenceId) firstTokenIndex
      installEntry victim
        { label :=
            { parentHash := cursor.parentHash
              blockHash
              contentHash := mixU64 blockHash operationEpoch
              firstTokenIndex
              tokenCount := c.blockTokenCount }
          liveOnly := true
          operationEpoch }
      acquireEntryForSequence sequenceId victim operationEpoch true
      pure { cursor with blockIndex := cursor.blockIndex + 1, parentHash := blockHash }

/-- Extend a short private block to a full one, in its binding and in its entry. -/
def growShort (bindingIndex entryIndex : Nat) (c : PrefixCache) : PrefixCache :=
  (c.setBinding bindingIndex
      { c.binding bindingIndex with tokenCount := c.blockTokenCount }).setEntry entryIndex
    { c.entry entryIndex with
      tokenCount := c.blockTokenCount, reusable := false, liveOnly := true }

/-- Ensure that a sequence owns blocks for `tokenCount` positions. -/
def ensureSequenceTokenCapacity (sequenceId tokenCount : Nat) : CacheM Unit := do
  if sequenceId = 0 ∨ tokenCount = 0 then throw .invalidArgument
  else do
    let blockCount := (← get).ceilBlockCount tokenCount
    let operationEpoch ← nextOperationEpoch
    let cursor ← onError (do
        let cursor ← iterate (growBlock sequenceId tokenCount operationEpoch) blockCount {}
        commitReservation sequenceId operationEpoch
        pure cursor)
      (rollbackEpoch sequenceId operationEpoch)
    match cursor.short with
    | some (bindingIndex, entryIndex) => modify (growShort bindingIndex entryIndex)
    | none => pure ()

/-- The pages of a sequence, in order. -/
def buildPhysicalBlockTable (sequenceId tokenCount : Nat) : CacheM (List Nat) := do
  if sequenceId = 0 ∨ tokenCount = 0 then throw .invalidArgument
  else do
    let c ← get
    (List.range (c.ceilBlockCount tokenCount)).foldlM (fun indices blockIndex => do
      let tokenOffset := blockIndex * c.blockTokenCount
      let requiredBlockTokenCount := min c.blockTokenCount (tokenCount - tokenOffset)
      let bindingIndex ← orFail .notFound (c.findBindingAtTokenOffset sequenceId tokenOffset)
      if (c.binding bindingIndex).tokenCount < requiredBlockTokenCount then throw .notFound
      else pure (indices ++ [(c.binding bindingIndex).physicalBlockIndex])) []

/-- The prefetch descriptors of the blocks a sequence holds. -/
def buildSequencePrefetchSources (sequenceId tokenCount : Nat) :
    CacheM (List PrefetchSourceBlock) := do
  if sequenceId = 0 ∨ tokenCount = 0 then throw .invalidArgument
  else do
    let c ← get
    let sources ← iterate (fun (acc : Nat × List PrefetchSourceBlock) => do
      let bindingIndex ← orFail .notFound (c.findBindingAtTokenOffset sequenceId acc.1)
      let b := c.binding bindingIndex
      if c.entries.length ≤ b.entryIndex then throw .notFound
      else do
        let block ← ofExcept (c.fillPrefetchSourceBlock b.entryIndex)
        pure (acc.1 + b.tokenCount, acc.2 ++ [block])) (c.ceilBlockCount tokenCount) (0, [])
    pure sources.2

/-- The blocks a sequence needs, and the residency of those it holds. -/
def probeSequenceResidency (sequenceId tokenCount : Nat) : CacheM (Nat × ResidencyProbe) := do
  if sequenceId = 0 ∨ tokenCount = 0 then throw .invalidArgument
  else do
    let c ← get
    let probe ← iterate (fun (acc : Nat × ResidencyProbe) => do
      let bindingIndex ← orFail .notFound (c.findBindingAtTokenOffset sequenceId acc.1)
      let b := c.binding bindingIndex
      pure (acc.1 + b.tokenCount, c.countResidency acc.2 b.physicalBlockIndex))
      (c.ceilBlockCount tokenCount) (0, {})
    pure (c.ceilBlockCount tokenCount, probe.2)

/-- Bind the target to the source's block at an offset; the next offset. -/
def bindBlock (sourceSequenceId targetSequenceId tokenCount operationEpoch tokenOffset : Nat) :
    CacheM Nat := do
  let c ← get
  let sourceBindingIndex ← orFail .notFound
    (c.findBindingAtTokenOffset sourceSequenceId tokenOffset)
  let source := c.binding sourceBindingIndex
  if c.entries.length ≤ source.entryIndex ∨ source.tokenCount = 0 ∨
      tokenCount < tokenOffset + source.tokenCount then
    throw .notFound
  else if !(c.entry source.entryIndex).valid ∨ (c.entry source.entryIndex).pending then
    throw .busy
  else if (c.findBindingAtTokenOffset targetSequenceId tokenOffset).any fun targetBindingIndex =>
      (c.binding targetBindingIndex).entryIndex != source.entryIndex then
    throw .duplicate
  else do
    acquireEntryForSequence targetSequenceId source.entryIndex operationEpoch false
    pure (tokenOffset + source.tokenCount)

/-- The loop of `bindCommittedPrefixFromSequence`; the token count bounds it. -/
def bindBlocks (sourceSequenceId targetSequenceId tokenCount operationEpoch : Nat) :
    Nat → Nat → CacheM Unit
  | 0, _ => pure ()
  | rounds + 1, tokenOffset =>
    if tokenOffset < tokenCount then do
      let tokenOffset ←
        bindBlock sourceSequenceId targetSequenceId tokenCount operationEpoch tokenOffset
      bindBlocks sourceSequenceId targetSequenceId tokenCount operationEpoch rounds tokenOffset
    else pure ()

/-- Bind the committed prefix blocks of one sequence to another. -/
def bindCommittedPrefixFromSequence (sourceSequenceId targetSequenceId tokenCount : Nat) :
    CacheM Unit := do
  if sourceSequenceId = 0 ∨ targetSequenceId = 0 ∨ sourceSequenceId = targetSequenceId ∨
      tokenCount = 0 then
    throw .invalidArgument
  else do
    let operationEpoch ← nextOperationEpoch
    onError (bindBlocks sourceSequenceId targetSequenceId tokenCount operationEpoch tokenCount 0)
      (rollbackEpoch targetSequenceId operationEpoch)

/-- Release the bindings of a sequence, and drop unheld entries that are not offered. -/
def releaseSequence : CacheM Unit := do
  if sequenceId = 0 then throw .invalidArgument
  else do
    let c ← get
    forM (List.range c.bindings.length) fun bindingIndex => do
      let b := (← get).binding bindingIndex
      if b.valid && b.sequenceId == sequenceId then releaseBinding bindingIndex
    forM (List.range c.entries.length) fun entryIndex => do
      let e := (← get).entry entryIndex
      if e.valid && !e.reusable && e.referenceCount == 0 then invalidateEntry entryIndex

/-- Free every entry, binding and block and restart the clocks. -/
def reset : CacheM Unit :=
  modify fun c =>
    { c with
      entries := freeEntries c.entries.length
      bindings := freeBindings c.bindings.length
      arena := c.arena.reset
      freeEntryHead := 0
      freeBindingHead := 0
      tick := 0
      operationEpoch := 0
      lookaheadProtectionEpoch := 0 }

end PrefixCache

end SparkPipe
