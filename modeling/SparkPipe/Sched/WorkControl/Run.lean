import Mathlib.Algebra.Order.Floor.Div
import SparkPipe.Sched.WorkControl.Building

/-!
# Runs of the KV state

Whatever operations are applied, and whatever the hooks answer, the counters of the state count
what its tables hold, every directory entry has its record, and physical blocks and backing slots
have one owner.
-/

open Program

namespace SparkPipe

open KvState WorkControl

variable {W : SwapHooks} {s : KvState W}

/-- The events that an operation may make in a state. -/
def KvOp.Allows (op : KvOp W) (s : KvState W) : KvRule :=
  match op with
  | .configureKvSwap capacity _ => fun _ event => event = .supply capacity
  | .configureKvPins | .configureKvSharing _ _ => fun _ event => event = .configure
  | .pinPhysicalBlock p => fun _ event => event = .pin p
  | .unpinPhysicalBlock p => fun _ event => event = .unpin p
  | .advanceKvGeneration generation => Renewing (s.controlGeneration < generation)
  | .acquireTransientPhysicalBlock => Lending
  | .releaseTransientPhysicalBlock p => fun _ event => event = .takeBack p
  | .buildHostKvBlockTable packet _ =>
    Tabulating (s.Wants packet) (s.controlGeneration < packet.controlGeneration)
  | .commitHostKvBlockTable packet _ => Committing packet
  | .cancelHostKvBlockTable packet _ => Cancelling packet
  | .releaseSequence q n => Removing fun D => ∃ blk < n, D = privateKey q blk
  | .releasePacketSequences packet _ =>
    Withdrawing packet (s.controlGeneration < packet.controlGeneration)
  | .collectKvPrefetchEntries _ _ _ => fun _ event => event = .mark

theorem KvOp.exec_follows (op : KvOp W) (s : KvState W) : Follows (op.Allows s) s (op.exec s) := by
  cases op with
  | configureKvSwap capacity store => exact (configureKvSwap_follows capacity store).related s
  | configureKvPins => exact configureKvPins_follows.related s
  | configureKvSharing keys stride => exact (configureKvSharing_follows keys stride).related s
  | pinPhysicalBlock p => exact (pinPhysicalBlock_follows p).related s
  | unpinPhysicalBlock p => exact (unpinPhysicalBlock_follows p).related s
  | advanceKvGeneration generation => exact advanceKvGeneration_follows generation
  | acquireTransientPhysicalBlock => exact acquireTransientPhysicalBlock_follows.related s
  | releaseTransientPhysicalBlock p => exact (releaseTransientPhysicalBlock_follows p).related s
  | buildHostKvBlockTable _ config => exact buildHostKvBlockTable_follows config
  | commitHostKvBlockTable packet config =>
    exact (commitHostKvBlockTable_follows packet config).related s
  | cancelHostKvBlockTable packet config =>
    exact (cancelHostKvBlockTable_follows packet config).related s
  | releaseSequence => exact (releaseSequence_follows (fun blk hblk => ⟨blk, hblk, rfl⟩)).related s
  | releasePacketSequences packet config => exact releasePacketSequences_follows packet config
  | collectKvPrefetchEntries packets config capacity =>
    exact (collectKvPrefetchEntries_follows packets config capacity).related s

/-! ### The first state -/

section New

variable {laneCapacity laneStride blockTokenCount physicalBlockCapacity directoryCapacity
  blockEntryCapacity : UInt32} {s : KvState W}

theorem resetKvGeneration_of_new (h : new laneCapacity laneStride blockTokenCount
    physicalBlockCapacity directoryCapacity blockEntryCapacity = .ok s) :
    s.resetKvGeneration 0 = s := by
  rw [new] at h
  split_ifs at h
  cases h
  simp [resetKvGeneration, tableEntryCapacity, KvState.laneCapacity,
    KvState.physicalBlockCapacity, KvState.directoryCapacity, KvState.blockEntryCapacity,
    backingBlockCapacity, freshBackingBlocks]

theorem owned_of_new (h : KvState.new laneCapacity laneStride blockTokenCount
    physicalBlockCapacity directoryCapacity blockEntryCapacity = .ok s) : s.Owned := by
  have hreset := resetKvGeneration_of_new h
  have htabled : s.Tabled := by
    rw [KvState.new] at h
    split_ifs at h with hinvalid
    cases h
    simp only [Bool.not_eq_false, capacitiesAreValid, Bool.and_eq_true, decide_eq_true_eq]
      at hinvalid
    obtain ⟨hdirectory, hsize, -⟩ := Slots.HalfFull.initial (S := kvDirectorySlots)
      directoryCapacity.toNat
    obtain ⟨hblocks, hsize', -⟩ := Slots.HalfFull.initial (S := kvBlockSlots)
      blockEntryCapacity.toNat
    refine ⟨hdirectory, hblocks, hsize.symm, hsize'.symm, ?_, ?_, ?_, Nat.zero_le _,
      iff_of_true rfl rfl, Nat.zero_le _⟩
    · exact (Nat.pos_of_ne_zero hinvalid.1.1.1.1.1.2).trans_eq List.length_replicate.symm
    · exact List.length_replicate.trans_le hinvalid.1.1.1.1.2
    · exact List.length_replicate.trans_lt directoryCapacity.toNat_lt
  rw [← hreset]
  refine ⟨.resetKvGeneration htabled 0, ?_⟩
  rw [core_resetKvGeneration]
  exact KvCore.sound_reset _ _

end New

theorem KvOp.run_owned (h : s.Owned) (ops : List (KvOp W)) : (runAll exec s ops).Owned :=
  runAll_invariant (fun op s hs => (op.exec_follows s hs).1) ops h

theorem KvOp.run_invariant {P : KvState W → KvOp W → Prop} {I : KvState W → Prop}
    (hstep : ∀ {t op}, t.Owned → P t op → I t → I (op.exec t)) {ops : List (KvOp W)}
    (hops : Along exec P s ops) (h : s.Owned) (hI : I s) : I (runAll exec s ops) :=
  (runAll_invariant_along (I := fun t => t.Owned ∧ I t)
    (fun op t hop ht => ⟨(op.exec_follows t ht.1).1, hstep ht.1 hop ht.2⟩) ops hops ⟨h, hI⟩).2

/-! ### Everything is accounted for -/

/-- How the tables, the counters and the owners of blocks and slots agree. -/
structure KvState.Accounted (s : KvState W) : Prop where
  directoryCount : s.directoryEntryCount =
    s.directoryEntries.countP fun entry => decide (entry.key ≠ {})
  blockCount : s.blockEntryCount = s.blockEntries.countP fun entry => decide (entry.key ≠ {})
  named : ∀ entry ∈ s.directoryEntries, entry.key ≠ {} →
    ∃ slot, s.findBlock entry.blockKey = some slot ∧ slot < s.blockEntryCapacity ∧
      (s.blockEntry slot).key = entry.blockKey
  referenced : ∀ record ∈ s.blockEntries, record.key ≠ {} → 1 ≤ record.referenceCount ∧
    record.referenceCount = s.directoryEntries.countP fun entry =>
      decide (entry.key ≠ {} ∧ entry.blockKey = record.key)
  placed : ∀ record ∈ s.blockEntries, record.key ≠ {} →
    record.residencyState = .gpu ∧ record.physicalBlockIndex < s.physicalBlockCapacity ∧
        (s.physicalBlock record.physicalBlockIndex).key = record.key ∨
      record.residencyState = .nvme ∧ record.physicalBlockIndex = kvInvalidBlockIndex ∧
        record.backingValid
  backed : s.backingBlockCapacity ≠ 0 → ∀ record ∈ s.blockEntries, record.key ≠ {} →
    record.backingBlockIndex < s.backingBlockCapacity
  physicalOwner : ∀ i < s.blockEntryCapacity, ∀ j < s.blockEntryCapacity,
    (s.blockEntry i).key ≠ {} → (s.blockEntry j).key ≠ {} →
    (s.blockEntry i).physicalBlockIndex = (s.blockEntry j).physicalBlockIndex →
    (s.blockEntry i).physicalBlockIndex ≠ kvInvalidBlockIndex → i = j
  backingOwner : ∀ i < s.blockEntryCapacity, ∀ j < s.blockEntryCapacity,
    (s.blockEntry i).key ≠ {} → (s.blockEntry j).key ≠ {} →
    (s.blockEntry i).backingBlockIndex = (s.blockEntry j).backingBlockIndex →
    (s.blockEntry i).backingBlockIndex ≠ kvInvalidBlockIndex → i = j
  allocatedCount : s.allocatedPhysicalBlockCount =
    s.physicalBlocks.countP fun block => decide (block.key ≠ {})
  swappedCount : s.swappedBlockCount =
    s.blockEntries.countP fun entry => decide (entry.key ≠ {} ∧ entry.residencyState = .nvme)

namespace KvState

variable {s : KvState W}

section

variable (h : s.Owned) {record : KvBlockEntry}
include h

theorem Owned.record_of_mem (hmem : record ∈ s.blockEntries)
    (hkey : record.key ≠ {}) : s.core.record record.key = some record :=
  (h.kept.tabled.blocks.reachable.lookup_eq_some_iff hkey).mpr ⟨hmem, rfl⟩

theorem Owned.record_of_cell {i : Nat} (hi : i < s.blockEntryCapacity)
    (hkey : (s.blockEntry i).key ≠ {}) :
    s.core.record (s.blockEntry i).key = some (s.blockEntry i) :=
  h.record_of_mem (Slots.entry_mem hi) hkey

theorem Owned.slotOf_of_mem (hmem : record ∈ s.blockEntries)
    (hkey : record.key ≠ {}) : s.slotOf record.key = some record.backingBlockIndex := by
  rw [slotOf, h.record_of_mem hmem hkey]
  rfl

theorem Owned.directory_of_mem {entry : KvDirectoryEntry}
    (hmem : entry ∈ s.directoryEntries) (hkey : entry.key ≠ {}) :
    s.core.directory entry.key = some entry.blockKey := by
  have hlookup := (h.kept.tabled.directory.reachable.lookup_eq_some_iff hkey).mpr ⟨hmem, rfl⟩
  show (kvDirectorySlots.lookup s.directoryEntries entry.key).map _ = _
  rw [hlookup]
  rfl

theorem Owned.cell_eq {i j : Nat} (hi : i < s.blockEntryCapacity)
    (hj : j < s.blockEntryCapacity) (hkey : (s.blockEntry i).key ≠ {})
    (heq : (s.blockEntry i).key = (s.blockEntry j).key) : i = j :=
  h.kept.tabled.blocks.reachable.distinct i j hi hj (Slots.not_isVacant_iff.mpr hkey) heq

theorem Owned.referenceCount_eq {k : KvKey} {e : KvBlockEntry}
    (hrec : s.core.record k = some e) : e.referenceCount =
      s.directoryEntries.countP fun entry => decide (entry.key ≠ {} ∧ entry.blockKey = k) := by
  have hrefs := h.sound.referenced.tally k
  rw [KvCore.refs_of_record hrec] at hrefs
  have hcount := Slots.tally_lookup h.kept.tabled.directory.reachable
    fun entry => entry.blockKey = k
  refine hrefs.eq (hcount.congr fun D => ?_)
  show (kvDirectorySlots.lookup s.directoryEntries D).map _ = some k ↔ _
  rw [Option.map_eq_some_iff]

theorem Owned.accounted : s.Accounted := by
  have hstored := h.sound.stored
  constructor
  · exact h.kept.tabled.directoryCount
  · exact h.kept.tabled.blockCount
  · intro entry hmem hkey
    obtain ⟨e, hrec⟩ := h.sound.referenced.exists_record (h.directory_of_mem hmem hkey)
    obtain ⟨slot, hfind, -⟩ := findBlock_of_record hrec
    obtain ⟨hlt, -, -⟩ := Slots.answers_of_find hfind
    exact ⟨slot, hfind, hlt, KvState.key_of_find hfind⟩
  · intro record hmem hkey
    have hrec := h.record_of_mem hmem hkey
    exact ⟨h.sound.referenced.pos hrec, h.referenceCount_eq hrec⟩
  · intro record hmem hkey
    have hrec := h.record_of_mem hmem hkey
    by_cases hgpu : record.residencyState = .gpu
    · obtain ⟨hlt, hblock, -⟩ := hstored.onDevice hrec hgpu
      exact .inl ⟨hgpu, hlt, hblock⟩
    · exact .inr (hstored.swappedOut hrec hgpu)
  · intro hswap record hmem hkey
    exact (h.kept.backed.used (fun hnil => hswap (List.length_eq_zero_iff.mpr hnil))
      (h.slotOf_of_mem hmem hkey)).1
  · intro i hi j hj hkeyi hkeyj heq hvalid
    have hreci := h.record_of_cell hi hkeyi
    have hrecj := h.record_of_cell hj hkeyj
    have hblocki := (hstored.onDevice hreci (gpu_of_physicalBlockIndex hstored hreci hvalid)).2.1
    have hblockj := (hstored.onDevice hrecj
      (gpu_of_physicalBlockIndex hstored hrecj (heq ▸ hvalid))).2.1
    rw [← heq] at hblockj
    exact h.cell_eq hi hj hkeyi (hblocki.symm.trans hblockj)
  · intro i hi j hj hkeyi hkeyj heq hvalid
    have hsloti : s.slotOf (s.blockEntry i).key = some (s.blockEntry i).backingBlockIndex :=
      h.slotOf_of_mem (Slots.entry_mem hi) hkeyi
    have hslotj : s.slotOf (s.blockEntry j).key = some (s.blockEntry j).backingBlockIndex :=
      h.slotOf_of_mem (Slots.entry_mem hj) hkeyj
    rw [← heq] at hslotj
    by_cases hnil : s.backingBlockFreeNext = []
    · exact absurd ((h.kept.backed.absent hnil).2 hsloti) hvalid
    · exact h.cell_eq hi hj hkeyi (h.kept.backed.once hnil hsloti hslotj)
  · have hcount := tally_getD (p := fun block : KvPhysicalBlock => decide (block.key ≠ {}))
      (d := {}) (by decide) s.physicalBlocks
    refine hstored.allocated.eq (hcount.congr fun p => ?_)
    rw [decide_eq_true_eq]
    rfl
  · have hcount := Slots.tally_lookup h.kept.tabled.blocks.reachable
      fun entry => entry.residencyState = .nvme
    refine hstored.swapped.eq (hcount.congr fun k => ?_)
    constructor
    · rintro ⟨e, hrec, hout⟩
      exact ⟨e, hrec, (hstored.swappedOut hrec hout).1⟩
    · rintro ⟨e, hrec, hnvme⟩
      exact ⟨e, hrec, fun hgpu => by rw [hgpu] at hnvme; cases hnvme⟩

end

end KvState

/-- In every state of every run, whatever the hooks answer, everything is accounted for. -/
theorem kv_ownership_is_accounted {laneCapacity laneStride blockTokenCount physicalBlockCapacity
    directoryCapacity blockEntryCapacity : UInt32} {s : KvState W}
    (hnew : KvState.new laneCapacity laneStride blockTokenCount physicalBlockCapacity
      directoryCapacity blockEntryCapacity = .ok s) (ops : List (KvOp W)) :
    (runAll KvOp.exec s ops).Accounted :=
  (KvOp.run_owned (owned_of_new hnew) ops).accounted

/-- A small shape: blocks of four tokens, up to sixteen lanes. -/
def smallConfig : WorkControlConfig where
  mtpDraftTokenCount := 0
  dsparkMaxSpeculativeTokenCount := 0
  maximumContextTokens := 64
  kvBlockTokens := 4
  maxPrefillTokensPerPacket := 16
  outputVocabCount := 8
  maxLaneCount := 16
  maxActiveSequenceCount := 16
  cohortCapacity := 16

/-- A lane of a sequence at a position. -/
def smallLane (sequenceId position context : Nat) : WorkControlLane where
  requestId := sequenceId
  requestGeneration := 1
  stepGeneration := 1
  sequenceId
  sequencePosition := position
  contextTokenCount := context

/-- A packet of the first generation. -/
def smallPacket (prefill : Bool) (newTokenCount : Nat) (lanes : List WorkControlLane) :
    WorkControlPacket where
  descriptorBytes := smallConfig.calculatePacketBytes lanes.length
  flags := if prefill then flagPrefill else 0
  requestId := (lanes.getD 0 {}).requestId
  sequenceId := (lanes.getD 0 {}).sequenceId
  sequencePosition := (lanes.getD 0 {}).sequencePosition
  controlGeneration := 1
  transactionId := 1
  dispatchGeneration := 1
  requestGeneration := 1
  stepGeneration := 1
  stepChunkCount := 1
  transactionPhase := if prefill then phasePrefill else phaseDecode
  activeSequenceCount := lanes.length
  newTokenCount
  blockTokenCount := 4
  kvBlockTableTokenCount := 64
  maxBlocksPerSequence := 4
  laneCount := lanes.length
  rowsPerLane := newTokenCount
  executionRowCount := lanes.length * newTokenCount
  executionBatchBucket := 16
  prefillTokenIds := []
  lanes

/-- Hooks that always succeed. -/
def steadyHooks : SwapHooks where
  Store := Unit
  store _ _ _ := pure ()
  load _ _ _ := pure ()

/-- A state with two physical blocks. -/
def smallState : KvState steadyHooks := (KvState.new 16 4 4 2 16 16).toOption.get rfl

theorem new_smallState : KvState.new 16 4 4 2 16 16 = .ok smallState := rfl

/-- A state with eight physical blocks. -/
def roomyState : KvState steadyHooks := (KvState.new 16 4 4 8 16 16).toOption.get rfl

theorem new_roomyState : KvState.new 16 4 4 8 16 16 = .ok roomyState := rfl

/-- A sequence has computed two blocks; another one takes the place of the first. -/
def swappingRun : List (KvOp steadyHooks) :=
  let first := smallPacket true 8 [smallLane 1 0 8]
  [.configureKvSwap 4 (), .configureKvPins, .buildHostKvBlockTable first smallConfig,
    .commitHostKvBlockTable first smallConfig,
    .buildHostKvBlockTable (smallPacket true 4 [smallLane 2 0 4]) smallConfig]

theorem kv_ownership_is_accounted_swapping : ∃ s : KvState steadyHooks,
    KvState.new 16 4 4 2 16 16 = .ok s ∧ (runAll KvOp.exec s swappingRun).Accounted ∧
      (runAll KvOp.exec s swappingRun).swappedBlockCount = 1 :=
  ⟨_, rfl, kv_ownership_is_accounted new_smallState swappingRun, by decide +kernel⟩

/-! ### What a valid packet writes -/

/-- What a packet that executes rows has passed. -/
structure ExecutesRows (packet : WorkControlPacket) (config : WorkControlConfig) : Prop where
  activeSequenceCount_ne : packet.activeSequenceCount ≠ 0
  laneCount : packet.laneCount = packet.activeSequenceCount
  newTokenCount_ne : packet.newTokenCount ≠ 0
  blockTokenCount_ne : packet.blockTokenCount ≠ 0
  lane_valid : ∀ laneIndex lane, (lane, laneIndex) ∈ packet.usedLanes.zipIdx →
    laneIsValid packet config laneIndex lane

theorem executesRows_of_validatePacket {packet : WorkControlPacket} {config : WorkControlConfig}
    {maxActiveSequenceCount maxPipelineSlotCount : Nat}
    (hvalid : validatePacket packet config maxActiveSequenceCount maxPipelineSlotCount = .ok ())
    (hrelease : packet.releasesSequences = false) : ExecutesRows packet config := by
  simp only [validatePacket, hrelease, Bool.false_eq_true, if_false] at hvalid
  split_ifs at hvalid with h1 h2 h3 h4 h5 h6 hlanes
  · simp only [not_or, not_not] at h4
    obtain ⟨hactive, -, -, -, hcount, hnew, -, hblock, -⟩ := h4
    simp only [lanesAreValid, Bool.and_eq_true, List.all_eq_true] at hlanes
    exact ⟨hactive, hcount, hnew, hblock,
      fun laneIndex lane hlane => hlanes.1.1.1.1.1.1 (lane, laneIndex) hlane⟩
  · cases hdrafts : validateDrafts packet config with
    | error | ok =>
      rw [hdrafts] at hvalid
      cases hvalid

/-- The lane writes no position past its context, which has room in the table. -/
def WritesWithinContext (packet : WorkControlPacket) (lane : WorkControlLane) : Prop :=
  lane.sequencePosition + writtenPositionCount packet ≤ lane.contextTokenCount ∧
    lane.contextTokenCount ⌈/⌉ packet.blockTokenCount ≤ packet.maxBlocksPerSequence

/-- A lane of a packet that validates, and whose context is a word of 32 bits, writes within its
context exactly when the sum of its position and the written positions is a word of 64 bits. -/
theorem validated_lane_writes_within_context {packet : WorkControlPacket}
    {config : WorkControlConfig} {maxActiveSequenceCount maxPipelineSlotCount : Nat}
    (hvalid : validatePacket packet config maxActiveSequenceCount maxPipelineSlotCount = .ok ())
    (hrelease : packet.releasesSequences = false) {lane : WorkControlLane}
    (hlane : lane ∈ packet.usedLanes) (hword : lane.contextTokenCount < 2 ^ 32) :
    WritesWithinContext packet lane ↔
      lane.sequencePosition + writtenPositionCount packet < 2 ^ 64 := by
  have hrows := executesRows_of_validatePacket hvalid hrelease
  obtain ⟨laneIndex, hget⟩ := List.mem_iff_getElem?.mp hlane
  have hvalid := hrows.lane_valid laneIndex lane (List.mk_mem_zipIdx_iff_getElem?.mpr hget)
  simp only [laneIsValid, Bool.and_eq_true, decide_eq_true_eq] at hvalid
  have hcontext : lane.contextTokenCount ≠ 0 := hvalid.1.1.1.1.1.1.1.2
  have hposition := hvalid.1.1.1.1.1.1.2
  have hblocks := hvalid.1.1.1.1.2
  rw [blockCount, if_neg (not_or.mpr ⟨hcontext, hrows.blockTokenCount_ne⟩)] at hblocks
  rw [WritesWithinContext]
  constructor
  · intro hwithin
    omega
  · intro hsum
    rw [Nat.mod_eq_of_lt hsum] at hposition
    exact ⟨hposition, hblocks⟩

/-- A position at the end of the words makes the sum wrap around to zero, and the packet
validates. -/
theorem validated_lane_writes_past_context :
    let lane := smallLane 1 (2 ^ 64 - 1) 1
    let packet := smallPacket false 1 [lane]
    validatePacket packet smallConfig 16 16 = .ok () ∧ packet.releasesSequences = false ∧
      lane ∈ packet.usedLanes ∧ ¬WritesWithinContext packet lane := by
  refine ⟨by decide +kernel, by decide +kernel, by decide +kernel, fun hwithin => ?_⟩
  exact absurd hwithin.1 (by decide +kernel)

theorem validated_lane_writes_within_context_small :
    WritesWithinContext (smallPacket true 4 [smallLane 1 0 4]) (smallLane 1 0 4) := by
  refine (@validated_lane_writes_within_context _ smallConfig 16 16 ?_ ?_ _ ?_ ?_).mpr ?_ <;>
  decide +kernel

end SparkPipe
