import SparkPipe.Sched.WorkControl.Records

/-!
# Operations of the KV state

Every operation, whatever its outcome, leaves a state that represents consistent maps, and gets
there by events that the operation may make. Builds are treated in a module of their own.
-/

open Program

namespace SparkPipe

open List

/-- What may happen in which state. -/
abbrev KvRule := KvCore → KvEvent → Prop

namespace KvCore

/-- The block of a directory key is on the device. -/
def OnDevice (c : KvCore) (D : KvKey) : Prop :=
  ∃ k e, c.directory D = some k ∧ c.record k = some e ∧ e.residencyState = .gpu

/-- The block of a directory key is on the device, in a state. -/
def InState (c : KvCore) (D : KvKey) (state : KvEntryState) : Prop :=
  ∃ k e, c.directory D = some k ∧ c.record k = some e ∧ e.residencyState = .gpu ∧
    (c.block e.physicalBlockIndex).state = state

end KvCore

namespace KvState

open WorkControl

variable {W : SwapHooks} {s s' : KvState W} {k D : KvKey} {slot p : Nat} {e : KvBlockEntry}
  {rule rule' : KvRule} {spare : Option Nat} {sequenceId : Nat}

/-- Allowed events lead to the state, which represents consistent maps. -/
abbrev Reaches (rule : KvRule) (s s' : KvState W) : Prop :=
  s'.Owned ∧ Evolves KvCore.Step rule s.core s'.core

/-- Allowed events keep a state one that represents consistent maps. -/
def Follows (rule : KvRule) (s s' : KvState W) : Prop := s.Owned → Reaches rule s s'

instance (rule : KvRule) : IsFrame (Follows rule : KvState W → KvState W → Prop) where
  refl _ h := ⟨h, Evolves.refl _⟩
  trans h h' hs := by
    obtain ⟨ht, hevolves⟩ := h hs
    obtain ⟨hu, hevolves'⟩ := h' ht
    exact ⟨hu, hevolves.trans hevolves'⟩

theorem Follows.mono (hle : ∀ c event, rule c event → rule' c event) (h : Follows rule s s') :
    Follows rule' s s' := fun hs => (h hs).imp id (.mono hle)

theorem Follows.of_step {a : KvEvent} (hkept : s.Owned → s'.Kept none)
    (hstep : s.Owned → s.core.Step a s'.core) (hrule : rule s.core a) :
    Follows rule s s' := fun hs =>
  ⟨⟨hkept hs, (hstep hs).sound hs.sound⟩, .single (hstep hs) hrule⟩

theorem Follows.of_core (hkept : s.Owned → s'.Kept none) (hcore : s'.core = s.core) :
    Follows rule s s' := fun hs => ⟨⟨hkept hs, hcore ▸ hs.sound⟩, hcore ▸ .refl _⟩

theorem within_follows {α : Type} {m : KvM W α} (h : ∀ s, s.Owned → ends m (Reaches rule s) s) :
    Within (Follows rule) m := ⟨fun s hs => wp_finalState (h s hs)⟩

/-! ### Configuration, pins and lent blocks -/

/-- The search for a block, and lending it. -/
def Lending : KvRule := fun _ event =>
  event = .evict ∨ event = .failure ∨ event = .lend

theorem Owned.record_none (h : s.Owned) (hcount : s.directoryEntryCount = 0) (k : KvKey) :
    s.core.record k = none := by
  cases hrec : s.core.record k with
  | none => rfl
  | some =>
    -- the record has a reference, so that the directory is not empty
    obtain ⟨D, hdir⟩ := (h.sound.referenced.tally k).exists_of_pos <| by
      rw [KvCore.refs_of_record hrec]
      exact h.sound.referenced.pos hrec
    have hpos := h.kept.tabled.tally_directory.pos (hdir.symm ▸ Option.some_ne_none k)
    omega

theorem Owned.blockEntryCount_eq_zero (h : s.Owned) (hcount : s.directoryEntryCount = 0) :
    s.blockEntryCount = 0 :=
  h.kept.tabled.tally_record.eq (.none fun k hrec => hrec (h.record_none hcount k))

theorem length_freshBackingBlocks (n : Nat) : (freshBackingBlocks n).length = n := by
  rw [freshBackingBlocks, length_map, length_range]

theorem backed_fresh {f : KvKey → Option Nat} (hslot : ∀ k, f k = none) {n : Nat}
    (hn : n ≤ kvInvalidBlockIndex) :
    Backed f none (freshBackingBlocks n) (if n = 0 then kvInvalidBlockIndex else 0) := by
  have hlength := length_freshBackingBlocks n
  constructor
  · exact fun _ => ⟨rfl, by simp [hslot]⟩
  · simp [hslot]
  · simp [hslot]
  · rintro b ⟨⟩
  intro hne
  have hpos : n ≠ 0 := fun hzero => hne (length_eq_zero_iff.mp (hlength.trans hzero))
  have hlist : FreeList (fun b => (freshBackingBlocks n).getD b kvInvalidBlockIndex)
      kvInvalidBlockIndex 0 (· < n) := by
    refine .initial (Nat.pos_of_ne_zero hpos) hn fun b hb => ?_
    rw [getD_eq_getElem _ _ (hlength.symm ▸ hb)]
    simp [freshBackingBlocks]
  rw [if_neg hpos]
  refine hlist.congr (fun _ _ => rfl) fun b => ?_
  rw [hlength]
  simp [hslot]

theorem configureKvSwap_follows (capacity : Nat) (store : W.Store) :
    Within (Follows fun _ event => event = .supply capacity) (configureKvSwap capacity store) := by
  refine .check fun s hvalid => ?_
  simp only [not_or, not_not, ne_eq, not_lt] at hvalid
  obtain ⟨hcapacity, hle, hempty, -, hnone⟩ := hvalid
  have hlength := length_freshBackingBlocks capacity
  refine .of_step (fun h => ?_) (fun h => ?_) rfl
  · have hbound : capacity ≤ kvInvalidBlockIndex := by
      have : kvInvalidBlockIndex = 2 ^ 32 - 1 := rfl
      have hdirectory := h.kept.tabled.directory_lt
      omega
    refine ⟨{ h.kept.tabled with
      backing_le := hlength.trans_le hbound
      hooks := iff_of_false (fun hzero => hcapacity (hlength.symm.trans hzero)) nofun
      within := (h.blockEntryCount_eq_zero hempty).trans_le (Nat.zero_le _) }, ?_⟩
    have hbacked := backed_fresh (f := s.slotOf)
      (fun k => by rw [slotOf, h.record_none hempty k]; rfl) hbound
    rw [if_neg hcapacity] at hbacked
    exact hbacked
  · convert KvCore.Step.configureSwap capacity (h.record_none hempty) using 1
    simp only [core, outline, backingBlockCapacity, hlength, decide_eq_true hcapacity]
    rfl

theorem configureKvPins_follows :
    Within (Follows fun _ event => event = .configure) (configureKvPins (W := W)) := by
  refine .check fun s hvalid => ?_
  simp only [not_or, not_not, ne_eq] at hvalid
  obtain ⟨hpins, hempty, -⟩ := hvalid
  have hlength : (s.physicalBlocks.map (KvPhysicalBlock.withPins · 0)).length =
      s.physicalBlocks.length := length_map _
  refine .of_step (fun h => ?_) (fun h => ?_) rfl
  · exact ⟨{ h.kept.tabled with
      next_lt := h.kept.tabled.next_lt.trans_eq hlength.symm
      physical_le := hlength.trans_le h.kept.tabled.physical_le
      within := (h.blockEntryCount_eq_zero hempty).trans_le (Nat.zero_le _) }, h.kept.backed⟩
  have hstep := KvCore.Step.configurePins (h.record_none hempty) (Bool.eq_false_iff.mpr hpins)
  convert hstep using 1
  have hblock p : (s.physicalBlocks.map (.withPins · 0)).getD p {} =
      (s.physicalBlock p).withPins 0 :=
    getD_map s.physicalBlocks ({} : KvPhysicalBlock) (KvPhysicalBlock.withPins · 0)
  simp only [core, outline, physicalBlockCapacity, hlength]
  congr 1
  exact funext hblock

theorem configureKvSharing_follows (keys : Option (List KvKey)) (stride : Nat) :
    Within (Follows fun _ event => event = .configure)
      (configureKvSharing (W := W) keys stride) := by
  refine .check fun s _ => ?_
  exact .of_step (fun h => h.kept.congr rfl) (fun _ => .configureSharing _) rfl

theorem pinPhysicalBlock_follows (p : Nat) :
    Within (Follows fun _ event => event = .pin p) (pinPhysicalBlock (W := W) p) := by
  refine .check fun s hvalid => ?_
  simp only [not_or, not_le, Bool.not_eq_false] at hvalid
  obtain ⟨hlt, -, hpins, -⟩ := hvalid
  refine .of_step (fun h => h.kept.setPhysicalBlock) (fun _ => ?_) rfl
  rw [core_setPhysicalBlock hlt]
  exact .pin hlt hpins

theorem unpinPhysicalBlock_follows (p : Nat) :
    Within (Follows fun _ event => event = .unpin p) (unpinPhysicalBlock (W := W) p) := by
  refine .check fun s hvalid => ?_
  simp only [not_or, not_le, Bool.not_eq_false] at hvalid
  obtain ⟨hlt, hpins, -⟩ := hvalid
  refine .of_step (fun h => h.kept.setPhysicalBlock) (fun _ => ?_) rfl
  rw [core_setPhysicalBlock hlt]
  exact .unpin hlt hpins

theorem Kept.kvLend (h : s.Kept spare) : (s.kvLend p).Kept spare := by
  have hassigned : (s.kvAssignPhysicalBlock p (transientKey p) .transient).Kept spare :=
    h.setPhysicalBlock.congr rfl
  exact hassigned.setPhysicalBlock

theorem core_setPhysicalBlock_twice (n : Nat) (hp : p < s.physicalBlockCapacity)
    {b b' : KvPhysicalBlock} :
    ({ (s.setPhysicalBlock p b).setPhysicalBlock p b' with
      allocatedPhysicalBlockCount := n } : KvState W).core =
      { s.core.setBlock p b' with allocated := n } := by
  have hset : (s.setPhysicalBlock p b).setPhysicalBlock p b' = s.setPhysicalBlock p b' := by
    simp only [setPhysicalBlock, set_set]
  rw [hset, ← core_setPhysicalBlock hp]
  rfl

theorem core_kvLend (hp : p < s.physicalBlockCapacity) :
    (s.kvLend p).core = { s.core.setBlock p (((s.core.block p).assigned (transientKey p)
        s.core.setting.epoch .transient).withPins 1) with
      allocated := s.core.allocated + 1 } := by
  have hread : (s.kvAssignPhysicalBlock p (transientKey p) .transient).physicalBlock p =
      (s.core.block p).assigned (transientKey p) s.core.setting.epoch .transient :=
    getD_set_self hp
  rw [← core_setPhysicalBlock_twice _ hp, kvLend, hread]
  rfl

theorem Sweeps.lending {c c' : KvCore} (h : c.Sweeps c') : Evolves KvCore.Step Lending c c' :=
  Evolves.mono (fun _ _ hevent => hevent.imp id Or.inl) h

theorem acquireTransientPhysicalBlock_follows :
    Within (Follows Lending) (acquireTransientPhysicalBlock (W := W)) := by
  refine within_follows fun s h => ?_
  rw [ends, acquireTransientPhysicalBlock, wp_read]
  refine wp_ite.mpr ⟨fun _ => ⟨h, Evolves.refl _⟩, fun _ => ?_⟩
  rw [wp_bind]
  refine wp_mono (kvAcquirePhysicalBlock_wp h.kept h.sound) ?_ ?_
  · rintro p t ⟨hkept, hsweeps, hfree⟩
    have hsound := hsweeps.sound h.sound
    have hstep : t.core.Step .lend (t.kvLend p).core := by
      rw [core_kvLend hfree.1]
      exact .borrow (privateKey_ne _ _) hfree
    rw [wp_bind, wp_modify, wp_pure]
    exact ⟨⟨hkept.kvLend, hstep.sound hsound⟩,
      (Sweeps.lending hsweeps).trans (Evolves.single hstep (.inr (.inr rfl)))⟩
  · rintro error t ⟨hkept, hsweeps, -⟩
    exact ⟨⟨hkept, hsweeps.sound h.sound⟩, Sweeps.lending hsweeps⟩

theorem Kept.kvTakeBack (h : s.Kept spare) : (s.kvTakeBack p).Kept spare := by
  set t := s.setPhysicalBlock p ((s.physicalBlock p).withPins 0)
  have hpins : t.Kept spare := h.setPhysicalBlock
  exact hpins.setPhysicalBlock.congr rfl

theorem core_kvTakeBack (hp : p < s.physicalBlockCapacity) :
    (s.kvTakeBack p).core = { s.core.setBlock p (((s.core.block p).withPins 0).cleared) with
      allocated := s.core.allocated - 1 } := by
  have hread : (s.setPhysicalBlock p ((s.physicalBlock p).withPins 0)).physicalBlock p =
      (s.core.block p).withPins 0 := getD_set_self hp
  rw [← core_setPhysicalBlock_twice _ hp, kvTakeBack, kvClearPhysicalBlock, hread]
  rfl

theorem releaseTransientPhysicalBlock_follows (p : Nat) :
    Within (Follows fun _ event => event = .takeBack p)
      (releaseTransientPhysicalBlock (W := W) p) := by
  refine .check fun s hvalid => ?_
  simp only [not_or, not_le, not_not, ne_eq] at hvalid
  obtain ⟨hlt, hstate, hkey, -⟩ := hvalid
  refine .of_step (fun h => h.kept.kvTakeBack) (fun _ => ?_) rfl
  rw [core_kvTakeBack hlt]
  exact .giveBack (ne_of_eq_of_ne hkey (privateKey_ne _ _)) hstate

/-! ### Generations -/

theorem core_resetKvGeneration (generation : Nat) :
    (s.resetKvGeneration generation).core = s.core.reset generation := by
  have hdirectory : (s.resetKvGeneration generation).core.directory = fun _ => none := by
    funext D
    have hlookup := (Slots.HalfFull.initial (S := kvDirectorySlots) s.directoryCapacity).2.2 D
    exact Option.map_eq_none_iff.mpr hlookup
  have hrecord : (s.resetKvGeneration generation).core.record = fun _ => none :=
    funext (Slots.HalfFull.initial _).2.2
  have hblock : (s.resetKvGeneration generation).core.block = fun _ => {} := by
    funext p
    show (List.replicate _ _).getD p _ = _
    rw [getD_eq_getElem?_getD, List.getElem?_replicate]
    split <;> rfl
  have hsetting : (s.resetKvGeneration generation).core.setting =
      (s.core.reset generation).setting := by
    simp only [core, KvCore.reset, outline, resetKvGeneration, tableEntryCapacity, laneCapacity,
      physicalBlockCapacity, directoryCapacity, blockEntryCapacity, backingBlockCapacity,
      length_replicate, length_freshBackingBlocks]
    rfl
  exact KvCore.ext hdirectory hrecord hblock hsetting rfl rfl rfl

theorem Tabled.resetKvGeneration (h : s.Tabled) (generation : Nat) :
    (s.resetKvGeneration generation).Tabled := by
  obtain ⟨hdirectory, hsize, -⟩ :=
    Slots.HalfFull.initial (S := kvDirectorySlots) s.directoryCapacity
  obtain ⟨hblocks, hsize', -⟩ := Slots.HalfFull.initial (S := kvBlockSlots) s.blockEntryCapacity
  have hcapacity : (s.resetKvGeneration generation).physicalBlockCapacity =
      s.physicalBlockCapacity := length_replicate
  have hbacking : (s.resetKvGeneration generation).backingBlockCapacity = s.backingBlockCapacity :=
    length_freshBackingBlocks _
  refine ⟨hdirectory, hblocks, hsize.symm, hsize'.symm, ?_, hcapacity.trans_le h.physical_le,
    ?_, hbacking.trans_le h.backing_le, ?_, Nat.zero_le _⟩
  · rw [hcapacity]
    exact lt_of_le_of_lt (Nat.zero_le _) h.next_lt
  · exact length_replicate.trans_lt h.directory_lt
  · rw [hbacking]
    exact h.hooks

theorem Kept.resetKvGeneration (h : s.Tabled) (generation : Nat) :
    (s.resetKvGeneration generation).Kept none := by
  refine ⟨h.resetKvGeneration generation, backed_fresh (fun k => ?_) h.backing_le⟩
  rw [slotOf, core_resetKvGeneration]
  rfl

variable (packet : WorkControlPacket) {config : WorkControlConfig} {generation : Nat}
  {t : KvState W}

/-- The generation of a packet is the current one, or it has begun. -/
def Selected (s t : KvState W) : Prop :=
  packet.controlGeneration = s.controlGeneration ∧ t = s ∨
    s.controlGeneration < packet.controlGeneration ∧
      t = s.resetKvGeneration packet.controlGeneration

theorem advanceKvGeneration_wp (generation : Nat) : wp (advanceKvGeneration generation)
      (fun _ t => generation = s.controlGeneration ∧ t = s ∨
        s.controlGeneration < generation ∧ t = s.resetKvGeneration generation)
      (fun error t => t = s ∧ (generation = 0 ∧ error = .invalidArgument ∨
        generation < s.controlGeneration ∧ error = .validationFailed)) s := by
  rw [advanceKvGeneration, wp_read]
  refine wp_ite.mpr ⟨fun hzero => ⟨rfl, .inl ⟨hzero, rfl⟩⟩, fun _ => wp_ite.mpr ⟨fun hold =>
    ⟨rfl, .inr ⟨hold, rfl⟩⟩, fun hold => wp_ite.mpr ⟨fun hnew => ?_, fun hsame => ?_⟩⟩⟩
  · exact .inr ⟨by omega, rfl⟩
  · exact .inl ⟨not_not.mp hsame, rfl⟩

theorem selectKvGeneration_wp : wp (selectKvGeneration packet) (fun _ t => s.Selected packet t)
      (fun error t => t = s ∧ (packet.controlGeneration = 0 ∧ error = .invalidArgument ∨
        packet.controlGeneration < s.controlGeneration ∧ error = .notFound)) s := by
  rw [selectKvGeneration, wp_bind, wp_attempt]
  refine wp_mono (advanceKvGeneration_wp _) (fun _ _ h => h) ?_
  rintro error t ⟨rfl, ⟨hzero, rfl⟩ | ⟨hold, rfl⟩⟩
  · exact ⟨rfl, .inl ⟨hzero, rfl⟩⟩
  · exact ⟨rfl, .inr ⟨hold, rfl⟩⟩

/-- What selecting a generation may do. -/
def Renewing (renews : Prop) : KvRule := fun _ event => event = .reset ∧ renews

theorem Owned.resetKvGeneration (h : s.Owned)
    (hnew : s.controlGeneration < generation) : (s.resetKvGeneration generation).Owned ∧
      s.core.Step .reset (s.resetKvGeneration generation).core := by
  have hstep : s.core.Step .reset (s.resetKvGeneration generation).core := by
    rw [core_resetKvGeneration]
    exact .reset hnew
  exact ⟨⟨.resetKvGeneration h.kept.tabled generation, hstep.sound h.sound⟩, hstep⟩

theorem Owned.selected (h : s.Owned) (hselected : generation = s.controlGeneration ∧ t = s ∨
      s.controlGeneration < generation ∧ t = s.resetKvGeneration generation) :
    Reaches (Renewing (s.controlGeneration < generation)) s t := by
  rcases hselected with ⟨-, rfl⟩ | ⟨hnew, rfl⟩
  · exact ⟨h, .refl _⟩
  · obtain ⟨howned, hstep⟩ := h.resetKvGeneration hnew
    exact ⟨howned, .single hstep ⟨rfl, hnew⟩⟩

theorem advanceKvGeneration_follows (generation : Nat) :
    Follows (Renewing (s.controlGeneration < generation)) s
      (finalState (advanceKvGeneration generation s)) := by
  intro h
  refine wp_finalState (wp_mono (advanceKvGeneration_wp generation)
    (fun _ t hselected => h.selected hselected) ?_)
  rintro _ t ⟨rfl, -⟩
  exact ⟨h, .refl _⟩

variable {packet} {keys : KvKey → Prop} {logicalBlockIndex : Nat}

theorem Selected.follows (hselected : s.Selected packet t) (h : s.Owned) :
    Reaches (Renewing (s.controlGeneration < packet.controlGeneration)) s t :=
  h.selected hselected

/-! ### Releasing -/

/-- Directory keys are removed. -/
def Removing (keys : KvKey → Prop) : KvRule := fun _ event => ∃ D, keys D ∧ event = .remove D

theorem kvDirectoryRelease_follows (hD : keys (privateKey sequenceId logicalBlockIndex)) :
    Within (Follows (Removing keys))
      (kvDirectoryRelease (W := W) sequenceId logicalBlockIndex) := by
  refine within_follows fun s h => wp_mono (kvDirectoryRelease_wp h _ _ rfl) ?_ ?_
  · rintro _ s' ⟨howned, hstep⟩
    exact ⟨howned, .single hstep ⟨_, hD, rfl⟩⟩
  · rintro error s' ⟨rfl, -⟩
    exact ⟨h, .refl _⟩

theorem releaseBlock_follows (hD : keys (privateKey sequenceId logicalBlockIndex)) :
    Within (Follows (Removing keys)) (releaseBlock (W := W) sequenceId logicalBlockIndex) := by
  have hrelease := kvDirectoryRelease_follows (W := W) hD
  refine .bind inferInstance fun outcome => ?_
  split <;> infer_instance

theorem releaseSequence_follows {logicalBlockCount : Nat}
    (hkeys : ∀ blk < logicalBlockCount, keys (privateKey sequenceId blk)) :
    Within (Follows (Removing keys)) (releaseSequence (W := W) sequenceId logicalBlockCount) := by
  refine .bind .get fun s => .ite (fun _ => .throw _) fun _ => ?_
  exact .forM fun blk hblk => releaseBlock_follows (hkeys blk (mem_range.mp hblk))

instance {R : KvState W → KvState W → Prop} [IsFrame R]
    (packet : WorkControlPacket) (config : WorkControlConfig) :
    Within R (validateKvState packet config) := by
  refine ⟨fun s => ?_⟩
  have hsame : finalState (validateKvState packet config s) = s := by
    unfold validateKvState
    split <;> rfl
  rw [hsame]
  exact IsFrame.refl s

/-- What a validated packet and the state have in common. -/
structure Validated (packet : WorkControlPacket) (config : WorkControlConfig) (s : KvState W) :
    Prop where
  capacities : capacitiesAreValid s.laneCapacity s.laneStride s.blockTokenCount
    s.physicalBlockCapacity s.directoryCapacity s.blockEntryCapacity
  table : s.tableEntryCapacity = s.laneCapacity * s.laneStride
  counters : s.countersAreValid
  valid : validatePacket packet config s.laneCapacity (2 ^ 32 - 1) = .ok ()
  blockTokens : packet.blockTokenCount = s.blockTokenCount
  blocks : packet.maxBlocksPerSequence ≤ s.laneStride
  lanes : packet.activeSequenceCount ≤ s.laneCapacity

theorem kvStateStatus_eq_ok :
    s.kvStateStatus packet config = .ok () ↔ s.Validated packet config := by
  unfold kvStateStatus
  constructor
  · intro h
    by_cases hinvalid : capacitiesAreValid s.laneCapacity s.laneStride s.blockTokenCount
        s.physicalBlockCapacity s.directoryCapacity s.blockEntryCapacity = false ∨
        s.tableEntryCapacity ≠ s.laneCapacity * s.laneStride ∨ s.countersAreValid = false
    · rw [if_pos hinvalid] at h
      cases h
    rw [if_neg hinvalid] at h
    simp only [not_or, Bool.not_eq_false, ne_eq, not_not] at hinvalid
    cases hpacket : validatePacket packet config s.laneCapacity (2 ^ 32 - 1) with
    | error =>
      rw [hpacket] at h
      cases h
    | ok =>
      simp only [hpacket] at h
      split_ifs at h with hfits
      simp only [not_or, ne_eq, not_not, not_lt] at hfits
      exact ⟨hinvalid.1, hinvalid.2.1, hinvalid.2.2, hpacket, hfits.1, hfits.2.1, hfits.2.2⟩
  · rintro ⟨hcapacities, htable, hcounters, hpacket, htokens, hblocks, hlanes⟩
    rw [if_neg (by simp [hcapacities, htable, hcounters]), hpacket]
    exact if_neg (by simp [htokens, hblocks, hlanes])

section Validate

variable {Q : Unit → KvState W → Prop} {E : WorkControlError → KvState W → Prop}

theorem wp_validateKvState : wp (validateKvState packet config) Q E s ↔
    (s.Validated packet config → Q () s) ∧
      ∀ error, s.kvStateStatus packet config = .error error → E error s := by
  unfold wp validateKvState
  rw [← kvStateStatus_eq_ok]
  cases s.kvStateStatus packet config with
  | ok | error => simp

theorem wp_validateKvState_of (h : s.Validated packet config) :
    wp (validateKvState packet config) Q E s ↔ Q () s := by
  simp [wp_validateKvState, kvStateStatus_eq_ok.mpr h, h]

end Validate

theorem Validated.blockTokenCount_ne (h : s.Validated packet config) :
    packet.blockTokenCount ≠ 0 := by
  have hvalid := h.capacities
  simp only [capacitiesAreValid, Bool.and_eq_true, decide_eq_true_eq] at hvalid
  exact ne_of_eq_of_ne h.blockTokens hvalid.1.1.1.1.1.1.2

theorem Validated.directory_pos (h : s.Validated packet config) : 0 < s.directoryCapacity := by
  have hvalid := h.capacities
  simp only [capacitiesAreValid, Bool.and_eq_true, decide_eq_true_eq] at hvalid
  omega

theorem Validated.roomy (h : s.Validated packet config) : s.Roomy := by
  have hvalid := h.capacities
  have hcounters := h.counters
  simp only [capacitiesAreValid, Bool.and_eq_true, decide_eq_true_eq] at hvalid
  simp only [countersAreValid, Bool.and_eq_true, decide_eq_true_eq] at hcounters
  rw [Roomy, blockEntryLimit]
  split_ifs <;> omega

variable (packet) {blk : Nat}

/-- The directory keys of the blocks of a packet's first lanes. -/
def laneKeys (laneCount : Nat) (D : KvKey) : Prop :=
  ∃ laneIndex < laneCount, ∃ blk < laneBlockCount packet (packet.lane laneIndex),
    D = privateKey (packet.lane laneIndex).sequenceId blk

/-- What a release packet may do. -/
def Withdrawing (renews : Prop) : KvRule := fun c event =>
  Renewing renews c event ∨ Removing (laneKeys packet packet.laneCount) c event

theorem releasePacketSequences_follows (config : WorkControlConfig) :
    Follows (Withdrawing packet (s.controlGeneration < packet.controlGeneration)) s
      (finalState (releasePacketSequences packet config s)) := by
  intro h
  set rule := Withdrawing packet (s.controlGeneration < packet.controlGeneration)
  refine wp_finalState ?_
  rw [releasePacketSequences, wp_bind, wp_validateKvState]
  refine ⟨fun _ => ?_, fun _ _ => ⟨h, .refl _⟩⟩
  refine wp_ite.mpr ⟨fun _ => ⟨h, .refl _⟩, fun _ => ?_⟩
  rw [wp_read]
  refine wp_ite.mpr ⟨fun _ => ⟨h, .refl _⟩, fun _ => ?_⟩
  rw [wp_bind]
  refine wp_mono (selectKvGeneration_wp packet) ?_ ?_
  · intro _ u hselected
    have hrenews : Reaches rule s u :=
      (hselected.follows h).imp id (.mono fun _ _ => .inl)
    have hreleases : Within (Follows rule) (forM (List.range packet.laneCount) fun laneIndex =>
        releaseSequence (packet.lane laneIndex).sequenceId
          (laneBlockCount packet (packet.lane laneIndex)) : KvM W Unit) := by
      refine .forM fun laneIndex hlane => ?_
      have hkeys : ∀ blk < laneBlockCount packet (packet.lane laneIndex),
          laneKeys packet packet.laneCount (privateKey (packet.lane laneIndex).sequenceId blk) :=
        fun blk hblk => ⟨laneIndex, mem_range.mp hlane, blk, hblk, rfl⟩
      exact (releaseSequence_follows hkeys).mono fun _ _ => .mono fun _ _ => .inr
    refine wp_mono (hreleases.wp u) ?_ ?_
    all_goals
      intro _ s' hfollows
      obtain ⟨howned, hevolves⟩ := hfollows hrenews.1
      exact ⟨howned, hrenews.2.trans hevolves⟩
  · rintro _ t ⟨rfl, -⟩
    exact ⟨h, .refl _⟩

/-! ### Settling -/

theorem kvSequenceBlock_eq_some (h : s.kvSequenceBlock sequenceId blk = some slot) :
    ∃ k, s.core.directory (privateKey sequenceId blk) = some k ∧ s.findBlock k = some slot := by
  obtain ⟨i, hfind, hblock⟩ := Option.bind_eq_some_iff.mp h
  exact ⟨_, directory_of_find hfind, hblock⟩

theorem kvSequenceBlock_eq_none (hs : s.Owned) (h : s.kvSequenceBlock sequenceId blk = none) :
    s.core.directory (privateKey sequenceId blk) = none := by
  cases hfind : s.findDirectory sequenceId blk with
  | none => exact directory_of_find_none hfind
  | some =>
    have hdir := directory_of_find hfind
    obtain ⟨e, hrec⟩ := hs.sound.referenced.exists_record hdir
    obtain ⟨slot, hslot, -⟩ := findBlock_of_record hrec
    rw [kvSequenceBlock, hfind, Option.bind_eq_bind, Option.bind_some, hslot] at h
    cases h

theorem gpu_of_physicalBlockIndex (hs : s.core.Stored) (hrec : s.core.record k = some e)
    (hp : e.physicalBlockIndex ≠ kvInvalidBlockIndex) : e.residencyState = .gpu := by
  by_contra hout
  exact hp (hs.swappedOut hrec hout).2.1

theorem physicalBlockIndex_of_gpu (h : s.Owned) (hrec : s.core.record k = some e)
    (hgpu : e.residencyState = .gpu) : e.physicalBlockIndex ≠ kvInvalidBlockIndex := by
  have hlt : e.physicalBlockIndex < s.physicalBlockCapacity :=
    (h.sound.stored.onDevice hrec hgpu).1
  have hle := h.kept.tabled.physical_le
  have hinvalid : kvInvalidBlockIndex = 2 ^ 32 - 1 := rfl
  omega

variable {R : KvState W → KvState W → Prop} {visit : Nat → Nat → KvM W Unit}

theorem cancelBlock_wp (h : s.Owned) (sequenceId blk : Nat) (hD : privateKey sequenceId blk = D) :
    wp (cancelBlock sequenceId blk) (fun _ s' => s' = s ∧ ¬s.core.InState D .inFlight ∨
        s'.Owned ∧ s.core.InState D .inFlight ∧ s.core.Step (.remove D) s'.core)
      (fun error s' => s' = s ∧ error = .busy ∧ s.core.InState D .inFlight ∧
        ∃ k e, s.core.directory D = some k ∧ s.core.record k = some e ∧ e.referenceCount ≤ 1 ∧
          e.residencyState = .gpu ∧ s.core.isPinned e.physicalBlockIndex) s := by
  rw [cancelBlock, wp_read]
  cases hblock : s.kvSequenceBlock sequenceId blk with
  | none =>
    have hdir := kvSequenceBlock_eq_none h hblock
    rw [hD] at hdir
    refine .inl ⟨rfl, ?_⟩
    rintro ⟨k, e, hk, -⟩
    rw [hdir] at hk
    cases hk
  | some slot =>
    obtain ⟨k, hdir, hfind⟩ := kvSequenceBlock_eq_some hblock
    rw [hD] at hdir
    have hrec := record_of_findBlock hfind
    refine wp_ite.mpr ⟨fun hflight => ?_, fun hflight => ?_⟩
    · have hgpu := gpu_of_physicalBlockIndex h.sound.stored hrec hflight.1
      have hstate : s.core.InState D .inFlight := ⟨k, _, hdir, hrec, hgpu, hflight.2⟩
      refine wp_mono (kvDirectoryRelease_wp h sequenceId blk hD) ?_ ?_
      · rintro _ s' ⟨howned, hstep⟩
        exact .inr ⟨howned, hstate, hstep⟩
      · rintro error s' ⟨rfl, ⟨-, hnone⟩ | hbusy⟩
        · rw [hdir] at hnone
          cases hnone
        · exact ⟨rfl, hbusy.1, hstate, hbusy.2⟩
    · refine .inl ⟨rfl, ?_⟩
      rintro ⟨k', e, hk', he, hgpu, hstate⟩
      obtain rfl := Option.some.inj (hdir.symm.trans hk')
      obtain rfl := Option.some.inj (hrec.symm.trans he)
      exact hflight ⟨physicalBlockIndex_of_gpu h hrec hgpu, hstate⟩

theorem forPacketBlocks_wp {E : WorkControlError → KvState W → Prop} {packet : WorkControlPacket}
    (I : KvState W → Prop) (R : KvState W → KvState W → Prop)
    [IsFrame R] (P : KvKey → KvState W → Prop) (hkeep : ∀ {D s s'}, R s s' → P D s → P D s')
    (hs : I s) (hunfit : ∀ laneIndex < packet.activeSequenceCount,
      laneFits packet laneIndex = false → ∀ s, I s → E .capacityExceeded s)
    (hstep : ∀ laneIndex < packet.activeSequenceCount,
      ∀ blk < laneBlockCount packet (packet.lane laneIndex), ∀ s, I s →
      wp (visit (packet.lane laneIndex).sequenceId blk) (fun _ s' => I s' ∧ R s s' ∧
        P (privateKey (packet.lane laneIndex).sequenceId blk) s') E s) :
    wp (forPacketBlocks packet visit) (fun _ s' => I s' ∧ R s s' ∧
      ∀ D, laneKeys packet packet.activeSequenceCount D → P D s') E s := by
  -- the lanes in turn, each with all of its blocks
  rw [forPacketBlocks]
  refine wp_post (wp_forM_each I R (fun laneIndex s =>
    ∀ blk ∈ List.range (laneBlockCount packet (packet.lane laneIndex)),
      P (privateKey (packet.lane laneIndex).sequenceId blk) s)
    (fun hR hP blk hblk => hkeep hR (hP blk hblk)) hs fun laneIndex hlane s hI => ?_)
    fun _ s' h => ⟨h.1, h.2.1, ?_⟩
  · refine wp_ite.mpr ⟨fun hbad => hunfit laneIndex (mem_range.mp hlane) hbad s hI,
      fun _ => ?_⟩
    exact wp_forM_each I R (fun blk s => P (privateKey (packet.lane laneIndex).sequenceId blk) s)
      hkeep hI fun blk hblk =>
        hstep laneIndex (mem_range.mp hlane) blk (mem_range.mp hblk)
  · rintro D ⟨laneIndex, hlane, blk, hblk, rfl⟩
    exact h.2.2 laneIndex (mem_range.mpr hlane) blk (mem_range.mpr hblk)

theorem forPacketBlocks_within [IsFrame R]
    {packet : WorkControlPacket}
    (h : ∀ laneIndex < packet.activeSequenceCount,
      ∀ blk < laneBlockCount packet (packet.lane laneIndex),
      Within R (visit (packet.lane laneIndex).sequenceId blk)) :
    Within R (forPacketBlocks packet visit) := by
  refine .forM fun laneIndex hlane => .ite (fun _ => .throw _) fun _ => ?_
  exact .forM fun blk hblk => h laneIndex (mem_range.mp hlane) blk (mem_range.mp hblk)

instance [IsFrame R] (packet : WorkControlPacket) (config : WorkControlConfig) :
    Within R (settlesGeneration packet config) := by
  unfold settlesGeneration
  infer_instance

/-- What cancelling a packet may do. -/
def Cancelling : KvRule := fun c event =>
  ∃ D, laneKeys packet packet.activeSequenceCount D ∧ c.InState D .inFlight ∧ event = .remove D

variable (config)

theorem cancelHostKvBlockTable_follows :
    Within (Follows (Cancelling packet)) (cancelHostKvBlockTable (W := W) packet config) := by
  refine .bind inferInstance fun _ => forPacketBlocks_within
    fun laneIndex hlane blk hblk => within_follows fun s h => ?_
  refine wp_mono (cancelBlock_wp h _ _ rfl) ?_ ?_
  · rintro _ s' (⟨rfl, -⟩ | ⟨howned, hflight, hstep⟩)
    · exact ⟨h, .refl _⟩
    · exact ⟨howned, .single hstep ⟨_, ⟨laneIndex, hlane, blk, hblk, rfl⟩, hflight, rfl⟩⟩
  · rintro error s' ⟨rfl, -⟩
    exact ⟨h, .refl _⟩

theorem markBlock_wp (h : s.Owned) (sequenceId blk : Nat) (hD : privateKey sequenceId blk = D) :
    wp (markBlock .resident sequenceId blk)
      (fun _ s' => s'.Owned ∧ ∃ k e, s.core.directory D = some k ∧
        s.core.record k = some e ∧ e.residencyState = .gpu ∧
        s'.core = s.core.setBlock e.physicalBlockIndex
          (((s.core.block e.physicalBlockIndex).withState .resident).usedAt s.core.setting.epoch))
      (fun _ s' => s' = s ∧ ¬s.core.OnDevice D) s := by
  rw [markBlock, wp_read, wp_bind, wp_orFail]
  refine ⟨fun slot hslot => ?_, fun hnone => ⟨rfl, ?_⟩⟩
  · obtain ⟨k, hdir, hfind⟩ := kvSequenceBlock_eq_some hslot
    rw [hD] at hdir
    have hrec := record_of_findBlock hfind
    refine wp_ite.mpr ⟨fun hinvalid => ⟨rfl, ?_⟩, fun hvalid => ?_⟩
    · rintro ⟨k', e, hk', he, hgpu⟩
      obtain rfl := Option.some.inj (hdir.symm.trans hk')
      obtain rfl := Option.some.inj (hrec.symm.trans he)
      exact physicalBlockIndex_of_gpu h hrec hgpu hinvalid
    have hgpu := gpu_of_physicalBlockIndex h.sound.stored hrec hvalid
    have hlt := (h.sound.stored.onDevice hrec hgpu).1
    rw [wp_set]
    refine ⟨⟨h.kept.setPhysicalBlock, ?_⟩, k, _, hdir, hrec, hgpu, core_setPhysicalBlock hlt⟩
    rw [core_setPhysicalBlock hlt]
    exact (KvCore.Step.settle hrec hgpu).sound h.sound
  · have hdir := kvSequenceBlock_eq_none h hnone
    rw [hD] at hdir
    rintro ⟨k, e, hk, -⟩
    rw [hdir] at hk
    cases hk

theorem invalidateBacking_wp (h : s.Owned) (sequenceId blk : Nat)
    (hD : privateKey sequenceId blk = D) (hdevice : s.core.OnDevice D) :
    wp (invalidateBacking sequenceId blk)
      (fun _ s' => s'.Owned ∧ ∃ k e, s.core.directory D = some k ∧
        s.core.record k = some e ∧ e.residencyState = .gpu ∧
        s'.core = s.core.setRecord k (some (e.withBacking false)))
      (fun _ _ => False) s := by
  obtain ⟨k, e, hdir, hrec, hgpu⟩ := hdevice
  rw [invalidateBacking, wp_read, wp_bind, wp_orFail]
  refine ⟨fun slot hslot => ?_, fun hnone => ?_⟩
  · obtain ⟨k', hdir', hfind⟩ := kvSequenceBlock_eq_some hslot
    rw [hD] at hdir'
    obtain rfl := Option.some.inj (hdir.symm.trans hdir')
    obtain rfl :=
      Option.some.inj ((record_of_findBlock hfind).symm.trans hrec)
    have hkey := key_of_find hfind
    have hcore : (s.setBlockEntry slot ((s.blockEntry slot).withBacking false)).core = _ :=
      core_setBlockEntry h.kept.tabled hfind hkey
    rw [wp_set]
    refine ⟨⟨h.kept.setBlockEntry hfind hkey rfl, ?_⟩, k, _, hdir, hrec, hgpu, hcore⟩
    rw [hcore]
    exact (KvCore.Step.stale hrec hgpu).sound h.sound
  · have hnone := kvSequenceBlock_eq_none h hnone
    rw [hD, hdir] at hnone
    cases hnone

/-- What committing a packet may do. -/
def Committing : KvRule := fun c event =>
  ∃ D k, laneKeys packet packet.activeSequenceCount D ∧ c.directory D = some k ∧
    (event = .settle k ∨ event = .stale k)

theorem lt_laneBlockCount_of_mem_writtenBlocks {packet : WorkControlPacket}
    {lane : WorkControlLane} {blk : Nat}
    (hwritten : writeEndToken packet lane < lane.contextTokenCount)
    (hblk : blk ∈ writtenBlocks packet lane) (hcount : packet.blockTokenCount ≠ 0) :
    blk < laneBlockCount packet lane := by
  rw [writtenBlocks, mem_range'_1] at hblk
  have hle : blk ≤ writeEndToken packet lane / packet.blockTokenCount := by
    have := Nat.mod_le (writeEndToken packet lane / packet.blockTokenCount) (2 ^ 32)
    omega
  rw [laneBlockCount, blockCount, if_neg (by omega)]
  have hmul := (Nat.le_div_iff_mul_le (Nat.pos_of_ne_zero hcount)).mp hle
  rw [Nat.lt_iff_add_one_le, Nat.le_div_iff_mul_le (Nat.pos_of_ne_zero hcount), Nat.add_mul]
  omega

/-- Resident blocks stay resident. -/
def KeepsResident (s s' : KvState W) : Prop :=
  ∀ D, s.core.InState D .resident → s'.core.InState D .resident

instance : IsFrame (KeepsResident : KvState W → KvState W → Prop) where
  refl _ _ h := h
  trans h h' D hD := h' D (h D hD)

theorem KeepsResident.of_setBlock {block : KvPhysicalBlock}
    (h : s'.core = s.core.setBlock p block) (hstate : block.state = .resident) :
    KeepsResident s s' := by
  rintro D ⟨k, e, hdir, hrec, hgpu, hresident⟩
  rw [h]
  refine ⟨k, e, hdir, hrec, hgpu, ?_⟩
  rw [KvCore.block_setBlock]
  split_ifs
  · exact hstate
  · exact hresident

theorem KeepsResident.of_setRecord (hrec : s.core.record k = some e)
    (h : s'.core = s.core.setRecord k (some (e.withBacking false))) : KeepsResident s s' := by
  rintro D ⟨k', e', hdir, hrec', hgpu, hresident⟩
  rw [h]
  by_cases hk : k' = k
  · subst hk
    obtain rfl := Option.some.inj (hrec.symm.trans hrec')
    exact ⟨k', _, hdir, (KvCore.record_setRecord ..).trans (if_pos rfl), hgpu, hresident⟩
  · exact ⟨k', e', hdir, (KvCore.record_setRecord ..).trans ((if_neg hk).trans hrec'), hgpu,
      hresident⟩

theorem InState.onDevice {c : KvCore} {state : KvEntryState} (h : c.InState D state) :
    c.OnDevice D := by
  obtain ⟨k, e, hdir, hrec, hgpu, -⟩ := h
  exact ⟨k, e, hdir, hrec, hgpu⟩

theorem markTable_wp (h : s.Owned) (packet : WorkControlPacket) (config : WorkControlConfig) :
    wp (markTable packet config .resident)
      (fun _ s' => Reaches (Committing packet) s s' ∧ s.Validated packet config ∧
        ∀ D, laneKeys packet packet.activeSequenceCount D → s'.core.InState D .resident)
      (fun _ s' => Reaches (Committing packet) s s') s := by
  rw [markTable, settlesGeneration, wp_bind, wp_bind, wp_validateKvState]
  refine ⟨fun hvalid => ?_, fun _ _ => ⟨h, .refl _⟩⟩
  rw [wp_read]
  refine wp_ite.mpr ⟨fun _ => ⟨h, .refl _⟩, fun _ => ?_⟩
  rw [wp_pure]
  refine wp_post (forPacketBlocks_wp (Reaches (Committing packet) s) KeepsResident
    (fun D t => t.core.InState D .resident) (fun hkeep => hkeep _) ⟨h, .refl _⟩
    (fun _ _ _ _ h => h) ?_) fun _ s' h => ⟨h.1, hvalid, h.2.2⟩
  rintro laneIndex hlane blk hblk t ⟨ht, hevolves⟩
  refine wp_mono (markBlock_wp ht _ _ rfl) ?_ ?_
  · rintro _ s' ⟨howned, k, e, hdir, hrec, hgpu, hcore⟩
    have hstep : t.core.Step (.settle k) s'.core := hcore ▸ .settle hrec hgpu
    refine ⟨⟨howned, hevolves.trans (.single hstep
      ⟨_, k, ⟨laneIndex, hlane, blk, hblk, rfl⟩, hdir, .inl rfl⟩)⟩, .of_setBlock hcore rfl, ?_⟩
    rw [hcore]
    exact ⟨k, e, hdir, hrec, hgpu, by rw [KvCore.block_setBlock, if_pos rfl]; rfl⟩
  · rintro error s' ⟨rfl, -⟩
    exact ⟨ht, hevolves⟩

theorem commitHostKvBlockTable_wp (h : s.Owned) (packet : WorkControlPacket)
    (config : WorkControlConfig) :
    wp (commitHostKvBlockTable packet config) (fun _ s' => Reaches (Committing packet) s s' ∧
        ∀ D, laneKeys packet packet.activeSequenceCount D → s'.core.InState D .resident)
      (fun _ s' => Reaches (Committing packet) s s') s := by
  rw [commitHostKvBlockTable, wp_bind]
  refine wp_post (markTable_wp h packet config) ?_
  rintro _ t ⟨ht, hvalid, hresident⟩
  refine wp_ite.mpr ⟨fun _ => ht, fun _ => ?_⟩
  -- the blocks that are written stay resident while their copies are invalidated
  refine wp_post (wp_forM
    (fun u => Reaches (Committing packet) s u ∧ KeepsResident t u) ⟨ht, IsFrame.refl t⟩ ?_)
    fun _ _ h => ⟨h.1, fun D hD => h.2 D (hresident D hD)⟩
  rintro laneIndex hlane u hu
  refine wp_ite.mpr ⟨fun _ => hu.1, fun hfits => ?_⟩
  refine wp_forM _ hu ?_
  rintro blk hblk v ⟨⟨hv, hevolves⟩, hkeep⟩
  have hD : laneKeys packet packet.activeSequenceCount
      (privateKey (packet.lane laneIndex).sequenceId blk) :=
    ⟨laneIndex, mem_range.mp hlane, blk, lt_laneBlockCount_of_mem_writtenBlocks
      (not_le.mp hfits) hblk hvalid.blockTokenCount_ne, rfl⟩
  refine wp_total (invalidateBacking_wp hv _ _ rfl (InState.onDevice (hkeep _ (hresident _ hD)))) ?_
  rintro _ s' ⟨howned, k, e, hdir, hrec, hgpu, hcore⟩
  have hstep : v.core.Step (.stale k) s'.core := hcore ▸ .stale hrec hgpu
  exact ⟨⟨howned, hevolves.trans (Evolves.single hstep ⟨_, k, hD, hdir, .inr rfl⟩)⟩,
    IsFrame.trans hkeep (KeepsResident.of_setRecord hrec hcore)⟩

theorem commitHostKvBlockTable_follows :
    Within (Follows (Committing packet)) (commitHostKvBlockTable (W := W) packet config) :=
  within_follows fun _ h => wp_post (commitHostKvBlockTable_wp h packet config) fun _ _ h => h.1

/-! ### Prefetching -/

/-- A record in its backing slot that a collection has not taken. -/
def IsDue (mark : Nat) (e : KvBlockEntry) : Prop :=
  e.residencyState = .nvme ∧ e.backingValid ∧ e.prefetchMark ≠ mark

/-- A collection takes the record of a directory key. -/
structure Takes (mark : Nat) (D k : KvKey) (e : KvBlockEntry) (s s' : KvState W) : Prop where
  directory : s.core.directory D = some k
  record : s.core.record k = some e
  due : IsDue mark e
  core : s'.core = s.core.setRecord k (some (e.marked mark))

theorem collectBlock_wp (h : s.Owned) (mark entryCapacity : Nat) (packet : WorkControlPacket)
    (entries : List KvPrefetchEntry) (block : Nat × Nat)
    (hD : privateKey (packet.lane block.1).sequenceId block.2 = D) :
    wp (collectBlock mark entryCapacity packet entries block) (fun entries' s' => s'.Owned ∧
        (entries' = entries ∧ s' = s ∧ (∀ k e, s.core.directory D = some k →
            s.core.record k = some e → ¬IsDue mark e) ∨
          ∃ k e, Takes mark D k e s s' ∧ entries' = entries ++ [⟨k, e.backingBlockIndex⟩]))
      (fun _ s' => s'.Owned ∧ entryCapacity ≤ entries.length ∧ ∃ k e, Takes mark D k e s s') s := by
  rw [collectBlock, wp_read]
  cases hblock : s.kvSequenceBlock (packet.lane block.1).sequenceId block.2 with
  | none =>
    have hdir := kvSequenceBlock_eq_none h hblock
    rw [hD] at hdir
    exact ⟨h, .inl ⟨rfl, rfl, fun k e hk => absurd (hdir.symm.trans hk) nofun⟩⟩
  | some slot =>
    obtain ⟨k, hdir, hfind⟩ := kvSequenceBlock_eq_some hblock
    rw [hD] at hdir
    have hrec := record_of_findBlock hfind
    have hkey := key_of_find hfind
    set e := s.blockEntry slot
    refine wp_ite.mpr ⟨fun hskip => ⟨h, .inl ⟨rfl, rfl, ?_⟩⟩, fun hdue => ?_⟩
    · intro k' e' hdir' hrec'
      cases hdir.symm.trans hdir'
      cases hrec.symm.trans hrec'
      grind [IsDue]
    have hcore : (s.setBlockEntry slot (e.marked mark)).core =
        s.core.setRecord k (some (e.marked mark)) := core_setBlockEntry h.kept.tabled hfind hkey
    have htakes : Takes mark D k e s (s.setBlockEntry slot (e.marked mark)) :=
      ⟨hdir, hrec, by grind [IsDue], hcore⟩
    have howned : (s.setBlockEntry slot (e.marked mark)).Owned :=
      ⟨h.kept.setBlockEntry hfind hkey rfl, hcore ▸ (KvCore.Step.mark mark hrec).sound h.sound⟩
    rw [wp_bind, wp_set]
    refine wp_ite.mpr ⟨fun hfull => ⟨howned, hfull, k, e, htakes⟩, fun _ => ⟨howned, .inr ?_⟩⟩
    exact ⟨k, e, htakes, by rw [← hkey]⟩

theorem Takes.marks {mark : Nat} (h : Takes mark D k e s s') :
    Evolves KvCore.Step (fun _ event => event = .mark) s.core s'.core := by
  rw [h.core]
  exact .single (.mark mark h.record) rfl

theorem collectBlock_follows (mark entryCapacity : Nat) (packet : WorkControlPacket)
    (entries : List KvPrefetchEntry) (block : Nat × Nat) :
    Within (Follows fun _ event => event = .mark)
      (collectBlock (W := W) mark entryCapacity packet entries block) := by
  refine within_follows fun s h => wp_mono (collectBlock_wp h _ _ packet entries block rfl) ?_ ?_
  · rintro _ s' ⟨howned, ⟨-, rfl, -⟩ | ⟨k, e, htakes, -⟩⟩
    · exact ⟨howned, .refl _⟩
    · exact ⟨howned, htakes.marks⟩
  · rintro _ s' ⟨howned, -, k, e, htakes⟩
    exact ⟨howned, htakes.marks⟩

theorem collectPacket_follows (mark entryCapacity : Nat)
    (entries : List KvPrefetchEntry) (packet : WorkControlPacket) :
    Within (Follows fun _ event => event = .mark)
      (collectPacket (W := W) config mark entryCapacity entries packet) :=
  .bind inferInstance fun _ => .bind .get fun _ =>
    .ite (fun _ => .pure _) fun _ =>
      .foldlM fun entries block => collectBlock_follows _ _ _ entries block

theorem collectKvPrefetchEntries_follows (packets : List WorkControlPacket)
    (config : WorkControlConfig) (entryCapacity : Nat) :
    Within (Follows fun _ event => event = .mark)
      (collectKvPrefetchEntries (W := W) packets config entryCapacity) := by
  refine .ite (fun _ => .throw _) fun _ => .bind (within_modify fun s => ?_)
    fun _ => .bind .get fun _ =>
      .foldlM fun entries packet => collectPacket_follows _ _ _ entries packet
  exact .of_core (fun h => h.kept.congr rfl) rfl

end KvState

end SparkPipe
