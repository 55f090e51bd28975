import SparkPipe.Sched.WorkControl.Sharing

/-!
# What a refused build leaves

A build that is refused for lack of capacity leaves the tables, the blocks, the backing slots and
the hooks as they were just when no block before the one that was refused had to be changed. A
block is left in place when the directory names it under the key that is wanted, or it is pinned,
it is on the device, and the packet does not start it.
-/

open Program

namespace SparkPipe

open WorkControl List

namespace SwapEvent

/-- A call of the hook that stores a block. -/
def isStore : SwapEvent → Bool
  | .store .. => true
  | _ => false

/-- A call of the hook that loads a block. -/
def isLoad : SwapEvent → Bool
  | .load .. => true
  | _ => false

end SwapEvent

/-- What a refusal must leave as it was. -/
structure KvListing where
  directoryEntries : List KvDirectoryEntry
  blockEntries : List KvBlockEntry
  physicalBlocks : List (KvKey × KvEntryState)
  backingBlockFreeNext : List Nat
  freeBackingBlockHead : Nat
  storeCallCount : Nat
  loadCallCount : Nat

namespace KvCore

variable {c c' c₀ : KvCore} {event : KvEvent} {D D' k k' : KvKey} {p : Nat}
  {wants : KvKey → KvKey → Prop}

instance (c : KvCore) (p : Nat) : Decidable (c.Available p) :=
  inferInstanceAs (Decidable (_ ∧ _))

/-! ### Changes that stay -/

/-- A key names a record on a block of the device that cannot be taken. -/
def HeldAt (c : KvCore) (D k : KvKey) (p : Nat) : Prop :=
  c.directory D = some k ∧ ∃ e, c.record k = some e ∧ e.residencyState = .gpu ∧
    e.physicalBlockIndex = p ∧ ¬c.Available p

attribute [grind] Available HeldAt

theorem Step.heldAt_of_attending (hstep : Step c event c') (hsound : c.Sound)
    (hevent : Attending D' c event) (h : c.HeldAt D k p) : c'.HeldAt D k p := by
  obtain ⟨hdir, e, hrec, hgpu, hphys, htaken⟩ := h
  rcases hevent with rfl | rfl | ⟨k', hdir', rfl | rfl | rfl⟩
  · cases hstep
    grind
  · cases hstep <;> exact ⟨hdir, e, hrec, hgpu, hphys, htaken⟩
  · cases hstep with
    | @load _ _ q =>
      grind
  all_goals
    cases hstep
    grind

theorem heldAt_of_used {e : KvBlockEntry} (hdir : c.directory D = some k)
    (hrec : c.record k = some e) (hgpu : e.residencyState = .gpu)
    (hkey : (c.block e.physicalBlockIndex).key ≠ {})
    (hused : (c.block e.physicalBlockIndex).state ≠ .resident ∨
      (c.block e.physicalBlockIndex).lastUsedEpoch = c.setting.epoch) :
    c.HeldAt D k e.physicalBlockIndex := by
  refine ⟨hdir, e, hrec, hgpu, rfl, ?_⟩
  rintro ⟨-, -, hempty | ⟨-, hstate, hepoch⟩⟩
  · exact hkey hempty
  · exact hused.elim (fun h => h hstate) hepoch

theorem Step.heldAt_of_place (hstep : Step c (.place D' k') c') (hsound : c.Sound) (hne : D' ≠ D)
    (h : c.HeldAt D k p) : c'.HeldAt D k p := by
  obtain ⟨hdir, e, hrec, hgpu, hphys, htaken⟩ := h
  obtain ⟨hdir', e', hrec', hphys', hres', hsame⟩ := hstep.record_of_place_ne hsound hdir hrec hne
  have hblock := hsame hgpu
  rw [hphys] at hblock
  refine ⟨hdir', e', hrec', hres'.trans hgpu, hphys'.trans hphys, ?_⟩
  rw [Available, isPinned, hblock, hstep.setting (by simp) (by simp) (by simp) (by simp)]
  exact htaken

theorem Sweeps.available (h : c.Sweeps c') (havailable : c.Available p) : c'.Available p := by
  have hfrom := h.sweptFrom
  obtain ⟨hlt, hpin, htakeable⟩ := havailable
  refine ⟨hfrom.setting ▸ hlt, (hfrom.isPinned p).trans hpin, ?_⟩
  rcases hfrom.block p with hblock | ⟨-, -, -, -, hblock⟩
  · rw [hblock, hfrom.setting]
    exact htakeable
  · rw [hblock]
    exact .inl rfl

/-- A key names a record on a block that cannot be taken and is not missing. -/
def Started (c : KvCore) (D k : KvKey) (p : Nat) : Prop :=
  c.HeldAt D k p ∧ (c.block p).state ≠ .missing

theorem Step.started_of_attending (hstep : Step c event c') (hsound : c.Sound)
    (hevent : Attending D' c event) (h : c.Started D k p) : c'.Started D k p := by
  refine ⟨hstep.heldAt_of_attending hsound hevent h.1, ?_⟩
  obtain ⟨⟨-, -, -, -, -, htaken⟩, hstate⟩ := h
  rcases hevent with rfl | rfl | ⟨k', -, rfl | rfl | rfl⟩
  · cases hstep
    grind
  · cases hstep <;> exact hstate
  all_goals
    cases hstep
    grind

theorem Step.started_of_place (hstep : Step c (.place D' k') c') (hsound : c.Sound) (hne : D' ≠ D)
    (h : c.Started D k p) : c'.Started D k p := by
  refine ⟨hstep.heldAt_of_place hsound hne h.1, ?_⟩
  obtain ⟨⟨hdir, e, hrec, hgpu, rfl, -⟩, hstate⟩ := h
  obtain ⟨-, -, -, -, -, hsame⟩ := hstep.record_of_place_ne hsound hdir hrec hne
  rwa [hsame hgpu]

/-- How often the hook that loads was called. -/
def loadCallCount (c : KvCore) : Nat := c.log.countP SwapEvent.isLoad

theorem log_drop (c : KvCore) (k : KvKey) (e : KvBlockEntry) : (c.drop k e).log = c.log := by
  unfold drop free
  split_ifs <;> rfl

theorem Step.log_suffix (hstep : Step c event c') : c.log <:+ c'.log := by
  cases hstep with
  | spill =>
    refine List.IsSuffix.trans ?_ (suffix_cons ..)
    split_ifs
    · exact suffix_rfl
    · exact suffix_cons ..
  | storeFails | load | loadFails => exact suffix_cons ..
  | join | split | remove => exact (log_drop ..).symm ▸ suffix_rfl
  | rekey =>
    simp only [name, KvCore.rekey]
    split_ifs <;> exact suffix_rfl
  | _ => exact suffix_rfl

theorem Step.loadCallCount_le (hstep : Step c event c') : c.loadCallCount ≤ c'.loadCallCount :=
  hstep.log_suffix.sublist.countP_le

theorem Sweeps.loadCallCount_le (h : c.Sweeps c') : c.loadCallCount ≤ c'.loadCallCount :=
  Evolves.invariant (I := (c.loadCallCount ≤ ·.loadCallCount))
    (fun _ _ _ hle _ hstep => hle.trans hstep.loadCallCount_le) h le_rfl

/-- A record was loaded, a key has got the key that it wants, or a block was started. -/
def Changed (wants : KvKey → KvKey → Prop) (c₀ c : KvCore) : Prop :=
  c₀.loadCallCount < c.loadCallCount ∨
    (∃ D k, wants D k ∧ c.directory D = some k ∧ c₀.directory D ≠ some k) ∨
    ∃ D k p, c.Started D k p ∧ (c.Bound D ∨ ∀ k', wants D k' → k' = k) ∧
      (c₀.block p).state = .missing

theorem Step.changed_of_attending (hstep : Step c event c') (hsound : c.Sound)
    (hevent : Attending D c event) (h : Changed wants c₀ c) : Changed wants c₀ c' := by
  have hcalm := (calm_of_attending (.single hstep hevent) hsound).2
  rcases h with hload | ⟨D', k', hwants, hdir, hold⟩ | ⟨D', k', p, hstarted, hkeeps, hold⟩
  · exact .inl (hload.trans_le hstep.loadCallCount_le)
  · exact .inr (.inl ⟨D', k', hwants, (hcalm.directory D').trans hdir, hold⟩)
  · exact .inr (.inr ⟨D', k', p, hstep.started_of_attending hsound hevent hstarted,
      hkeeps.imp_left (hcalm.bound D').mpr, hold⟩)

theorem changed_of_attending (h : Evolves Step (Attending D) c c') (hsound : c.Sound)
    (hc : Changed wants c₀ c) : Changed wants c₀ c' :=
  hsound.invariant h (fun hsound hc hevent hstep => hstep.changed_of_attending hsound hevent hc) hc

theorem Turn.changed (h : c.Turn D k c') (hsound : c.Sound) (hkey : ∀ k', wants D k' → k' = k)
    (hwants : wants D k) (hc : Changed wants c₀ c) : Changed wants c₀ c' := by
  refine h.invariant hsound changed_of_attending (fun _ hd hstep hc => ?_) hc
  obtain ⟨-, hother⟩ := hstep.directory_of_place
  rcases hc with hload | ⟨D', k', hwants', hdir, hold⟩ | ⟨D', k', p, hstarted, hkeeps, hold⟩
  · exact .inl (hload.trans_le hstep.loadCallCount_le)
  · have hne : D' ≠ D := by
      rintro rfl
      exact hother (hkey k' hwants' ▸ hdir)
    exact .inr (.inl ⟨D', k', hwants',
      (hstep.directory_eq (by grind) (by grind) (by grind)).trans hdir, hold⟩)
  · have hne : D ≠ D' := by
      rintro rfl
      rcases hkeeps with hbound | hkeeps
      · exact hstep.not_bound_of_place hbound
      · exact hother (hkeeps k hwants ▸ hstarted.1.1)
    exact .inr (.inr ⟨D', k', p, hstep.started_of_place hd hne hstarted,
      hkeeps.imp_left (hstep.bound_of_place hd hne.symm), hold⟩)

end KvCore

namespace KvState

variable {W : SwapHooks} {s s' v v' : KvState W} {D k : KvKey} {packet : WorkControlPacket}
  {error : WorkControlError} {used : List Nat} {laneIndex blk p : Nat} {e : KvBlockEntry}

def listing (s : KvState W) : KvListing where
  directoryEntries := s.directoryEntries
  blockEntries := s.blockEntries
  physicalBlocks := s.physicalBlocks.map fun block => (block.key, block.state)
  backingBlockFreeNext := s.backingBlockFreeNext
  freeBackingBlockHead := s.freeBackingBlockHead
  storeCallCount := s.swapLog.countP SwapEvent.isStore
  loadCallCount := s.swapLog.countP SwapEvent.isLoad

/-! ### Blocks that stay in place -/

/-- The block that is on the device under the wanted key, or pinned, and whose state stays. -/
def inPlace (s : KvState W) (packet : WorkControlPacket) (laneIndex blk : Nat) : Option Nat := do
  let lane := packet.lane laneIndex
  let key ← s.core.directory (privateKey lane.sequenceId blk)
  let entry ← s.core.record key
  let state := (s.core.block entry.physicalBlockIndex).state
  if entry.residencyState = .gpu ∧
      (key = s.kvBlockKeyOf packet laneIndex blk ∨ s.core.isPinned entry.physicalBlockIndex) ∧
      kvResolveEntryState packet blk (laneBlockCount packet lane) state = .ok state then
    some entry.physicalBlockIndex
  else none

/-- No block besides those that were used may be taken. -/
def Exhausted (s : KvState W) (packet : WorkControlPacket) (used : List Nat) : Prop :=
  ∀ p < s.physicalBlockCapacity, p ∉ used → ¬(s.kvStartEpoch packet).core.Available p

instance (s : KvState W) (packet : WorkControlPacket) (used : List Nat) :
    Decidable (s.Exhausted packet used) :=
  inferInstanceAs (Decidable (∀ p < s.physicalBlockCapacity, _ → _))

/-- The record was swapped out, or is missing and cannot be made, and no block or record is left. -/
def RefusedOutright (s : KvState W) (packet : WorkControlPacket) (used : List Nat)
    (laneIndex blk : Nat) : Prop :=
  let D := privateKey (packet.lane laneIndex).sequenceId blk
  let key := s.kvBlockKeyOf packet laneIndex blk
  s.core.directory D = some key ∧ (∃ e ∈ s.core.record key, e.residencyState ≠ .gpu) ∧
      s.Exhausted packet used ∨
    s.core.directory D ≠ some key ∧ s.core.record key = none ∧
      (∀ e ∈ s.core.namedRecord D, e.referenceCount ≠ 1 ∧
        (e.residencyState = .gpu → s.core.isPinned e.physicalBlockIndex = false)) ∧
      (s.blockEntryLimit ≤ s.blockEntryCount ∨ s.Exhausted packet used)

instance (s : KvState W) (packet : WorkControlPacket) (used : List Nat) (laneIndex blk : Nat) :
    Decidable (s.RefusedOutright packet used laneIndex blk) :=
  inferInstanceAs (Decidable (_ ∨ _))

/-- The first block that is not in place is refused outright. -/
def StopsAtFirstChange (s : KvState W) (packet : WorkControlPacket) :
    List (Nat × Nat) → List Nat → Prop
  | [], _ => False
  | (laneIndex, blk) :: rest, used =>
    match s.inPlace packet laneIndex blk with
    | some p => s.StopsAtFirstChange packet rest (p :: used)
    | none => s.RefusedOutright packet used laneIndex blk

instance decidableStopsAtFirstChange (s : KvState W) (packet : WorkControlPacket) :
    (blocks : List (Nat × Nat)) → (used : List Nat) →
      Decidable (s.StopsAtFirstChange packet blocks used)
  | [], _ => inferInstanceAs (Decidable False)
  | (laneIndex, blk) :: rest, used => by
    unfold StopsAtFirstChange
    cases s.inPlace packet laneIndex blk with
    | some p => exact decidableStopsAtFirstChange s packet rest (p :: used)
    | none => infer_instance

/-! ### Blocks that are refused -/

theorem listing_setPhysicalBlock {block : KvPhysicalBlock}
    (hkey : block.key = (v.physicalBlock p).key) (hstate : block.state = (v.physicalBlock p).state) :
    (v.setPhysicalBlock p block).listing = v.listing := by
  have hblocks : (v.physicalBlocks.set p block).map (fun block => (block.key, block.state)) =
      v.physicalBlocks.map fun block => (block.key, block.state) := by
    refine ext_getElem? fun q => ?_
    rw [List.getElem?_map, List.getElem?_map, List.getElem?_set]
    split_ifs with hq hlt
    · subst hq
      rw [physicalBlock, getD_eq_getElem _ _ hlt] at hkey hstate
      rw [List.getElem?_eq_getElem hlt, Option.map_some, Option.map_some, hkey, hstate]
    · subst hq
      rw [List.getElem?_eq_none (not_lt.mp hlt)]
    · rfl
  simp only [listing, setPhysicalBlock, hblocks]

theorem kvAcquireLoop_exhausted (hnone : ∀ p, ¬v.core.Available p) (rounds : Nat)
    (hlt : v.nextPhysicalBlockIndex < v.physicalBlockCapacity) :
    wp (kvAcquireLoop rounds) (fun _ _ => False) (fun error v' => error = .capacityExceeded ∧
      ∃ n, v' = { v with nextPhysicalBlockIndex := n }) v := by
  induction rounds generalizing v with
  | zero => exact ⟨rfl, _, rfl⟩
  | succ rounds ih =>
    have hrest := ih (v := v.kvMoveHand) hnone (Nat.mod_lt _ (Nat.zero_lt_of_lt hlt))
    have hskip := hnone v.nextPhysicalBlockIndex
    rw [kvAcquireLoop, wp_read]
    simp only [wp_bind, wp_set, wp_ite, wp_pure]
    refine ⟨fun _ => hrest, fun hpin => ⟨fun hempty => ?_, fun hempty => ⟨fun _ => hrest,
      fun hkeep => ?_⟩⟩⟩
    · exact hskip ⟨hlt, Bool.eq_false_iff.mpr hpin, .inl (KvKey.isEmpty_iff.mp hempty)⟩
    · simp only [not_or, not_not] at hkeep
      exact absurd ⟨hlt, Bool.eq_false_iff.mpr hpin, .inr ⟨decide_eq_true hkeep.1, hkeep.2⟩⟩ hskip

theorem kvAcquirePhysicalBlock_exhausted (hnone : ∀ p, ¬v.core.Available p) (h : v.Tabled) :
    wp kvAcquirePhysicalBlock (fun _ _ => False) (fun error v' => error = .capacityExceeded ∧
      ∃ n, v' = { v with nextPhysicalBlockIndex := n }) v :=
  kvAcquireLoop_exhausted hnone _ h.next_lt

theorem kvPutBacking_kvTakeBacking {n : Nat}
    (hlt : v.freeBackingBlockHead < v.backingBlockFreeNext.length) :
    (kvPutBacking v.freeBackingBlockHead
      { v.kvTakeBacking with nextPhysicalBlockIndex := n }).listing = v.listing := by
  have hnext : (v.backingBlockFreeNext.set v.freeBackingBlockHead kvInvalidBlockIndex).set
      v.freeBackingBlockHead (v.backingBlockFreeNext.getD v.freeBackingBlockHead
        kvInvalidBlockIndex) = v.backingBlockFreeNext := by
    rw [set_set, getD_eq_getElem _ _ hlt, set_getElem_self]
  simp only [listing, kvPutBacking, kvTakeBacking, hnext]

theorem kvBlockResolve_exhausted (h : v.Tabled) (hrec : v.core.record k = none)
    (hfull : v.blockEntryLimit ≤ v.blockEntryCount ∨ ∀ p, ¬v.core.Available p) :
    wp (kvBlockResolve k) (fun _ _ => False)
      (fun error v' => error = .capacityExceeded ∧ v'.listing = v.listing) v := by
  rw [kvBlockResolve, wp_read]
  cases hprobe : kvBlockSlots.probe v.blockEntries k with
  | none => exact ⟨rfl, rfl⟩
  | some found =>
    obtain ⟨slot, _ | _⟩ := found
    · refine wp_ite.mpr ⟨fun _ => ⟨rfl, rfl⟩, fun hlimit => ?_⟩
      have hnone := hfull.resolve_left hlimit
      rw [wp_bind, kvBackingAcquire, wp_read]
      refine wp_ite.mpr ⟨fun hzero => ?_, fun hswaps => wp_ite.mpr ⟨fun _ => ⟨rfl, rfl⟩,
        fun hlt => ?_⟩⟩
      · rw [wp_pure, wp_bind, wp_attempt]
        refine wp_mono (kvAcquirePhysicalBlock_exhausted hnone h) (fun _ _ hf => hf.elim) ?_
        rintro error _ ⟨rfl, n, rfl⟩
        rw [wp_bind, wp_attempt, kvBackingRelease, wp_read]
        refine wp_ite.mpr ⟨fun _ => wp_ite.mpr ⟨fun _ => ⟨rfl, rfl⟩, fun hno => absurd rfl hno⟩,
          fun hno => absurd hzero hno⟩
      · rw [wp_bind, wp_set, wp_pure, wp_bind, wp_attempt]
        have htabled : v.kvTakeBacking.Tabled := .relinked length_set h
        refine wp_mono (kvAcquirePhysicalBlock_exhausted (core_kvTakeBacking (s := v) ▸ hnone)
          htabled) (fun _ _ hf => hf.elim) ?_
        rintro error _ ⟨rfl, n, rfl⟩
        have hlength : v.kvTakeBacking.backingBlockFreeNext.length = v.backingBlockFreeNext.length :=
          length_set
        rw [wp_bind, wp_attempt, kvBackingRelease, wp_read]
        refine wp_ite.mpr ⟨fun hzero => absurd (hlength.symm.trans hzero) hswaps,
          fun _ => wp_ite.mpr ⟨fun hbad => ?_, fun _ => ?_⟩⟩
        · rcases hbad with hle | hused
          · exact absurd (hlength.ge.trans hle) hlt
          · exact absurd (getD_set_self (not_le.mp hlt)) hused
        · exact ⟨rfl, kvPutBacking_kvTakeBacking (not_le.mp hlt)⟩
    · rw [findBlock_eq_none_iff.symm, findBlock, Slots.find_of_probe_true hprobe] at hrec
      cases hrec

theorem find_of_directory (hdir : s.core.directory D = some k) :
    ∃ slot, kvDirectorySlots.find s.directoryEntries D = some slot ∧
      kvDirectorySlots.probe s.directoryEntries D = some (slot, true) ∧
      (s.directoryEntry slot).blockKey = k := by
  cases hprobe : kvDirectorySlots.probe s.directoryEntries D with
  | none =>
    rw [directory_of_find_none (by rw [Slots.find, hprobe])] at hdir
    cases hdir
  | some found =>
    obtain ⟨slot, _ | _⟩ := found
    · rw [directory_of_find_none (Slots.find_of_probe hprobe)] at hdir
      cases hdir
    · have hfind := Slots.find_of_probe_true hprobe
      exact ⟨slot, hfind, rfl, Option.some.inj ((directory_of_find hfind).symm.trans hdir)⟩

theorem kvDirectoryAcquire_inPlace {k₁ : KvKey} {sequenceId : Nat}
    (hdir : v.core.directory (privateKey sequenceId blk) = some k₁)
    (hrec : v.core.record k₁ = some e) (hgpu : e.residencyState = .gpu)
    (hkey : k₁ = k ∨ v.core.isPinned e.physicalBlockIndex) :
    wp (kvDirectoryAcquire sequenceId blk k)
      (fun p v' => p = e.physicalBlockIndex ∧ v' = v.kvTouch p) (fun _ _ => False) v := by
  obtain ⟨slot, -, hprobe, hslot⟩ := find_of_directory hdir
  obtain ⟨source, hfind, hentry⟩ := findBlock_of_record hrec
  have hresident : wp (do kvBlockResident ((← get).directoryEntry slot).blockKey : KvM W Nat)
      (fun p v' => p = e.physicalBlockIndex ∧ v' = v.kvTouch p) (fun _ _ => False) v := by
    rw [wp_read, hslot, kvBlockResident, wp_read, wp_bind, wp_orFail_some hfind, hentry]
    exact wp_ite.mpr ⟨fun _ => ⟨rfl, rfl⟩, fun hout => absurd hgpu hout⟩
  rw [kvDirectoryAcquire, wp_read]
  simp only [hprobe, hslot, Bool.true_eq_false, if_false]
  split_ifs with hne
  · have hpin := hkey.resolve_left hne
    rw [wp_bind, kvPromoteBlock, wp_read, hslot, wp_bind, wp_orFail_some hfind, hentry]
    exact wp_ite.mpr ⟨fun _ => hresident, fun hno => absurd ⟨hgpu, hpin⟩ hno⟩
  · exact hresident

theorem kvDirectoryAcquire_refused {sequenceId : Nat} (h : v.Owned)
    (hD : privateKey sequenceId blk = D)
    (hrefused : v.core.directory D = some k ∧ (∃ e ∈ v.core.record k, e.residencyState ≠ .gpu) ∧
        (∀ p, ¬v.core.Available p) ∨
      v.core.directory D ≠ some k ∧ v.core.record k = none ∧
        (∀ e ∈ v.core.namedRecord D, e.referenceCount ≠ 1 ∧
          (e.residencyState = .gpu → v.core.isPinned e.physicalBlockIndex = false)) ∧
        (v.blockEntryLimit ≤ v.blockEntryCount ∨ ∀ p, ¬v.core.Available p)) :
    wp (kvDirectoryAcquire sequenceId blk k) (fun _ _ => False)
      (fun error v' => error = .capacityExceeded ∧ v'.listing = v.listing) v := by
  have htabled := h.kept.tabled
  rw [kvDirectoryAcquire, wp_read, hD]
  rcases hrefused with ⟨hdir, ⟨e, hrec, hout⟩, hnone⟩ | ⟨hne, hrec, hnamed, hfull⟩
  · -- the record was swapped out
    obtain ⟨slot, -, hprobe, hslot⟩ := find_of_directory hdir
    obtain ⟨source, hfind, rfl⟩ := findBlock_of_record hrec
    simp only [hprobe, hslot, Bool.true_eq_false, if_false, ne_eq, not_true]
    rw [wp_read, hslot, kvBlockResident, wp_read, wp_bind, wp_orFail_some hfind]
    refine wp_ite.mpr ⟨fun hgpu => absurd hgpu hout, fun _ => ?_⟩
    rw [wp_bind]
    refine wp_mono (kvAcquirePhysicalBlock_exhausted hnone htabled) (fun _ _ hf => hf.elim) ?_
    rintro error _ ⟨rfl, n, rfl⟩
    exact ⟨rfl, rfl⟩
  have hresolve := kvBlockResolve_exhausted htabled hrec hfull
  cases hdir : v.core.directory D with
  | none =>
    cases hprobe : kvDirectorySlots.probe v.directoryEntries D with
    | none =>
      simp only [hprobe]
      exact ⟨rfl, rfl⟩
    | some found =>
      obtain ⟨slot, _ | _⟩ := found
      · simp only [hprobe, if_true]
        refine wp_ite.mpr ⟨fun _ => ⟨rfl, rfl⟩, fun _ => ?_⟩
        rw [wp_bind]
        exact wp_mono hresolve (fun _ _ hf => hf.elim) fun _ _ hv' => hv'
      · rw [directory_of_find (Slots.find_of_probe_true hprobe)] at hdir
        cases hdir
  | some k₀ =>
    obtain ⟨slot, -, hprobe, hslot⟩ := find_of_directory hdir
    obtain ⟨e₀, hrec₀⟩ := h.sound.referenced.exists_record hdir
    obtain ⟨source, hfind, rfl⟩ := findBlock_of_record hrec₀
    obtain ⟨hcount, hpin⟩ := hnamed (v.blockEntry source) (by
      rw [KvCore.namedRecord, hdir]
      exact hrec₀)
    have hk : k₀ ≠ k := fun heq => hne (heq ▸ hdir)
    simp only [hprobe, hslot, Bool.true_eq_false, if_false, ne_eq, hk, not_false_eq_true, if_true]
    rw [wp_bind, kvPromoteBlock, wp_read, hslot, wp_bind, wp_orFail_some hfind]
    refine wp_ite.mpr ⟨fun hpinned => ?_, fun _ => wp_ite.mpr ⟨fun hsole => absurd hsole.2 hcount,
      fun _ => ?_⟩⟩
    · exact absurd ((hpin hpinned.1).symm.trans hpinned.2) (by decide)
    · rw [wp_bind]
      exact wp_mono hresolve (fun _ _ hf => hf.elim) fun _ _ hv' => hv'

/-! ### One block -/

theorem length_packetBlocks : (packetBlocks packet).length =
    ((List.range packet.activeSequenceCount).map fun laneIndex =>
      laneBlockCount packet (packet.lane laneIndex)).sum := by
  simp only [packetBlocks, length_flatMap, length_map, length_range]

theorem directory_le_of_admitted (h : s.kvAdmitStatus packet = .ok ()) :
    s.directoryEntryCount + ((packetBlocks packet).countP fun block =>
      (s.findDirectory (packet.lane block.1).sequenceId block.2).isNone) ≤
      s.directoryCapacity / 2 := by
  simp only [kvAdmitStatus] at h
  split_ifs at h
  · have hle := countP_le_length (l := packetBlocks packet) (p := fun block =>
      (s.findDirectory (packet.lane block.1).sequenceId block.2).isNone)
    rw [length_packetBlocks] at hle
    omega
  · rw [kvCountAdmission] at h
    split_ifs at h
    simp only at h
    split_ifs at h
    omega

theorem kvResolveEntryState_error {blk count : Nat} {entryState : KvEntryState}
    (h : kvResolveEntryState packet blk count entryState = .error error) : error = .busy := by
  unfold kvResolveEntryState at h
  grind

section Listing

variable (h : v.listing = s.listing)
include h

theorem directory_of_listing : v.core.directory = s.core.directory := by
  funext D
  have hentries : v.directoryEntries = s.directoryEntries := congrArg (·.directoryEntries) h
  simp only [core, hentries]

theorem record_of_listing : v.core.record = s.core.record :=
  congrArg kvBlockSlots.lookup (congrArg (·.blockEntries) h)

theorem block_of_listing (p : Nat) : (v.core.block p).key = (s.core.block p).key ∧
    (v.core.block p).state = (s.core.block p).state := by
  have hblock (u : KvState W) : ((u.core.block p).key, (u.core.block p).state) =
      u.listing.physicalBlocks.getD p ({}, .missing) :=
    (getD_map (l := u.physicalBlocks) (d := {}) (n := p)
      fun block : KvPhysicalBlock => (block.key, block.state)).symm
  have hpair := hblock v
  rw [h, ← hblock s] at hpair
  exact Prod.mk.inj hpair

theorem loadCallCount_of_listing : v.core.loadCallCount = s.core.loadCallCount :=
  congrArg (·.loadCallCount) h

theorem blockEntryCount_of_listing (hv : v.Tabled) (hs : s.Tabled) :
    v.blockEntryCount = s.blockEntryCount := by
  have hentries : v.blockEntries = s.blockEntries := congrArg (·.blockEntries) h
  rw [hv.blockCount, hs.blockCount, hentries]

end Listing

theorem Changed.listing_ne {wants : KvKey → KvKey → Prop}
    (h : KvCore.Changed wants s.core v.core) : v.listing ≠ s.listing := by
  intro hlisting
  rcases h with hload | ⟨D, k, -, hdir, hold⟩ | ⟨D, k, p, ⟨-, hstate⟩, -, hold⟩
  · exact absurd (loadCallCount_of_listing hlisting) hload.ne'
  · exact hold (directory_of_listing hlisting ▸ hdir)
  · exact hstate ((block_of_listing hlisting p).2.trans hold)

/-- Nothing that is listed has changed; some blocks were used. -/
structure Undisturbed (s : KvState W) (packet : WorkControlPacket) (used : List Nat)
    (v : KvState W) : Prop where
  listing : v.listing = s.listing
  isPinned : ∀ p, v.core.isPinned p = s.core.isPinned p
  available : ∀ p, v.core.Available p ↔ (s.kvStartEpoch packet).core.Available p ∧ p ∉ used

theorem inPlace_eq_some : s.inPlace packet laneIndex blk = some p ↔
    ∃ key e, s.core.directory (privateKey (packet.lane laneIndex).sequenceId blk) = some key ∧
      s.core.record key = some e ∧ e.residencyState = .gpu ∧
      (key = s.kvBlockKeyOf packet laneIndex blk ∨
        s.core.isPinned e.physicalBlockIndex) ∧
      kvResolveEntryState packet blk (laneBlockCount packet (packet.lane laneIndex))
        (s.core.block e.physicalBlockIndex).state =
          .ok (s.core.block e.physicalBlockIndex).state ∧
      e.physicalBlockIndex = p := by
  simp only [inPlace, Option.bind_eq_bind, Option.bind_eq_some_iff, Option.ite_none_right_eq_some,
    Option.some.injEq, and_assoc, exists_and_left]

theorem physicalBlock_kvTouch (hp : p < v.physicalBlockCapacity) :
    (v.kvTouch p).physicalBlock p = (v.physicalBlock p).usedAt v.epoch :=
  getD_set_self hp

section Block

variable (hu : s.Undisturbed packet used v)
include hu

theorem Undisturbed.use (hp : p < v.physicalBlockCapacity) (hkey : (v.core.block p).key ≠ {}) :
    s.Undisturbed packet (p :: used)
      ((v.kvTouch p).kvTabulate laneIndex blk p (v.core.block p).state) := by
  have hlt : p < (v.kvTouch p).physicalBlockCapacity := hp.trans_eq length_set.symm
  have hcore : ((v.kvTouch p).kvTabulate laneIndex blk p (v.core.block p).state).core =
      v.core.setBlock p ((v.core.block p).usedAt v.core.setting.epoch) := by
    rw [core_kvTabulate hlt, kvTouch, core_setPhysicalBlock hp, KvCore.block_setBlock, if_pos rfl]
    simp only [KvCore.setBlock, Function.update_idem]
    rfl
  refine ⟨Eq.trans ?_ hu.listing, fun q => ?_, fun q => ?_⟩
  · refine Eq.trans (listing_setPhysicalBlock (v := v.kvTouch p) rfl ?_)
      (listing_setPhysicalBlock rfl rfl)
    rw [physicalBlock_kvTouch hp]
    rfl
  · rw [hcore, ← hu.isPinned, KvCore.isPinned, KvCore.block_setBlock]
    split_ifs with hq
    · rw [hq]
      rfl
    · rfl
  · rw [hcore, mem_cons, not_or, and_left_comm, ← hu.available]
    by_cases hq : q = p
    · subst hq
      simp only [not_true, false_and, iff_false]
      rintro ⟨-, -, hempty | ⟨-, -, hepoch⟩⟩
      · rw [KvCore.block_setBlock, if_pos rfl] at hempty
        exact hkey hempty
      · rw [KvCore.block_setBlock, if_pos rfl] at hepoch
        exact hepoch rfl
    · rw [KvCore.Available, KvCore.isPinned, KvCore.block_setBlock, if_neg hq]
      exact (and_iff_right hq).symm

theorem kvBuildBlock_inPlace (hv : v.Owned)
    (hsetting : v.core.setting = (s.kvStartEpoch packet).core.setting)
    (hin : s.inPlace packet laneIndex blk = some p) :
    wp (kvBuildBlock packet laneIndex blk) (fun _ v' => s.Undisturbed packet (p :: used) v')
      (fun _ _ => False) v := by
  obtain ⟨key, e, hdir, hrec, hgpu, hkey, hstate, rfl⟩ := inPlace_eq_some.mp hin
  rw [← directory_of_listing hu.listing] at hdir
  rw [← record_of_listing hu.listing] at hrec
  rw [← hu.isPinned] at hkey
  rw [← (block_of_listing hu.listing _).2] at hstate
  obtain ⟨hlt, hblock, -⟩ := hv.sound.stored.onDevice hrec hgpu
  have hwanted : v.kvBlockKeyOf packet laneIndex blk = s.kvBlockKeyOf packet laneIndex blk :=
    kvBlockKeyOf_of_setting hsetting packet laneIndex blk
  rw [kvBuildBlock, wp_read, wp_bind, hwanted]
  refine wp_total (kvDirectoryAcquire_inPlace hdir hrec hgpu hkey) ?_
  rintro _ _ ⟨rfl, rfl⟩
  have htouched : ((v.kvTouch e.physicalBlockIndex).physicalBlock e.physicalBlockIndex).state =
      (v.core.block e.physicalBlockIndex).state := by
    rw [physicalBlock_kvTouch hlt]
    rfl
  rw [wp_read, htouched, hstate]
  exact hu.use hlt (hblock ▸ hv.sound.stored.key_ne hrec)

theorem kvBuildBlock_refused (hv : v.Owned)
    (hsetting : v.core.setting = (s.kvStartEpoch packet).core.setting)
    (hs : s.Owned) (houtline : v.outline = s.outline)
    (hrefused : s.RefusedOutright packet used laneIndex blk) :
    wp (kvBuildBlock packet laneIndex blk) (fun _ _ => False)
      (fun error v' => error = .capacityExceeded ∧ v'.listing = s.listing) v := by
  have hexhausted (h : s.Exhausted packet used) : ∀ p, ¬v.core.Available p := by
    intro p hp
    obtain ⟨hp, hfresh⟩ := (hu.available p).mp hp
    exact h p hp.1 hfresh hp
  have hwanted : v.kvBlockKeyOf packet laneIndex blk = s.kvBlockKeyOf packet laneIndex blk :=
    kvBlockKeyOf_of_setting hsetting packet laneIndex blk
  rw [kvBuildBlock, wp_read, wp_bind, hwanted]
  refine wp_mono (kvDirectoryAcquire_refused hv rfl ?_) (fun _ _ hf => hf.elim)
    fun _ _ hv' => ⟨hv'.1, hv'.2.trans hu.listing⟩
  rw [KvCore.namedRecord, directory_of_listing hu.listing, record_of_listing hu.listing,
    blockEntryLimit_of_outline houtline,
    blockEntryCount_of_listing hu.listing hv.kept.tabled hs.kept.tabled]
  simp only [hu.isPinned]
  exact hrefused.imp (And.imp id (And.imp id hexhausted))
    (And.imp id (And.imp id (And.imp id (Or.imp id hexhausted))))

theorem Undisturbed.starts {state : KvEntryState} (hin : s.inPlace packet laneIndex blk = none)
    (hdir : v.core.directory (privateKey (packet.lane laneIndex).sequenceId blk) = some k)
    (hrec : v.core.record k = some e) (hgpu : e.residencyState = .gpu)
    (hkey : k = s.kvBlockKeyOf packet laneIndex blk ∨
      v.core.isPinned e.physicalBlockIndex)
    (hstate : kvResolveEntryState packet blk (laneBlockCount packet (packet.lane laneIndex))
      (v.core.block e.physicalBlockIndex).state = .ok state) :
    (s.core.block e.physicalBlockIndex).state = .missing ∧ state = .inFlight := by
  rw [directory_of_listing hu.listing] at hdir
  rw [record_of_listing hu.listing] at hrec
  rw [hu.isPinned] at hkey
  rw [(block_of_listing hu.listing _).2] at hstate
  rcases kvResolveEntryState_ok hstate with rfl | hstarts
  · rw [inPlace_eq_some.mpr ⟨k, e, hdir, hrec, hgpu, hkey, hstate, rfl⟩] at hin
    cases hin
  · exact hstarts

theorem Builds.changed {wants : KvKey → KvKey → Prop} (hv : v.Owned)
    (hin : s.inPlace packet laneIndex blk = none)
    (hD : privateKey (packet.lane laneIndex).sequenceId blk = D)
    (hk : s.kvBlockKeyOf packet laneIndex blk = k)
    (hwants : wants D k) (hkey : ∀ k', wants D k' → k' = k)
    (hbuilds : v.Builds packet laneIndex blk D k s') :
    KvCore.Changed wants s.core s'.core := by
  obtain ⟨t, p, state, ht, -, ⟨c₁, c₂, c₃, hsweeps, hplaced, hsweeps', hresident⟩, hp, hstate,
    rfl⟩ := hbuilds
  have hdir := directory_of_listing hu.listing
  have hrecord := record_of_listing hu.listing
  have hfrom := hsweeps.sweptFrom
  have hfrom' := hsweeps'.sweptFrom
  rw [core_kvTabulate hp]
  rcases hplaced with ⟨rfl, k₀, e₀, hdir₀, hrec₀, hkey₀⟩ | hstep
  · have hall : v.core.Sweeps c₃ := hsweeps.trans hsweeps'
    obtain ⟨k₁, e, hdir₁, hrec₁, ⟨hgpu, rfl, hcore⟩ | ⟨-, -, hcore⟩⟩ := hresident
    · -- the block stays where it is, and is started
      obtain ⟨-, hblock, -⟩ := (hall.sound hv.sound).stored.onDevice hrec₁ hgpu
      have hne := (hall.sound hv.sound).stored.key_ne hrec₁
      have hsame : c₃.block e.physicalBlockIndex = v.core.block e.physicalBlockIndex := by
        refine (hall.sweptFrom.block _).resolve_right fun ⟨_, _, _, _, hcleared⟩ => hne ?_
        rw [← hblock, hcleared]
        rfl
      obtain ⟨e₁, hrec₂, -, he₁⟩ := hfrom'.exists_record hrec₁
      obtain rfl := he₁ hgpu
      obtain ⟨e₂, hrecv, -, he₂⟩ := hfrom.exists_record hrec₂
      obtain rfl := he₂ hgpu
      rw [← hfrom'.directory, hdir₁] at hdir₀
      obtain rfl := Option.some.inj hdir₀
      obtain rfl := Option.some.inj (hrec₂.symm.trans hrec₀)
      have hpinned : k₁ = k ∨ v.core.isPinned e.physicalBlockIndex = true :=
        hkey₀.imp_right fun hpin => (hfrom.isPinned _).symm.trans hpin.2
      have hstate' : (t.core.block e.physicalBlockIndex).state =
          (v.core.block e.physicalBlockIndex).state := by
        rw [hcore, KvCore.block_setBlock, if_pos rfl, hsame]
        rfl
      rw [hstate'] at hstate
      obtain ⟨hmissing, rfl⟩ := hu.starts hin (by rw [hD, ← hall.sweptFrom.directory, hdir₁])
        hrecv hgpu (hk ▸ hpinned) hstate
      rw [hcore]
      refine .inr (.inr ⟨D, k₁, e.physicalBlockIndex, ⟨?_, ?_⟩, ?_, hmissing⟩)
      · refine KvCore.heldAt_of_used hdir₁ hrec₁ hgpu ?_ (.inl ?_)
        · simpa [KvPhysicalBlock.withState, KvPhysicalBlock.usedAt, hblock] using hne
        · simp [KvPhysicalBlock.withState]
      · simp [KvPhysicalBlock.withState]
      · rcases hpinned with rfl | hpin
        · exact .inr hkey
        · refine .inl ⟨k₁, e, hdir₁, hrec₁, hgpu, ?_⟩
          rw [← hall.sweptFrom.isPinned, KvCore.isPinned] at hpin
          simpa [KvCore.isPinned, KvPhysicalBlock.withState, KvPhysicalBlock.usedAt] using hpin
    · -- a record that was swapped out is loaded
      have hle := hall.loadCallCount_le
      rw [loadCallCount_of_listing hu.listing] at hle
      rw [hcore]
      exact .inl ((Nat.lt_succ_of_le hle).trans_eq (countP_cons_of_pos rfl).symm)
  · -- the directory key has got the key that it wants
    obtain ⟨hnamed, hother⟩ := hstep.directory_of_place
    refine .inr (.inl ⟨D, k, hwants, ?_, ?_⟩)
    · obtain ⟨k₁, e, -, -, ⟨-, -, hcore⟩ | ⟨-, -, hcore⟩⟩ := hresident
      · rw [hcore, ← hnamed, ← hfrom'.directory]
        rfl
      · rw [hcore, ← hnamed, ← hfrom'.directory]
        rfl
    · rwa [← hdir, ← hfrom.directory]

theorem FailsToBuild.listing_ne (hv : v.Owned) (hs : s.Owned) (houtline : v.outline = s.outline)
    (hadmitted : s.kvAdmitStatus packet = .ok ()) (hhooks : ¬W.Fails .capacityExceeded)
    (hlane : laneIndex < packet.activeSequenceCount)
    (hblk : blk < laneBlockCount packet (packet.lane laneIndex))
    (hD : privateKey (packet.lane laneIndex).sequenceId blk = D)
    (hk : s.kvBlockKeyOf packet laneIndex blk = k)
    (hrefused : ¬s.RefusedOutright packet used laneIndex blk)
    (hfails : v.FailsToBuild packet laneIndex blk D k .capacityExceeded s') :
    s'.listing ≠ s.listing := by
  have hdir := directory_of_listing hu.listing
  have hrecord := record_of_listing hu.listing
  have hexhausted (hnone : ∀ p, ¬v.core.Available p) : s.Exhausted packet used :=
    fun p _ hfresh hp => hnone p ((hu.available p).mpr ⟨hp, hfresh⟩)
  subst hD hk
  rcases hfails with (⟨-, hunplaced⟩ | ⟨c₁, k₁, t, hsweeps, hplaced, hsweeps', hdirt, hstranded⟩) |
    ⟨p, -, hstate⟩
  · exfalso
    rcases hunplaced with ⟨hnone, -, hfull⟩ | ⟨hother, hfree, hsole, hrec, herror | herror |
      ⟨-, hfull⟩⟩
    · -- an admitted packet has an entry of the directory for the block
      have hle := directory_le_of_admitted hadmitted
      have hone : 0 < (packetBlocks packet).countP fun block =>
          (s.findDirectory (packet.lane block.1).sequenceId block.2).isNone := by
        refine countP_pos_iff.mpr ⟨_, mem_packetBlocks.mpr ⟨hlane, hblk⟩, ?_⟩
        cases hfind : s.findDirectory (packet.lane laneIndex).sequenceId blk with
        | none => rfl
        | some =>
          rw [hdir, directory_of_find hfind] at hnone
          cases hnone
      have hentries : v.directoryEntries = s.directoryEntries :=
        congrArg (·.directoryEntries) hu.listing
      rw [hv.kept.tabled.directoryCount, directoryCapacity, hentries,
        ← hs.kept.tabled.directoryCount] at hfull
      change _ ≤ s.directoryEntries.length / 2 at hle
      omega
    · cases herror
    · exact hhooks herror
    · refine hrefused (.inr ⟨hdir ▸ hother, hrecord ▸ hrec, fun e he => ?_, ?_⟩)
      · rw [KvCore.namedRecord, ← hdir, ← hrecord] at he
        refine ⟨hsole e he, fun hgpu => Bool.eq_false_iff.mpr fun hpin => hfree ?_⟩
        obtain ⟨k₀, hdir₀, hrec₀⟩ := Option.bind_eq_some_iff.mp he
        exact ⟨k₀, e, hdir₀, hrec₀, hgpu, (hu.isPinned _).trans hpin⟩
      · rw [blockEntryLimit_of_outline houtline,
          blockEntryCount_of_listing hu.listing hv.kept.tabled hs.kept.tabled] at hfull
        exact hfull.imp_right hexhausted
  · obtain ⟨⟨e, hrec, hout⟩, herror | herror | ⟨-, hnone⟩⟩ := hstranded
    · cases herror
    · exact absurd herror hhooks
    rcases hplaced with ⟨heq, k₀, e₀, hdir₀, hrec₀, hkey₀⟩ | hstep
    · -- nothing was placed, so the record was swapped out before
      refine absurd (.inl ⟨?_, ?_, hexhausted fun p hp => hnone p (heq ▸ hsweeps.available hp)⟩)
        hrefused
      all_goals
        rw [heq] at hdirt hrec
        obtain rfl := Option.some.inj (hdir₀.symm.trans hdirt)
        obtain rfl := Option.some.inj (hrec₀.symm.trans hrec)
        obtain rfl := hkey₀.resolve_right fun hpin => hout hpin.1
      · rw [← hdir, ← hsweeps.sweptFrom.directory, hdir₀]
      · rw [← hrecord]
        rcases hsweeps.sweptFrom.record _ with hsame | ⟨e₁, hrec₁, hgpu, hstate, hepoch, hpin,
          hswaps, -⟩
        · exact ⟨_, hsame.symm.trans hrec₀, hout⟩
        · refine absurd (hsweeps.available ⟨?_, hpin, .inr ⟨hswaps, hstate, hepoch⟩⟩)
            (heq ▸ hnone _)
          exact (hv.sound.stored.onDevice hrec₁ hgpu).1
    · -- the directory key was placed
      obtain ⟨hnamed, hother⟩ := hstep.directory_of_place
      intro hlisting
      rw [hsweeps.sweptFrom.directory, hdir] at hother
      rw [← hsweeps'.sweptFrom.directory, directory_of_listing hlisting] at hnamed
      exact hother hnamed
  · exact absurd (kvResolveEntryState_error hstate) (by decide)

end Block

/-! ### Whole builds -/

/-- The packet is not admitted, or its first block that is not in place is refused outright. -/
def RefusedBeforeChange (s : KvState W) (packet : WorkControlPacket)
    (config : WorkControlConfig) : Prop :=
  s.kvStateStatus packet config ≠ .ok () ∨ s.kvAdmitStatus packet ≠ .ok () ∨
    s.StopsAtFirstChange packet (packetBlocks packet) []

/-- No block of a packet is asked for under two keys. -/
def AsksUnambiguously (s : KvState W) (packet : WorkControlPacket) : Prop :=
  ∀ ⦃D k k'⦄, s.Wants packet D k → s.Wants packet D k' → k' = k

/-- Nothing that is listed has changed so far, or something has for good. -/
def Progress (s : KvState W) (packet : WorkControlPacket) (rest : List (Nat × Nat))
    (v : KvState W) : Prop :=
  (∃ used, s.Undisturbed packet used v ∧ (s.StopsAtFirstChange packet (packetBlocks packet) [] ↔
      s.StopsAtFirstChange packet rest used)) ∨
    ¬s.StopsAtFirstChange packet (packetBlocks packet) [] ∧
      (s.AsksUnambiguously packet → KvCore.Changed (s.Wants packet) s.core v.core)

section Build

variable {rest : List (Nat × Nat)} (hs : s.Owned) (hv : v.Owned)
  (houtline : v.outline = s.outline)
  (hsetting : v.core.setting = (s.kvStartEpoch packet).core.setting)
  (hlane : laneIndex < packet.activeSequenceCount)
  (hblk : blk < laneBlockCount packet (packet.lane laneIndex))
  (hprogress : s.Progress packet ((laneIndex, blk) :: rest) v)
include hs hv houtline hsetting hlane hblk hprogress

theorem Progress.builds
    (hbuilds : v.Builds packet laneIndex blk (privateKey (packet.lane laneIndex).sequenceId blk)
      (s.kvBlockKeyOf packet laneIndex blk) s')
    (hrun : kvBuildBlock packet laneIndex blk v = .ok () s') : s.Progress packet rest s' := by
  have hwants := s.wants_block hlane hblk
  rcases hprogress with ⟨used, hu, hstops⟩ | ⟨hstops, hchanged⟩
  · rw [StopsAtFirstChange] at hstops
    cases hin : s.inPlace packet laneIndex blk with
    | some p =>
      rw [hin] at hstops
      have hu' := wp_ok (kvBuildBlock_inPlace hu hv hsetting hin) hrun
      exact .inl ⟨p :: used, hu', hstops⟩
    | none =>
      rw [hin] at hstops
      refine .inr ⟨fun hstop => ?_, fun hone => hbuilds.changed hu hv hin rfl rfl hwants
        fun k' => hone hwants⟩
      exact wp_ok (kvBuildBlock_refused hu hv hsetting hs houtline (hstops.mp hstop)) hrun
  · exact .inr ⟨hstops, fun hone => hbuilds.turn.changed hv.sound (fun k' => hone hwants) hwants
      (hchanged hone)⟩

theorem Progress.refused (hadmitted : s.kvAdmitStatus packet = .ok ())
    (hhooks : ¬W.Fails .capacityExceeded)
    (hfails : v.FailsToBuild packet laneIndex blk
      (privateKey (packet.lane laneIndex).sequenceId blk) (s.kvBlockKeyOf packet laneIndex blk)
      .capacityExceeded s')
    (hrun : kvBuildBlock packet laneIndex blk v = .error .capacityExceeded s') :
    (s.StopsAtFirstChange packet (packetBlocks packet) [] → s'.listing = s.listing) ∧
      (s.AsksUnambiguously packet → s'.listing = s.listing →
        s.StopsAtFirstChange packet (packetBlocks packet) []) := by
  have hwants := s.wants_block hlane hblk
  rcases hprogress with ⟨used, hu, hstops⟩ | ⟨hstops, hchanged⟩
  · rw [hstops, StopsAtFirstChange]
    cases hin : s.inPlace packet laneIndex blk with
    | some p => exact (wp_error (kvBuildBlock_inPlace hu hv hsetting hin) hrun).elim
    | none =>
      refine ⟨fun hrefused => (wp_error (kvBuildBlock_refused hu hv hsetting hs houtline hrefused)
        hrun).2, fun _ hlisting => ?_⟩
      by_contra hrefused
      exact hfails.listing_ne hu hv hs houtline hadmitted hhooks hlane hblk rfl rfl hrefused
        hlisting
  · refine ⟨fun hstop => absurd hstop hstops, fun hone hlisting => ?_⟩
    have hstill : KvCore.Changed (s.Wants packet) s.core s'.core := by
      rcases hfails.turn with hsweeps | hturn
      · exact KvCore.changed_of_attending (D := privateKey (packet.lane laneIndex).sequenceId blk)
          hsweeps.attending hv.sound (hchanged hone)
      · exact hturn.changed hv.sound (fun k' => hone hwants) hwants (hchanged hone)
    exact absurd hlisting (Changed.listing_ne hstill)

end Build

theorem buildHostKvBlockTable_listing (h : s.Owned) (packet : WorkControlPacket)
    (config : WorkControlConfig) (hgeneration : packet.controlGeneration = s.controlGeneration)
    (hhooks : ¬W.Fails .capacityExceeded) :
    wp (buildHostKvBlockTable packet config) (fun _ _ => True)
      (fun error s' => error = .capacityExceeded →
        (s.RefusedBeforeChange packet config → s'.listing = s.listing) ∧
          (s.AsksUnambiguously packet → s'.listing = s.listing →
            s.RefusedBeforeChange packet config)) s := by
  have hsame {t : KvState W} (hselected : s.Selected packet t) : t = s :=
    hselected.elim And.right fun hnew => absurd hnew.1 (hgeneration ▸ Nat.lt_irrefl _)
  refine buildHostKvBlockTable_wp packet config ?refused ?unfit
    fun t hvalid hselected hadmitted => ?_
  case refused =>
    rintro error hrefused rfl
    refine ⟨fun _ => rfl, fun _ _ => .inl fun hok => ?_⟩
    rcases hrefused with hstatus | ⟨-, hother⟩ | ⟨-, hother⟩
    · rw [hok] at hstatus
      cases hstatus
    · cases hother
    · cases hother
  case unfit =>
    rintro error t hselected hunfit rfl
    obtain rfl := hsame hselected
    refine ⟨fun _ => rfl, fun _ _ => .inr (.inl fun hok => ?_)⟩
    rw [hok] at hunfit
    cases hunfit
  obtain rfl := hsame hselected
  have hready : t.RefusedBeforeChange packet config ↔
      t.StopsAtFirstChange packet (packetBlocks packet) [] := by
    simp [RefusedBeforeChange, kvStateStatus_eq_ok.mpr hvalid, hadmitted]
  have hcore := core_kvStartEpoch hvalid
  have hstart : t.Undisturbed packet [] (t.kvStartEpoch packet) :=
    ⟨rfl, fun p => by rw [hcore]; rfl, fun p => by simp⟩
  refine wp_post (kvBuildBlocks_wp h hvalid hadmitted (t.Progress packet)
    (.inl ⟨[], hstart, Iff.rfl⟩) ?counts ?builds ?fails) fun _ _ _ => trivial
  case counts =>
    rintro _ v counts hlength hprogress
    have hv : ({ v with lanePhysicalBlockCounts := counts } : KvState W).core = v.core :=
      core_tabulated rfl hlength
    refine hprogress.imp ?_ fun hchanged => hv.symm ▸ hchanged
    rintro ⟨used, ⟨hlisting, hpinned, havailable⟩, hstops⟩
    exact ⟨used, ⟨hlisting, hv.symm ▸ hpinned, hv.symm ▸ havailable⟩, hstops⟩
  case builds =>
    intro _ v s' laneIndex blk hlane hblk hv hsetting hprogress hbuilds hrun _ _
    exact hprogress.builds h hv (outline_of_kvStartEpoch hvalid hsetting) hsetting hlane hblk
      hbuilds hrun
  case fails =>
    rintro _ v s' error laneIndex blk hlane hblk hv hsetting hprogress hfails hrun - rfl
    rw [hready]
    exact hprogress.refused h hv (outline_of_kvStartEpoch hvalid hsetting) hsetting hlane hblk
      hadmitted hhooks hfails hrun

end KvState

theorem not_fails_steadyHooks (error : WorkControlError) : ¬steadyHooks.Fails error := by
  rintro ⟨k, p, b, t, t', h | h⟩ <;> cases h

/-- In a reachable state, a packet of the current generation that is refused for lack of capacity
leaves the tables, the keys and states of the blocks, the free backing slots and the calls of the
hooks as they were, if it is refused before anything has changed; and only then, where it asks for
no block under two keys. -/
theorem capacity_refusal_keeps_listing {W : SwapHooks} {laneCapacity laneStride blockTokenCount
    physicalBlockCapacity directoryCapacity blockEntryCapacity : UInt32} {s₀ : KvState W}
    (hnew : KvState.new laneCapacity laneStride blockTokenCount physicalBlockCapacity
      directoryCapacity blockEntryCapacity = .ok s₀) (ops : List (KvOp W))
    (packet : WorkControlPacket) (config : WorkControlConfig)
    (hhooks : ¬W.Fails .capacityExceeded) :
    let s := runAll KvOp.exec s₀ ops
    packet.controlGeneration = s.controlGeneration →
    ∀ s', KvState.buildHostKvBlockTable packet config s = .error .capacityExceeded s' →
      (s.RefusedBeforeChange packet config → s'.listing = s.listing) ∧
        (s.AsksUnambiguously packet → s'.listing = s.listing →
          s.RefusedBeforeChange packet config) := by
  intro s hgeneration s' hbuild
  have hs : s.Owned := KvOp.run_owned (owned_of_new hnew) ops
  exact wp_error (KvState.buildHostKvBlockTable_listing hs packet config hgeneration hhooks)
    hbuild rfl

/-- The first block of another sequence is entered before the second one is refused. -/
theorem capacity_refusal_changes_directory : ∃ s₀ : KvState steadyHooks,
    KvState.new 16 4 4 2 16 16 = .ok s₀ ∧ ∃ ops : List (KvOp steadyHooks),
    let s := runAll KvOp.exec s₀ ops
    let packet := smallPacket true 8 [smallLane 2 0 8]
    packet.controlGeneration = s.controlGeneration ∧
      ∃ s', KvState.buildHostKvBlockTable packet smallConfig s = .error .capacityExceeded s' ∧
        s'.directoryEntryCount = 2 ∧ s.directoryEntryCount = 1 :=
  ⟨_, rfl, [.buildHostKvBlockTable (smallPacket true 4 [smallLane 1 0 4]) smallConfig],
    by decide +kernel, _, eq_error_of_errorOf (by decide +kernel), by decide +kernel,
    by decide +kernel⟩

/-- Two sequences have computed a block each, on a device of two blocks. -/
def crowdedState : KvState steadyHooks :=
  let first := smallPacket true 4 [smallLane 1 0 4]
  let second := smallPacket true 4 [smallLane 2 0 4]
  runAll KvOp.exec smallState [.buildHostKvBlockTable first smallConfig,
    .commitHostKvBlockTable first smallConfig, .buildHostKvBlockTable second smallConfig,
    .commitHostKvBlockTable second smallConfig]

/-- A decode finds its first block in place and is refused the second one, with nothing changed. -/
theorem capacity_refusal_keeps_listing_crowded :
    let packet := smallPacket false 1 [smallLane 1 4 5]
    crowdedState.kvAdmitStatus packet = .ok () ∧
      crowdedState.inPlace packet 0 0 = some 0 ∧ crowdedState.RefusedOutright packet [0] 0 1 ∧
      ∃ s', KvState.buildHostKvBlockTable packet smallConfig crowdedState =
        .error .capacityExceeded s' ∧ s'.listing = crowdedState.listing := by
  have hbuild := eq_error_of_errorOf (r := KvState.buildHostKvBlockTable
    (smallPacket false 1 [smallLane 1 4 5]) smallConfig crowdedState)
    (e := .capacityExceeded) (by decide +kernel)
  exact ⟨by decide +kernel, by decide +kernel, by decide +kernel, _, hbuild,
    (capacity_refusal_keeps_listing new_smallState _ _ _ (not_fails_steadyHooks _)
      (by decide +kernel) _ hbuild).1 (.inr (.inr (by decide +kernel)))⟩

end SparkPipe
