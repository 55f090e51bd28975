import SparkPipe.Program.Frame
import SparkPipe.Sched.WorkControl.KvCore
import SparkPipe.Sched.WorkControl.KvTable

/-!
# Ownership in the KV state

The tables, counters and free lists of the KV state represent the maps of `KvCore`. Every step of
an operation either leaves those maps alone or makes one of their events, on success as well as on
every failure.
-/

open Program

namespace SparkPipe

open Function

theorem KvKey.isEmpty_iff {key : KvKey} : key.isEmpty ↔ key = {} := by
  cases key
  simp [isEmpty]

/-- An error that a hook may answer. -/
def SwapHooks.Fails (W : SwapHooks) (error : WorkControlError) : Prop :=
  ∃ k p b t t', W.store k p b t = .error error t' ∨ W.load k p b t = .error error t'

/-! ### Backing slots -/

/-- Every record has a backing slot of its own, the others but a spare one are linked. -/
structure Backed (slotOf : KvKey → Option Nat) (spare : Option Nat) (next : List Nat)
    (head : Nat) : Prop where
  absent : next = [] → spare = none ∧ ∀ {k b}, slotOf k = some b → b = kvInvalidBlockIndex
  used : next ≠ [] → ∀ {k b}, slotOf k = some b →
    b < next.length ∧ next.getD b 0 = kvInvalidBlockIndex ∧ spare ≠ some b
  once : next ≠ [] → ∀ {k k' b}, slotOf k = some b → slotOf k' = some b → k = k'
  spared : ∀ {b}, spare = some b → b < next.length ∧ next.getD b 0 = kvInvalidBlockIndex
  free : next ≠ [] → FreeList (fun b => next.getD b kvInvalidBlockIndex) kvInvalidBlockIndex head
    fun b => b < next.length ∧ spare ≠ some b ∧ ∀ k, slotOf k ≠ some b

namespace Backed

variable {slotOf : KvKey → Option Nat} {next : List Nat} {head b : Nat}
  {k k₀ : KvKey}

theorem reserve (h : Backed slotOf none next head) (hlt : head < next.length)
    (hbound : next.length ≤ kvInvalidBlockIndex) :
    Backed slotOf (some head) (next.set head kvInvalidBlockIndex)
      (next.getD head kvInvalidBlockIndex) := by
  have hne : next ≠ [] := List.ne_nil_of_length_pos (Nat.zero_lt_of_lt hlt)
  have hfree := h.free hne
  have hhead := hfree.head_free (by omega)
  constructor
  · intro hnil
    simp [hne] at hnil
  · intro _ k b hslot
    obtain ⟨hb, hnext, -⟩ := h.used hne hslot
    have hbh : head ≠ b := fun heq => hhead.2.2 k (heq ▸ hslot)
    rw [List.length_set, getD_set, if_neg fun hc => hbh hc.1]
    exact ⟨hb, hnext, by simpa using hbh⟩
  · exact fun _ => h.once hne
  · rintro b ⟨⟩
    rw [List.length_set, getD_set, if_pos ⟨rfl, hlt⟩]
    exact ⟨hlt, rfl⟩
  intro _
  refine hfree.pop (by omega) (fun b hb hne => ?_) fun b => ?_
  · rw [getD_set, if_neg fun hc => hne hc.1.symm]
  · rw [List.length_set]
    simp only [ne_eq, Option.some.injEq, reduceCtorEq, not_false_eq_true, true_and]
    constructor
    · rintro ⟨h1, h2, h3⟩
      exact ⟨⟨h1, h3⟩, fun heq => h2 heq.symm⟩
    · rintro ⟨⟨h1, h3⟩, h2⟩
      exact ⟨h1, fun heq => h2 heq.symm, h3⟩

theorem putBack (h : Backed slotOf (some b) next head)
    (hbound : next.length ≤ kvInvalidBlockIndex) : Backed slotOf none (next.set b head) b := by
  obtain ⟨hlt, hnext⟩ := h.spared rfl
  have hne : next ≠ [] := List.ne_nil_of_length_pos (Nat.zero_lt_of_lt hlt)
  have hfree := h.free hne
  constructor
  · intro hnil
    simp [hne] at hnil
  · intro _ k b' hslot
    obtain ⟨hb, hnext, hspare⟩ := h.used hne hslot
    have hbb : b ≠ b' := fun heq => hspare (heq ▸ rfl)
    rw [List.length_set, getD_set, if_neg fun hc => hbb hc.1]
    exact ⟨hb, hnext, by simp⟩
  · exact fun _ => h.once hne
  · rintro b ⟨⟩
  intro _
  refine hfree.push (fun hb => hb.2.1 rfl) (by omega) ?_ (fun j hj => ?_) fun j => ?_
  · rw [getD_set, if_pos ⟨rfl, hlt⟩]
  · rw [getD_set, if_neg]
    rintro ⟨rfl, -⟩
    exact hj.2.1 rfl
  rw [List.length_set]
  constructor
  · rintro ⟨h1, -, h3⟩
    by_cases hj : j = b
    · exact .inl hj
    · exact .inr ⟨h1, by simpa using Ne.symm hj, h3⟩
  · rintro (rfl | ⟨h1, -, h3⟩)
    · exact ⟨hlt, by simp, fun k hslot => (h.used hne hslot).2.2 rfl⟩
    · exact ⟨h1, by simp, h3⟩

theorem assign (h : Backed slotOf (some b) next head) (hslot : slotOf k = none) :
    Backed (update slotOf k (some b)) none next head := by
  obtain ⟨hlt, hnext⟩ := h.spared rfl
  have hne : next ≠ [] := List.ne_nil_of_length_pos (Nat.zero_lt_of_lt hlt)
  obtain ⟨habsent, hused, honce, hspared, hfree⟩ := h
  constructor
  · exact fun hnil => absurd hnil hne
  · grind [update_apply]
  · grind [update_apply]
  · rintro b ⟨⟩
  · intro _
    refine (hfree hne).congr (fun _ _ => rfl) fun j => ?_
    simp only [update_apply]
    grind

theorem unassign (h : Backed slotOf none next head) (hslot : slotOf k = some b) (hne : next ≠ []) :
    Backed (update slotOf k none) (some b) next head := by
  obtain ⟨habsent, hused, honce, hspared, hfree⟩ := h
  constructor
  · exact fun hnil => absurd hnil hne
  · grind [update_apply]
  · grind [update_apply]
  · grind
  · intro _
    refine (hfree hne).congr (fun _ _ => rfl) fun j => ?_
    simp only [update_apply]
    grind

theorem update_absent (h : Backed slotOf none next head) (hnil : next = []) {v : Option Nat}
    (hv : v = none ∨ v = some kvInvalidBlockIndex) :
    Backed (update slotOf k v) none next head := by
  have habsent := @(h.absent hnil).2
  refine ⟨fun _ => ⟨rfl, ?_⟩, fun hne => absurd hnil hne, fun hne => absurd hnil hne, by simp,
    fun hne => absurd hnil hne⟩
  grind [update_apply]

theorem rekey (h : Backed slotOf none next head) (hslot₀ : slotOf k₀ = some b)
    (hslot : slotOf k = none) :
    Backed (update (update slotOf k₀ none) k (some b)) none next head := by
  by_cases hne : next = []
  · obtain rfl := (h.absent hne).2 hslot₀
    exact (h.update_absent hne (.inl rfl)).update_absent hne (.inr rfl)
  · have hspare := h.unassign hslot₀ hne
    refine hspare.assign ?_
    grind [update_apply]

end Backed

namespace KvState

open WorkControl

variable {W : SwapHooks} {s s' : KvState W} {k D : KvKey} {slot p : Nat} {e e' : KvBlockEntry}
  {spare : Option Nat} {l : List KvBlockEntry} {b : KvPhysicalBlock}

/-! ### Representation -/

/-- The sizes of the state and its generation. -/
def outline (s : KvState W) : KvOutline where
  laneCapacity := s.laneCapacity
  laneStride := s.laneStride
  blockTokenCount := s.blockTokenCount
  tableEntryCapacity := s.tableEntryCapacity
  physicalBlockCapacity := s.physicalBlockCapacity
  directoryCapacity := s.directoryCapacity
  blockEntryCapacity := s.blockEntryCapacity
  backingBlockCapacity := s.backingBlockCapacity
  controlGeneration := s.controlGeneration

/-- The maps that a state represents. -/
def core (s : KvState W) : KvCore where
  directory D := (kvDirectorySlots.lookup s.directoryEntries D).map KvDirectoryEntry.blockKey
  record := kvBlockSlots.lookup s.blockEntries
  block := s.physicalBlock
  setting := {
    capacity := s.physicalBlockCapacity
    epoch := s.epoch
    hasPins := s.hasPins
    swaps := s.backingBlockCapacity ≠ 0
    outline := s.outline
    sharing := (s.laneBlockKeys, s.laneBlockKeyStride) }
  allocated := s.allocatedPhysicalBlockCount
  swapped := s.swappedBlockCount
  log := s.swapLog

/-- The backing slot of a record. -/
def slotOf (s : KvState W) (k : KvKey) : Option Nat :=
  (s.core.record k).map KvBlockEntry.backingBlockIndex

/-- The tables with their counters, and the bounds on all indices. -/
structure Tabled (s : KvState W) : Prop where
  directory : kvDirectorySlots.HalfFull s.directoryEntries
  blocks : kvBlockSlots.HalfFull s.blockEntries
  directoryCount : s.directoryEntryCount = kvDirectorySlots.size s.directoryEntries
  blockCount : s.blockEntryCount = kvBlockSlots.size s.blockEntries
  next_lt : s.nextPhysicalBlockIndex < s.physicalBlockCapacity
  physical_le : s.physicalBlockCapacity ≤ (2 ^ 32 - 1) / 2
  directory_lt : s.directoryCapacity < 2 ^ 32
  backing_le : s.backingBlockCapacity ≤ kvInvalidBlockIndex
  hooks : s.backingBlockCapacity = 0 ↔ s.swapHooks = none
  within : s.blockEntryCount ≤ s.blockEntryLimit

/-- The tables and the backing slots, one of which may be spare. -/
structure Kept (spare : Option Nat) (s : KvState W) : Prop where
  tabled : s.Tabled
  backed : Backed s.slotOf spare s.backingBlockFreeNext s.freeBackingBlockHead

/-- The state represents consistent maps. -/
structure Owned (s : KvState W) : Prop where
  kept : s.Kept none
  sound : s.core.Sound

/-- What the tables consist of. -/
def tables (s : KvState W) :=
  (s.directoryEntries, s.blockEntries, s.directoryEntryCount, s.blockEntryCount,
    s.nextPhysicalBlockIndex, s.physicalBlockCapacity, s.backingBlockFreeNext,
    s.freeBackingBlockHead, s.swapHooks)

theorem Tabled.congr (h : s.Tabled) (heq : s'.tables = s.tables) : s'.Tabled := by
  simp only [tables, Prod.mk.injEq] at heq
  obtain ⟨h1, h2, h3, h4, h5, h6, h7, h8, h9, h10⟩ := h
  constructor <;> simp_all [directoryCapacity, backingBlockCapacity, blockEntryLimit]

theorem Kept.congr (h : s.Kept spare) (heq : s'.tables = s.tables) : s'.Kept spare := by
  refine ⟨h.tabled.congr heq, ?_⟩
  simp only [tables, Prod.mk.injEq] at heq
  have hslot : s'.slotOf = s.slotOf := by
    funext k
    simp only [slotOf, core, heq.2.1]
  rw [hslot, heq.2.2.2.2.2.2.1, heq.2.2.2.2.2.2.2.1]
  exact h.backed

/-! ### Counting -/

theorem Tabled.tally_directory (h : s.Tabled) :
    Tally (fun D => s.core.directory D ≠ none) s.directoryEntryCount := by
  rw [h.directoryCount]
  refine (Slots.tally_size h.directory.reachable).congr fun D => ?_
  rw [core, Ne, Option.map_eq_none_iff]

theorem Tabled.tally_record (h : s.Tabled) :
    Tally (fun k => s.core.record k ≠ none) s.blockEntryCount := by
  rw [h.blockCount]
  exact Slots.tally_size h.blocks.reachable

/-! ### Finding records -/

theorem record_of_findBlock (h : s.findBlock k = some slot) :
    s.core.record k = some (s.blockEntry slot) := Slots.lookup_of_find h

theorem findBlock_eq_none_iff : s.findBlock k = none ↔ s.core.record k = none :=
  Slots.lookup_eq_none_iff.symm

theorem findBlock_of_record (h : s.core.record k = some e) :
    ∃ slot, s.findBlock k = some slot ∧ s.blockEntry slot = e := by
  cases hfind : s.findBlock k with
  | none => rw [findBlock_eq_none_iff.mp hfind] at h; cases h
  | some slot => exact ⟨slot, rfl, Option.some.inj ((record_of_findBlock hfind).symm.trans h)⟩

theorem key_of_find (hfind : s.findBlock k = some slot) :
    (s.blockEntry slot).key = k := (Slots.answers_of_find hfind).2.1

/-! ### Writing records and blocks -/

theorem core_recorded {n : Nat} {f : KvKey → Option KvBlockEntry}
    (hlength : l.length = s.blockEntries.length) (hlookup : kvBlockSlots.lookup l = f) :
    ({ s with blockEntries := l, blockEntryCount := n } : KvState W).core =
      { s.core with record := f } := by
  simp only [core, outline, blockEntryCapacity, hlength, hlookup]
  rfl

theorem core_setBlockEntry (h : s.Tabled) (hfind : s.findBlock k = some slot)
    (hkey : e'.key = k) : (s.setBlockEntry slot e').core = s.core.setRecord k (some e') :=
  core_recorded List.length_set (h.blocks.rewrite hfind hkey).2.2

theorem Tabled.recorded {n : Nat} (h : s.Tabled)
    (hfull : kvBlockSlots.HalfFull l) (hsize : n = kvBlockSlots.size l)
    (hlimit : n ≤ s.blockEntryLimit) :
    ({ s with blockEntries := l, blockEntryCount := n } : KvState W).Tabled :=
  { h with blocks := hfull, blockCount := hsize, within := hlimit }

theorem Tabled.setBlockEntry (h : s.Tabled) (hfind : s.findBlock k = some slot)
    (hkey : e'.key = k) : (s.setBlockEntry slot e').Tabled := by
  obtain ⟨hfull, hsize, -⟩ := h.blocks.rewrite hfind hkey
  exact h.recorded hfull (h.blockCount.trans hsize.symm) h.within

theorem Kept.setBlockEntry (h : s.Kept spare) (hfind : s.findBlock k = some slot)
    (hkey : e'.key = k) (hbacking : e'.backingBlockIndex = (s.blockEntry slot).backingBlockIndex) :
    (s.setBlockEntry slot e').Kept spare := by
  refine ⟨h.tabled.setBlockEntry hfind hkey, ?_⟩
  have hslot : (s.setBlockEntry slot e').slotOf = s.slotOf := by
    funext k'
    rw [slotOf, slotOf, core_setBlockEntry h.tabled hfind hkey, KvCore.record_setRecord]
    by_cases hk : k' = k
    · rw [if_pos hk, hk, record_of_findBlock hfind, Option.map_some, Option.map_some, hbacking]
    · rw [if_neg hk]
  rw [hslot]
  exact h.backed

theorem core_setPhysicalBlock {block : KvPhysicalBlock} (hp : p < s.physicalBlockCapacity) :
    (s.setPhysicalBlock p block).core = s.core.setBlock p block := by
  have hblock : (s.setPhysicalBlock p block).physicalBlock =
      update s.physicalBlock p block := by
    funext q
    rw [update_apply]
    exact (getD_set ..).trans (if_congr ((and_iff_left hp).trans eq_comm) rfl rfl)
  have hcapacity : (s.setPhysicalBlock p block).physicalBlockCapacity =
      s.physicalBlockCapacity := List.length_set
  simp only [core, outline, KvCore.setBlock, hblock, hcapacity]
  rfl

theorem Tabled.setPhysicalBlock (h : s.Tabled) : (s.setPhysicalBlock p b).Tabled := by
  have hcapacity : (s.setPhysicalBlock p b).physicalBlockCapacity =
      s.physicalBlockCapacity := List.length_set
  have hlimit : (s.setPhysicalBlock p b).blockEntryLimit = s.blockEntryLimit := by
    rw [blockEntryLimit, hcapacity]
    rfl
  exact { h with
    next_lt := hcapacity ▸ h.next_lt
    physical_le := hcapacity ▸ h.physical_le
    within := hlimit ▸ h.within }

theorem Kept.setPhysicalBlock (h : s.Kept spare) :
    (s.setPhysicalBlock p b).Kept spare := ⟨h.tabled.setPhysicalBlock, h.backed⟩

/-! ### Taking physical blocks -/

/-- The state after a call of a hook. -/
def hooked (s : KvState W) (t : W.Store) (event : SwapEvent) : KvState W :=
  { s with swapHooks := some t, swapLog := event :: s.swapLog }

theorem Kept.hooked (h : s.Kept spare) (hhooks : s.swapHooks ≠ none) (t : W.Store)
    (event : SwapEvent) : (s.hooked t event).Kept spare :=
  ⟨{ h.tabled with
    hooks := iff_of_false (fun hzero => hhooks (h.tabled.hooks.mp hzero)) nofun }, h.backed⟩

theorem callHook_wp (call : EStateM WorkControlError W.Store Unit) (event : Bool → SwapEvent) :
    wp (callHook call event) (fun _ s' => s.swapHooks ≠ none ∧ ∃ t, s' = s.hooked t (event true))
      (fun error s' => error = .internalError ∧ s' = s ∨
        s.swapHooks ≠ none ∧ (∃ t t', call t = .error error t') ∧
          ∃ t, s' = s.hooked t (event false)) s := by
  unfold wp callHook
  cases s.swapHooks with
  | none => exact .inl ⟨rfl, rfl⟩
  | some store =>
    have hsome : some store ≠ none := fun hnone => by cases hnone
    dsimp only
    cases hcall : call store with
    | ok _ t => exact ⟨hsome, t, rfl⟩
    | error _ t => exact .inr ⟨hsome, ⟨store, t, hcall⟩, t, rfl⟩

theorem findBlock_setBlockEntry (hkey : e'.key = (s.blockEntry slot).key) (k : KvKey) :
    (s.setBlockEntry slot e').findBlock k = s.findBlock k := by
  have hprobe : kvBlockSlots.probe (s.blockEntries.set slot e') k =
      kvBlockSlots.probe s.blockEntries k := Slots.probe_set hkey
  simp only [findBlock, Slots.find, setBlockEntry, hprobe]

theorem blockEntry_setBlockEntry (hfind : s.findBlock k = some slot) :
    (s.setBlockEntry slot e').blockEntry slot = e' := by
  obtain ⟨hlt, -, -⟩ := Slots.answers_of_find hfind
  exact (Slots.entry_set hlt).trans (if_pos rfl)

theorem Kept.kvEvict (h : s.Kept spare) (hfind : s.findBlock k = some slot) :
    (s.kvEvict slot p).Kept spare :=
  ((h.setBlockEntry hfind (show (s.blockEntry slot).spilled.key = k from key_of_find hfind)
    rfl).setPhysicalBlock
    (b := ((s.setBlockEntry slot (s.blockEntry slot).spilled).physicalBlock p).cleared)).congr rfl

theorem core_kvEvict (h : s.Tabled) (hfind : s.findBlock k = some slot)
    (hp : p < s.physicalBlockCapacity) :
    (s.kvEvict slot p).core =
      { (s.core.setRecord k (some (s.blockEntry slot).spilled)).setBlock p
          (s.core.block p).cleared with
        allocated := s.core.allocated - 1
        swapped := s.core.swapped + 1
        log := .spill k p (s.blockEntry slot).backingBlockIndex :: s.core.log } := by
  have hkey : (s.blockEntry slot).spilled.key = k := key_of_find hfind
  rw [← core_setBlockEntry h hfind hkey, ← core_setPhysicalBlock (by exact hp), ← hkey]
  rfl

theorem kvSpillBlock_wp (h : s.Kept spare) (hstored : s.core.Stored)
    (hfind : s.findBlock k = some slot) (hgpu : (s.blockEntry slot).residencyState = .gpu)
    (hphys : (s.blockEntry slot).physicalBlockIndex = p) :
    wp (kvSpillBlock slot p)
      (fun _ s' => s'.Kept spare ∧ s'.core = s.core.spill k (s.blockEntry slot))
      (fun error s' => s'.Kept spare ∧
        (error = .internalError ∧ s'.core = s.core ∨ W.Fails error ∧ s'.core =
          s.core.note (.store k p (s.blockEntry slot).backingBlockIndex false))) s := by
  have hkey := key_of_find hfind
  obtain ⟨hlt, -, -⟩ := hstored.onDevice (record_of_findBlock hfind) hgpu
  rw [hphys] at hlt
  rw [kvSpillBlock, wp_read]
  by_cases hvalid : (s.blockEntry slot).backingValid = true
  · simp only [hvalid, if_true, wp_modify]
    refine ⟨h.kvEvict hfind, (core_kvEvict h.tabled hfind hlt).trans ?_⟩
    have hsame : (s.blockEntry slot).withBacking true = s.blockEntry slot := by
      rw [KvBlockEntry.withBacking, ← hvalid]
    rw [KvCore.spill, hphys, hsame, hvalid]
    rfl
  simp only [hvalid, Bool.false_eq_true, if_false, wp_bind, wp_modify]
  refine wp_mono (callHook_wp _ _) ?_ ?_
  · rintro _ _ ⟨hhooks, t, rfl⟩
    set u := s.hooked t (.store (s.blockEntry slot).key p
      (s.blockEntry slot).backingBlockIndex true) with hu
    have hkept : u.Kept spare := h.hooked hhooks _ _
    have hfindu : u.findBlock k = some slot := hfind
    set w := u.setBlockEntry slot ((u.blockEntry slot).withBacking true)
    have hkeptw : w.Kept spare := hkept.setBlockEntry hfindu hkey rfl
    have hsame : ((u.blockEntry slot).withBacking true).key = (u.blockEntry slot).key := rfl
    have hfindw : w.findBlock k = some slot := (findBlock_setBlockEntry hsame k).trans hfindu
    have hentry : w.blockEntry slot = (s.blockEntry slot).withBacking true :=
      blockEntry_setBlockEntry hfindu
    have hcorew : w.core = u.core.setRecord k (some ((s.blockEntry slot).withBacking true)) :=
      core_setBlockEntry hkept.tabled hfindu hkey
    refine ⟨hkeptw.kvEvict hfindw, (core_kvEvict hkeptw.tabled hfindw hlt).trans ?_⟩
    rw [hentry, hcorew, KvCore.setRecord_setRecord, KvCore.spill, hphys,
      Bool.eq_false_iff.mpr hvalid, ← hkey]
    rfl
  · rintro error _ (⟨rfl, rfl⟩ | ⟨hhooks, ⟨t, t', hcall⟩, t'', rfl⟩)
    · exact ⟨h, .inl ⟨rfl, rfl⟩⟩
    · refine ⟨h.hooked hhooks _ _, .inr ⟨⟨_, _, _, _, _, .inl hcall⟩, ?_⟩⟩
      rw [hkey]
      rfl

theorem Kept.kvMoveHand (h : s.Kept spare) : s.kvMoveHand.Kept spare :=
  ⟨{ h.tabled with next_lt := Nat.mod_lt _ (Nat.zero_lt_of_lt h.tabled.next_lt) }, h.backed⟩

/-- The error is of a hook, or no block that was seen may be taken. -/
def Refuses (rounds : Nat) (s : KvState W) (error : WorkControlError) : Prop :=
  error = .internalError ∨ W.Fails error ∨ error = .capacityExceeded ∧
    ∀ j < rounds, ¬s.core.Available ((s.nextPhysicalBlockIndex + j) % s.physicalBlockCapacity)

theorem Refuses.succ {rounds : Nat} {error : WorkControlError}
    (h : s.kvMoveHand.Refuses rounds error) (hp : ¬s.core.Available s.nextPhysicalBlockIndex)
    (hlt : s.nextPhysicalBlockIndex < s.physicalBlockCapacity) : s.Refuses (rounds + 1) error := by
  refine h.imp id (Or.imp id ?_)
  rintro ⟨rfl, hnone⟩
  refine ⟨rfl, fun j hj => ?_⟩
  cases j with
  | zero => rwa [Nat.add_zero, Nat.mod_eq_of_lt hlt]
  | succ j =>
    have hstep : ¬s.core.Available (((s.nextPhysicalBlockIndex + 1) % s.physicalBlockCapacity +
      j) % s.physicalBlockCapacity) := hnone j (by omega)
    rwa [Nat.mod_add_mod, Nat.add_right_comm, Nat.add_assoc] at hstep

theorem kvAcquireLoop_wp (rounds : Nat) (h : s.Kept spare) (hsound : s.core.Sound) :
    wp (kvAcquireLoop rounds) (fun p s' => s'.Kept spare ∧ s.core.Sweeps s'.core ∧ s'.core.IsFree p)
      (fun error s' => s'.Kept spare ∧ s.core.Sweeps s'.core ∧ s.Refuses rounds error) s := by
  induction rounds generalizing s with
  | zero =>
    rw [kvAcquireLoop, wp_throw]
    exact ⟨h, .refl _, .inr (.inr ⟨rfl, fun j hj => absurd hj (Nat.not_lt_zero j)⟩)⟩
  | succ rounds ih =>
    have hlt := h.tabled.next_lt
    -- the remaining rounds start one block further
    have hrest hskip : wp (kvAcquireLoop rounds)
          (fun p s' => s'.Kept spare ∧ s.core.Sweeps s'.core ∧ s'.core.IsFree p)
          (fun error s' => s'.Kept spare ∧ s.core.Sweeps s'.core ∧
            s.Refuses (rounds + 1) error) s.kvMoveHand :=
      wp_mono (ih h.kvMoveHand hsound) (fun _ _ h => h)
        fun _ _ ⟨hkept, hsweeps, herror⟩ => ⟨hkept, hsweeps, herror.succ hskip hlt⟩
    rw [kvAcquireLoop, wp_read]
    simp only [wp_bind, wp_set, wp_ite, wp_pure, wp_orFail]
    refine ⟨fun hpin => hrest ?_, fun hpin => ⟨fun hempty => ?_, fun hempty =>
      ⟨fun hkeep => hrest ?_, fun hspill => ⟨fun slot hfind => ?_, fun hnone => ?_⟩⟩⟩⟩
    · rintro ⟨-, hpin', -⟩
      exact absurd (hpin.symm.trans hpin') Bool.noConfusion
    · exact ⟨h.kvMoveHand, Evolves.refl _, hlt, KvKey.isEmpty_iff.mp hempty,
        Bool.eq_false_iff.mpr hpin⟩
    · rintro ⟨-, -, hempty' | ⟨hswaps, hstate, hepoch⟩⟩
      · exact hempty (KvKey.isEmpty_iff.mpr hempty')
      · rcases hkeep with hzero | hkeep | hkeep
        · exact (of_decide_eq_true hswaps) hzero
        · exact hkeep hstate
        · exact hepoch hkeep
    · obtain ⟨hswaps, hstate, hepoch⟩ := not_or.mp hspill |>.imp id not_or.mp
      have hstate := not_not.mp hstate
      obtain ⟨e, hrec, hgpu, hphys⟩ := hsound.stored.owner
        (fun hkey => hempty (KvKey.isEmpty_iff.mpr hkey))
        (show (s.core.block s.nextPhysicalBlockIndex).state ≠ .transient from
          ne_of_eq_of_ne hstate (by decide))
      have hentry : s.kvMoveHand.blockEntry slot = e :=
        Option.some.inj ((record_of_findBlock hfind).symm.trans hrec)
      refine wp_mono (kvSpillBlock_wp h.kvMoveHand hsound.stored hfind
        (hentry ▸ hgpu) (hentry ▸ hphys)) ?_ ?_
      · rintro _ s' ⟨hkept, hcore⟩
        rw [hentry] at hcore
        refine ⟨hkept, ?_, ?_⟩
        · rw [hcore]
          exact .single (.spill hrec hgpu (hphys ▸ hstate)
            (hphys ▸ Bool.eq_false_iff.mpr hpin) (hphys ▸ hepoch)
            (decide_eq_true hswaps)) (.inl rfl)
        · rw [hcore, ← hphys]
          exact KvCore.isFree_spill (hphys ▸ hlt) (hphys ▸ Bool.eq_false_iff.mpr hpin)
      · rintro error s' ⟨hkept, hsame | ⟨hfails, hnote⟩⟩
        · exact ⟨hkept, hsame.2 ▸ .refl _, .inl hsame.1⟩
        · refine ⟨hkept, ?_, .inr (.inl hfails)⟩
          have hstep := KvCore.Step.storeFails hrec
          rw [hphys] at hstep
          rw [hnote, hentry]
          exact .single hstep (.inr rfl)
    · exact ⟨h.kvMoveHand, .refl _, .inl rfl⟩

theorem kvAcquirePhysicalBlock_wp (h : s.Kept spare) (hsound : s.core.Sound) :
    wp kvAcquirePhysicalBlock (fun p s' => s'.Kept spare ∧ s.core.Sweeps s'.core ∧ s'.core.IsFree p)
      (fun error s' => s'.Kept spare ∧ s.core.Sweeps s'.core ∧
        (error = .internalError ∨ W.Fails error ∨
          error = .capacityExceeded ∧ ∀ p, ¬s.core.Available p)) s := by
  rw [kvAcquirePhysicalBlock, wp_read]
  refine wp_mono (kvAcquireLoop_wp _ h hsound) (fun _ _ h => h) ?_
  rintro error s' ⟨hkept, hsweeps, herror⟩
  refine ⟨hkept, hsweeps, herror.imp id (Or.imp id ?_)⟩
  rintro ⟨rfl, hnone⟩
  refine ⟨rfl, fun p hp => ?_⟩
  -- every block is a number of rounds away from the hand
  have hlt : p < s.physicalBlockCapacity := hp.1
  have hhand := h.tabled.next_lt
  have hround := hnone ((p + s.physicalBlockCapacity - s.nextPhysicalBlockIndex) %
    s.physicalBlockCapacity) (Nat.mod_lt _ (by omega))
  rw [Nat.add_mod_mod, show s.nextPhysicalBlockIndex +
    (p + s.physicalBlockCapacity - s.nextPhysicalBlockIndex) = p + s.physicalBlockCapacity by omega,
    Nat.add_mod_right, Nat.mod_eq_of_lt hlt] at hround
  exact hround hp

/-! ### What the search leaves alone -/

/-- The directory and the table, which operations on records leave alone. -/
def named (s : KvState W) := (s.directoryEntries, s.directoryEntryCount, s.physicalBlockIndices)

/-- What the search leaves alone: also the keys of the records. -/
def swept (s : KvState W) := (s.named, s.blockEntries.map KvBlockEntry.key, s.blockEntryCount)

theorem swept_setBlockEntry (hkey : e.key = (s.blockEntry slot).key) :
    (s.setBlockEntry slot e).swept = s.swept := by
  have hkeys := map_set_getD KvBlockEntry.key hkey
  simp only [swept, setBlockEntry, hkeys]
  rfl

theorem swept_kvEvict : (s.kvEvict slot p).swept = s.swept :=
  swept_setBlockEntry (e := (s.blockEntry slot).spilled) rfl

theorem callHook_swept (call : EStateM WorkControlError W.Store Unit) (event : Bool → SwapEvent) :
    Within (Same swept) (callHook call event) := by
  refine .of_wp fun s => wp_mono (callHook_wp call event) ?_ ?_
  · rintro _ _ ⟨-, t, rfl⟩
    rfl
  · rintro _ _ (⟨-, rfl⟩ | ⟨-, -, t, rfl⟩)
    · rfl
    · rfl

theorem kvSpillBlock_swept (slot p : Nat) : Within (Same swept) (kvSpillBlock (W := W) slot p) := by
  refine .bind .get fun s => ?_
  have hlast : Within (Same swept) (modify (kvEvict slot p) : KvM W Unit) :=
    within_modify fun s => swept_kvEvict
  refine .ite (fun _ => hlast) fun _ => ?_
  refine .bind (callHook_swept _ _) fun _ => ?_
  refine .bind (within_modify fun s => ?_) fun _ => hlast
  exact swept_setBlockEntry rfl

theorem kvAcquireLoop_swept (rounds : Nat) :
    Within (Same swept) (kvAcquireLoop (W := W) rounds) := by
  induction rounds with
  | zero => exact .throw _
  | succ _ ih =>
    refine .of_wp fun s => ?_
    have hmoved : s.kvMoveHand.swept = s.swept := rfl
    have hrest := ih.wp s.kvMoveHand
    rw [kvAcquireLoop, wp_read]
    simp only [wp_bind, wp_set, wp_ite, wp_pure, wp_orFail, Same, hmoved]
    refine ⟨fun _ => hrest, fun _ => ⟨fun _ => trivial, fun _ => ⟨fun _ => hrest, fun _ =>
      ⟨fun slot _ => ?_, fun _ => trivial⟩⟩⟩⟩
    exact (kvSpillBlock_swept slot _).wp s.kvMoveHand

theorem kvAcquirePhysicalBlock_swept : Within (Same swept) (kvAcquirePhysicalBlock (W := W)) :=
  .bind .get fun _ => kvAcquireLoop_swept _

theorem probe_of_swept (h : s'.swept = s.swept) (k : KvKey) :
    kvBlockSlots.probe s'.blockEntries k = kvBlockSlots.probe s.blockEntries k := by
  have hkeys : s'.blockEntries.map KvBlockEntry.key = s.blockEntries.map KvBlockEntry.key :=
    (Prod.mk.inj (Prod.mk.inj h).2).1
  have hlength : s'.blockEntries.length = s.blockEntries.length := by
    simpa using congrArg List.length hkeys
  refine Slots.probe_congr hlength fun i => ?_
  have hread l : kvBlockSlots.key l i = (l.map KvBlockEntry.key).getD i {} :=
    (List.getD_map l ({} : KvBlockEntry) KvBlockEntry.key).symm
  rw [hread, hread, hkeys]

end KvState

end SparkPipe
