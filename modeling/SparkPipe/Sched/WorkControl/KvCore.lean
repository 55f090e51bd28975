import SparkPipe.Program.Tally
import SparkPipe.Program.Transition
import SparkPipe.Sched.WorkControl.KvState

/-!
# Blocks, records and references

What the KV state is for, without its tables: sequences name records, a record owns a physical
block or is swapped out, and every change is one of a few events. The events carry their guards;
the operations of the state are shown to be sequences of events, so that what every event preserves
holds after every operation.
-/

open Program

namespace SparkPipe

open Function

/-- The sizes of the tables, which never change. -/
structure KvSizes where
  laneCapacity : Nat
  laneStride : Nat
  blockTokenCount : Nat
  tableEntryCapacity : Nat
  physicalBlockCapacity : Nat
  directoryCapacity : Nat
  blockEntryCapacity : Nat

/-- The sizes of the state and its generation. -/
structure KvOutline extends KvSizes where
  backingBlockCapacity : Nat
  controlGeneration : Nat

/-- What the events on single blocks leave alone. -/
structure KvSetting where
  capacity : Nat
  epoch : Nat
  hasPins : Bool
  swaps : Bool
  outline : KvOutline
  sharing : Option (List KvKey) × Nat

/-- The KV state as maps. -/
@[ext]
structure KvCore where
  directory : KvKey → Option KvKey
  record : KvKey → Option KvBlockEntry
  block : Nat → KvPhysicalBlock
  setting : KvSetting
  allocated : Nat
  swapped : Nat
  log : List SwapEvent

/-- A block that belongs to a record or is lent. -/
def KvPhysicalBlock.IsUsed (block : KvPhysicalBlock) : Prop := block.key ≠ {}

namespace KvCore

/-! ### Changes -/

variable (c : KvCore)

variable (k : KvKey)

def setRecord (e : Option KvBlockEntry) : KvCore :=
  { c with record := update c.record k e }

def setBlock (p : Nat) (block : KvPhysicalBlock) : KvCore :=
  { c with block := update c.block p block }

/-- Let a directory key name a record, or nothing. -/
def name (D : KvKey) (k : Option KvKey) : KvCore :=
  { c with directory := update c.directory D k }

def note (event : SwapEvent) : KvCore := { c with log := event :: c.log }

def isPinned (p : Nat) : Bool :=
  c.setting.hasPins && (c.block p).pinCount ≠ 0

/-- A block that can be given out. -/
def IsFree (p : Nat) : Prop :=
  p < c.setting.capacity ∧ (c.block p).key = {} ∧ c.isPinned p = false

/-- The block of a directory key is on the device and pinned. -/
def Bound (D : KvKey) : Prop :=
  ∃ k e, c.directory D = some k ∧ c.record k = some e ∧ e.residencyState = .gpu ∧
    c.isPinned e.physicalBlockIndex

variable (e : KvBlockEntry)

/-- A record loses its physical block; the hook was asked. -/
def spill : KvCore :=
  { (c.setRecord k (some (e.withBacking true).spilled)).setBlock e.physicalBlockIndex
      (c.block e.physicalBlockIndex).cleared with
    allocated := c.allocated - 1
    swapped := c.swapped + 1
    log := .spill k e.physicalBlockIndex e.backingBlockIndex ::
      if e.backingValid then c.log
      else .store k e.physicalBlockIndex e.backingBlockIndex true :: c.log }

def load (p : Nat) : KvCore :=
  { (c.setRecord k (some (e.loaded p))).setBlock p
      ((c.block p).assigned k c.setting.epoch .resident) with
    allocated := c.allocated + 1
    swapped := c.swapped - 1
    log := .load k p e.backingBlockIndex true :: c.log }

def give (p b : Nat) : KvCore :=
  { (c.setRecord k (some (.fresh k p b))).setBlock p
      ((c.block p).assigned k c.setting.epoch .missing) with
    allocated := c.allocated + 1 }

def free : KvCore :=
  if e.residencyState = .gpu then
    { (c.setRecord k none).setBlock e.physicalBlockIndex
        (c.block e.physicalBlockIndex).cleared with
      allocated := c.allocated - 1 }
  else { c.setRecord k none with swapped := c.swapped - 1 }

/-- Drop a reference to a record, which goes with the last one. -/
def drop : KvCore :=
  if 1 < e.referenceCount then c.setRecord k (some e.released) else c.free k e

def rekey (k₀ : KvKey) (e : KvBlockEntry) (k : KvKey) : KvCore :=
  let c' := (c.setRecord k₀ none).setRecord k (some (e.rekeyed k))
  if e.residencyState = .gpu then
    c'.setBlock e.physicalBlockIndex ((c.block e.physicalBlockIndex).rekeyed k)
  else c'

/-- Nothing is named and nothing is stored. -/
def reset (generation : Nat) : KvCore :=
  { c with
    directory := fun _ => none
    record := fun _ => none
    block := fun _ => {}
    setting := { c.setting with
      epoch := 0
      outline := { c.setting.outline with controlGeneration := generation } }
    allocated := 0
    swapped := 0 }

/-! ### Reading a changed core -/

section Reading

variable (c : KvCore) (k k' D D' : KvKey) (v : Option KvBlockEntry) (n : Option KvKey)
  (e : KvBlockEntry) (p q b : Nat) (block : KvPhysicalBlock)

@[simp, grind =] theorem record_setRecord :
    (c.setRecord k v).record k' = if k' = k then v else c.record k' :=
  update_apply ..

@[simp, grind =] theorem block_setRecord : (c.setRecord k v).block q = c.block q := rfl

@[simp, grind =] theorem directory_setRecord : (c.setRecord k v).directory D = c.directory D := rfl

@[simp, grind =] theorem setting_setRecord : (c.setRecord k v).setting = c.setting := rfl

@[simp, grind =] theorem record_setBlock :
    (c.setBlock p block).record k = c.record k := rfl

@[simp, grind =] theorem block_setBlock :
    (c.setBlock p block).block q = if q = p then block else c.block q :=
  update_apply ..

@[simp, grind =] theorem directory_setBlock :
    (c.setBlock p block).directory D = c.directory D := rfl

@[simp, grind =] theorem setting_setBlock : (c.setBlock p block).setting = c.setting := rfl

@[simp, grind =] theorem record_name : (c.name D n).record k = c.record k := rfl

@[simp, grind =] theorem block_name : (c.name D n).block q = c.block q := rfl

@[simp, grind =] theorem directory_name :
    (c.name D n).directory D' = if D' = D then n else c.directory D' :=
  update_apply ..

@[simp, grind =] theorem setting_name : (c.name D n).setting = c.setting := rfl

@[simp, grind =] theorem record_spill :
    (c.spill k e).record k' = if k' = k then some (e.withBacking true).spilled else c.record k' :=
  record_setRecord ..

@[simp, grind =] theorem block_spill : (c.spill k e).block q =
    if q = e.physicalBlockIndex then (c.block e.physicalBlockIndex).cleared else c.block q :=
  update_apply ..

@[simp, grind =] theorem directory_spill : (c.spill k e).directory D = c.directory D := rfl

@[simp, grind =] theorem setting_spill : (c.spill k e).setting = c.setting := rfl

@[simp, grind =] theorem record_load :
    (c.load k e p).record k' = if k' = k then some (e.loaded p) else c.record k' :=
  record_setRecord ..

@[simp, grind =] theorem block_load : (c.load k e p).block q =
    if q = p then (c.block p).assigned k c.setting.epoch .resident else c.block q :=
  update_apply ..

@[simp, grind =] theorem directory_load : (c.load k e p).directory D = c.directory D := rfl

@[simp, grind =] theorem setting_load : (c.load k e p).setting = c.setting := rfl

@[simp, grind =] theorem record_give :
    (c.give k p b).record k' = if k' = k then some (.fresh k p b) else c.record k' :=
  record_setRecord ..

@[simp, grind =] theorem block_give : (c.give k p b).block q =
    if q = p then (c.block p).assigned k c.setting.epoch .missing else c.block q :=
  update_apply ..

@[simp, grind =] theorem directory_give : (c.give k p b).directory D = c.directory D := rfl

@[simp, grind =] theorem setting_give : (c.give k p b).setting = c.setting := rfl

@[simp, grind =] theorem record_free :
    (c.free k e).record k' = if k' = k then none else c.record k' := by
  rw [free]
  split <;> exact record_setRecord ..

@[simp, grind =] theorem block_free : (c.free k e).block q =
    if q = e.physicalBlockIndex ∧ e.residencyState = .gpu then
      (c.block e.physicalBlockIndex).cleared else c.block q := by
  rw [free]
  split
  · rename_i hgpu
    simp only [hgpu, and_true]
    exact update_apply ..
  · rename_i hgpu
    rw [if_neg fun h => hgpu h.2]
    rfl

@[simp, grind =] theorem directory_free : (c.free k e).directory D = c.directory D := by
  rw [free]
  split <;> rfl

@[simp, grind =] theorem setting_free : (c.free k e).setting = c.setting := by
  rw [free]
  split <;> rfl

@[simp, grind =] theorem record_drop : (c.drop k e).record k' =
    if k' = k then (if 1 < e.referenceCount then some e.released else none) else c.record k' := by
  rw [drop]
  split
  · exact record_setRecord ..
  · exact record_free ..

@[simp, grind =] theorem block_drop : (c.drop k e).block q =
    if q = e.physicalBlockIndex ∧ e.residencyState = .gpu ∧ e.referenceCount ≤ 1 then
      (c.block e.physicalBlockIndex).cleared else c.block q := by
  rw [drop]
  split
  · rw [if_neg fun h => by omega]
    rfl
  · rename_i hcount
    rw [block_free]
    simp only [not_lt.mp hcount, and_true]

@[simp, grind =] theorem directory_drop : (c.drop k e).directory D = c.directory D := by
  rw [drop]
  split
  · rfl
  · exact directory_free ..

@[simp, grind =] theorem setting_drop : (c.drop k e).setting = c.setting := by
  rw [drop]
  split
  · rfl
  · exact setting_free ..

variable (k₀ : KvKey)

@[simp, grind =] theorem record_rekey : (c.rekey k₀ e k).record k' =
    if k' = k then some (e.rekeyed k) else if k' = k₀ then none else c.record k' := by
  simp only [rekey]
  split <;> simp

@[simp, grind =] theorem block_rekey : (c.rekey k₀ e k).block q =
    if q = e.physicalBlockIndex ∧ e.residencyState = .gpu then
      ((c.block e.physicalBlockIndex).rekeyed k) else c.block q := by
  simp only [rekey]
  split
  · rename_i hgpu
    simp [hgpu]
  · rename_i hgpu
    simp [hgpu]

@[simp, grind =] theorem directory_rekey :
    (c.rekey k₀ e k).directory D = c.directory D := by
  simp only [rekey]
  split <;> rfl

@[simp] theorem allocated_rekey : (c.rekey k₀ e k).allocated = c.allocated := by
  simp only [rekey]
  split <;> rfl

@[simp] theorem swapped_rekey : (c.rekey k₀ e k).swapped = c.swapped := by
  simp only [rekey]
  split <;> rfl

@[simp, grind =] theorem setting_rekey : (c.rekey k₀ e k).setting = c.setting := by
  simp only [rekey]
  split <;> rfl

end Reading

end KvCore

/-! ### Events -/

/-- What an elementary change is about. -/
inductive KvEvent
  | evict
  | fault (k : KvKey)
  | touch (k : KvKey)
  | start (k : KvKey)
  | settle (k : KvKey)
  | stale (k : KvKey)
  | mark
  | place (D k : KvKey)
  | remove (D : KvKey)
  | failure
  | lend
  | takeBack (p : Nat)
  | pin (p : Nat)
  | unpin (p : Nat)
  | tick
  | configure
  | supply (n : Nat)
  | reset

namespace KvCore

inductive Step : KvCore → KvEvent → KvCore → Prop
  | spill {c : KvCore} {k e} (hrec : c.record k = some e) (hgpu : e.residencyState = .gpu)
      (hstate : (c.block e.physicalBlockIndex).state = .resident)
      (hpin : c.isPinned e.physicalBlockIndex = false)
      (hepoch : (c.block e.physicalBlockIndex).lastUsedEpoch ≠ c.setting.epoch)
      (hswaps : c.setting.swaps = true) : Step c .evict (c.spill k e)
  | storeFails {c : KvCore} {k e} (hrec : c.record k = some e) :
      Step c .failure (c.note (.store k e.physicalBlockIndex e.backingBlockIndex false))
  | load {c : KvCore} {k e p} (hrec : c.record k = some e) (hout : e.residencyState ≠ .gpu)
      (hfree : c.IsFree p) : Step c (.fault k) (c.load k e p)
  | loadFails {c : KvCore} {k e p} (hrec : c.record k = some e)
      (hout : e.residencyState ≠ .gpu) (hfree : c.IsFree p) :
      Step c .failure (c.note (.load k p e.backingBlockIndex false))
  | touch {c : KvCore} {k e} (hrec : c.record k = some e) (hgpu : e.residencyState = .gpu) :
      Step c (.touch k) (c.setBlock e.physicalBlockIndex
        ((c.block e.physicalBlockIndex).usedAt c.setting.epoch))
  | start {c : KvCore} {k e} (hrec : c.record k = some e) (hgpu : e.residencyState = .gpu)
      (hstate : (c.block e.physicalBlockIndex).state = .missing) :
      Step c (.start k) (c.setBlock e.physicalBlockIndex
        ((c.block e.physicalBlockIndex).withState .inFlight))
  | settle {c : KvCore} {k e} (hrec : c.record k = some e) (hgpu : e.residencyState = .gpu) :
      Step c (.settle k) (c.setBlock e.physicalBlockIndex
        (((c.block e.physicalBlockIndex).withState .resident).usedAt c.setting.epoch))
  | stale {c : KvCore} {k e} (hrec : c.record k = some e) (hgpu : e.residencyState = .gpu) :
      Step c (.stale k) (c.setRecord k (some (e.withBacking false)))
  | mark {c : KvCore} {k e} (m : Nat) (hrec : c.record k = some e) :
      Step c .mark (c.setRecord k (some (e.marked m)))
  | enter {c : KvCore} {D k e} (hdir : c.directory D = none) (hrec : c.record k = some e) :
      Step c (.place D k) ((c.setRecord k (some e.retained)).name D (some k))
  | found {c : KvCore} {D k p} (b : Nat) (hdir : c.directory D = none)
      (hrec : c.record k = none) (hk : k ≠ {}) (hfree : c.IsFree p) :
      Step c (.place D k) ((c.give k p b).name D (some k))
  | join {c : KvCore} {D k₀ k e₀ e} (hdir : c.directory D = some k₀) (hne : k₀ ≠ k)
      (hrec₀ : c.record k₀ = some e₀) (hrec : c.record k = some e)
      (hpin : e₀.residencyState = .gpu → c.isPinned e₀.physicalBlockIndex = false) :
      Step c (.place D k) (((c.setRecord k (some e.retained)).drop k₀ e₀).name D (some k))
  | split {c : KvCore} {D k₀ k e₀ p} (b : Nat) (hdir : c.directory D = some k₀)
      (hrec₀ : c.record k₀ = some e₀) (hrec : c.record k = none) (hk : k ≠ {})
      (hshared : 1 < e₀.referenceCount) (hfree : c.IsFree p)
      (hpin : e₀.residencyState = .gpu → c.isPinned e₀.physicalBlockIndex = false) :
      Step c (.place D k) (((c.give k p b).drop k₀ e₀).name D (some k))
  | rekey {c : KvCore} {D k₀ k e₀} (hdir : c.directory D = some k₀)
      (hrec₀ : c.record k₀ = some e₀) (hrec : c.record k = none) (hk : k ≠ {})
      (hone : e₀.referenceCount = 1)
      (hpin : e₀.residencyState = .gpu → c.isPinned e₀.physicalBlockIndex = false) :
      Step c (.place D k) ((c.rekey k₀ e₀ k).name D (some k))
  | remove {c : KvCore} {D k e} (hdir : c.directory D = some k) (hrec : c.record k = some e)
      (hpin : e.referenceCount ≤ 1 → e.residencyState = .gpu →
        c.isPinned e.physicalBlockIndex = false) :
      Step c (.remove D) ((c.drop k e).name D none)
  | borrow {c : KvCore} {k p} (hk : k ≠ {}) (hfree : c.IsFree p) :
      Step c .lend { c.setBlock p
          (((c.block p).assigned k c.setting.epoch .transient).withPins 1) with
        allocated := c.allocated + 1 }
  | giveBack {c : KvCore} {p} (hkey : (c.block p).key ≠ {})
      (hstate : (c.block p).state = .transient) :
      Step c (.takeBack p) { c.setBlock p (((c.block p).withPins 0).cleared) with
        allocated := c.allocated - 1 }
  | pin {c : KvCore} {p} (hp : p < c.setting.capacity) (hpins : c.setting.hasPins = true) :
      Step c (.pin p) (c.setBlock p ((c.block p).withPins ((c.block p).pinCount + 1)))
  | unpin {c : KvCore} {p} (hp : p < c.setting.capacity) (hpins : c.setting.hasPins = true) :
      Step c (.unpin p) (c.setBlock p ((c.block p).withPins ((c.block p).pinCount - 1)))
  | tick {c : KvCore} (epoch : Nat) : Step c .tick { c with setting := { c.setting with epoch } }
  | configureSwap {c : KvCore} (n : Nat) (hrecord : ∀ k, c.record k = none) :
      Step c (.supply n) { c with setting := { c.setting with
        swaps := true
        outline := { c.setting.outline with backingBlockCapacity := n } } }
  | configureSharing {c : KvCore} (sharing : Option (List KvKey) × Nat) :
      Step c .configure { c with setting := { c.setting with sharing } }
  | configurePins {c : KvCore} (hrecord : ∀ k, c.record k = none)
      (hpins : c.setting.hasPins = false) :
      Step c .configure { c with
        setting := { c.setting with hasPins := true }
        block := fun p => (c.block p).withPins 0 }
  | reset {c : KvCore} {generation : Nat}
      (hnew : c.setting.outline.controlGeneration < generation) :
      Step c .reset (c.reset generation)

/-! ### Consistency -/

/-- How often a record is referenced according to itself. -/
def refs (c : KvCore) (k : KvKey) : Nat := (c.record k).elim 0 KvBlockEntry.referenceCount

/-- A record without a physical block. -/
def IsOut (v : Option KvBlockEntry) : Prop := ∃ e, v = some e ∧ e.residencyState ≠ .gpu

/-- The storage of the records. -/
structure Stored (c : KvCore) : Prop where
  key_ne : ∀ {k e}, c.record k = some e → k ≠ {}
  onDevice : ∀ {k e}, c.record k = some e → e.residencyState = .gpu →
    e.physicalBlockIndex < c.setting.capacity ∧ (c.block e.physicalBlockIndex).key = k ∧
      (c.block e.physicalBlockIndex).state ≠ .transient
  swappedOut : ∀ {k e}, c.record k = some e → e.residencyState ≠ .gpu →
    e.residencyState = .nvme ∧ e.physicalBlockIndex = kvInvalidBlockIndex ∧ e.backingValid
  owner : ∀ {p}, (c.block p).key ≠ {} → (c.block p).state ≠ .transient →
    ∃ e, c.record (c.block p).key = some e ∧ e.residencyState = .gpu ∧ e.physicalBlockIndex = p
  allocated : Tally (fun p => (c.block p).IsUsed) c.allocated
  swapped : Tally (fun k => IsOut (c.record k)) c.swapped

/-- The reference counts of the records. -/
structure Referenced (c : KvCore) : Prop where
  pos : ∀ {k e}, c.record k = some e → 0 < e.referenceCount
  tally : ∀ k, Tally (fun D => c.directory D = some k) (c.refs k)

structure Sound (c : KvCore) : Prop where
  stored : c.Stored
  referenced : c.Referenced

attribute [grind] refs
attribute [grind →] Sound.stored Stored.key_ne Stored.onDevice Stored.swappedOut Stored.owner

section Storage

variable {c : KvCore} {k k₀ D : KvKey} {e e' : KvBlockEntry} {p b : Nat}

theorem isOut_some : IsOut (some e) ↔ e.residencyState ≠ .gpu := by
  simp [IsOut]

theorem not_isOut_none : ¬IsOut none := by
  simp [IsOut]

section

variable (h : c.Stored)
include h

theorem Stored.congr {c' : KvCore} (hrecord : c'.record = c.record)
    (hblock : c'.block = c.block) (hcapacity : c'.setting.capacity = c.setting.capacity)
    (hallocated : c'.allocated = c.allocated) (hswapped : c'.swapped = c.swapped) :
    c'.Stored := by
  obtain ⟨hkey, hon, hout, howner, htally, htally'⟩ := h
  rw [← hrecord] at hkey hon hout howner htally'
  rw [← hblock] at hon howner htally
  rw [← hcapacity] at hon
  exact ⟨hkey, hon, hout, howner, hallocated ▸ htally, hswapped ▸ htally'⟩

theorem Stored.name (D : KvKey) (v : Option KvKey) : (c.name D v).Stored :=
  h.congr rfl rfl rfl rfl rfl

theorem Stored.setRecord (hrec : c.record k = some e)
    (hphys : e'.physicalBlockIndex = e.physicalBlockIndex)
    (hres : e'.residencyState = e.residencyState)
    (hvalid : e.residencyState ≠ .gpu → e'.backingValid) :
    (c.setRecord k (some e')).Stored := by
  constructor
  · grind
  · grind
  · grind
  · grind
  · exact h.allocated
  · exact h.swapped.update_same (by rw [hrec, isOut_some, isOut_some, hres])

theorem Stored.retained (hrec : c.record k = some e) : (c.setRecord k (some e.retained)).Stored :=
  h.setRecord hrec rfl rfl fun hout => (h.swappedOut hrec hout).2.2

theorem Stored.setBlock {block : KvPhysicalBlock} (hkeyEq : block.key = (c.block p).key)
    (hstate : block.state = .transient ↔ (c.block p).state = .transient) :
    (c.setBlock p block).Stored := by
  constructor
  · exact h.key_ne
  · grind
  · exact h.swappedOut
  · grind
  · refine h.allocated.update_same ?_
    rw [KvPhysicalBlock.IsUsed, KvPhysicalBlock.IsUsed, hkeyEq]
  · exact h.swapped

theorem Stored.spill (hrec : c.record k = some e)
    (hgpu : e.residencyState = .gpu) : (c.spill k e).Stored := by
  have hdevice := h.onDevice hrec hgpu
  have hk := h.key_ne hrec
  constructor
  · grind
  · grind
  · grind
  · grind
  · refine h.allocated.update_lose ?_ fun hused => hused rfl
    exact ne_of_eq_of_ne hdevice.2.1 hk
  · refine h.swapped.update_gain ?_ ⟨_, rfl, by simp [KvBlockEntry.spilled]⟩
    rw [hrec, isOut_some]
    exact not_not.mpr hgpu

theorem Stored.load (hrec : c.record k = some e)
    (hres : e.residencyState ≠ .gpu) (hfree : c.IsFree p) : (c.load k e p).Stored := by
  obtain ⟨hlt, hempty, -⟩ := hfree
  have hk := h.key_ne hrec
  constructor
  · grind
  · grind
  · grind
  · grind
  · exact h.allocated.update_gain (fun hused => hused hempty) hk
  · exact h.swapped.update_lose ⟨e, hrec, hres⟩ fun h => (isOut_some.mp h) rfl

theorem Stored.give (hrec : c.record k = none) (hk : k ≠ {})
    (hfree : c.IsFree p) : (c.give k p b).Stored := by
  obtain ⟨hlt, hempty, -⟩ := hfree
  constructor
  · grind
  · grind
  · grind
  · intro q hused hstate
    by_cases hq : q = p
    · subst hq
      exact ⟨.fresh k q b, by simp [KvPhysicalBlock.assigned], rfl, rfl⟩
    · grind
  · exact h.allocated.update_gain (fun hused => hused hempty) hk
  · refine h.swapped.update_same ?_
    rw [hrec, isOut_some]
    exact iff_of_false (not_not.mpr rfl) not_isOut_none

theorem Stored.free (hrec : c.record k = some e) : (c.free k e).Stored := by
  have hdevice := h.onDevice hrec
  have hk := h.key_ne hrec
  constructor
  · grind
  · grind
  · grind
  · grind
  · rw [KvCore.free]
    split
    · rename_i hgpu
      refine h.allocated.update_lose ?_ fun hused => hused rfl
      exact ne_of_eq_of_ne (hdevice hgpu).2.1 hk
    · exact h.allocated
  rw [KvCore.free]
  split
  · rename_i hgpu
    refine h.swapped.update_same ?_
    rw [hrec, isOut_some]
    exact iff_of_false not_isOut_none (not_not.mpr hgpu)
  · rename_i hgpu
    exact h.swapped.update_lose ⟨e, hrec, hgpu⟩ not_isOut_none

theorem Stored.drop (hrec : c.record k = some e) : (c.drop k e).Stored := by
  rw [KvCore.drop]
  split
  · exact h.setRecord hrec rfl rfl fun hout => (h.swappedOut hrec hout).2.2
  · exact h.free hrec

theorem Stored.rekey (hrec₀ : c.record k₀ = some e) (hrec : c.record k = none)
    (hk : k ≠ {}) : (c.rekey k₀ e k).Stored := by
  constructor
  · grind
  · grind
  · grind
  · grind
  · rw [allocated_rekey]
    refine h.allocated.congr fun q => ?_
    simp only [KvPhysicalBlock.IsUsed]
    grind
  have hnew : IsOut (some (e.rekeyed k)) ↔ e.residencyState ≠ .gpu := isOut_some
  have hrecord : (c.rekey k₀ e k).record =
      update (update c.record k₀ none) k (some (e.rekeyed k)) := by
    simp only [KvCore.rekey]
    split <;> rfl
  have hne : k ≠ k₀ := by
    rintro rfl
    rw [hrec] at hrec₀
    cases hrec₀
  have hvacant : update c.record k₀ none k = none := by
    rw [update_of_ne hne, hrec]
  rw [hrecord, swapped_rekey]
  by_cases hgpu : e.residencyState = .gpu
  · have hgone := h.swapped.update_same (v := none) <| by
      rw [hrec₀, isOut_some]
      exact iff_of_false not_isOut_none (not_not.mpr hgpu)
    refine hgone.update_same ?_
    rw [hvacant, hnew]
    exact iff_of_false (not_not.mpr hgpu) not_isOut_none
  · have hout₀ : IsOut (c.record k₀) := ⟨e, hrec₀, hgpu⟩
    have hpos := h.swapped.pos hout₀
    have hgone := h.swapped.update_lose hout₀ not_isOut_none
    have hback := hgone.update_gain (by rw [hvacant]; exact not_isOut_none) (hnew.mpr hgpu)
    rwa [Nat.sub_add_cancel hpos] at hback

theorem Stored.borrow (hk : k ≠ {}) (hfree : c.IsFree p) (n : Nat) : Stored { c.setBlock p
        (((c.block p).assigned k c.setting.epoch .transient).withPins n) with
      allocated := c.allocated + 1 } := by
  obtain ⟨hlt, hempty, -⟩ := hfree
  refine ⟨h.key_ne, ?_, h.swappedOut, ?_, h.allocated.update_gain (fun hused => hused hempty) hk,
    h.swapped⟩
  · intro k' e' hrec' hgpu
    have hdevice := h.onDevice hrec' hgpu
    grind
  · intro q hq hstate
    grind

theorem Stored.giveBack (hused : (c.block p).key ≠ {})
    (hstate : (c.block p).state = .transient) (n : Nat) :
    Stored { c.setBlock p (((c.block p).withPins n).cleared) with
      allocated := c.allocated - 1 } := by
  refine ⟨h.key_ne, ?_, h.swappedOut, ?_, h.allocated.update_lose hused fun h => h rfl, h.swapped⟩
  · intro k' e' hrec' hgpu
    have hdevice := h.onDevice hrec' hgpu
    grind
  · intro q hq hstate'
    grind

end

end Storage

section References

variable {c c' : KvCore} {k D : KvKey} {e : KvBlockEntry} {v : Option KvKey}

theorem refs_of_record (h : c.record k = some e) : c.refs k = e.referenceCount := by
  rw [refs, h]
  rfl

theorem refs_of_none (h : c.record k = none) : c.refs k = 0 := by
  rw [refs, h]
  rfl

theorem Referenced.exists_record (h : c.Referenced) (hdir : c.directory D = some k) :
    ∃ e, c.record k = some e := by
  have hpos := (h.tally k).pos hdir
  cases hrec : c.record k with
  | none => rw [refs_of_none hrec] at hpos; omega
  | some e => exact ⟨e, rfl⟩

theorem Referenced.congr (h : c.Referenced) (hdir : ∀ D, c'.directory D = c.directory D)
    (hpos : ∀ {k e}, c'.record k = some e → 0 < e.referenceCount)
    (hrefs : ∀ k, c'.refs k = c.refs k) : c'.Referenced := by
  refine ⟨hpos, fun k => ?_⟩
  rw [hrefs]
  exact (h.tally k).congr fun D => by rw [hdir]

theorem tally_name {d : KvKey → Option KvKey} {n : Nat} (h : Tally (fun D => d D = some k) n)
    (D : KvKey) (v : Option KvKey) :
    Tally (fun D' => update d D v D' = some k)
      (n + (if v = some k then 1 else 0) - if d D = some k then 1 else 0) := by
  by_cases hold : d D = some k
  · by_cases hnew : v = some k
    · simpa [hold, hnew] using h.update_same (P := (· = some k)) (iff_of_true hnew hold)
    · simpa [hold, hnew] using h.update_lose (P := (· = some k)) hold hnew
  · by_cases hnew : v = some k
    · simpa [hold, hnew] using h.update_gain (P := (· = some k)) hold hnew
    · simpa [hold, hnew] using h.update_same (P := (· = some k)) (iff_of_false hnew hold)

theorem Referenced.name (h : c.Referenced) (hdir : ∀ D, c'.directory D = c.directory D)
    (hpos : ∀ {k e}, c'.record k = some e → 0 < e.referenceCount)
    (hrefs : ∀ k, c'.refs k =
      c.refs k + (if v = some k then 1 else 0) - if c.directory D = some k then 1 else 0) :
    (c'.name D v).Referenced := by
  refine ⟨hpos, fun k => ?_⟩
  have hcount := tally_name (h.tally k) D v
  rw [← hrefs k] at hcount
  refine hcount.congr fun D' => ?_
  rw [directory_name, update_apply, hdir]

end References

theorem sound_reset (c : KvCore) (generation : Nat) : (c.reset generation).Sound where
  stored := {
    key_ne := fun hrec => by cases hrec
    onDevice := fun hrec => by cases hrec
    swappedOut := fun hrec => by cases hrec
    owner := fun hused => absurd rfl hused
    allocated := .none fun _ hused => hused rfl
    swapped := .none fun _ => not_isOut_none }
  referenced := {
    pos := fun hrec => by cases hrec
    tally := fun _ => .none fun _ hdir => by cases hdir }

variable {c c' : KvCore} {event : KvEvent}

section

variable (hstep : Step c event c')
include hstep

theorem Step.sound (h : c.Sound) : c'.Sound := by
  obtain ⟨hstored, hreferenced⟩ := h
  have hpos := @hreferenced.pos
  cases hstep with
  | spill hrec hgpu =>
    exact ⟨hstored.spill hrec hgpu, hreferenced.congr (fun _ => rfl) (by grind) (by grind)⟩
  | storeFails | loadFails => exact ⟨hstored.congr rfl rfl rfl rfl rfl, hpos, hreferenced.tally⟩
  | load hrec hout hfree =>
    exact ⟨hstored.load hrec hout hfree, hreferenced.congr (fun _ => rfl) (by grind) (by grind)⟩
  | touch | pin | unpin => exact ⟨hstored.setBlock rfl Iff.rfl, hpos, hreferenced.tally⟩
  | start =>
    exact ⟨hstored.setBlock rfl (by grind), hpos, hreferenced.tally⟩
  | settle hrec hgpu =>
    exact ⟨hstored.setBlock rfl (by grind [hstored.onDevice hrec hgpu]), hpos, hreferenced.tally⟩
  | stale hrec hgpu =>
    exact ⟨hstored.setRecord hrec rfl rfl fun hout => absurd hgpu hout,
      hreferenced.congr (fun _ => rfl) (by grind) (by grind)⟩
  | mark m hrec =>
    exact ⟨hstored.setRecord hrec rfl rfl fun hout => (hstored.swappedOut hrec hout).2.2,
      hreferenced.congr (fun _ => rfl) (by grind) (by grind)⟩
  | enter _ hrec =>
    exact ⟨(hstored.retained hrec).name _ _, hreferenced.name (fun _ => rfl) (by grind) (by grind)⟩
  | found _ _ hrec hk hfree =>
    exact ⟨(hstored.give hrec hk hfree).name _ _,
      hreferenced.name (fun _ => rfl) (by grind) (by grind)⟩
  | join _ hne hrec₀ hrec =>
    refine ⟨((hstored.retained hrec).drop ?_).name _ _,
      hreferenced.name (fun D => directory_drop ..) ?_ ?_⟩
    · rw [record_setRecord, if_neg hne, hrec₀]
    · grind
    · grind
  | split _ _ _ hrec hk _ hfree =>
    refine ⟨((hstored.give hrec hk hfree).drop ?_).name _ _,
      hreferenced.name (fun D => directory_drop ..) ?_ ?_⟩
    · grind
    · grind
    · grind
  | rekey _ hrec₀ hrec hk =>
    refine ⟨(hstored.rekey hrec₀ hrec hk).name _ _,
      hreferenced.name (fun D => directory_rekey ..) ?_ ?_⟩
    · grind
    · grind
  | remove _ hrec =>
    refine ⟨(hstored.drop hrec).name _ _, hreferenced.name (fun D => directory_drop ..) ?_ ?_⟩
    · grind
    · grind
  | borrow hk hfree => exact ⟨hstored.borrow hk hfree 1, hpos, hreferenced.tally⟩
  | giveBack hused hstate => exact ⟨hstored.giveBack hused hstate 0, hpos, hreferenced.tally⟩
  | tick | configureSwap | configureSharing =>
    exact ⟨hstored.congr rfl rfl rfl rfl rfl, hpos, hreferenced.tally⟩
  | configurePins =>
    obtain ⟨hkey, hon, hout, howner, hallocated, hswapped⟩ := hstored
    exact ⟨⟨hkey, hon, hout, howner, hallocated, hswapped⟩, hpos, hreferenced.tally⟩
  | @reset generation => exact sound_reset c generation

theorem Step.sizes : c'.setting.outline.toKvSizes = c.setting.outline.toKvSizes := by
  cases hstep <;> first | rfl | simp

theorem Step.outline (hsupply : ∀ n, event ≠ .supply n)
    (hreset : event ≠ .reset) : c'.setting.outline = c.setting.outline := by
  cases hstep with
  | configureSwap n => exact absurd rfl (hsupply n)
  | reset => exact absurd rfl hreset
  | _ => first | rfl | simp

theorem Step.backing (hsupply : ∀ n, event = .supply n →
      n ≤ c.setting.outline.blockEntryCapacity / 2)
    (h : c.setting.outline.backingBlockCapacity ≤ c.setting.outline.blockEntryCapacity / 2) :
    c'.setting.outline.backingBlockCapacity ≤ c'.setting.outline.blockEntryCapacity / 2 := by
  cases hstep with
  | configureSwap n => exact hsupply n rfl
  | _ => first | exact h | simpa using h

theorem Step.setting (htick : event ≠ .tick)
    (hconfigure : event ≠ .configure) (hsupply : ∀ n, event ≠ .supply n) (hreset : event ≠ .reset) :
    c'.setting = c.setting := by
  cases hstep with
  | tick => exact absurd rfl htick
  | configurePins | configureSharing => exact absurd rfl hconfigure
  | configureSwap n => exact absurd rfl (hsupply n)
  | reset => exact absurd rfl hreset
  | _ => first | rfl | simp

end

theorem Sound.invariant {allowed : KvCore → KvEvent → Prop} {I : KvCore → Prop} (h : c.Sound)
    (hevolves : Evolves Step allowed c c')
    (hstep : ∀ {c event c'}, c.Sound → I c → allowed c event → Step c event c' → I c')
    (hI : I c) : I c' :=
  (Evolves.invariant (I := fun c => c.Sound ∧ I c)
    (fun _ _ _ hc hevent hs => ⟨hs.sound hc.1, hstep hc.1 hc.2 hevent hs⟩) hevolves ⟨h, hI⟩).2

/-! ### Searching a physical block -/

/-- What the search for a physical block does. -/
def Sweeping (_ : KvCore) (event : KvEvent) : Prop := event = .evict ∨ event = .failure

theorem setRecord_setRecord (c : KvCore) (k : KvKey) (v v' : Option KvBlockEntry) :
    (c.setRecord k v).setRecord k v' = c.setRecord k v' := by
  rw [setRecord, setRecord, setRecord, update_idem]

theorem isFree_spill {k : KvKey} {e : KvBlockEntry}
    (hlt : e.physicalBlockIndex < c.setting.capacity)
    (hpin : c.isPinned e.physicalBlockIndex = false) :
    (c.spill k e).IsFree e.physicalBlockIndex := by
  refine ⟨hlt, ?_, ?_⟩
  · rw [block_spill, if_pos rfl]
    rfl
  · rw [isPinned, block_spill, if_pos rfl]
    exact hpin

/-- The states that the search may lead to. -/
def Sweeps (c c' : KvCore) : Prop := Evolves Step Sweeping c c'

theorem Sweeps.sound (h : c.Sweeps c') (hsound : c.Sound) : c'.Sound :=
  Evolves.invariant (fun _ _ _ hI _ hstep => hstep.sound hI) h hsound

/-- A block that the search may take. -/
def Available (c : KvCore) (p : Nat) : Prop :=
  p < c.setting.capacity ∧ c.isPinned p = false ∧
    ((c.block p).key = {} ∨ c.setting.swaps ∧ (c.block p).state = .resident ∧
      (c.block p).lastUsedEpoch ≠ c.setting.epoch)

/-- A search takes at most physical blocks that are resident, unpinned and of earlier epochs. -/
structure SweptFrom (c c' : KvCore) : Prop where
  setting : c'.setting = c.setting
  directory : c'.directory = c.directory
  record : ∀ k, c'.record k = c.record k ∨ ∃ e, c.record k = some e ∧ e.residencyState = .gpu ∧
    (c.block e.physicalBlockIndex).state = .resident ∧
    (c.block e.physicalBlockIndex).lastUsedEpoch ≠ c.setting.epoch ∧
    c.isPinned e.physicalBlockIndex = false ∧ c.setting.swaps ∧
    c'.record k = some (e.withBacking true).spilled
  block : ∀ p, c'.block p = c.block p ∨ (c.block p).state = .resident ∧
    (c.block p).lastUsedEpoch ≠ c.setting.epoch ∧ c.isPinned p = false ∧
    c.setting.swaps ∧ c'.block p = (c.block p).cleared

namespace SweptFrom

variable {c c' : KvCore} {k : KvKey} {e e' : KvBlockEntry}

theorem isPinned (h : c.SweptFrom c') (p : Nat) : c'.isPinned p = c.isPinned p := by
  rcases h.block p with hp | ⟨-, -, -, -, hp⟩
  · rw [KvCore.isPinned, KvCore.isPinned, hp, h.setting]
  · rw [KvCore.isPinned, hp, h.setting]
    rfl

theorem record_none (h : c.SweptFrom c') : c'.record k = none ↔ c.record k = none := by
  rcases h.record k with hk | ⟨e, hrec, -, -, -, -, -, hk⟩
  · rw [hk]
  · rw [hk, hrec]
    simp

theorem exists_record (h : c.SweptFrom c') (hrec : c'.record k = some e') :
    ∃ e, c.record k = some e ∧ e'.referenceCount = e.referenceCount ∧
      (e'.residencyState = .gpu → e' = e) := by
  rcases h.record k with hk | ⟨e, hrec', -, -, -, -, -, hk⟩
  · exact ⟨e', hk.symm.trans hrec, rfl, fun _ => rfl⟩
  · rw [hk] at hrec
    cases hrec
    exact ⟨e, hrec', rfl, fun hgpu => by cases hgpu⟩

end SweptFrom

theorem Sweeps.sweptFrom (h : c.Sweeps c') : c.SweptFrom c' := by
  induction h with
  | refl => exact ⟨rfl, rfl, fun _ => .inl rfl, fun _ => .inl rfl⟩
  | @tail b d _ hlast ih =>
    have hpin := ih.isPinned
    obtain ⟨hsetting, hdirectory, hrecord, hblock⟩ := ih
    obtain ⟨event, hevent, hstep⟩ := hlast
    rcases hevent with rfl | rfl
    · cases hstep with
      | @spill k e hrec hgpu hstate _ _ _ =>
        have hrec' : c.record k = some e := by
          rcases hrecord k with hk | ⟨e', -, -, -, -, -, -, hk⟩
          · exact hk.symm.trans hrec
          · rw [hk] at hrec
            cases hrec
            cases hgpu
        have hblock' : b.block e.physicalBlockIndex = c.block e.physicalBlockIndex := by
          rcases hblock e.physicalBlockIndex with hp | ⟨-, -, -, -, hp⟩
          · exact hp
          · rw [hp] at hstate
            cases hstate
        refine ⟨hsetting, hdirectory, fun k' => ?_, fun p => ?_⟩
        · grind
        · grind
    · cases hstep with
      | storeFails | loadFails => exact ⟨hsetting, hdirectory, hrecord, hblock⟩

attribute [grind] isPinned IsFree Bound

end KvCore

end SparkPipe
