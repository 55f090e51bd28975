import SparkPipe.Core.PrefixCache.Model
import SparkPipe.Program.Transition

/-!
# Elementary transitions of the prefix cache

Every cache operation is a sequence of elementary transitions: installing, binding,
unbinding, invalidating, committing and growing one entry or binding, a reset, and quiet
changes of clocks, recency, protection and residency. This module says once what each
transition does to the tables, to the free lists and to the arena.
-/

open Program

namespace SparkPipe

/-- An entry without its recency stamp and its lookahead protection. -/
def Entry.core (e : Entry) : Entry :=
  { e with
    lastUsedTick := 0
    lookaheadPriority := 0
    lookaheadRequestCount := 0
    lookaheadProtectionEpoch := 0 }

/-- A binding without its pending mark. -/
def Binding.core (b : Binding) : Binding := { b with pending := false }

namespace PrefixCache

variable {c c' : PrefixCache} {b epoch k sequenceId : Nat} {α : Type}

/-! ### Reading the tables after a write -/

theorem entry_setEntry (c : PrefixCache) (k j : Nat) (e : Entry) :
    (c.setEntry k e).entry j = if k = j ∧ k < c.entries.length then e else c.entry j :=
  getD_set _ _ _ _ _

theorem binding_setBinding (c : PrefixCache) (k j : Nat) (b : Binding) :
    (c.setBinding k b).binding j = if k = j ∧ k < c.bindings.length then b else c.binding j :=
  getD_set _ _ _ _ _

@[simp] theorem entries_length_setEntry (c : PrefixCache) (k : Nat) (e : Entry) :
    (c.setEntry k e).entries.length = c.entries.length := List.length_set

@[simp] theorem bindings_length_setBinding (c : PrefixCache) (k : Nat) (b : Binding) :
    (c.setBinding k b).bindings.length = c.bindings.length := List.length_set

theorem lt_entries_length_of_valid (h : (c.entry k).valid) : k < c.entries.length := by
  by_contra hk
  rw [PrefixCache.entry, List.getD_eq_default _ _ (not_lt.mp hk)] at h
  exact absurd h (by decide)

theorem lt_bindings_length_of_valid (h : (c.binding b).valid) : b < c.bindings.length := by
  by_contra hb
  rw [PrefixCache.binding, List.getD_eq_default _ _ (not_lt.mp hb)] at h
  exact absurd h (by decide)

theorem binding_congr (h : c'.bindings = c.bindings) (b : Nat) : c'.binding b = c.binding b := by
  rw [binding, h]
  rfl

/-! ### The transitions -/

inductive Event
  | quiet
  | install (entryIndex : Nat) (i : Installation)
  | bind (entryIndex sequenceId operationEpoch : Nat)
  | unbind (bindingIndex : Nat)
  | invalidate (entryIndex : Nat)
  | commit (entryIndex : Nat)
  | grow (bindingIndex entryIndex : Nat)
  | reset

/-- The geometry is kept and the operation epoch does not go back. -/
structure SameShape (c c' : PrefixCache) : Prop where
  blockTokenCount : c'.blockTokenCount = c.blockTokenCount
  physicalBlockCount : c'.physicalBlockCount = c.physicalBlockCount
  entryCount : c'.entries.length = c.entries.length
  bindingCount : c'.bindings.length = c.bindings.length
  epoch_mono : c.operationEpoch ≤ c'.operationEpoch

theorem SameShape.trans {c'' : PrefixCache} (h : c.SameShape c') (h' : c'.SameShape c'') :
    c.SameShape c'' :=
  ⟨h'.blockTokenCount.trans h.blockTokenCount, h'.physicalBlockCount.trans h.physicalBlockCount,
    h'.entryCount.trans h.entryCount, h'.bindingCount.trans h.bindingCount,
    h.epoch_mono.trans h'.epoch_mono⟩

/-- Only clocks, recency, protection, residency and pending marks changed. -/
structure Quiet (c c' : PrefixCache) : Prop extends SameShape c c' where
  entry : ∀ j, (c'.entry j).core = (c.entry j).core
  binding : ∀ j, (c'.binding j).core = (c.binding j).core
  arena : c.arena.SameOwnership c'.arena
  freeEntryHead : c'.freeEntryHead = c.freeEntryHead
  freeBindingHead : c'.freeBindingHead = c.freeBindingHead

theorem Quiet.entry_eq (hq : c.Quiet c') (f : Entry → α) (k : Nat)
    (hf : ∀ e : Entry, f e.core = f e := by intro; rfl) : f (c'.entry k) = f (c.entry k) := by
  rw [← hf (c'.entry k), ← hf (c.entry k), hq.entry k]

theorem Quiet.binding_eq (hq : c.Quiet c') (f : Binding → α) (b : Nat)
    (hf : ∀ b : Binding, f b.core = f b := by intro; rfl) :
    f (c'.binding b) = f (c.binding b) := by
  rw [← hf (c'.binding b), ← hf (c.binding b), hq.binding b]

/-- The words of an installation are in range, and only full blocks may be shared. -/
structure Installation.Fits (i : Installation) (blockTokenCount operationEpoch : Nat) :
    Prop where
  epoch_le : i.operationEpoch ≤ operationEpoch
  tokenCount_pos : 0 < i.label.tokenCount
  tokenCount_le : i.label.tokenCount ≤ blockTokenCount
  aligned : blockTokenCount ∣ i.label.firstTokenIndex
  full : i.liveOnly = false → i.label.tokenCount = blockTokenCount

/-- Entry `k` describes the installation `i` over block `p`, taken from a free or an evicted entry.
-/
structure Installs (c : PrefixCache) (k : Nat) (i : Installation) (p : Nat)
    (c' : PrefixCache) : Prop extends SameShape c c' where
  lt : k < c.entries.length
  fits : i.Fits c.blockTokenCount c.operationEpoch
  entry_self : ∃ tick, c'.entry k = i.entry p tick
  entry_of_ne : ∀ j, j ≠ k → c'.entry j = c.entry j
  bindings : c'.bindings = c.bindings
  freeBindingHead : c'.freeBindingHead = c.freeBindingHead
  arena : c.arena.Becomes c'.arena
    (Function.update c.arena.ownership p ⟨true, 0, c.arena.generation p + 1⟩)
  victim : ((c.entry k).valid = false ∧ c.freeEntryHead = k ∧
      c'.freeEntryHead = (c.entry k).reserved ∧ c.arena.isAllocated p = false ∧
      p < c.arena.physicalBlockCount) ∨
    ((c.entry k).isEvictable ∧ c'.freeEntryHead = c.freeEntryHead ∧
      p = (c.entry k).physicalBlockIndex)

/-- A free binding now binds a sequence to the valid entry `k`. -/
structure Binds (c : PrefixCache) (k sequenceId epoch : Nat)
    (c' : PrefixCache) : Prop extends SameShape c c' where
  valid : (c.entry k).valid
  epoch_le : epoch ≤ c.operationEpoch
  lt : c.freeBindingHead < c.bindings.length
  free : (c.binding c.freeBindingHead).valid = false
  entry_self : c'.entry k =
    { c.entry k with referenceCount := (c.entry k).referenceCount + 1 }
  entry_of_ne : ∀ j, j ≠ k → c'.entry j = c.entry j
  bindings : ∃ pending, c'.bindings = c.bindings.set c.freeBindingHead
    { bindingTo (c.entry k) k sequenceId epoch pending with
      reserved := (c.binding c.freeBindingHead).reserved }
  freeEntryHead : c'.freeEntryHead = c.freeEntryHead
  freeBindingHead : c'.freeBindingHead = (c.binding c.freeBindingHead).reserved
  arena : c.arena.Becomes c'.arena (Function.update c.arena.ownership (c.entry k).physicalBlockIndex
      ⟨true, c.arena.referenceCount (c.entry k).physicalBlockIndex + 1,
        c.arena.generation (c.entry k).physicalBlockIndex⟩)

section

variable (hb : c.Binds k sequenceId epoch c')
include hb

theorem Binds.entry_eq (f : Entry → α) (j : Nat)
    (hf : ∀ (e : Entry) n, f { e with referenceCount := n } = f e := by intros; rfl) :
    f (c'.entry j) = f (c.entry j) := by
  by_cases hjk : j = k
  · subst hjk
    rw [hb.entry_self, hf]
  · rw [hb.entry_of_ne j hjk]

theorem Binds.binding_self : ∃ pending, c'.binding c.freeBindingHead =
      { bindingTo (c.entry k) k sequenceId epoch pending with
        reserved := (c.binding c.freeBindingHead).reserved } := by
  obtain ⟨pending, hbindings⟩ := hb.bindings
  refine ⟨pending, ?_⟩
  rw [binding, hbindings, getD_set_self hb.lt]

theorem Binds.binding_of_ne (b : Nat)
    (hne : b ≠ c.freeBindingHead) : c'.binding b = c.binding b := by
  obtain ⟨pending, hbindings⟩ := hb.bindings
  rw [binding, hbindings]
  exact getD_set_of_ne hne

theorem Binds.binding_of_valid (hv : (c.binding b).valid) : c'.binding b = c.binding b :=
  hb.binding_of_ne b fun hfree => absurd hv (by rw [hfree, hb.free]; decide)

end

/-- The valid binding `b` is released. -/
structure Unbinds (c : PrefixCache) (b : Nat) (c' : PrefixCache) : Prop
    extends SameShape c c' where
  valid : (c.binding b).valid
  entry_self : c'.entry (c.binding b).entryIndex =
    { c.entry (c.binding b).entryIndex with
      referenceCount := (c.entry (c.binding b).entryIndex).referenceCount - 1 }
  entry_of_ne : ∀ j, j ≠ (c.binding b).entryIndex → c'.entry j = c.entry j
  bindings : c'.bindings = c.bindings.set b { reserved := c.freeBindingHead }
  freeEntryHead : c'.freeEntryHead = c.freeEntryHead
  freeBindingHead : c'.freeBindingHead = b
  arena : c.arena.Becomes c'.arena
    (Function.update c.arena.ownership (c.binding b).physicalBlockIndex
      ⟨true, c.arena.referenceCount (c.binding b).physicalBlockIndex - 1,
        c.arena.generation (c.binding b).physicalBlockIndex⟩)

theorem Unbinds.entry_eq (hu : c.Unbinds b c') (f : Entry → α) (j : Nat)
    (hf : ∀ (e : Entry) n, f { e with referenceCount := n } = f e := by intros; rfl) :
    f (c'.entry j) = f (c.entry j) := by
  by_cases hj : j = (c.binding b).entryIndex
  · subst hj
    rw [hu.entry_self, hf]
  · rw [hu.entry_of_ne j hj]

theorem Unbinds.binding_self (hu : c.Unbinds b c') :
    c'.binding b = { reserved := c.freeBindingHead } := by
  rw [binding, hu.bindings, getD_set_self (lt_bindings_length_of_valid hu.valid)]

theorem Unbinds.binding_of_ne (hu : c.Unbinds b c') (b' : Nat) (hne : b' ≠ b) :
    c'.binding b' = c.binding b' := by
  rw [binding, hu.bindings]
  exact getD_set_of_ne hne

/-- The valid, unreferenced entry `k` is dropped and its block freed. -/
structure Invalidates (c : PrefixCache) (k : Nat) (c' : PrefixCache) : Prop
    extends SameShape c c' where
  valid : (c.entry k).valid
  unreferenced : (c.entry k).referenceCount = 0
  entry_self : c'.entry k = { reserved := c.freeEntryHead }
  entry_of_ne : ∀ j, j ≠ k → c'.entry j = c.entry j
  bindings : c'.bindings = c.bindings
  freeEntryHead : c'.freeEntryHead = k
  freeBindingHead : c'.freeBindingHead = c.freeBindingHead
  arena : c.arena.Becomes c'.arena (Function.update c.arena.ownership (c.entry k).physicalBlockIndex
      ⟨false, 0, c.arena.generation (c.entry k).physicalBlockIndex + 1⟩)

/-- The pending entry `k` is committed. -/
structure Commits (c : PrefixCache) (k : Nat) (c' : PrefixCache) : Prop
    extends SameShape c c' where
  valid : (c.entry k).valid
  pending : (c.entry k).pending
  entry_self : c'.entry k = c.commitEntry (c.entry k) (c.entry k).reservationEpoch
  entry_of_ne : ∀ j, j ≠ k → c'.entry j = c.entry j
  bindings : c'.bindings = c.bindings
  freeEntryHead : c'.freeEntryHead = c.freeEntryHead
  freeBindingHead : c'.freeBindingHead = c.freeBindingHead
  arena : c.arena.SameOwnership c'.arena

/-- The short private block of binding `b` and entry `k` is extended to a full one. -/
structure Grows (c : PrefixCache) (b k : Nat) (c' : PrefixCache) : Prop
    extends SameShape c c' where
  valid : (c.binding b).valid
  entryIndex : (c.binding b).entryIndex = k
  liveOnly : (c.entry k).liveOnly
  committed : (c.entry k).pending = false
  unshared : (c.entry k).referenceCount = 1
  entry_self : c'.entry k =
    { c.entry k with tokenCount := c.blockTokenCount, reusable := false, liveOnly := true }
  entry_of_ne : ∀ j, j ≠ k → c'.entry j = c.entry j
  bindings : c'.bindings = c.bindings.set b { c.binding b with tokenCount := c.blockTokenCount }
  freeEntryHead : c'.freeEntryHead = c.freeEntryHead
  freeBindingHead : c'.freeBindingHead = c.freeBindingHead
  arena : c.arena.SameOwnership c'.arena

theorem Grows.binding_self (hg : c.Grows b k c') :
    c'.binding b = { c.binding b with tokenCount := c.blockTokenCount } := by
  rw [binding, hg.bindings, getD_set_self (lt_bindings_length_of_valid hg.valid)]

theorem Grows.binding_of_ne (hg : c.Grows b k c') (b' : Nat) (hne : b' ≠ b) :
    c'.binding b' = c.binding b' := by
  rw [binding, hg.bindings]
  exact getD_set_of_ne hne

/-- Every entry, binding and block is free again. -/
structure Resets (c c' : PrefixCache) : Prop where
  blockTokenCount : c'.blockTokenCount = c.blockTokenCount
  physicalBlockCount : c'.physicalBlockCount = c.physicalBlockCount
  entries : c'.entries = freeEntries c.entries.length
  bindings : c'.bindings = freeBindings c.bindings.length
  freeEntryHead : c'.freeEntryHead = 0
  freeBindingHead : c'.freeBindingHead = 0
  arena : c'.arena = c.arena.reset

inductive Step : PrefixCache → Event → PrefixCache → Prop
  | quiet {c c' : PrefixCache} (h : c.Quiet c') : Step c .quiet c'
  | install {c c' : PrefixCache} {k p : Nat} {i : Installation} (h : c.Installs k i p c') :
      Step c (.install k i) c'
  | bind {c c' : PrefixCache} {k sequenceId epoch : Nat} (h : c.Binds k sequenceId epoch c') :
      Step c (.bind k sequenceId epoch) c'
  | unbind {c c' : PrefixCache} {b : Nat} (h : c.Unbinds b c') : Step c (.unbind b) c'
  | invalidate {c c' : PrefixCache} {k : Nat} (h : c.Invalidates k c') :
      Step c (.invalidate k) c'
  | commit {c c' : PrefixCache} {k : Nat} (h : c.Commits k c') : Step c (.commit k) c'
  | grow {c c' : PrefixCache} {b k : Nat} (h : c.Grows b k c') : Step c (.grow b k) c'
  | reset {c c' : PrefixCache} (h : c.Resets c') : Step c .reset c'

theorem Step.shape {e : Event} (hs : Step c e c') (he : e ≠ .reset) : c.SameShape c' := by
  cases hs with
  | quiet h | install h | bind h | unbind h | invalidate h | commit h | grow h =>
    exact h.toSameShape
  | reset => exact absurd rfl he

/-! ### The internal functions make these transitions -/

theorem wp_onArena {m : EStateM KvArenaError KvArena α} {Q : α → PrefixCache → Prop}
    {E : PrefixCacheError → PrefixCache → Prop} :
    wp (onArena m) Q E c ↔ wp m (fun a arena => Q a { c with arena })
        (fun e arena => E (.ofArena e) { c with arena }) c.arena :=
  wp_onPart _ _ _

theorem considerVictim_evictable {victims : Option Nat × Option Nat} {j : Nat}
    (h : ∀ k, victims.1 = some k ∨ victims.2 = some k → (c.entry k).isEvictable) :
    ∀ k, (c.considerVictim victims j).1 = some k ∨ (c.considerVictim victims j).2 = some k →
      (c.entry k).isEvictable = true := by
  intro k hk
  unfold considerVictim at hk
  by_cases hj : (c.entry j).isEvictable = true
  · simp only [hj, Bool.not_true, Bool.false_eq_true, if_false] at hk
    have hcases : k = j ∨ (victims.1 = some k ∨ victims.2 = some k) := by
      split at hk <;> split at hk <;> (try split at hk) <;> simp_all <;> tauto
    rcases hcases with rfl | hk
    · exact hj
    · exact h k hk
  · simp only [hj, Bool.not_false, if_true] at hk
    exact h k hk

theorem selectVictim_spec (h : c.selectVictim = some k) :
    k < c.entries.length ∧ (c.entry k).valid = false ∧
        (c.freeEntryHead = k ∨ c.freeEntryHead = noEntry) ∨
      (c.entry k).isEvictable = true := by
  unfold selectVictim at h
  split_ifs at h with hhead hfree
  · cases h
    simp only [not_or, not_le, Bool.not_eq_true] at hfree
    exact .inl ⟨hfree.1, hfree.2, .inl rfl⟩
  split at h
  · rename_i index hfind
    cases h
    obtain ⟨hlt, hinvalid, -⟩ := List.findIdx?_eq_some_iff_getElem.mp hfind
    refine .inl ⟨hlt, ?_, .inr (not_not.mp hhead)⟩
    rw [entry, List.getD_eq_getElem _ _ hlt]
    simpa using hinvalid
  right
  have hscan : ∀ (l : List Nat) victims,
      (∀ k, victims.1 = some k ∨ victims.2 = some k → (c.entry k).isEvictable = true) →
      ∀ k, (l.foldl c.considerVictim victims).1 = some k ∨
        (l.foldl c.considerVictim victims).2 = some k → (c.entry k).isEvictable = true := by
    intro l
    induction l with
    | nil => exact fun _ h => h
    | cons j l ih => exact fun victims h => ih _ (considerVictim_evictable h)
  refine hscan (List.range c.entries.length) (none, none) (by simp) k ?_
  simp only [Option.or_eq_some_iff] at h
  exact h.imp id And.right

/-- The entry is the head of the free list, or it may be evicted. -/
def MayReplace (c : PrefixCache) (k : Nat) : Prop :=
  k < c.entries.length ∧ (c.entry k).valid = false ∧ c.freeEntryHead = k ∨
    (c.entry k).isEvictable ∧ c.arena.isAllocated (c.entry k).physicalBlockIndex ∧
      c.arena.referenceCount (c.entry k).physicalBlockIndex = 0

theorem installEntry_wp {i : Installation} (hfits : i.Fits c.blockTokenCount c.operationEpoch)
    (hvictim : c.MayReplace k) :
    wp (installEntry k i) (fun _ c' => ∃ p, c.Installs k i p c')
      (fun e c' => c' = c ∧ e = .capacityExceeded ∧ k < c.entries.length ∧
        (c.entry k).valid = false ∧ c.arena.freeBlockCount = 0) c := by
  unfold installEntry
  simp only [wp_bind, wp_get, wp_ite, wp_throw, wp_onArena, wp_modify, wp_pure]
  rcases hvictim with ⟨hk, hfree, rfl⟩ | ⟨hevict, hblock⟩
  · simp only [not_le.mpr hk, hfree, false_implies, true_and, ne_eq, not_true_eq_false,
      Bool.false_eq_true, not_false_eq_true, forall_const]
    refine wp_mono (KvArena.acquireBlock_wp _) (fun p arena h => ?_)
      (fun _ arena h => ⟨by rw [h.1], by rw [h.2.2]; rfl, hk, h.2.1⟩)
    exact ⟨p, ⟨rfl, rfl, entries_length_setEntry _ _ _, rfl, le_rfl⟩, hk, hfits,
      ⟨c.tick + 1, getD_set_self hk⟩, fun j hj => getD_set_of_ne hj, rfl, rfl, h.2.2,
      .inl ⟨hfree, rfl, rfl, h.2.1, h.1⟩⟩
  · have hvalid : (c.entry k).valid = true ∧ (c.entry k).referenceCount = 0 := by
      simp only [Entry.isEvictable, Bool.and_eq_true, beq_iff_eq] at hevict
      exact ⟨hevict.1.1, hevict.2⟩
    have hk := lt_entries_length_of_valid hvalid.1
    simp only [not_le.mpr hk, hvalid, false_implies, true_and, ne_eq, not_true_eq_false,
      not_false_eq_true, forall_const, and_true]
    refine wp_mono (KvArena.recycleBlock_wp _ _) (fun _ arena h => ?_)
      fun _ _ h => absurd hblock h.2
    exact ⟨_, ⟨rfl, rfl, entries_length_setEntry _ _ _, rfl, le_rfl⟩, hk, hfits,
      ⟨c.tick + 1, getD_set_self hk⟩, fun j hj => getD_set_of_ne hj, rfl, rfl, h.2.2,
      .inr ⟨hevict, rfl, rfl⟩⟩

end PrefixCache

end SparkPipe
