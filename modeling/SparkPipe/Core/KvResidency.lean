import SparkPipe.Core.KvArena
import SparkPipe.Program.Transition
import Mathlib.Data.List.MinMax
import Mathlib.Data.Prod.Lex

/-!
# Ownership and residency of the arena

The arena keeps the number of its resident blocks beside the resident bits of its blocks, and the
two are written apart in every operation. Every operation rewrites one block at a time, so that a
single lemma about a rewritten block (`becomes_stamp`) says who owns what after it, and another
(`Accounted.stamp`) carries the whole accounting.
-/

open Program

namespace SparkPipe

open Function

namespace KvArena

def residentCount (a : KvArena) : Nat := a.blocks.countP KvBlock.resident

/-- The counter is right and within the capacity, residents are allocated, free blocks unreferenced.
-/
structure Accounted (a : KvArena) : Prop where
  count : a.residentBlockCount = a.residentCount
  le_capacity : a.residentBlockCount ≤ a.residentBlockCapacity
  allocated : ∀ p, a.isResident p → a.isAllocated p
  unreferenced : ∀ p, a.isAllocated p = false → a.referenceCount p = 0

def freeBlockCount (a : KvArena) : Nat := a.blocks.countP fun block => !block.allocated

/-- The accounting holds, and a block can be resident. -/
def Housed (a : KvArena) : Prop := a.Accounted ∧ 0 < a.residentBlockCapacity

/-- The accounting holds, and the capacity is the same. -/
def StaysAccounted (a a' : KvArena) : Prop :=
  a'.Accounted ∧ a'.residentBlockCapacity = a.residentBlockCapacity

/-- The block was resident and is not any more. -/
def Evicts (a a' : KvArena) (p : Nat) : Prop := a.isResident p ∧ a'.isResident p = false

variable {a a' : KvArena} {p q n : Nat} {f : KvBlock → KvBlock}
  {b : KvArena} {protectedBlocks : List Nat} {owned : Nat → BlockOwnership} {config : KvArenaConfig}
  {victim : Nat}

theorem lt_physicalBlockCount_of_isAllocated (h : a.isAllocated p) :
    p < a.physicalBlockCount := by
  by_contra hp
  have hblock : a.block p = {} := List.getD_eq_default _ _ (not_lt.mp hp)
  rw [KvArena.isAllocated, hblock] at h
  exact absurd h (by decide)

theorem block_stamp : (a.stamp p n f).block q =
      if p = q ∧ p < a.physicalBlockCount then
        { f (a.block p) with lastUsedEpoch := a.epoch + 1 }
      else a.block q :=
  getD_set _ _ _ _ _

theorem read_stamp {α : Type} (read : KvBlock → α) (hp : p < a.physicalBlockCount)
    (hread : ∀ block epoch, read { block with lastUsedEpoch := epoch } = read block := by
      intros; rfl) :
    read ((a.stamp p n f).block q) = if p = q then read (f (a.block p)) else read (a.block q) := by
  rw [block_stamp, apply_ite read, hread]
  simp only [hp, and_true]

section

variable (hp : p < a.physicalBlockCount)
include hp

theorem isResident_stamp : (a.stamp p n f).isResident q =
      if p = q then (f (a.block p)).resident else a.isResident q :=
  read_stamp KvBlock.resident hp

theorem isAllocated_stamp : (a.stamp p n f).isAllocated q =
      if p = q then (f (a.block p)).allocated else a.isAllocated q :=
  read_stamp KvBlock.allocated hp

theorem referenceCount_stamp : (a.stamp p n f).referenceCount q =
      if p = q then (f (a.block p)).referenceCount else a.referenceCount q :=
  read_stamp KvBlock.referenceCount hp

theorem residentCount_stamp : (a.stamp p n f).residentCount + (if a.isResident p then 1 else 0) =
      a.residentCount + (if (f (a.block p)).resident then 1 else 0) :=
  countP_set_add KvBlock.resident _ {} hp

end

theorem Accounted.stamp (h : a.Accounted) (hp : p < a.physicalBlockCount)
    (hcount : n + (if a.isResident p then 1 else 0) =
      a.residentBlockCount + (if (f (a.block p)).resident then 1 else 0))
    (hle : n ≤ a.residentBlockCapacity)
    (halloc : (f (a.block p)).resident → (f (a.block p)).allocated)
    (href : (f (a.block p)).allocated = false → (f (a.block p)).referenceCount = 0) :
    (a.stamp p n f).Accounted where
  count := by
    have hset := residentCount_stamp (n := n) (f := f) hp
    have hold := h.count
    show n = (a.stamp p n f).residentCount
    omega
  le_capacity := hle
  allocated q := by
    rw [isResident_stamp hp, isAllocated_stamp hp]
    split_ifs
    · exact halloc
    · exact h.allocated q
  unreferenced q := by
    rw [isAllocated_stamp hp, referenceCount_stamp hp]
    split_ifs
    · exact href
    · exact h.unreferenced q

theorem Accounted.stamp_same (h : a.Accounted) (hp : p < a.physicalBlockCount)
    (hres : (f (a.block p)).resident = a.isResident p)
    (halloc : (f (a.block p)).allocated) :
    (a.stamp p a.residentBlockCount f).Accounted :=
  h.stamp hp (by rw [hres]) h.le_capacity (fun _ => halloc)
    fun hfree => absurd (halloc.symm.trans hfree) (by decide)

theorem Accounted.pos_of_isResident (h : a.Accounted) (hres : a.isResident p) :
    0 < a.residentBlockCount := by
  have hp := lt_physicalBlockCount_of_isAllocated (h.allocated p hres)
  have hcount := residentCount_stamp (n := 0)
    (f := fun block => { block with resident := false }) hp
  rw [if_pos hres] at hcount
  have hold := h.count
  simp at hcount
  omega

theorem Accounted.stamp_without (h : a.Accounted) (hp : p < a.physicalBlockCount)
    (hres : (f (a.block p)).resident = false)
    (href : (f (a.block p)).allocated = false → (f (a.block p)).referenceCount = 0) :
    (a.stamp p (a.residentCountWithout p) f).Accounted := by
  have hle := h.le_capacity
  refine h.stamp hp ?_ ?_ (fun htrue => absurd (hres.symm.trans htrue) (by decide)) href
  · rw [hres]
    unfold residentCountWithout
    by_cases hr : a.isResident p = true
    · have hpos := h.pos_of_isResident hr
      simp only [hr, if_true, Bool.false_eq_true, if_false]
      omega
    · simp [hr]
  · unfold residentCountWithout
    split_ifs <;> omega

/-! ### The eviction victim -/

/-- Whether the scan for a victim may choose a block. -/
def isVictim (a : KvArena) (protectedBlocks : List Nat) (index : Nat) : Bool :=
  a.isAllocated index && a.isResident index && !protectedBlocks.contains index

/-- The blocks the scan may choose, in the order of the scan. -/
def victims (a : KvArena) (protectedBlocks : List Nat) : List Nat :=
  (List.range a.physicalBlockCount).filter (a.isVictim protectedBlocks)

section Victim

variable {protectedBlocks : List Nat} {victim : Nat}

theorem isVictim_iff : a.isVictim protectedBlocks p ↔
    a.isAllocated p ∧ a.isResident p ∧ p ∉ protectedBlocks := by
  simp [isVictim, and_assoc]

theorem mem_victims : p ∈ a.victims protectedBlocks ↔ a.isVictim protectedBlocks p = true := by
  refine List.mem_filter.trans (and_iff_right_of_imp fun h => List.mem_range.mpr ?_)
  exact lt_physicalBlockCount_of_isAllocated (isVictim_iff.mp h).1

theorem foldl_victims {β κ : Type} [LinearOrder κ] (candidate : Nat → β) (key : β → κ)
    {scan : Option β → Nat → Option β}
    (hscan : ∀ victim p, scan victim p = if a.isVictim protectedBlocks p then
      List.argAux (fun x y => key x < key y) victim (candidate p) else victim) :
    (List.range a.physicalBlockCount).foldl scan none =
      ((a.victims protectedBlocks).map candidate).argmin key := by
  unfold victims List.argmin
  rw [List.foldl_map, List.foldl_filter]
  exact congrArg (List.foldl · none _) (funext fun victim => funext fun p => hscan victim p)

theorem selectResidentEvictionVictim_eq (a : KvArena) (protectedBlocks : List Nat) :
    a.selectResidentEvictionVictim protectedBlocks = (a.victims protectedBlocks).argmin
        fun p => toLex (a.referenceCount p, a.lastUsedEpoch p) := by
  rw [← List.map_id (a.victims protectedBlocks)]
  refine foldl_victims id _ fun victim p => ?_
  cases victim <;>
    simp only [isVictim, List.argAux, Prod.Lex.toLex_lt_toLex] <;> grind

theorem isVictim_of_select (h : a.selectResidentEvictionVictim protectedBlocks = some victim) :
    a.isVictim protectedBlocks victim = true := by
  rw [selectResidentEvictionVictim_eq] at h
  exact mem_victims.mp (List.argmin_mem h)

/-- The resident blocks that are protected. -/
def protectedResidents (a : KvArena) (protectedBlocks : List Nat) : Finset Nat :=
  (Finset.range a.physicalBlockCount).filter fun p => a.isResident p ∧ p ∈ protectedBlocks

theorem residentCount_eq_card (a : KvArena) :
    a.residentCount = ((Finset.range a.physicalBlockCount).filter fun p => a.isResident p).card :=
  countP_eq_card_filter_range _ _ _

theorem card_protectedResidents_le (a : KvArena) (protectedBlocks : List Nat) :
    (a.protectedResidents protectedBlocks).card ≤ a.residentCount := by
  rw [residentCount_eq_card]
  exact Finset.card_le_card (Finset.monotone_filter_right _ fun _ _ h => h.1)

theorem Accounted.count_of_victims (h : a.Accounted) (hnone : a.victims protectedBlocks = []) :
    a.residentBlockCount = (a.protectedResidents protectedBlocks).card := by
  rw [h.count, residentCount_eq_card]
  refine congrArg Finset.card (Finset.filter_congr fun p _ => ⟨fun hres => ⟨hres, ?_⟩, And.left⟩)
  by_contra hp
  have hmem := mem_victims.mpr (isVictim_iff.mpr ⟨h.allocated p hres, hres, hp⟩)
  rw [hnone] at hmem
  cases hmem

theorem Accounted.evict (h : a.Accounted) (hv : a.isVictim protectedBlocks victim) :
    (a.evictResidentBlock victim).Accounted := by
  obtain ⟨halloc, hres, -⟩ := isVictim_iff.mp hv
  have hpos := h.pos_of_isResident hres
  have hle := h.le_capacity
  refine h.stamp (lt_physicalBlockCount_of_isAllocated halloc) ?_ (by omega) nofun
    (h.unreferenced victim)
  rw [if_pos hres]
  simp only [Bool.false_eq_true, if_false]
  omega

theorem isResident_evictResidentBlock (hv : a.isVictim protectedBlocks victim) :
    (a.evictResidentBlock victim).isResident q = if victim = q then false else a.isResident q :=
  isResident_stamp (lt_physicalBlockCount_of_isAllocated (isVictim_iff.mp hv).1)

end Victim

/-! ### What the operations do to ownership -/

/-- The ownership of every block, as a function of its index. -/
def ownership (a : KvArena) (physicalBlockIndex : Nat) : BlockOwnership :=
  (a.block physicalBlockIndex).ownership

/-- The geometry is the same, and the ownership the given one. -/
structure Reowned (a a' : KvArena) (owned : Nat → BlockOwnership) : Prop where
  ownership : a'.ownership = owned
  physicalBlockCount : a'.physicalBlockCount = a.physicalBlockCount
  blockTokenCount : a'.blockTokenCount = a.blockTokenCount
  residentBlockCapacity : a'.residentBlockCapacity = a.residentBlockCapacity

/-- The accounting is kept as well. -/
structure Becomes (a a' : KvArena) (owned : Nat → BlockOwnership) : Prop
    extends Reowned a a' owned where
  accounted : a.Housed → a'.Accounted

/-- Nothing but residency and recency changed. -/
def SameOwnership (a a' : KvArena) : Prop := a.Becomes a' a.ownership

theorem Becomes.stays (h : a.Becomes a' owned) (ha : a.Housed) :
    a.StaysAccounted a' := ⟨h.accounted ha, h.residentBlockCapacity⟩

theorem Housed.becomes (ha : a.Housed) (h : a.Becomes a' owned) :
    a'.Housed := ⟨h.accounted ha, h.residentBlockCapacity ▸ ha.2⟩

theorem SameOwnership.refl (a : KvArena) : a.SameOwnership a := ⟨⟨rfl, rfl, rfl, rfl⟩, And.left⟩

theorem SameOwnership.reowned (h : a.SameOwnership b) (h' : b.Reowned a' b.ownership) :
    a.Reowned a' a.ownership :=
  ⟨h'.ownership.trans h.ownership, h'.physicalBlockCount.trans h.physicalBlockCount,
    h'.blockTokenCount.trans h.blockTokenCount,
    h'.residentBlockCapacity.trans h.residentBlockCapacity⟩

theorem SameOwnership.trans (h : a.SameOwnership b) (h' : b.SameOwnership a') :
    a.SameOwnership a' := ⟨h.reowned h'.toReowned, fun ha => h'.accounted (ha.becomes h)⟩

section Update

variable {owned : BlockOwnership}

theorem Reowned.read {α : Type} (h : a.Reowned a' (update a.ownership p owned))
    (read : BlockOwnership → α) (q : Nat) :
    read (a'.ownership q) = if q = p then read owned else read (a.ownership q) := by
  rw [h.ownership, update_apply, apply_ite read]

section

variable (h : a.Becomes a' (update a.ownership p owned))
include h

theorem Becomes.isAllocated
    (q : Nat) : a'.isAllocated q = if q = p then owned.allocated else a.isAllocated q :=
  h.read BlockOwnership.allocated q

theorem Becomes.referenceCount (q : Nat) :
    a'.referenceCount q = if q = p then owned.referenceCount else a.referenceCount q :=
  h.read BlockOwnership.referenceCount q

theorem Becomes.generation
    (q : Nat) : a'.generation q = if q = p then owned.generation else a.generation q :=
  h.read BlockOwnership.generation q

theorem Becomes.generation_le
    (hle : a.generation p ≤ owned.generation) (q : Nat) : a.generation q ≤ a'.generation q := by
  rw [h.generation]
  split_ifs with hq
  · rwa [hq]
  · exact le_rfl

theorem Becomes.generation_eq
    (heq : owned.generation = a.generation p) (q : Nat) : a'.generation q = a.generation q := by
  rw [h.generation, ite_eq_right_iff]
  rintro rfl
  exact heq

end

end Update

theorem SameOwnership.generation (h : a.SameOwnership a') (q : Nat) :
    a'.generation q = a.generation q :=
  congrArg BlockOwnership.generation (congrFun h.ownership q)

theorem reowned_stamp (hp : p < a.physicalBlockCount) {owned : BlockOwnership}
    (hf : (f (a.block p)).ownership = owned) :
    a.Reowned (a.stamp p n f) (update a.ownership p owned) where
  ownership := by
    funext q
    rw [ownership, read_stamp KvBlock.ownership hp, hf, update_apply]
    simp only [eq_comm]
    rfl
  physicalBlockCount := by simp [physicalBlockCount, stamp]
  blockTokenCount := rfl
  residentBlockCapacity := rfl

theorem becomes_stamp (hp : p < a.physicalBlockCount) {owned : BlockOwnership}
    (hf : (f (a.block p)).ownership = owned)
    (hacc : a.Accounted → (a.stamp p n f).Accounted) :
    a.Becomes (a.stamp p n f) (update a.ownership p owned) :=
  ⟨reowned_stamp hp hf, fun ha => hacc ha.1⟩

theorem reowned_stamp_self (hp : p < a.physicalBlockCount)
    (hf : (f (a.block p)).ownership = (a.block p).ownership) :
    a.Reowned (a.stamp p n f) a.ownership := by
  have h := reowned_stamp (n := n) hp hf
  rwa [show update a.ownership p (a.block p).ownership = a.ownership from
    update_eq_self p a.ownership] at h

theorem acquireBlock_wp (a : KvArena) : wp acquireBlock
      (fun p a' => p < a.physicalBlockCount ∧ a.isAllocated p = false ∧
        a.Becomes a' (update a.ownership p ⟨true, 0, a.generation p + 1⟩))
      (fun e a' => a' = a ∧ a.freeBlockCount = 0 ∧ e = .capacityExceeded) a := by
  unfold wp acquireBlock
  cases hfind : a.blocks.findIdx? fun block => !block.allocated with
  | none =>
    refine ⟨rfl, List.countP_eq_zero.mpr fun b hb => ?_, rfl⟩
    simp [List.findIdx?_eq_none_iff.mp hfind b hb]
  | some p =>
    obtain ⟨hlt, hfree⟩ := findIdx?_some_getD {} hfind
    have hfree : a.isAllocated p = false := (Bool.not_eq_true' _).mp hfree
    refine ⟨hlt, hfree, becomes_stamp hlt rfl fun h => ?_⟩
    -- a free block is not resident, so that the counter stays
    have hres : a.isResident p = false := by
      by_contra hres
      exact absurd (hfree.symm.trans (h.allocated p (by simpa using hres))) (by decide)
    exact h.stamp hlt (by simp [hres]) h.le_capacity nofun nofun

theorem recycleBlock_wp (a : KvArena) (p : Nat) : wp (recycleBlock p)
      (fun _ a' => a.isAllocated p ∧ a.referenceCount p = 0 ∧
        a.Becomes a' (update a.ownership p ⟨true, 0, a.generation p + 1⟩))
      (fun _ a' => a' = a ∧ ¬(a.isAllocated p ∧ a.referenceCount p = 0)) a := by
  unfold wp recycleBlock
  by_cases halloc : a.isAllocated p = true
  · by_cases href : a.referenceCount p = 0
    · have hp := lt_physicalBlockCount_of_isAllocated halloc
      simp only [halloc, href, Bool.not_true, Bool.false_eq_true, if_false, ne_eq,
        not_true_eq_false, true_and]
      exact becomes_stamp hp (congrArg (BlockOwnership.mk true · _) href) fun h =>
        h.stamp_without hp rfl nofun
    · simp [halloc, href]
  · simp [halloc]

theorem retainBlock_wp (a : KvArena) (p : Nat) : wp (retainBlock p)
      (fun _ a' => a.isAllocated p ∧ a.Becomes a' (update a.ownership p
          ⟨true, a.referenceCount p + 1, a.generation p⟩))
      (fun e a' => a' = a ∧ a.isAllocated p = false ∧ e = .invalidArgument) a := by
  unfold wp retainBlock
  by_cases halloc : a.isAllocated p = true
  · have hp := lt_physicalBlockCount_of_isAllocated halloc
    simp only [halloc, Bool.not_true, Bool.false_eq_true, if_false, true_and]
    exact becomes_stamp hp (congrArg (BlockOwnership.mk · _ _) halloc) fun h =>
      h.stamp_same hp rfl halloc
  · simp [halloc]

theorem releaseBlockReference_wp (a : KvArena) (p : Nat) : wp (releaseBlockReference p)
      (fun _ a' => a.isAllocated p ∧ a.referenceCount p ≠ 0 ∧
        a.Becomes a' (update a.ownership p ⟨true, a.referenceCount p - 1, a.generation p⟩))
      (fun _ a' => a' = a ∧ (a.isAllocated p = false ∨ a.referenceCount p = 0)) a := by
  unfold wp releaseBlockReference
  by_cases halloc : a.isAllocated p = true
  · by_cases href : a.referenceCount p = 0
    · simp [halloc, href]
    · have hp := lt_physicalBlockCount_of_isAllocated halloc
      simp only [halloc, href, Bool.not_true, Bool.false_eq_true, or_self, if_false, ne_eq,
        not_false_eq_true, true_and]
      exact becomes_stamp hp (congrArg (BlockOwnership.mk · _ _) halloc) fun h =>
        h.stamp_same hp rfl halloc
  · simp [halloc]

theorem freeBlock_wp (halloc : a.isAllocated p) (href : a.referenceCount p = 0) :
    wp (freeBlock p)
      (fun _ a' => a.Becomes a' (update a.ownership p ⟨false, 0, a.generation p + 1⟩))
      (fun _ _ => False) a := by
  have hp := lt_physicalBlockCount_of_isAllocated halloc
  unfold wp freeBlock
  simp only [not_le.mpr hp, halloc, href, Bool.not_true, Bool.false_eq_true, if_false, ne_eq,
    not_true_eq_false]
  exact becomes_stamp hp (congrArg (BlockOwnership.mk false · _) href) fun h =>
    h.stamp_without hp rfl fun _ => href

theorem freeBlock_accounted (p : Nat) (h : a.Accounted) :
    ends (freeBlock p) a.StaysAccounted a := by
  unfold ends wp freeBlock
  split_ifs with hrange halloc href
  · exact ⟨h, rfl⟩
  · exact ⟨h, rfl⟩
  · exact ⟨h, rfl⟩
  · exact ⟨h.stamp_without (not_le.mp hrange) rfl fun _ => not_not.mp href, rfl⟩

/-! ### Residency management keeps ownership -/

theorem sameOwnership_evictResidentBlock (hv : a.isVictim protectedBlocks p) :
    a.SameOwnership (a.evictResidentBlock p) :=
  ⟨reowned_stamp_self (lt_physicalBlockCount_of_isAllocated (isVictim_iff.mp hv).1) rfl,
    fun ha => ha.1.evict hv⟩

theorem trimLoop_wp {I : Nat → KvArena → Prop} {target : Nat}
    (hevict : ∀ {fuel b victim}, I (fuel + 1) b → b.isVictim protectedBlocks victim →
      I fuel (b.evictResidentBlock victim)) :
    ∀ (fuel evicted : Nat) {a : KvArena}, I fuel a →
      wp (trimLoop protectedBlocks target fuel evicted)
        (fun _ a' => ∃ n, I n a' ∧ (n = 0 ∨ a'.residentBlockCount ≤ target))
        (fun _ a' => ∃ n, I n a') a
  | 0, _, _, h => ⟨0, h, .inl rfl⟩
  | fuel + 1, evicted, a, h => by
      unfold wp trimLoop
      by_cases hcount : target < a.residentBlockCount
      · rw [if_pos hcount]
        cases hselect : a.selectResidentEvictionVictim protectedBlocks with
        | none => exact ⟨_, h⟩
        | some =>
          exact trimLoop_wp hevict fuel (evicted + 1) (hevict h (isVictim_of_select hselect))
      · rw [if_neg hcount]
        exact ⟨_, h, .inr (not_lt.mp hcount)⟩

theorem trimLoop_sameOwnership (protectedBlocks : List Nat) (target fuel : Nat) (a : KvArena) :
    ends (trimLoop protectedBlocks target fuel 0) a.SameOwnership a :=
  wp_mono (trimLoop_wp (fun h hv => h.trans (sameOwnership_evictResidentBlock hv)) fuel 0 (.refl a))
    (fun _ _ ⟨_, h, _⟩ => h) fun _ _ ⟨_, h⟩ => h

theorem trimResidentBlocks_wp (protectedBlocks : List Nat) (target : Nat) (a : KvArena) :
    ends (trimResidentBlocks protectedBlocks target) a.SameOwnership a := by
  unfold ends wp trimResidentBlocks
  split_ifs
  · exact .refl a
  · exact trimLoop_sameOwnership protectedBlocks target _ a

theorem makeRoomForResidentBlocks_wp (protectedBlocks : List Nat) (n : Nat) (a : KvArena) :
    ends (makeRoomForResidentBlocks protectedBlocks n) a.SameOwnership a := by
  unfold ends makeRoomForResidentBlocks
  by_cases hcap : a.residentBlockCapacity < n
  · simpa [wp, hcap] using .refl a
  · by_cases hroom : a.residentBlockCount + n ≤ a.residentBlockCapacity
    · simpa [wp, hcap, hroom] using .refl a
    · have h := trimLoop_sameOwnership protectedBlocks (a.residentBlockCapacity - n)
        (a.residentBlockCount - (a.residentBlockCapacity - n)) a
      simp only [wp, hcap, hroom, if_false]
      exact wp_bind _ |>.mpr (wp_post h fun _ _ h => h)

theorem markBlockNonresident_wp (p : Nat) (a : KvArena) :
    ends (markBlockNonresident p) a.SameOwnership a := by
  unfold ends wp markBlockNonresident
  split_ifs with halloc
  · exact .refl a
  · have hp := lt_physicalBlockCount_of_isAllocated (by simpa using halloc)
    exact ⟨reowned_stamp_self hp rfl, fun ha => ha.1.stamp_without hp rfl (ha.1.unreferenced p)⟩

theorem evictLoop_wp (limit : Nat) (protectedBlocks : List Nat) :
    ∀ (fuel evicted : Nat) (a : KvArena),
      ends (evictLoop limit protectedBlocks fuel evicted) a.SameOwnership a
  | 0, _, a => .refl a
  | fuel + 1, evicted, a => by
      unfold evictLoop
      rw [ends, wp_read, wp_ite]
      refine ⟨fun _ => ?_, fun _ => .refl a⟩
      cases a.selectResidentEvictionVictim protectedBlocks with
      | none => exact .refl a
      | some victim =>
        refine (wp_bind _).mpr (wp_post (markBlockNonresident_wp victim a) ?_)
        exact fun _ b h => ends_mono (evictLoop_wp limit protectedBlocks fuel (evicted + 1) b)
          fun _ h' => h.trans h'

theorem evictResidentBlocksToLimit_wp (limit : Nat) (protectedBlocks : List Nat) (a : KvArena) :
    ends (evictResidentBlocksToLimit limit protectedBlocks) a.SameOwnership a :=
  evictLoop_wp limit protectedBlocks _ 0 a

/-! ### The loops -/

/-- The accounting stays, and protected blocks keep their residency. -/
structure Trims (protectedBlocks : List Nat) (a a' : KvArena) : Prop where
  accounted : a'.Accounted
  residency : ∀ p ∈ protectedBlocks, a'.isResident p = a.isResident p

theorem Accounted.trims (h : a.Accounted) (protectedBlocks : List Nat) :
    Trims protectedBlocks a a := ⟨h, fun _ _ => rfl⟩

theorem Trims.evict (h : Trims protectedBlocks a b)
    (hv : b.isVictim protectedBlocks victim) :
    Trims protectedBlocks a (b.evictResidentBlock victim) := by
  refine ⟨h.accounted.evict hv, fun p hp => ?_⟩
  have hne : victim ≠ p := by
    rintro rfl
    exact (isVictim_iff.mp hv).2.2 hp
  rw [isResident_evictResidentBlock hv, if_neg hne, h.residency p hp]

theorem trimResidentBlocks_accounted (protectedBlocks : List Nat) (target : Nat) (h : a.Accounted) :
    wp (trimResidentBlocks protectedBlocks target)
      (fun _ a' => Trims protectedBlocks a a' ∧ a'.residentBlockCount ≤ target)
      (fun _ a' => Trims protectedBlocks a a') a := by
  unfold wp trimResidentBlocks
  split_ifs
  · exact h.trims protectedBlocks
  refine wp_mono (trimLoop_wp (I := fun rounds a' => Trims protectedBlocks a a' ∧
    a'.residentBlockCount ≤ target + rounds) (fun h hv => ⟨h.1.evict hv, ?_⟩) _ 0
      ⟨h.trims protectedBlocks, by omega⟩) ?_ fun _ _ ⟨_, h, _⟩ => h
  · show _ - 1 ≤ _
    omega
  · rintro _ a' ⟨rounds, ⟨htrims, hcount⟩, hend⟩
    exact ⟨htrims, by omega⟩

/-! ### Marking a block resident -/

theorem makeRoom_accounted (h : a.Accounted) (hcap : 0 < a.residentBlockCapacity)
    (hp : a.isResident p = false) :
    wp (makeRoomForResidentBlocks [p] 1)
      (fun _ a' => a'.Accounted ∧ a'.residentBlockCount < a'.residentBlockCapacity ∧
        (a' = a ∨ ∃ victim, a.isVictim [p] victim ∧ a' = a.evictResidentBlock victim))
      (fun _ _ => False) a := by
  have hle := h.le_capacity
  unfold makeRoomForResidentBlocks
  by_cases hroom : a.residentBlockCount + 1 ≤ a.residentBlockCapacity
  · simp only [wp, not_lt.mpr (Nat.succ_le_of_lt hcap), hroom, if_false, if_true]
    exact ⟨h, hroom, .inl trivial⟩
  -- the arena is full of residents, so that a block other than `p` can be evicted
  have hrounds : a.residentBlockCount - (a.residentBlockCapacity - 1) = 1 := by omega
  have hvictim : ∃ victim, a.selectResidentEvictionVictim [p] = some victim := by
    cases hselect : a.selectResidentEvictionVictim [p] with
    | some victim => exact ⟨victim, rfl⟩
    | none =>
      rw [selectResidentEvictionVictim_eq, List.argmin_eq_none] at hselect
      have hcount := h.count_of_victims hselect
      have hnone : a.protectedResidents [p] = ∅ :=
        Finset.filter_eq_empty_iff.mpr fun q _ hq => by
          rw [List.mem_singleton.mp hq.2, hp] at hq
          cases hq.1
      rw [hnone, Finset.card_empty] at hcount
      omega
  obtain ⟨victim, hselect⟩ := hvictim
  have hv := isVictim_of_select hselect
  have hexcess : a.residentBlockCapacity - 1 < a.residentBlockCount := by omega
  have hloop : trimResidentBlocksInner [p] (a.residentBlockCapacity - 1) a =
      .ok 1 (a.evictResidentBlock victim) := by
    unfold trimResidentBlocksInner
    rw [hrounds]
    simp only [trimLoop, if_pos hexcess, hselect]
    rfl
  simp only [wp, not_lt.mpr (Nat.succ_le_of_lt hcap), hroom, if_false, bind_of_ok hloop]
  refine ⟨h.evict hv, ?_, .inr ⟨victim, hv, rfl⟩⟩
  show a.residentBlockCount - 1 < a.residentBlockCapacity
  omega

/-- The block with its resident bit set. -/
def mark (a : KvArena) (p n : Nat) : KvArena :=
  a.stamp p n fun block => { block with resident := true }

theorem isResident_mark (hp : p < a.physicalBlockCount) :
    (a.mark p n).isResident q = if p = q then true else a.isResident q := isResident_stamp hp

theorem Accounted.mark (h : b.Accounted) (hp : b.isAllocated p)
    (hcount : n + (if b.isResident p then 1 else 0) = b.residentBlockCount + 1)
    (hle : n ≤ b.residentBlockCapacity) (hevicts : ∀ q, a.Evicts b q → q = victim) :
    (b.mark p n).Accounted ∧ (b.mark p n).isResident p ∧
      ∃ victim, ∀ q, a.Evicts (b.mark p n) q → q = victim := by
  have hlt := lt_physicalBlockCount_of_isAllocated hp
  refine ⟨h.stamp hlt hcount hle (fun _ => hp) (h.unreferenced p), ?_, victim, fun q hq => ?_⟩
  · rw [isResident_mark hlt, if_pos rfl]
  · have hafter := hq.2
    rw [isResident_mark hlt] at hafter
    split_ifs at hafter
    exact hevicts q ⟨hq.1, hafter⟩

theorem Evicts.eq_victim (hv : a.isVictim protectedBlocks victim)
    (h : a.Evicts (a.evictResidentBlock victim) q) : q = victim := by
  have hafter := h.2
  rw [isResident_evictResidentBlock hv, h.1] at hafter
  split_ifs at hafter with heq
  exact heq.symm

theorem markBlockResident_accounted (h : a.Accounted) (hcap : 0 < a.residentBlockCapacity)
    (hp : a.isAllocated p) :
    wp (markBlockResident p) (fun _ a' => a'.Accounted ∧ a'.isResident p ∧
        ∃ victim, ∀ q, a.Evicts a' q → q = victim)
      (fun _ _ => False) a := by
  have hle := h.le_capacity
  have hkeep : ∀ q, a.Evicts a q → q = p := fun _ hq => absurd (hq.1.symm.trans hq.2) (by decide)
  unfold markBlockResident
  simp only [wp_bind, wp_get, wp_ite, wp_throw, wp_modify, hp]
  refine ⟨by simp, fun _ => ⟨fun hres => ?_, fun hres => ?_⟩⟩
  · have hres : a.isResident p = false := by simpa using hres
    refine wp_post (makeRoom_accounted h hcap hres) fun _ b hb => ?_
    obtain ⟨hacc, hroom, hchange⟩ := hb
    have hkept : b.isAllocated p = true ∧ b.isResident p = false ∧
        ∃ victim, ∀ q, a.Evicts b q → q = victim := by
      rcases hchange with rfl | ⟨victim, hv, rfl⟩
      · exact ⟨hp, hres, p, hkeep⟩
      have hvlt := lt_physicalBlockCount_of_isAllocated (isVictim_iff.mp hv).1
      have hne : victim ≠ p := by
        rintro rfl
        exact (isVictim_iff.mp hv).2.2 (List.mem_singleton_self victim)
      refine ⟨?_, ?_, victim, fun q hq => hq.eq_victim hv⟩
      · rw [evictResidentBlock, isAllocated_stamp hvlt, if_neg hne]
        exact hp
      · rw [isResident_evictResidentBlock hv, if_neg hne]
        exact hres
    obtain ⟨halloc, hunmarked, victim, hvictim⟩ := hkept
    -- the counter is raised before the block is rewritten
    exact hacc.mark halloc (by rw [hunmarked]; rfl) hroom hvictim
  · exact h.mark hp (by simpa using hres) hle hkeep

theorem markBlockResident_reowned (p : Nat) (a : KvArena) :
    wp (markBlockResident p) (fun _ a' => a.Reowned a' a.ownership)
      (fun _ a' => a.SameOwnership a') a := by
  unfold markBlockResident
  simp only [wp_bind, wp_get, wp_ite, wp_throw, wp_modify]
  refine ⟨fun _ => .refl a, fun halloc => ⟨fun _ => ?_, fun _ => ?_⟩⟩
  · have hp := lt_physicalBlockCount_of_isAllocated (by simpa using halloc)
    refine wp_post (makeRoomForResidentBlocks_wp [p] 1 a) fun _ b h => ?_
    show a.Reowned (b.mark p (b.residentBlockCount + 1)) a.ownership
    exact h.reowned (reowned_stamp_self (h.physicalBlockCount ▸ hp) rfl)
  · exact reowned_stamp_self (lt_physicalBlockCount_of_isAllocated (by simpa using halloc)) rfl

theorem markBlockResident_wp (p : Nat) (a : KvArena) :
    ends (markBlockResident p) a.SameOwnership a := by
  refine wp_mono (wp_outcome (markBlockResident_reowned p a))
    (fun _ a' h => ⟨h.1, fun ha => ?_⟩) (fun _ _ h => h.1)
  cases hp : a.isAllocated p with
  | true => exact (wp_ok (markBlockResident_accounted ha.1 ha.2 hp) h.2).1
  | false =>
    have hrun := h.2
    rw [markBlockResident, get_bind, hp] at hrun
    cases hrun

/-! ### New arenas -/

theorem isAllocated_replicate (n tokens p : Nat)
    (h : a.blocks = List.replicate n (makeBlock tokens) := by rfl) :
    a.isAllocated p = false := by
  rw [isAllocated, block, h]
  by_cases hp : p < n
  · simp [hp, makeBlock]
  · simp [hp]

theorem blocks_of_new (h : new config = .ok a) :
    a.blocks = List.replicate config.physicalBlockCount.toNat
      (makeBlock config.blockTokenCount.toNat) := by
  unfold new at h
  split at h
  · cases h
  · cases h
    rfl

theorem isAllocated_reset (a : KvArena) (p : Nat) : a.reset.isAllocated p = false :=
  isAllocated_replicate _ _ p

theorem accounted_fresh {tokens : Nat} (hblocks : a.blocks = List.replicate n (makeBlock tokens))
    (hcount : a.residentBlockCount = 0) : a.Accounted := by
  have hblock : ∀ p, (a.block p).resident = false ∧ (a.block p).referenceCount = 0 := by
    intro p
    rw [block, hblocks]
    by_cases hp : p < n
    · simp [hp, makeBlock]
    · simp [hp]
  refine ⟨?_, ?_, fun p hp => ?_, fun p _ => (hblock p).2⟩
  · rw [hcount, residentCount, hblocks, List.countP_replicate]
    simp [makeBlock]
  · rw [hcount]
    exact Nat.zero_le _
  · exact absurd ((hblock p).1.symm.trans hp) (by decide)

theorem housed_of_new (h : new config = .ok a) : a.Housed := by
  have hblocks := blocks_of_new h
  unfold new at h
  split at h
  · cases h
  rename_i hvalid
  cases h
  refine ⟨accounted_fresh hblocks rfl, ?_⟩
  simp only [not_or] at hvalid
  have hpos : ∀ {x : UInt32}, x ≠ 0 → 0 < x.toNat := fun hx =>
    Nat.pos_of_ne_zero fun hzero => hx (UInt32.toNat_inj.mp hzero)
  dsimp only
  split_ifs with hcap
  · exact hpos hcap
  · exact hpos hvalid.1

end KvArena

/-! ### Runs -/

inductive ArenaOp
  | acquireBlock
  | recycleBlock (physicalBlockIndex : Nat)
  | retainBlock (physicalBlockIndex : Nat)
  | releaseBlockReference (physicalBlockIndex : Nat)
  | markBlockResident (physicalBlockIndex : Nat)
  | markBlockNonresident (physicalBlockIndex : Nat)
  | freeBlock (physicalBlockIndex : Nat)
  | trimResidentBlocks (protectedBlocks : List Nat) (targetResidentBlockCount : Nat)
  | evictResidentBlocksToLimit (maxResidentBlockCount : Nat) (protectedBlocks : List Nat)
  | reset
  deriving DecidableEq

namespace ArenaOp

/-- The state an operation leaves, whether it succeeds or not. -/
def exec (op : ArenaOp) (a : KvArena) : KvArena :=
  match op with
  | .acquireBlock => finalState (KvArena.acquireBlock a)
  | .recycleBlock p => finalState (KvArena.recycleBlock p a)
  | .retainBlock p => finalState (KvArena.retainBlock p a)
  | .releaseBlockReference p => finalState (KvArena.releaseBlockReference p a)
  | .markBlockResident p => finalState (KvArena.markBlockResident p a)
  | .markBlockNonresident p => finalState (KvArena.markBlockNonresident p a)
  | .freeBlock p => finalState (KvArena.freeBlock p a)
  | .trimResidentBlocks blocks target => finalState (KvArena.trimResidentBlocks blocks target a)
  | .evictResidentBlocksToLimit limit blocks =>
    finalState (KvArena.evictResidentBlocksToLimit limit blocks a)
  | .reset => a.reset

open KvArena

variable {a : KvArena}

theorem exec_accounted (op : ArenaOp) (h : a.Housed) : a.StaysAccounted (op.exec a) := by
  have hsame : ∀ {a'}, a' = a → a.StaysAccounted a' := fun heq => by
    rw [heq]
    exact ⟨h.1, rfl⟩
  cases op with
  | acquireBlock =>
    exact wp_finalState (wp_mono (acquireBlock_wp a) (fun _ _ h' => h'.2.2.stays h)
      fun _ _ h' => hsame h'.1)
  | recycleBlock p =>
    exact wp_finalState (wp_mono (recycleBlock_wp a p) (fun _ _ h' => h'.2.2.stays h)
      fun _ _ h' => hsame h'.1)
  | retainBlock p =>
    exact wp_finalState (wp_mono (retainBlock_wp a p) (fun _ _ h' => h'.2.stays h)
      fun _ _ h' => hsame h'.1)
  | releaseBlockReference p =>
    exact wp_finalState (wp_mono (releaseBlockReference_wp a p) (fun _ _ h' => h'.2.2.stays h)
      fun _ _ h' => hsame h'.1)
  | markBlockResident p =>
    exact wp_finalState (ends_mono (markBlockResident_wp p a) fun _ h' => h'.stays h)
  | markBlockNonresident p =>
    exact wp_finalState (ends_mono (markBlockNonresident_wp p a) fun _ h' => h'.stays h)
  | freeBlock p => exact wp_finalState (freeBlock_accounted p h.1)
  | trimResidentBlocks blocks target =>
    exact wp_finalState (ends_mono (trimResidentBlocks_wp blocks target a) fun _ h' => h'.stays h)
  | evictResidentBlocksToLimit limit blocks =>
    exact wp_finalState (ends_mono (evictResidentBlocksToLimit_wp limit blocks a)
      fun _ h' => h'.stays h)
  | reset => exact ⟨accounted_fresh rfl rfl, rfl⟩

theorem run_accounted (h : a.Housed) (ops : List ArenaOp) :
    a.StaysAccounted (runAll exec a ops) := by
  refine runAll_invariant ?_ ops ⟨h.1, rfl⟩
  intro op b hb
  have hop := op.exec_accounted ⟨hb.1, hb.2 ▸ h.2⟩
  exact ⟨hop.1, hop.2.trans hb.2⟩

end ArenaOp

/-- After any operations on a new arena: the counter is the number of resident blocks and within
the capacity of the constructor, resident blocks are allocated and unallocated blocks have no
references. An allocated block can then always be marked resident, at the cost of at most one
other block, and a trim that succeeds reaches its target without touching protected blocks. -/
theorem residency_is_accounted {config : KvArenaConfig} {arena : KvArena}
    (hnew : KvArena.new config = .ok arena) (ops : List ArenaOp) :
    let a := runAll ArenaOp.exec arena ops
    a.Accounted ∧ a.residentBlockCapacity = arena.residentBlockCapacity ∧
      (∀ p, a.isAllocated p = true → ∃ a', KvArena.markBlockResident p a = .ok () a' ∧
        a'.isResident p = true ∧ ∃ victim, ∀ q, a.Evicts a' q → q = victim) ∧
      ∀ protectedBlocks target evicted a',
        KvArena.trimResidentBlocks protectedBlocks target a = .ok evicted a' →
          a'.residentCount ≤ target ∧ ∀ p ∈ protectedBlocks, a'.isResident p = a.isResident p := by
  intro a
  have hnew := KvArena.housed_of_new hnew
  have hpos := hnew.2
  obtain ⟨h, hcap⟩ := ArenaOp.run_accounted hnew ops
  refine ⟨h, hcap, fun p hp => ?_, fun protectedBlocks target evicted a' htrim => ?_⟩
  · have hmark := KvArena.markBlockResident_accounted h (hcap ▸ hpos) hp
    cases hrun : KvArena.markBlockResident p a with
    | ok _ a' => exact ⟨a', rfl, (wp_ok hmark hrun).2⟩
    | error => exact (wp_error hmark hrun).elim
  · obtain ⟨htrims, hle⟩ := wp_ok
      (KvArena.trimResidentBlocks_accounted protectedBlocks target h) htrim
    exact ⟨htrims.accounted.count ▸ hle, htrims.residency⟩

/-- Three blocks of which two may be resident. -/
def tightArenaConfig : KvArenaConfig where
  physicalBlockCount := 3
  blockTokenCount := 2
  residentBlockCapacity := 2
  layerCount := 1
  kvHeadCount := 1
  headDim := 1
  bytesPerScalar := 1
  keyBlockStrideBytes := 0
  valueBlockStrideBytes := 0
  keyDeviceBase := 1
  valueDeviceBase := 0

theorem residency_is_accounted_tight : ∃ arena, KvArena.new tightArenaConfig = .ok arena ∧
    (runAll ArenaOp.exec arena [.acquireBlock, .acquireBlock, .acquireBlock, .markBlockResident 0,
      .retainBlock 0, .markBlockResident 1, .markBlockResident 2, .recycleBlock 2]).Accounted :=
  ⟨_, rfl, (residency_is_accounted (show KvArena.new tightArenaConfig = .ok _ from rfl) _).1⟩

end SparkPipe
