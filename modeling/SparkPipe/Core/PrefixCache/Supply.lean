import SparkPipe.Core.PrefixCache.Consistent

/-!
# What a reservation can still take

A block of a prompt takes a binding, and an installed one also an entry and a block of the arena.
Free entries are used before held ones are evicted, and a free entry needs a free block. Where
the table has more entries than the arena has blocks, the free blocks are therefore all that
counts.
-/

open Program

namespace SparkPipe

/-- An entry that an installation may use: a free one, or an unheld one. -/
def Entry.isAvailable (e : Entry) : Bool := !e.valid || (!e.pending && e.referenceCount == 0)

namespace PrefixCache

/-- There are no more entries than blocks, so installations evict. -/
abbrev Evicts (c : PrefixCache) : Prop := c.entries.length ≤ c.arena.physicalBlockCount

/-- The blocks that installations can still get. -/
def supply (c : PrefixCache) : Nat :=
  if c.Evicts then c.entries.countP Entry.isAvailable
  else c.arena.freeBlockCount

def freeBindingCount (c : PrefixCache) : Nat := c.bindings.countP fun b => !b.valid

variable {c c' d : PrefixCache} {k m n m' n' : Nat}

theorem Consistent.allocated_count (h : c.Consistent) :
    c.arena.blocks.countP (·.allocated) = c.entries.countP (·.valid) := by
  rw [countP_eq_card_filter_range _ {} c.arena.blocks, countP_eq_card_filter_range _ {} c.entries]
  symm
  refine Finset.card_bij (fun k _ => (c.entry k).physicalBlockIndex) (fun k hk => ?_)
    (fun k hk k' hk' heq => ?_) (fun p hp => ?_)
  · obtain ⟨-, hvalid⟩ := Finset.mem_filter.mp hk
    have halloc := (h.block_owned k hvalid).1
    exact Finset.mem_filter.mpr
      ⟨Finset.mem_range.mpr (KvArena.lt_physicalBlockCount_of_isAllocated halloc), halloc⟩
  · exact h.block_injective k k' (Finset.mem_filter.mp hk).2 (Finset.mem_filter.mp hk').2 heq
  · obtain ⟨k, hvalid, hk⟩ := h.block_held p (Finset.mem_filter.mp hp).2
    exact ⟨k, Finset.mem_filter.mpr
      ⟨Finset.mem_range.mpr (lt_entries_length_of_valid hvalid), hvalid⟩, hk⟩

theorem Consistent.freeBlockCount_add (h : c.Consistent) :
    c.arena.freeBlockCount + c.entries.countP (·.valid) = c.arena.physicalBlockCount := by
  rw [← h.allocated_count, Nat.add_comm, KvArena.freeBlockCount, KvArena.physicalBlockCount,
    List.length_eq_countP_add_countP KvBlock.allocated]
  simp

/-! ### What a change takes -/

/-- The change takes so many blocks and bindings. -/
structure Spends (blocks bindings : Nat) (c c' : PrefixCache) : Prop where
  supply : c.supply = c'.supply + blocks
  freeBindingCount : c.freeBindingCount = c'.freeBindingCount + bindings

theorem Spends.trans (h : c.Spends m n d) (h' : d.Spends m' n' c') :
    c.Spends (m + m') (n + n') c' := by
  obtain ⟨hsupply, hbindings⟩ := h
  obtain ⟨hsupply', hbindings'⟩ := h'
  exact ⟨by omega, by omega⟩

theorem Spends.of_counts (h : c.Consistent) (h' : c'.Consistent) (hshape : c.SameShape c')
    (hblocks : c'.arena.physicalBlockCount = c.arena.physicalBlockCount)
    (havailable : c.Evicts → c.entries.countP Entry.isAvailable =
      c'.entries.countP Entry.isAvailable + m)
    (hvalid : ¬c.Evicts → c'.entries.countP (·.valid) = c.entries.countP (·.valid) + m)
    (hbindings : c.freeBindingCount = c'.freeBindingCount + n) : c.Spends m n c' := by
  refine ⟨?_, hbindings⟩
  have hfree := h.freeBlockCount_add
  have hfree' := h'.freeBlockCount_add
  unfold PrefixCache.supply Evicts
  rw [hshape.entryCount, hblocks]
  split_ifs with hle
  · exact havailable hle
  · have hvalid := hvalid hle
    omega

theorem countP_entries (hk : k < c.entries.length) (hcount : c'.entries.length = c.entries.length)
    (hentry : ∀ j, j ≠ k → c'.entry j = c.entry j) (p : Entry → Bool) :
    c'.entries.countP p + (if p (c.entry k) then 1 else 0) =
      c.entries.countP p + (if p (c'.entry k) then 1 else 0) := by
  refine Eq.trans ?_ (countP_set_add p (c'.entry k) {} hk)
  congr 1
  refine countP_congr_getD p {} (by rw [List.length_set, hcount]) fun j => ?_
  rw [getD_set]
  split_ifs with hj
  · rw [← hj.1]
    rfl
  · exact congrArg p (hentry j fun heq => hj ⟨heq.symm, hk⟩)

theorem Quiet.spends (hq : c.Quiet c') (h : c.Consistent) : c.Spends 0 0 c' :=
  .of_counts h (h.quiet hq) hq.toSameShape hq.arena.physicalBlockCount
    (fun _ => (countP_congr_getD _ {} hq.entryCount (hq.entry_eq Entry.isAvailable)).symm)
    (fun _ => countP_congr_getD _ {} hq.entryCount (hq.entry_eq Entry.valid))
    (countP_congr_getD _ {} hq.bindingCount (hq.binding_eq fun b => !b.valid)).symm

theorem Installs.spends {p : Nat} {i : Installation} (hi : c.Installs k i p c') (h : c.Consistent)
    (hfree : ¬c.Evicts → (c.entry k).valid = false) : c.Spends 1 0 c' := by
  have havailable := countP_entries hi.lt hi.entryCount hi.entry_of_ne Entry.isAvailable
  have hvalid := countP_entries hi.lt hi.entryCount hi.entry_of_ne (·.valid)
  obtain ⟨tick, hself⟩ := hi.entry_self
  have htaken : (c.entry k).isAvailable = true := by
    rcases hi.victim with ⟨hfree, -⟩ | ⟨hevictable, -⟩
    · simp [Entry.isAvailable, hfree]
    · simp only [Entry.isEvictable, Bool.and_eq_true] at hevictable
      simp [Entry.isAvailable, hevictable]
  rw [hself] at havailable hvalid
  refine .of_counts h (h.installs hi) hi.toSameShape hi.arena.physicalBlockCount (fun _ => ?_)
    (fun hlt => ?_) (by rw [freeBindingCount, freeBindingCount, hi.bindings, Nat.add_zero])
  · rw [htaken] at havailable
    exact havailable.symm
  · rw [hfree hlt] at hvalid
    exact hvalid

theorem Binds.freeBindingCount {q epoch : Nat} (hb : c.Binds k q epoch c') :
    c.freeBindingCount = c'.freeBindingCount + 1 := by
  obtain ⟨pending, hbindings⟩ := hb.bindings
  have hcount := countP_set_add (fun b : Binding => !b.valid)
    { bindingTo (c.entry k) k q epoch pending with
      reserved := (c.binding c.freeBindingHead).reserved } {} hb.lt
  have hfree : (c.bindings.getD c.freeBindingHead {}).valid = false := hb.free
  rw [PrefixCache.freeBindingCount, PrefixCache.freeBindingCount, hbindings]
  rw [hfree] at hcount
  exact hcount.symm

theorem Binds.spends {q epoch : Nat} (hb : c.Binds k q epoch c') (h : c.Consistent) :
    c.Spends (if c.Evicts ∧ (c.entry k).isAvailable then 1 else 0) 1 c' := by
  have hk := lt_entries_length_of_valid hb.valid
  have havailable := countP_entries hk hb.entryCount hb.entry_of_ne Entry.isAvailable
  have hvalid := countP_entries hk hb.entryCount hb.entry_of_ne (·.valid)
  have hheld : (c'.entry k).isAvailable = false := by
    rw [hb.entry_self]
    simp [Entry.isAvailable, hb.valid]
  rw [hb.entry_self] at hvalid
  refine .of_counts h (h.binds hb) hb.toSameShape hb.arena.physicalBlockCount (fun hle => ?_)
    (fun hlt => ?_) hb.freeBindingCount
  · rw [hheld] at havailable
    simp only [hle, true_and]
    exact havailable.symm
  · rw [if_neg fun hle => hlt hle.1]
    dsimp only at hvalid
    omega

/-! ### Why an installation fails -/

theorem considerVictim_isSome (victims : Option Nat × Option Nat) (j : Nat) :
    ((c.considerVictim victims j).1.or (c.considerVictim victims j).2).isSome =
      ((victims.1.or victims.2).isSome || (c.entry j).isEvictable) := by
  unfold considerVictim
  obtain ⟨victim, victim'⟩ := victims
  cases hj : (c.entry j).isEvictable <;> cases victim <;> cases victim' <;>
    simp only [hj] <;> split_ifs <;> simp_all

theorem foldl_considerVictim_isSome (l : List Nat) (victims : Option Nat × Option Nat) :
    ((l.foldl c.considerVictim victims).1.or (l.foldl c.considerVictim victims).2).isSome =
      ((victims.1.or victims.2).isSome || l.any fun j => (c.entry j).isEvictable) := by
  induction l generalizing victims with
  | nil => simp
  | cons j l ih => rw [List.foldl_cons, ih, considerVictim_isSome, List.any_cons, Bool.or_assoc]

theorem Consistent.valid_of_freeEntryHead (h : c.Consistent) (hhead : c.freeEntryHead = noEntry)
    (hk : k < c.entries.length) : (c.entry k).valid = true := by
  have hlist := h.free_entries
  rw [hhead] at hlist
  simpa using not_and.mp (hlist.not_free_of_head_eq k) hk

theorem Consistent.evicts (h : c.Consistent) (hhead : c.freeEntryHead = noEntry) : c.Evicts := by
  have hall : c.entries.countP (·.valid) = c.entries.length := by
    rw [countP_eq_card_filter_range _ {}, Finset.filter_true_of_mem, Finset.card_range]
    exact fun k hk => h.valid_of_freeEntryHead hhead (Finset.mem_range.mp hk)
  have hcount := h.freeBlockCount_add
  unfold Evicts
  omega

theorem Consistent.free_of_selectVictim (h : c.Consistent) (hk : c.selectVictim = some k)
    (hevicts : ¬c.Evicts) : (c.entry k).valid = false := by
  unfold selectVictim at hk
  split_ifs at hk with hhead hbad
  · cases hk
    simpa using (not_or.mp hbad).2
  · exact absurd (h.evicts (not_not.mp hhead)) hevicts

theorem Consistent.supply_of_selectVictim (h : c.Consistent) (hnone : c.selectVictim = none) :
    c.supply = 0 := by
  unfold selectVictim at hnone
  split_ifs at hnone with hhead hbad
  · obtain ⟨hlt, hfree⟩ := h.free_entries.head_free hhead
    exact absurd hbad (by simp [hlt, hfree])
  have hhead := not_not.mp hhead
  split at hnone
  · cases hnone
  have hscan := foldl_considerVictim_isSome (c := c) (List.range c.entries.length) (none, none)
  rw [hnone] at hscan
  have hheld : ∀ k < c.entries.length, (c.entry k).isEvictable = false := by
    simpa using hscan.symm
  rw [supply, if_pos (h.evicts hhead), countP_eq_card_filter_range _ {}, Finset.card_eq_zero,
    Finset.filter_eq_empty_iff]
  intro k hk
  have hk := Finset.mem_range.mp hk
  have hevict := hheld k hk
  rw [Entry.isEvictable, h.valid_of_freeEntryHead hhead hk] at hevict
  change ¬(!(c.entry k).valid || (!(c.entry k).pending && _ == 0)) = true
  rw [h.valid_of_freeEntryHead hhead hk]
  exact Bool.not_eq_true _ ▸ hevict

theorem Consistent.supply_of_exhausted (h : c.Consistent) (hk : k < c.entries.length)
    (hfree : (c.entry k).valid = false) (hblocks : c.arena.freeBlockCount = 0) : c.supply = 0 := by
  have hcount := h.freeBlockCount_add
  have hlt : c.entries.countP (·.valid) < c.entries.length := by
    rw [List.countP_lt_length_iff]
    refine ⟨c.entry k, ?_, by simp [hfree]⟩
    rw [entry, List.getD_eq_getElem _ _ hk]
    exact List.getElem_mem hk
  rw [supply, if_neg (show ¬c.entries.length ≤ _ by omega), hblocks]

theorem Consistent.freeBindingCount_of_findFreeBinding (h : c.Consistent)
    (hnone : c.findFreeBinding = none) : c.freeBindingCount = 0 := by
  unfold findFreeBinding at hnone
  split_ifs at hnone with hhead hbad
  · have hlist := h.free_bindings
    rw [hhead] at hlist
    rw [freeBindingCount, countP_eq_card_filter_range _ {}, Finset.card_eq_zero,
      Finset.filter_eq_empty_iff]
    intro b hb
    change ¬(!(c.binding b).valid) = true
    simpa using not_and.mp (hlist.not_free_of_head_eq b) (Finset.mem_range.mp hb)
  · obtain ⟨hlt, hfree⟩ := h.free_bindings.head_free hhead
    exact absurd hbad (by simp [hlt, hfree])

end PrefixCache

end SparkPipe
