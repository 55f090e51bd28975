import SparkPipe.Core.PrefixCache.Step

/-!
# The consistency invariant of the prefix cache

Entries, bindings, the two free lists and the arena describe one ownership relation. The
invariant states how they agree; every elementary transition keeps it.
-/

open Program

namespace SparkPipe

variable {e : Entry}

/-- What the free list and the owner of a block read of an entry. -/
def Entry.place (e : Entry) : Bool × Nat × Nat := (e.valid, e.physicalBlockIndex, e.reserved)

/-- What the free list and the references of an entry read of a binding. -/
def Binding.link (b : Binding) : Bool × Nat × Nat × Nat :=
  (b.valid, b.entryIndex, b.acquireEpoch, b.reserved)

/-- An entry without its recency, its protection and its reference count. -/
def Entry.content (e : Entry) : Entry := { e.core with referenceCount := 0 }

/-- What a binding repeats of its entry. -/
def Entry.repeated (e : Entry) : Nat × Nat × Nat × Nat × Nat :=
  (e.firstTokenIndex, e.tokenCount, e.physicalBlockIndex, e.parentHash, e.blockHash)

def Binding.repeated (b : Binding) : Nat × Nat × Nat × Nat × Nat :=
  (b.firstTokenIndex, b.tokenCount, b.physicalBlockIndex, b.parentHash, b.blockHash)

/-- Whether a binding is valid and points at entry `k`. -/
def Binding.bindsEntry (k : Nat) (b : Binding) : Bool := b.valid && b.entryIndex == k

/-- The words a binding repeats agree with its entry. -/
structure Binding.Mirrors (b : Binding) (e : Entry) : Prop where
  valid : e.valid
  firstTokenIndex : b.firstTokenIndex = e.firstTokenIndex
  tokenCount : b.tokenCount = e.tokenCount
  physicalBlockIndex : b.physicalBlockIndex = e.physicalBlockIndex
  parentHash : b.parentHash = e.parentHash
  blockHash : b.blockHash = e.blockHash

/-- The words are in range, and what is shared is full and committed. -/
structure Entry.WellFormed (blockTokenCount operationEpoch : Nat) (e : Entry) : Prop where
  epoch_le : e.reservationEpoch ≤ operationEpoch
  tokenCount_pos : 0 < e.tokenCount
  tokenCount_le : e.tokenCount ≤ blockTokenCount
  aligned : blockTokenCount ∣ e.firstTokenIndex
  full : e.liveOnly = false → e.tokenCount = blockTokenCount
  reusable : e.reusable → e.pending = false ∧ e.liveOnly = false

theorem Entry.WellFormed.mono {blockTokenCount epoch epoch' : Nat}
    (h : e.WellFormed blockTokenCount epoch) (hle : epoch ≤ epoch') :
    e.WellFormed blockTokenCount epoch' :=
  { h with epoch_le := h.epoch_le.trans hle }

theorem Entry.WellFormed.congr {blockTokenCount epoch : Nat} {e' : Entry}
    (h : e.WellFormed blockTokenCount epoch) (heq : e'.content = e.content) :
    e'.WellFormed blockTokenCount epoch := by
  simp only [content, core, mk.injEq] at heq
  constructor <;> simp only [heq]
  exacts [h.epoch_le, h.tokenCount_pos, h.tokenCount_le, h.aligned, h.full, h.reusable]

theorem Binding.mirrors_iff {b : Binding} :
    b.Mirrors e ↔ e.valid ∧ b.repeated = e.repeated := by
  simp only [repeated, Entry.repeated, Prod.mk.injEq]
  exact ⟨fun h => ⟨h.valid, h.firstTokenIndex, h.tokenCount, h.physicalBlockIndex, h.parentHash,
    h.blockHash⟩, fun ⟨hv, h1, h2, h3, h4, h5⟩ => ⟨hv, h1, h2, h3, h4, h5⟩⟩

namespace PrefixCache

/-- Entries, bindings, free lists and arena agree. -/
structure Consistent (c : PrefixCache) : Prop where
  blockTokenCount_pos : 0 < c.blockTokenCount
  entryCount_pos : 0 < c.entries.length
  entryCount_le : c.entries.length ≤ noEntry
  bindingCount_pos : 0 < c.bindings.length
  bindingCount_le : c.bindings.length ≤ noEntry
  blockCount_le : c.arena.physicalBlockCount ≤ noPhysicalBlock
  entry_wellFormed : ∀ k, (c.entry k).valid →
    (c.entry k).WellFormed c.blockTokenCount c.operationEpoch
  block_owned : ∀ k, (c.entry k).valid →
    c.arena.isAllocated (c.entry k).physicalBlockIndex ∧
      c.arena.referenceCount (c.entry k).physicalBlockIndex = (c.entry k).referenceCount
  block_injective : ∀ k k', (c.entry k).valid → (c.entry k').valid →
    (c.entry k).physicalBlockIndex = (c.entry k').physicalBlockIndex → k = k'
  block_held : ∀ p, c.arena.isAllocated p →
    ∃ k, (c.entry k).valid ∧ (c.entry k).physicalBlockIndex = p
  references : ∀ k, (c.entry k).valid →
    (c.entry k).referenceCount = c.bindings.countP (Binding.bindsEntry k)
  binding_mirrors : ∀ b, (c.binding b).valid →
    (c.binding b).Mirrors (c.entry (c.binding b).entryIndex)
  binding_epoch_le : ∀ b, (c.binding b).valid → (c.binding b).acquireEpoch ≤ c.operationEpoch
  free_entries : FreeList (fun k => (c.entry k).reserved) noEntry c.freeEntryHead
    fun k => k < c.entries.length ∧ (c.entry k).valid = false
  free_bindings : FreeList (fun b => (c.binding b).reserved) noEntry c.freeBindingHead
    fun b => b < c.bindings.length ∧ (c.binding b).valid = false

/-- The free list visits every entry that is not valid once, and no other. -/
abbrev ListsFreeEntries (c : PrefixCache) : Prop :=
  FreeList (fun k => (c.entry k).reserved) noEntry c.freeEntryHead
    fun k => k < c.entries.length ∧ (c.entry k).valid = false

/-- The free list visits every binding that is not valid once, and no other. -/
abbrev ListsFreeBindings (c : PrefixCache) : Prop :=
  FreeList (fun b => (c.binding b).reserved) noEntry c.freeBindingHead
    fun b => b < c.bindings.length ∧ (c.binding b).valid = false

variable {c c' : PrefixCache}

theorem Binds.tally {k sequenceId epoch : Nat} (hb : c.Binds k sequenceId epoch c') (j : Nat) :
    c'.bindings.countP (Binding.bindsEntry j) =
      c.bindings.countP (Binding.bindsEntry j) + if j = k then 1 else 0 := by
  obtain ⟨pending, hbindings⟩ := hb.bindings
  have hadd := countP_set_add (Binding.bindsEntry j)
    { bindingTo (c.entry k) k sequenceId epoch pending with
      reserved := (c.binding c.freeBindingHead).reserved } {} hb.lt
  have hold : Binding.bindsEntry j (c.bindings.getD c.freeBindingHead {}) = false := by
    change ((c.binding c.freeBindingHead).valid && _) = false
    rw [hb.free, Bool.false_and]
  have hnew : Binding.bindsEntry j { bindingTo (c.entry k) k sequenceId epoch pending with
      reserved := (c.binding c.freeBindingHead).reserved } = decide (j = k) := by
    change (true && k == j) = _
    rw [Bool.true_and, beq_eq_decide, decide_eq_decide, eq_comm]
  rw [hold, hnew, ← hbindings] at hadd
  simpa using hadd

theorem Unbinds.tally {b : Nat} (hu : c.Unbinds b c') (j : Nat) :
    c'.bindings.countP (Binding.bindsEntry j) + (if j = (c.binding b).entryIndex then 1 else 0) =
      c.bindings.countP (Binding.bindsEntry j) := by
  have hadd := countP_set_add (Binding.bindsEntry j) { reserved := c.freeBindingHead } {}
    (lt_bindings_length_of_valid hu.valid)
  have hold : Binding.bindsEntry j (c.bindings.getD b {}) =
      decide (j = (c.binding b).entryIndex) := by
    change ((c.binding b).valid && (c.binding b).entryIndex == j) = _
    rw [hu.valid, Bool.true_and, beq_eq_decide, decide_eq_decide, eq_comm]
  rw [hold, ← hu.bindings] at hadd
  simpa [Binding.bindsEntry] using hadd

namespace Consistent

variable {b k n : Nat}

theorem referenceCount_ne_zero (h : c.Consistent) (hb : (c.binding b).valid) :
    (c.entry (c.binding b).entryIndex).referenceCount ≠ 0 := by
  rw [h.references _ (h.binding_mirrors b hb).valid]
  have hlt := lt_bindings_length_of_valid hb
  have hmem : c.binding b ∈ c.bindings := by
    rw [binding, List.getD_eq_getElem _ _ hlt]
    exact List.getElem_mem hlt
  have hbinds : (c.binding b).bindsEntry (c.binding b).entryIndex = true := by
    simp [Binding.bindsEntry, hb]
  exact (List.countP_pos_iff.mpr ⟨c.binding b, hmem, hbinds⟩).ne'

theorem entryIndex_ne_of_unreferenced (h : c.Consistent) (hk : (c.entry k).referenceCount = 0)
    (hb : (c.binding b).valid) :
    (c.binding b).entryIndex ≠ k := by
  rintro rfl
  exact h.referenceCount_ne_zero hb hk

/-! ### Bindings that point where they did -/

section Links

variable (hs : c.SameShape c') (hlink : ∀ b, (c'.binding b).link = (c.binding b).link)

include hs hlink

theorem tally_of_links (j : Nat) :
    c'.bindings.countP (Binding.bindsEntry j) = c.bindings.countP (Binding.bindsEntry j) :=
  countP_congr_getD _ {} hs.bindingCount fun b =>
    congrArg (fun l : Bool × Nat × Nat × Nat => l.1 && l.2.1 == j) (hlink b)

theorem epoch_le_of_links (h : c.Consistent) (hb : (c'.binding b).valid) :
    (c'.binding b).acquireEpoch ≤ c'.operationEpoch := by
  have heq := hlink b
  simp only [Binding.link, Prod.mk.injEq] at heq
  rw [heq.2.2.1]
  exact (h.binding_epoch_le b (heq.1 ▸ hb)).trans hs.epoch_mono

theorem free_bindings_of_links (h : c.Consistent)
    (hhead : c'.freeBindingHead = c.freeBindingHead) : c'.ListsFreeBindings := by
  rw [ListsFreeBindings, hhead, hs.bindingCount]
  refine h.free_bindings.congr (fun b _ => congrArg (·.2.2.2) (hlink b)) fun b => ?_
  rw [show (c'.binding b).valid = (c.binding b).valid from congrArg (·.1) (hlink b)]

end Links

/-! ### Entries that keep their blocks -/

section

variable (h : c.Consistent)
include h

theorem sizes (hs : c.SameShape c')
    (hcount : c'.arena.physicalBlockCount = c.arena.physicalBlockCount) :
    0 < c'.blockTokenCount ∧ 0 < c'.entries.length ∧ c'.entries.length ≤ noEntry ∧
      0 < c'.bindings.length ∧ c'.bindings.length ≤ noEntry ∧
      c'.arena.physicalBlockCount ≤ noPhysicalBlock := by
  rw [hs.blockTokenCount, hs.entryCount, hs.bindingCount, hcount]
  exact ⟨h.blockTokenCount_pos, h.entryCount_pos, h.entryCount_le, h.bindingCount_pos,
    h.bindingCount_le, h.blockCount_le⟩

theorem of_places (hs : c.SameShape c')
    (hcount : c'.arena.physicalBlockCount = c.arena.physicalBlockCount)
    (halloc : ∀ p, c'.arena.isAllocated p = c.arena.isAllocated p)
    (hplace : ∀ j, (c'.entry j).place = (c.entry j).place)
    (hhead : c'.freeEntryHead = c.freeEntryHead)
    (hwf : ∀ j, (c.entry j).valid →
      (c'.entry j).WellFormed c.blockTokenCount c'.operationEpoch)
    (hrefs : ∀ j, (c.entry j).valid →
      c'.arena.referenceCount (c.entry j).physicalBlockIndex = (c'.entry j).referenceCount ∧
        (c'.entry j).referenceCount = c'.bindings.countP (Binding.bindsEntry j))
    (hmirrors : ∀ b, (c'.binding b).valid →
      (c'.binding b).Mirrors (c'.entry (c'.binding b).entryIndex))
    (hepoch : ∀ b, (c'.binding b).valid → (c'.binding b).acquireEpoch ≤ c'.operationEpoch)
    (hfree : c'.ListsFreeBindings) : c'.Consistent := by
  have hvalid : ∀ j, (c'.entry j).valid = (c.entry j).valid := fun j => congrArg (·.1) (hplace j)
  have hblock : ∀ j, (c'.entry j).physicalBlockIndex = (c.entry j).physicalBlockIndex :=
    fun j => congrArg (·.2.1) (hplace j)
  obtain ⟨hbtc, hentries, hentries', hbindings, hbindings', hblocks⟩ := h.sizes hs hcount
  constructor <;> try assumption
  case entry_wellFormed =>
    intro j hj
    rw [hs.blockTokenCount]
    exact hwf j (hvalid j ▸ hj)
  case block_owned =>
    intro j hj
    rw [hvalid] at hj
    rw [hblock, halloc]
    exact ⟨(h.block_owned j hj).1, (hrefs j hj).1⟩
  case block_injective => simpa only [hvalid, hblock] using h.block_injective
  case block_held => simpa only [hvalid, hblock, halloc] using h.block_held
  case references => exact fun j hj => (hrefs j (hvalid j ▸ hj)).2
  case free_entries =>
    rw [hhead, hs.entryCount]
    exact h.free_entries.congr (fun j _ => congrArg (·.2.2) (hplace j)) fun j => by rw [hvalid]

theorem of_links (hs : c.SameShape c') (harena : c.arena.SameOwnership c'.arena)
    (hplace : ∀ j, ((c'.entry j).place, (c'.entry j).referenceCount) =
      ((c.entry j).place, (c.entry j).referenceCount))
    (hlink : ∀ b, (c'.binding b).link = (c.binding b).link)
    (hhead : c'.freeEntryHead = c.freeEntryHead)
    (hbhead : c'.freeBindingHead = c.freeBindingHead)
    (hwf : ∀ j, (c.entry j).valid →
      (c'.entry j).WellFormed c.blockTokenCount c'.operationEpoch)
    (hmirrors : ∀ b, (c.binding b).valid →
      (c'.binding b).Mirrors (c'.entry (c.binding b).entryIndex)) : c'.Consistent := by
  refine h.of_places hs harena.physicalBlockCount
    (fun p => congrArg BlockOwnership.allocated (congrFun harena.ownership p))
    (fun j => congrArg (·.1) (hplace j)) hhead hwf (fun j hj => ?_) (fun b hb => ?_)
    (fun b hb => epoch_le_of_links hs hlink h hb) (free_bindings_of_links hs hlink h hbhead)
  · have hrefs : c'.arena.referenceCount (c.entry j).physicalBlockIndex =
        c.arena.referenceCount (c.entry j).physicalBlockIndex :=
      congrArg BlockOwnership.referenceCount (congrFun harena.ownership _)
    rw [hrefs, tally_of_links hs hlink, (Prod.mk.inj (hplace j)).2]
    exact ⟨(h.block_owned j hj).2, h.references j hj⟩
  · have heq := hlink b
    simp only [Binding.link, Prod.mk.injEq] at heq
    rw [heq.2.1]
    exact hmirrors b (heq.1 ▸ hb)

theorem quiet (hq : c.Quiet c') : c'.Consistent := by
  refine h.of_links hq.toSameShape hq.arena
    (fun j => hq.entry_eq (fun e => (e.place, e.referenceCount)) j)
    (fun b => hq.binding_eq Binding.link b) hq.freeEntryHead hq.freeBindingHead
    (fun j hj => ((h.entry_wellFormed j hj).mono hq.epoch_mono).congr
      (hq.entry_eq Entry.content j)) (fun b hb => ?_)
  rw [Binding.mirrors_iff, hq.entry_eq Entry.valid, hq.entry_eq Entry.repeated,
    hq.binding_eq Binding.repeated]
  exact Binding.mirrors_iff.mp (h.binding_mirrors b hb)

theorem wellFormed_commitEntry {epoch : Nat} (hk : (c.entry k).valid)
    (hpending : (c.entry k).pending) :
    (c.commitEntry (c.entry k) epoch).WellFormed c.blockTokenCount c.operationEpoch := by
  have hwf := h.entry_wellFormed k hk
  have hnot : (c.entry k).reusable ≠ true := fun hre => by
    have hcommitted := (hwf.reusable hre).1
    rw [hpending] at hcommitted
    exact absurd hcommitted (by decide)
  unfold commitEntry
  split_ifs with hcond
  · exact ⟨hwf.epoch_le, hwf.tokenCount_pos, hwf.tokenCount_le, hwf.aligned,
      fun _ => hcond.1, fun _ => ⟨rfl, by simpa using hcond.2⟩⟩
  · exact ⟨hwf.epoch_le, hwf.tokenCount_pos, hwf.tokenCount_le, hwf.aligned,
      fun hlive => absurd hlive (by simp), fun hre => absurd hre hnot⟩

theorem commits (hc : c.Commits k c') : c'.Consistent := by
  have hentry : ∀ {α : Type} (f : Entry → α), (∀ epoch, f (c.commitEntry (c.entry k) epoch) =
      f (c.entry k)) → ∀ j, f (c'.entry j) = f (c.entry j) := by
    intro α f hf j
    by_cases hjk : j = k
    · rw [hjk, hc.entry_self, hf]
    · rw [hc.entry_of_ne j hjk]
  have hbinding := binding_congr hc.bindings
  refine h.of_links hc.toSameShape hc.arena
    (hentry (fun e => (e.place, e.referenceCount)) fun epoch => ?_) (fun b => by rw [hbinding])
    hc.freeEntryHead hc.freeBindingHead (fun j hj => ?_) (fun b hb => ?_)
  · unfold commitEntry
    split_ifs <;> rfl
  · by_cases hjk : j = k
    · subst hjk
      rw [hc.entry_self]
      exact (h.wellFormed_commitEntry hc.valid hc.pending).mono hc.epoch_mono
    · rw [hc.entry_of_ne j hjk]
      exact (h.entry_wellFormed j hj).mono hc.epoch_mono
  · rw [hbinding, Binding.mirrors_iff,
      hentry Entry.valid (fun _ => by unfold commitEntry; split_ifs <;> rfl),
      hentry Entry.repeated (fun _ => by unfold commitEntry; split_ifs <;> rfl)]
    exact Binding.mirrors_iff.mp (h.binding_mirrors b hb)

/-! ### Rewriting one entry -/

theorem of_rewritten {p : Nat} (hs : c.SameShape c')
    (hcount : c'.arena.physicalBlockCount = c.arena.physicalBlockCount)
    (halloc : ∀ q, c'.arena.isAllocated q =
      if q = p then (c'.entry k).valid else c.arena.isAllocated q)
    (hrefs : ∀ q, c'.arena.referenceCount q = if q = p then 0 else c.arena.referenceCount q)
    (hother : ∀ j, j ≠ k → c'.entry j = c.entry j) (hbindings : c'.bindings = c.bindings)
    (hbhead : c'.freeBindingHead = c.freeBindingHead)
    (hunbound : ∀ b, (c.binding b).valid → (c.binding b).entryIndex ≠ k)
    (hbefore : (c.entry k).valid → (c.entry k).physicalBlockIndex = p)
    (hafter : (c'.entry k).valid → (c'.entry k).physicalBlockIndex = p ∧
      (c'.entry k).referenceCount = 0 ∧ (c'.entry k).WellFormed c.blockTokenCount c'.operationEpoch)
    (hfresh : ∀ j, j ≠ k → (c.entry j).valid → (c.entry j).physicalBlockIndex ≠ p)
    (hfree : c'.ListsFreeEntries) : c'.Consistent := by
  have hbinding := binding_congr hbindings
  have hlink : ∀ b, (c'.binding b).link = (c.binding b).link := fun b => by rw [hbinding]
  -- Every field about single entries is checked at `k` and at the other entries, which are as
  -- before.
  obtain ⟨hbtc, hentries, hentries', hpos, hle, hblocks⟩ := h.sizes hs hcount
  constructor <;> try assumption
  case entry_wellFormed =>
    intro j hj
    rw [hs.blockTokenCount]
    by_cases hjk : j = k
    · subst hjk
      exact (hafter hj).2.2
    · rw [hother j hjk] at hj ⊢
      exact (h.entry_wellFormed j hj).mono hs.epoch_mono
  case block_owned =>
    intro j hj
    rw [halloc, hrefs]
    by_cases hjk : j = k
    · subst hjk
      rw [(hafter hj).1, if_pos rfl, if_pos rfl]
      exact ⟨hj, (hafter hj).2.1.symm⟩
    · rw [hother j hjk] at hj ⊢
      rw [if_neg (hfresh j hjk hj), if_neg (hfresh j hjk hj)]
      exact h.block_owned j hj
  case block_injective =>
    intro j j' hj hj' heq
    by_cases hjk : j = k
    · by_cases hjk' : j' = k
      · exact hjk.trans hjk'.symm
      · subst hjk
        rw [hother j' hjk'] at hj' heq
        exact absurd (heq.symm.trans (hafter hj).1) (hfresh j' hjk' hj')
    · rw [hother j hjk] at hj heq
      by_cases hjk' : j' = k
      · subst hjk'
        exact absurd (heq.trans (hafter hj').1) (hfresh j hjk hj)
      · rw [hother j' hjk'] at hj' heq
        exact h.block_injective j j' hj hj' heq
  case block_held =>
    intro q hq
    rw [halloc] at hq
    by_cases hqp : q = p
    · rw [if_pos hqp] at hq
      exact ⟨k, hq, (hafter hq).1.trans hqp.symm⟩
    · rw [if_neg hqp] at hq
      obtain ⟨j, hj, hjq⟩ := h.block_held q hq
      have hjk : j ≠ k := by
        rintro rfl
        exact hqp (hjq.symm.trans (hbefore hj))
      exact ⟨j, by rwa [hother j hjk], by rwa [hother j hjk]⟩
  case references =>
    intro j hj
    rw [hbindings]
    by_cases hjk : j = k
    · subst hjk
      rw [(hafter hj).2.1, eq_comm, countP_eq_card_filter_range _ {}, Finset.card_eq_zero,
        Finset.filter_eq_empty_iff]
      intro b _ hb
      simp only [Binding.bindsEntry, Bool.and_eq_true, beq_iff_eq] at hb
      exact hunbound b hb.1 hb.2
    · rw [hother j hjk] at hj ⊢
      exact h.references j hj
  case binding_mirrors =>
    intro b hb
    rw [hbinding] at hb ⊢
    rw [hother _ (hunbound b hb)]
    exact h.binding_mirrors b hb
  case binding_epoch_le => exact fun _ hb => epoch_le_of_links hs hlink h hb
  case free_bindings => exact free_bindings_of_links hs hlink h hbhead

/-! ### Installing an entry -/

section Install

variable {k p : Nat} {i : Installation} (hi : c.Installs k i p c')
include hi

theorem unbound_of_installs (hb : (c.binding b).valid) : (c.binding b).entryIndex ≠ k := by
  rintro rfl
  rcases hi.victim with ⟨hfree, -⟩ | ⟨hevict, -⟩
  · exact absurd (h.binding_mirrors b hb).valid (by simp [hfree])
  · simp only [Entry.isEvictable, Bool.and_eq_true, beq_iff_eq] at hevict
    exact h.referenceCount_ne_zero hb hevict.2

theorem block_ne_of_installs {j : Nat}
    (hj : (c.entry j).valid) (hjk : j ≠ k) : (c.entry j).physicalBlockIndex ≠ p := by
  rintro rfl
  rcases hi.victim with ⟨-, -, -, hfree, -⟩ | ⟨hevict, -, hblock⟩
  · exact absurd (h.block_owned j hj).1 (by simp [hfree])
  · simp only [Entry.isEvictable, Bool.and_eq_true] at hevict
    exact hjk (h.block_injective j k hj hevict.1.1 hblock)

theorem free_entries_installs : c'.ListsFreeEntries := by
  obtain ⟨tick, hself⟩ := hi.entry_self
  have hvalid : (c'.entry k).valid = true := by rw [hself]; rfl
  rw [ListsFreeEntries, hi.entryCount]
  rcases hi.victim with ⟨hfree, hhead, hhead', -⟩ | ⟨hevict, hhead', -⟩
  · rw [hhead']
    have hk : c.freeEntryHead ≠ noEntry := by
      have := hi.lt
      have := h.entryCount_le
      omega
    subst hhead
    refine h.free_entries.pop hk (fun j _ hj => by rw [hi.entry_of_ne j hj]) (fun j => ?_)
    by_cases hjk : j = c.freeEntryHead
    · simp [hjk, hvalid]
    · simp [hi.entry_of_ne j hjk, hjk]
  · rw [hhead']
    have hkvalid : (c.entry k).valid = true := by
      simp only [Entry.isEvictable, Bool.and_eq_true] at hevict
      exact hevict.1.1
    refine h.free_entries.congr (fun j hj => ?_) (fun j => ?_)
    · rw [hi.entry_of_ne j]
      rintro rfl
      exact absurd hkvalid (by simp [hj.2])
    · by_cases hjk : j = k
      · subst hjk
        simp [hvalid, hkvalid]
      · rw [hi.entry_of_ne j hjk]

theorem installs : c'.Consistent := by
  obtain ⟨tick, hself⟩ := hi.entry_self
  refine h.of_rewritten hi.toSameShape hi.arena.physicalBlockCount (fun q => ?_)
    hi.arena.referenceCount hi.entry_of_ne hi.bindings hi.freeBindingHead
    (fun _ hb => h.unbound_of_installs hi hb) (fun hk => ?_) (fun _ => ?_)
    (fun _ hjk hj => h.block_ne_of_installs hi hj hjk) (h.free_entries_installs hi)
  · rw [hself]
    exact hi.arena.isAllocated q
  · rcases hi.victim with ⟨hfree, -⟩ | ⟨-, -, hp⟩
    · exact absurd hk (by simp [hfree])
    · exact hp.symm
  · rw [hself]
    exact ⟨rfl, rfl, hi.fits.epoch_le.trans hi.epoch_mono, hi.fits.tokenCount_pos,
      hi.fits.tokenCount_le, hi.fits.aligned, hi.fits.full,
      fun hre => absurd hre (by simp [Installation.entry])⟩

end Install

/-! ### Binding and unbinding -/

section Bind

variable {k sequenceId epoch : Nat}

theorem free_bindings_binds (hb : c.Binds k sequenceId epoch c') : c'.ListsFreeBindings := by
  have hself : (c'.binding c.freeBindingHead).valid = true := by
    obtain ⟨pending, hnew⟩ := hb.binding_self
    rw [hnew]
    rfl
  have hhead : c.freeBindingHead ≠ noEntry := by
    have := hb.lt
    have := h.bindingCount_le
    omega
  rw [ListsFreeBindings, hb.freeBindingHead, hb.bindingCount]
  refine h.free_bindings.pop hhead (fun b _ hne => by rw [hb.binding_of_ne b hne]) (fun b => ?_)
  by_cases hne : b = c.freeBindingHead
  · simp [hne, hself]
  · simp [hb.binding_of_ne b hne, hne]

theorem binds (hb : c.Binds k sequenceId epoch c') : c'.Consistent := by
  have halloc : ∀ q, c'.arena.isAllocated q = c.arena.isAllocated q := fun q => by
    rw [hb.arena.isAllocated]
    split_ifs with hq
    · rw [hq, (h.block_owned k hb.valid).1]
    · rfl
  refine h.of_places hb.toSameShape hb.arena.physicalBlockCount halloc (hb.entry_eq Entry.place)
    hb.freeEntryHead (fun j hj => ((h.entry_wellFormed j hj).mono hb.epoch_mono).congr
      (hb.entry_eq Entry.content j)) (fun j hj => ?_) (fun b hbv => ?_) (fun b hbv => ?_)
    (h.free_bindings_binds hb)
  · have howned := (h.block_owned j hj).2
    have hcount := h.references j hj
    rw [hb.arena.referenceCount, hb.tally]
    by_cases hjk : j = k
    · subst hjk
      rw [hb.entry_self, if_pos rfl, if_pos rfl]
      exact ⟨congrArg (· + 1) howned, congrArg (· + 1) hcount⟩
    · rw [if_neg fun heq => hjk (h.block_injective j k hj hb.valid heq), if_neg hjk,
        hb.entry_of_ne j hjk]
      exact ⟨howned, hcount⟩
  · rw [Binding.mirrors_iff, hb.entry_eq Entry.valid, hb.entry_eq Entry.repeated]
    by_cases hhead : b = c.freeBindingHead
    · obtain ⟨pending, hnew⟩ := hb.binding_self
      rw [hhead, hnew]
      exact ⟨hb.valid, rfl⟩
    · rw [hb.binding_of_ne b hhead] at hbv ⊢
      exact Binding.mirrors_iff.mp (h.binding_mirrors b hbv)
  · by_cases hhead : b = c.freeBindingHead
    · obtain ⟨pending, hnew⟩ := hb.binding_self
      rw [hhead, hnew]
      exact hb.epoch_le.trans hb.epoch_mono
    · rw [hb.binding_of_ne b hhead] at hbv ⊢
      exact (h.binding_epoch_le b hbv).trans hb.epoch_mono

theorem free_bindings_unbinds (hu : c.Unbinds b c') : c'.ListsFreeBindings := by
  rw [ListsFreeBindings, hu.freeBindingHead, hu.bindingCount]
  exact h.free_bindings.push_cell (lt_bindings_length_of_valid hu.valid) h.bindingCount_le hu.valid
    (by rw [hu.binding_self]) (by rw [hu.binding_self]) fun j hj => by simp [hu.binding_of_ne j hj]

theorem unbinds (hu : c.Unbinds b c') : c'.Consistent := by
  have hm := h.binding_mirrors b hu.valid
  have halloc : ∀ q, c'.arena.isAllocated q = c.arena.isAllocated q := fun q => by
    rw [hu.arena.isAllocated]
    split_ifs with hq
    · rw [hq, hm.physicalBlockIndex, (h.block_owned _ hm.valid).1]
    · rfl
  have hkept : ∀ b', (c'.binding b').valid = true → c'.binding b' = c.binding b' := by
    intro b' hb'
    refine hu.binding_of_ne b' ?_
    rintro rfl
    exact absurd hb' (by simp [hu.binding_self])
  refine h.of_places hu.toSameShape hu.arena.physicalBlockCount halloc (hu.entry_eq Entry.place)
    hu.freeEntryHead (fun j hj => ((h.entry_wellFormed j hj).mono hu.epoch_mono).congr
      (hu.entry_eq Entry.content j)) (fun j hj => ?_) (fun b' hb' => ?_) (fun b' hb' => ?_)
    (h.free_bindings_unbinds hu)
  · have howned := (h.block_owned j hj).2
    have hcount := h.references j hj
    have htally := hu.tally j
    rw [hu.arena.referenceCount, hm.physicalBlockIndex]
    by_cases hjk : j = (c.binding b).entryIndex
    · subst hjk
      rw [if_pos rfl] at htally ⊢
      rw [hu.entry_self]
      exact ⟨congrArg (· - 1) howned, by dsimp only; omega⟩
    · rw [if_neg hjk] at htally
      rw [if_neg fun heq => hjk (h.block_injective j _ hj hm.valid heq), hu.entry_of_ne j hjk]
      exact ⟨howned, by omega⟩
  · have heq := hkept b' hb'
    rw [heq] at hb' ⊢
    rw [Binding.mirrors_iff, hu.entry_eq Entry.valid, hu.entry_eq Entry.repeated]
    exact Binding.mirrors_iff.mp (h.binding_mirrors b' hb')
  · have heq := hkept b' hb'
    rw [heq] at hb' ⊢
    exact (h.binding_epoch_le b' hb').trans hu.epoch_mono

end Bind

/-! ### Invalidating and growing -/

theorem free_entries_invalidates (hi : c.Invalidates k c') : c'.ListsFreeEntries := by
  rw [ListsFreeEntries, hi.freeEntryHead, hi.entryCount]
  exact h.free_entries.push_cell (lt_entries_length_of_valid hi.valid) h.entryCount_le hi.valid
    (by rw [hi.entry_self]) (by rw [hi.entry_self]) fun j hj => by simp [hi.entry_of_ne j hj]

theorem invalidates (hi : c.Invalidates k c') : c'.Consistent := by
  have hself : (c'.entry k).valid = false := by rw [hi.entry_self]
  refine h.of_rewritten hi.toSameShape hi.arena.physicalBlockCount (fun q => ?_)
    hi.arena.referenceCount hi.entry_of_ne hi.bindings hi.freeBindingHead
    (fun _ hb => h.entryIndex_ne_of_unreferenced hi.unreferenced hb) (fun _ => rfl)
    (fun hk => absurd hk (by simp [hself]))
    (fun j hjk hj heq => hjk (h.block_injective j k hj hi.valid heq))
    (h.free_entries_invalidates hi)
  rw [hself]
  exact hi.arena.isAllocated q

theorem binding_unique {b' : Nat} (hb : (c.binding b).valid)
    (hb' : (c.binding b').valid)
    (hsame : (c.binding b').entryIndex = (c.binding b).entryIndex)
    (hone : (c.entry (c.binding b).entryIndex).referenceCount = 1) : b' = b := by
  have hcount := h.references _ (h.binding_mirrors b hb).valid
  rw [hone, countP_eq_card_filter_range _ {}, eq_comm, Finset.card_eq_one] at hcount
  obtain ⟨x, hx⟩ := hcount
  have hmem : ∀ y, (c.binding y).valid = true →
      (c.binding y).entryIndex = (c.binding b).entryIndex → y = x := by
    intro y hy hentry
    have hin : y ∈ (Finset.range c.bindings.length).filter fun j =>
        Binding.bindsEntry (c.binding b).entryIndex (c.bindings.getD j {}) = true := by
      rw [Finset.mem_filter, Finset.mem_range]
      refine ⟨lt_bindings_length_of_valid hy, ?_⟩
      change ((c.binding y).valid && (c.binding y).entryIndex == _) = true
      simp [hy, hentry]
    rw [hx, Finset.mem_singleton] at hin
    exact hin
  rw [hmem b' hb' hsame, hmem b hb rfl]

theorem grows (hg : c.Grows b k c') : c'.Consistent := by
  obtain rfl := hg.entryIndex
  have hm := h.binding_mirrors b hg.valid
  have hwf := h.entry_wellFormed _ hm.valid
  refine h.of_links hg.toSameShape hg.arena (fun j => ?_) (fun b' => ?_) hg.freeEntryHead
    hg.freeBindingHead (fun j hj => ?_) (fun b' hb' => ?_)
  · by_cases hj : j = (c.binding b).entryIndex
    · rw [hj, hg.entry_self]
      rfl
    · rw [hg.entry_of_ne j hj]
  · by_cases hbb : b' = b
    · rw [hbb, hg.binding_self]
      rfl
    · rw [hg.binding_of_ne b' hbb]
  · by_cases hjk : j = (c.binding b).entryIndex
    · rw [hjk, hg.entry_self]
      exact ⟨hwf.epoch_le.trans hg.epoch_mono, h.blockTokenCount_pos, le_rfl, hwf.aligned,
        fun _ => rfl, fun hre => absurd hre (by simp)⟩
    · rw [hg.entry_of_ne j hjk]
      exact (h.entry_wellFormed j hj).mono hg.epoch_mono
  by_cases hbb : b' = b
  · rw [hbb, hg.binding_self, hg.entry_self]
    exact { hm with tokenCount := rfl }
  · -- no other binding shares the grown entry
    have hne : (c.binding b').entryIndex ≠ (c.binding b).entryIndex := fun heq =>
      hbb (h.binding_unique hg.valid hb' heq hg.unshared)
    rw [hg.binding_of_ne b' hbb, hg.entry_of_ne _ hne]
    exact h.binding_mirrors b' hb'

end

/-! ### A cache without entries -/

theorem entry_freeEntries (hc : c.entries = freeEntries n) (k : Nat) : (c.entry k).valid = false ∧
      (k < n → (c.entry k).reserved = if k + 1 < n then k + 1 else noEntry) := by
  rw [entry, hc, freeEntries]
  by_cases hk : k < n
  · simp [hk]
  · simp [hk]

theorem binding_freeBindings (hc : c.bindings = freeBindings n) (b : Nat) :
    (c.binding b).valid = false ∧
      (b < n → (c.binding b).reserved = if b + 1 < n then b + 1 else noEntry) := by
  rw [binding, hc, freeBindings]
  by_cases hb : b < n
  · simp [hb]
  · simp [hb]

theorem of_free {m : Nat} (hpos : 0 < c.blockTokenCount) (hentries : c.entries = freeEntries n)
    (hbindings : c.bindings = freeBindings m) (hn : 0 < n) (hn' : n ≤ noEntry) (hm : 0 < m)
    (hm' : m ≤ noEntry) (hcount : c.arena.physicalBlockCount ≤ noPhysicalBlock)
    (hfree : ∀ p, c.arena.isAllocated p = false) (hentryHead : c.freeEntryHead = 0)
    (hbindingHead : c.freeBindingHead = 0) :
    c.Consistent := by
  have hinvalid : ∀ k, (c.entry k).valid = true → False := fun k hk => by
    simp [(entry_freeEntries hentries k).1] at hk
  have hbinvalid : ∀ b, (c.binding b).valid = true → False := fun b hb => by
    simp [(binding_freeBindings hbindings b).1] at hb
  have hnlen : c.entries.length = n := by simp [hentries, freeEntries]
  have hmlen : c.bindings.length = m := by simp [hbindings, freeBindings]
  constructor
  case blockTokenCount_pos => exact hpos
  case entryCount_pos => rwa [hnlen]
  case entryCount_le => rwa [hnlen]
  case bindingCount_pos => rwa [hmlen]
  case bindingCount_le => rwa [hmlen]
  case blockCount_le => exact hcount
  case entry_wellFormed => exact fun k hk => (hinvalid k hk).elim
  case block_owned => exact fun k hk => (hinvalid k hk).elim
  case block_injective => exact fun k _ hk => (hinvalid k hk).elim
  case block_held => exact fun p hp => absurd hp (by simp [hfree])
  case references => exact fun k hk => (hinvalid k hk).elim
  case binding_mirrors => exact fun b hb => (hbinvalid b hb).elim
  case binding_epoch_le => exact fun b hb => (hbinvalid b hb).elim
  case free_entries =>
    rw [hentryHead]
    exact (FreeList.initial hn hn' fun k hk => (entry_freeEntries hentries k).2 hk).congr
      (fun _ _ => rfl) fun k => by simp [hnlen, (entry_freeEntries hentries k).1]
  case free_bindings =>
    rw [hbindingHead]
    exact (FreeList.initial hm hm' fun b hb => (binding_freeBindings hbindings b).2 hb).congr
      (fun _ _ => rfl) fun b => by simp [hmlen, (binding_freeBindings hbindings b).1]

theorem resets (h : c.Consistent) (hr : c.Resets c') : c'.Consistent := by
  refine of_free (hr.blockTokenCount ▸ h.blockTokenCount_pos) hr.entries hr.bindings
    h.entryCount_pos h.entryCount_le h.bindingCount_pos h.bindingCount_le ?_ ?_ hr.freeEntryHead
    hr.freeBindingHead
  · rw [hr.arena]
    simpa [KvArena.reset, KvArena.physicalBlockCount] using h.blockCount_le
  · intro p
    rw [hr.arena, KvArena.isAllocated_reset]

theorem step {e : Event} (h : c.Consistent) (hs : Step c e c') : c'.Consistent := by
  cases hs with
  | quiet hq => exact h.quiet hq
  | install hi => exact h.installs hi
  | bind hb => exact h.binds hb
  | unbind hu => exact h.unbinds hu
  | invalidate hi => exact h.invalidates hi
  | commit hc => exact h.commits hc
  | grow hg => exact h.grows hg
  | reset hr => exact h.resets hr

theorem evolves {allowed : PrefixCache → Event → Prop} (h : c.Consistent)
    (he : Evolves Step allowed c c') : c'.Consistent :=
  he.invariant (fun _ _ _ hI _ hs => hI.step hs) h

end Consistent

theorem consistent_new {arenaConfig : KvArenaConfig} {config : PrefixCacheConfig} {arena : KvArena}
    (ha : KvArena.new arenaConfig = .ok arena) (hc : new config arena = .ok c) :
    c.Consistent := by
  have hword : ∀ w : UInt32, w.toNat ≤ 0xffffffff := fun w => by
    have := w.toNat_lt
    omega
  have hpos : ∀ w : UInt32, ¬w = 0 → 0 < w.toNat := fun w hw =>
    Nat.pos_of_ne_zero fun h0 => hw (UInt32.toNat_inj.mp h0)
  have hblocks := KvArena.blocks_of_new ha
  unfold new at hc
  split_ifs at hc with hconfig
  simp only [not_or] at hconfig
  cases hc
  exact Consistent.of_free (hpos _ hconfig.1) rfl rfl (hpos _ hconfig.2.2.1) (hword _)
    (hpos _ hconfig.2.2.2.2) (hword _)
    (by simpa [KvArena.physicalBlockCount, hblocks, noPhysicalBlock] using hword _)
    (fun p => KvArena.isAllocated_replicate _ _ p hblocks) rfl rfl

end PrefixCache

end SparkPipe
