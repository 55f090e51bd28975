import Mathlib.Data.List.Count
import SparkPipe.Node.RankDaemon.Ledger
import SparkPipe.Program.Table

/-!
# The cells of the ledger

The cells of the ledger stand for a map from identities to entries. This module says which cell
every operation writes, that the cells stay findable and the counters exact, and what is stored
afterwards. Nothing here depends on the epochs, so it holds however often they wrap.
-/

open Program

namespace SparkPipe

open WorkControl List

namespace LedgerEntry

variable {e : LedgerEntry} {identity : Identity}

theorem isHeld_cell : e.cell.isHeld = e.state.isStored := by
  unfold cell
  cases e.state <;> rfl

theorem cell_eq_held :
    e.cell = .held identity ↔ e.state.isStored ∧ e.identity = identity := by
  unfold cell
  cases e.state <;> simp [LedgerState.isStored]

theorem cell_of_isStored (h : e.state.isStored) : e.cell = .held e.identity :=
  cell_eq_held.mpr ⟨h, rfl⟩

theorem isStored_of_isTerminal (h : e.isTerminal) : e.state.isStored = true := by
  unfold isTerminal at h
  cases hstate : e.state <;> simp_all [LedgerState.isTerminal, LedgerState.isStored]

theorem isActive_iff : e.isActive ↔ e.state.isStored ∧ e.isTerminal = false := by
  rw [isActive, Bool.and_eq_true, Bool.not_eq_true']
  rfl

end LedgerEntry

namespace TransactionLedger

open LedgerEntry

variable {s t s' : TransactionLedger} {id id' : Identity} {e e' : LedgerEntry} {i j : Nat}
  {generation n : Nat}

/-! ### The order of the cells -/

theorem probeOrder_eq (hpos : 0 < n) (hsmall : n ≤ 2 ^ 31) (id : Identity) :
    probeOrder n id = (List.range n).map fun p => (startIndex n id + p) % n := by
  refine map_congr_left fun p hp => ?_
  have hstart : startIndex n id < n := Nat.mod_lt _ hpos
  have hp := mem_range.mp hp
  rw [Nat.mod_eq_of_lt (show startIndex n id + p < 2 ^ 32 by omega)]

theorem mem_probeOrder (hsmall : n ≤ 2 ^ 31) (hi : i < n) (id : Identity) :
    i ∈ probeOrder n id := by
  have hpos := Nat.zero_lt_of_lt hi
  have hstart : startIndex n id < n := Nat.mod_lt _ hpos
  rw [probeOrder_eq hpos hsmall, mem_map]
  by_cases hle : startIndex n id ≤ i
  · refine ⟨i - startIndex n id, mem_range.mpr (by omega), ?_⟩
    rw [Nat.add_sub_cancel' hle, Nat.mod_eq_of_lt hi]
  · refine ⟨i + n - startIndex n id, mem_range.mpr (by omega), ?_⟩
    rw [Nat.add_sub_cancel' (by omega), Nat.add_mod_right, Nat.mod_eq_of_lt hi]

theorem lt_of_mem_probeOrder (hi : i ∈ probeOrder n id) : i < n := by
  obtain ⟨p, hp, rfl⟩ := mem_map.mp hi
  exact Nat.mod_lt _ (Nat.zero_lt_of_lt (mem_range.mp hp))

/-! ### Cells -/

theorem entry_setEntry (hi : i < s.entryCapacity) :
    (s.setEntry i e).entry j = if i = j then e else s.entry j :=
  (getD_set ..).trans (if_congr (and_iff_left hi) rfl rfl)

theorem look_setEntry (hi : i < s.entryCapacity) :
    (s.setEntry i e).look = Function.update s.look i e.cell := by
  funext j
  unfold look
  rw [entry_setEntry hi, Function.update_apply, apply_ite LedgerEntry.cell]
  exact if_congr eq_comm rfl rfl

theorem entry_of_write (hi : i < s.entryCapacity) (hentries : s'.entries = s.entries.set i e) :
    s'.entry j = if i = j then e else s.entry j := by
  rw [← entry_setEntry hi, entry, hentries]
  rfl

theorem lt_of_isStored (h : (s.entry i).state.isStored) : i < s.entryCapacity := by
  by_contra hge
  rw [entry, getD_eq_default _ _ (not_lt.mp hge)] at h
  cases h

theorem entry_mem (hi : i < s.entryCapacity) : s.entry i ∈ s.entries := by
  rw [entry, getD_eq_getElem _ _ hi]
  exact getElem_mem hi

/-- An entry that the ledger stores. -/
def Stored (s : TransactionLedger) (id : Identity) (e : LedgerEntry) : Prop :=
  e ∈ s.entries ∧ e.state.isStored ∧ e.identity = id

theorem stored_iff : s.Stored id e ↔ ∃ i, s.entry i = e ∧ s.look i = .held id := by
  constructor
  · rintro ⟨hmem, hstored, rfl⟩
    obtain ⟨i, hi, rfl⟩ := getElem_of_mem hmem
    have hentry : s.entry i = s.entries[i] := getD_eq_getElem _ _ hi
    exact ⟨i, hentry, by rw [look, hentry, cell_of_isStored hstored]⟩
  · rintro ⟨i, rfl, hlook⟩
    obtain ⟨hstored, hid⟩ := cell_eq_held.mp hlook
    exact ⟨entry_mem (lt_of_isStored hstored), hstored, hid⟩

/-- What is stored is found, the counters are exact, and entries are of the active generation. -/
structure Mapped (s : TransactionLedger) : Prop where
  pos : 0 < s.entryCapacity
  small : s.entryCapacity ≤ 2 ^ 31
  findable : Cell.Findable s.look (probeOrder s.entryCapacity)
  active : s.activeEntryCount = s.entries.countP LedgerEntry.isActive
  terminal : s.terminalEntryCount = s.entries.countP LedgerEntry.isTerminal
  count : s.entryCount = s.activeEntryCount + s.terminalEntryCount
  tombstone : s.tombstoneEntryCount = s.entries.countP LedgerEntry.isTombstone
  valid : ∀ {i}, (s.entry i).state.isStored → identityIsValid (s.entry i).identity ∧
      (s.entry i).identity.controlGeneration = s.activeControlGeneration

theorem Mapped.findInternal_eq_some_iff (h : s.Mapped) :
    s.findInternal id = some i ↔ s.look i = .held id := h.findable.search_eq_some_iff

theorem Mapped.findInternal_eq_none_iff (h : s.Mapped) :
    s.findInternal id = none ↔ ∀ e, ¬s.Stored id e := by
  rw [findInternal, h.findable.search_eq_none_iff]
  refine ⟨fun hnone e hstored => ?_, fun hnone i hlook => ?_⟩
  · obtain ⟨i, -, hlook⟩ := stored_iff.mp hstored
    exact hnone i hlook
  · exact hnone (s.entry i) (stored_iff.mpr ⟨i, rfl, hlook⟩)

theorem Mapped.isValid (h : s.Mapped) : s.isValid = true := by
  have hcount : s.entries.countP LedgerEntry.isActive + s.entries.countP LedgerEntry.isTerminal ≤
      s.entries.length := by
    exact countP_add_countP_le (fun e he => (isActive_iff.mp he).2) _
  have htombstone : s.entries.countP LedgerEntry.isTombstone ≤ s.entries.length :=
    countP_le_length
  have hpos := h.pos
  have hactive := h.active
  have hterminal := h.terminal
  have hentries := h.count
  have hmarks := h.tombstone
  simp only [TransactionLedger.isValid, Bool.and_eq_true, decide_eq_true_eq]
  unfold entryCapacity at hpos ⊢
  refine ⟨⟨⟨⟨⟨?_, ?_⟩, ?_⟩, ?_⟩, ?_⟩, ?_⟩ <;> omega

theorem Mapped.wp_validate {Q : Unit → TransactionLedger → Prop}
    {E : SparkStatus → TransactionLedger → Prop} (h : s.Mapped) : wp validate Q E s ↔ Q () s := by
  rw [validate, wp_read, if_pos h.isValid, wp_pure]

/-! ### Writes -/

theorem Mapped.write (h : s.Mapped) (hi : i < s.entryCapacity)
    (hentries : s'.entries = s.entries.set i e)
    (hgeneration : s'.activeControlGeneration = s.activeControlGeneration)
    (hfindable : Cell.Findable (Function.update s.look i e.cell) (probeOrder s.entryCapacity))
    (hactive : s'.activeEntryCount = s.activeEntryCount -
      (if (s.entry i).isActive then 1 else 0) + if e.isActive then 1 else 0)
    (hterminal : s'.terminalEntryCount = s.terminalEntryCount -
      (if (s.entry i).isTerminal then 1 else 0) + if e.isTerminal then 1 else 0)
    (hcount : s'.entryCount = s'.activeEntryCount + s'.terminalEntryCount)
    (htombstone : s'.tombstoneEntryCount = s.tombstoneEntryCount -
      (if (s.entry i).isTombstone then 1 else 0) + if e.isTombstone then 1 else 0)
    (hnew : e.state.isStored → identityIsValid e.identity ∧
      e.identity.controlGeneration = s.activeControlGeneration) : s'.Mapped := by
  have hcapacity : s'.entryCapacity = s.entryCapacity := by
    rw [entryCapacity, hentries, length_set]
    rfl
  have hlook : s'.look = Function.update s.look i e.cell := by
    rw [← look_setEntry hi]
    funext j
    rw [look, entry_of_write hi hentries, look, entry_setEntry hi]
  have hset p : s'.entries.countP p = s.entries.countP p -
      (if p (s.entry i) then 1 else 0) + if p e then 1 else 0 := by
    rw [hentries, countP_set hi, entry, getD_eq_getElem _ _ hi]
  refine ⟨hcapacity ▸ h.pos, hcapacity ▸ h.small, ?_, ?_, ?_, hcount, ?_, ?_⟩
  · rw [hlook, hcapacity]
    exact hfindable
  · rw [hactive, hset, h.active]
  · rw [hterminal, hset, h.terminal]
  · rw [htombstone, hset, h.tombstone]
  · intro j hj
    rw [entry_of_write hi hentries] at hj ⊢
    rw [hgeneration]
    split_ifs at hj ⊢
    · exact hnew hj
    · exact h.valid hj

theorem Mapped.bumpEpoch (h : s.Mapped) : s.bumpEpoch.Mapped := { h with }

theorem stored_of_write (hi : i < s.entryCapacity) (hentries : s'.entries = s.entries.set i e) :
    s'.Stored id e' ↔ (e' = e ∧ e.cell = .held id) ∨
      ∃ j, j ≠ i ∧ s.entry j = e' ∧ s.look j = .held id := by
  simp only [stored_iff, look, entry_of_write hi hentries]
  constructor
  · rintro ⟨j, rfl, hlook⟩
    split_ifs at hlook ⊢ with hij
    · exact .inl ⟨rfl, hlook⟩
    · exact .inr ⟨j, Ne.symm hij, rfl, hlook⟩
  · rintro (⟨rfl, hcell⟩ | ⟨j, hij, rfl, hlook⟩)
    · exact ⟨i, if_pos rfl, by rw [if_pos rfl, hcell]⟩
    · exact ⟨j, if_neg hij.symm, by rw [if_neg hij.symm, hlook]⟩

theorem Mapped.look_inj (h : s.Mapped) (hi : s.look i = .held id) (hj : s.look j = .held id) :
    i = j := h.findable.distinct hi hj

theorem Mapped.stored_unique (h : s.Mapped) (he : s.Stored id e) (he' : s.Stored id e') :
    e = e' := by
  obtain ⟨i, rfl, hi⟩ := stored_iff.mp he
  obtain ⟨j, rfl, hj⟩ := stored_iff.mp he'
  rw [h.look_inj hi hj]

theorem stored_put (hi : i < s.entryCapacity) (hentries : s'.entries = s.entries.set i e)
    (hcell : e.cell = .held id) (hown : ∀ id', s.look i = .held id' → id' = id)
    (hother : ∀ j, j ≠ i → s.look j ≠ .held id) :
    s'.Stored id' e' ↔ if id' = id then e' = e else s.Stored id' e' := by
  rw [stored_of_write hi hentries, hcell]
  split_ifs with hid
  · subst hid
    refine ⟨?_, fun he => .inl ⟨he, rfl⟩⟩
    rintro (⟨he, -⟩ | ⟨j, hij, -, hj⟩)
    · exact he
    · exact absurd hj (hother j hij)
  rw [stored_iff]
  refine ⟨?_, ?_⟩
  · rintro (⟨-, heq⟩ | ⟨j, -, he, hj⟩)
    · exact absurd (Cell.held.inj heq).symm hid
    · exact ⟨j, he, hj⟩
  · rintro ⟨j, he, hj⟩
    refine .inr ⟨j, ?_, he, hj⟩
    rintro rfl
    exact hid (hown id' hj)

theorem Mapped.stored_rewrite (h : s.Mapped) (hlook : s.look i = .held id)
    (hentries : s'.entries = s.entries.set i e) (hcell : e.cell = .held id) :
    s'.Stored id' e' ↔ if id' = id then e' = e else s.Stored id' e' :=
  stored_put (lt_of_isStored (cell_eq_held.mp hlook).1) hentries hcell
    (fun _ hid => Cell.held.inj (hid.symm.trans hlook)) fun _ hij hj => hij (h.look_inj hj hlook)

theorem stored_insert (hi : i < s.entryCapacity) (hfree : (s.look i).isHeld = false)
    (hentries : s'.entries = s.entries.set i e) (hcell : e.cell = .held id)
    (hnew : ∀ e, ¬s.Stored id e) :
    s'.Stored id' e' ↔ if id' = id then e' = e else s.Stored id' e' := by
  refine stored_put hi hentries hcell (fun _ hid => ?_) fun j _ hj =>
    hnew (s.entry j) (stored_iff.mpr ⟨j, rfl, hj⟩)
  rw [hid] at hfree
  cases hfree

theorem Mapped.stored_remove (h : s.Mapped) (hlook : s.look i = .held id)
    (hentries : s'.entries = s.entries.set i e) (hcell : e.cell = .deleted) :
    s'.Stored id' e' ↔ id' ≠ id ∧ s.Stored id' e' := by
  have hi := lt_of_isStored (cell_eq_held.mp hlook).1
  rw [stored_of_write hi hentries, hcell, stored_iff]
  constructor
  · rintro (⟨-, heq⟩ | ⟨j, hij, he, hj⟩)
    · cases heq
    · refine ⟨?_, j, he, hj⟩
      rintro rfl
      exact hij (h.look_inj hj hlook)
  · rintro ⟨hid, j, he, hj⟩
    refine .inr ⟨j, ?_, he, hj⟩
    rintro rfl
    exact hid (Cell.held.inj (hj.symm.trans hlook))

theorem Mapped.findable_rewrite (h : s.Mapped) (hlook : s.look i = .held id)
    (hcell : e.cell = .held id) :
    Cell.Findable (Function.update s.look i e.cell) (probeOrder s.entryCapacity) := by
  rw [hcell, ← hlook, Function.update_eq_self]
  exact h.findable

/-! ### The elementary writes -/

/-- An entry was observed again. -/
def touchedAt (s : TransactionLedger) (index : Nat) : TransactionLedger :=
  s.setEntry index ((s.entry index).observedAt s.epoch)

/-- A terminal entry gave its cell up. -/
def recycledAt (s : TransactionLedger) (index : Nat) : TransactionLedger :=
  { s.setEntry index { state := .tombstone } with
    entryCount := s.entryCount - 1
    terminalEntryCount := s.terminalEntryCount - 1
    tombstoneEntryCount := s.tombstoneEntryCount + 1 }

/-- An active entry was added. -/
def insertedAt (s : TransactionLedger) (index : Nat) (entry : LedgerEntry) : TransactionLedger :=
  { s.setEntry index entry with
    entryCount := s.entryCount + 1
    activeEntryCount := s.activeEntryCount + 1 }

theorem count_rewrite {count : Nat} {p : LedgerEntry → Bool} (hi : i < s.entryCapacity)
    (hcount : count = s.entries.countP p) :
    count = count - (if p (s.entry i) then 1 else 0) + if p (s.entry i) then 1 else 0 := by
  split_ifs with hp
  · rw [hcount, Nat.sub_add_cancel (countP_pos_iff.mpr ⟨_, entry_mem hi, hp⟩)]
  · rfl

theorem Mapped.touchedAt (h : s.Mapped) (hlook : s.look i = .held id) :
    (s.touchedAt i).Mapped ∧ ∀ id' e', (s.touchedAt i).Stored id' e' ↔
      if id' = id then e' = (s.entry i).observedAt s.epoch else s.Stored id' e' := by
  obtain ⟨hheld, hid⟩ := cell_eq_held.mp hlook
  have hcell : ((s.entry i).observedAt s.epoch).cell = .held id := hlook
  have hi := lt_of_isStored hheld
  exact ⟨h.write hi rfl rfl (h.findable_rewrite hlook hcell) (count_rewrite hi h.active)
    (count_rewrite hi h.terminal) h.count (count_rewrite hi h.tombstone) fun _ => h.valid hheld,
    fun id' e' => h.stored_rewrite hlook rfl hcell⟩

theorem isTombstone_of_isStored (h : e.state.isStored) : e.isTombstone = false := by
  rw [LedgerEntry.isTombstone, decide_eq_false_iff_not]
  intro hstate
  rw [hstate] at h
  cases h

theorem Mapped.recycledAt (h : s.Mapped) (hterminal : (s.entry i).isTerminal) :
    (s.recycledAt i).Mapped ∧ ∀ id' e', (s.recycledAt i).Stored id' e' ↔
      id' ≠ (s.entry i).identity ∧ s.Stored id' e' := by
  have hstored := isStored_of_isTerminal hterminal
  have hlook : s.look i = .held (s.entry i).identity := cell_of_isStored hstored
  have hactive : (s.entry i).isActive = false := by
    rw [LedgerEntry.isActive, show (s.entry i).state.isTerminal = true from hterminal]
    simp
  have hpos : 0 < s.terminalEntryCount := by
    rw [h.terminal, countP_pos_iff]
    exact ⟨s.entry i, (stored_iff.mpr ⟨i, rfl, hlook⟩).1, hterminal⟩
  have hcount := h.count
  refine ⟨h.write (lt_of_isStored hstored) rfl rfl
    (h.findable.delete i) ?_ ?_ ?_ ?_ nofun, fun id' e' => h.stored_remove hlook rfl rfl⟩
  · rw [hactive]
    rfl
  · rw [hterminal]
    rfl
  · show s.entryCount - 1 = s.activeEntryCount + (s.terminalEntryCount - 1)
    omega
  · rw [isTombstone_of_isStored hstored]
    rfl

/-! ### The oldest terminal entry -/

theorem oldest_of_foldl (indexed : List (LedgerEntry × Nat)) (start : Nat × Option Nat) :
    let oldest := indexed.foldl (fun oldest indexed =>
      if indexed.1.isTerminal = true ∧ indexed.1.lastObservedEpoch < oldest.1 then
        (indexed.1.lastObservedEpoch, some indexed.2)
      else oldest) start
    oldest.1 ≤ start.1 ∧ (∀ x ∈ indexed, x.1.isTerminal → oldest.1 ≤ x.1.lastObservedEpoch) ∧
      (oldest = start ∨ ∃ x ∈ indexed, x.1.isTerminal ∧
        oldest = (x.1.lastObservedEpoch, some x.2)) := by
  induction indexed generalizing start with
  | nil => exact ⟨le_rfl, by simp, .inl rfl⟩
  | cons x _ ih =>
    rw [foldl_cons]
    by_cases hx : x.1.isTerminal = true ∧ x.1.lastObservedEpoch < start.1
    · rw [if_pos hx]
      obtain ⟨hle, hall, hfrom⟩ := ih (x.1.lastObservedEpoch, some x.2)
      refine ⟨hle.trans hx.2.le, forall_mem_cons.mpr ⟨fun _ => hle, hall⟩, .inr ?_⟩
      rcases hfrom with hfrom | ⟨y, hy, hterminal, hfrom⟩
      · exact ⟨x, mem_cons_self, hx.1, hfrom⟩
      · exact ⟨y, mem_cons_of_mem x hy, hterminal, hfrom⟩
    · rw [if_neg hx]
      obtain ⟨hle, hall, hfrom⟩ := ih start
      refine ⟨hle, forall_mem_cons.mpr ⟨fun hterminal => ?_, hall⟩,
        hfrom.imp id fun ⟨y, hy, h⟩ => ⟨y, mem_cons_of_mem x hy, h⟩⟩
      exact hle.trans (not_lt.mp fun hlt => hx ⟨hterminal, hlt⟩)

theorem mem_zipIdx_of_entry (h : (s.entry i).isTerminal) :
    (s.entry i, i) ∈ s.entries.zipIdx := by
  have hi := lt_of_isStored (isStored_of_isTerminal h)
  rw [mk_mem_zipIdx_iff_getElem?, entry, getD_eq_getElem _ _ hi,
    List.getElem?_eq_getElem hi]

theorem entry_of_mem_zipIdx (h : (e, i) ∈ s.entries.zipIdx) : s.entry i = e := by
  rw [mk_mem_zipIdx_iff_getElem?] at h
  rw [entry, getD_eq_getElem?_getD, h, Option.getD_some]

theorem oldestTerminalEntry_eq_some (h : s.oldestTerminalEntry = some i) :
    (s.entry i).isTerminal ∧ ∀ j, (s.entry j).isTerminal →
      (s.entry i).lastObservedEpoch ≤ (s.entry j).lastObservedEpoch := by
  obtain ⟨-, hall, hfrom⟩ := oldest_of_foldl s.entries.zipIdx (2 ^ 64 - 1, none)
  rcases hfrom with hfrom | ⟨⟨e, j⟩, hmem, hterminal, hfrom⟩
  · rw [oldestTerminalEntry, hfrom] at h
    cases h
  · rw [oldestTerminalEntry, hfrom] at h
    obtain rfl := Option.some.inj h
    obtain rfl := entry_of_mem_zipIdx hmem
    refine ⟨hterminal, fun j' hj' => ?_⟩
    have hle := hall _ (mem_zipIdx_of_entry hj') hj'
    rwa [hfrom] at hle

theorem oldestTerminalEntry_eq_none (h : s.oldestTerminalEntry = none)
    (hi : (s.entry i).isTerminal) : 2 ^ 64 - 1 ≤ (s.entry i).lastObservedEpoch := by
  obtain ⟨-, hall, hfrom⟩ := oldest_of_foldl s.entries.zipIdx (2 ^ 64 - 1, none)
  rcases hfrom with hfrom | ⟨x, -, -, hfrom⟩
  · have hle := hall _ (mem_zipIdx_of_entry hi) hi
    rwa [hfrom] at hle
  · rw [oldestTerminalEntry, hfrom] at h
    cases h

/-! ### Making room -/

/-- All cells hold an entry. -/
def Full (s : TransactionLedger) : Prop :=
  ∀ i < s.entryCapacity, (s.entry i).state.isStored

/-- A cell into which an identity may be put. -/
def Fits (s : TransactionLedger) (id : Identity) (i : Nat) : Prop :=
  i < s.entryCapacity ∧ (s.look i).isHeld = false ∧ ∃ before after,
    probeOrder s.entryCapacity id = before ++ i :: after ∧ ∀ j ∈ before, s.look j ≠ .vacant

/-- A free cell was there, or the oldest terminal entry was recycled. -/
def Roomy (s t : TransactionLedger) : Prop :=
  ¬s.Full ∧ t = s ∨ s.Full ∧ ∃ j, s.oldestTerminalEntry = some j ∧ t = s.recycledAt j

theorem recycleOldestTerminalEntry_cells : wp recycleOldestTerminalEntry
      (fun _ t => ∃ j, s.oldestTerminalEntry = some j ∧ t = s.recycledAt j)
      (fun error t => t = s ∧ error = .capacityExceeded ∧ s.oldestTerminalEntry = none) s := by
  rw [recycleOldestTerminalEntry, wp_read]
  cases s.oldestTerminalEntry with
  | none => exact ⟨rfl, rfl, rfl⟩
  | some j => exact ⟨j, rfl, rfl⟩

theorem selectInsertionEntry_cells (hsmall : s.entryCapacity ≤ 2 ^ 31) (id : Identity) :
    wp (selectInsertionEntry id) (fun i t => s.Fits id i ∧ t = s.uncounted i)
      (fun error t => t = s ∧ error = .capacityExceeded ∧ s.Full) s := by
  rw [selectInsertionEntry, wp_read]
  cases hplace : Cell.place s.look none (probeOrder s.entryCapacity id) with
  | none =>
    refine ⟨rfl, rfl, fun i hi => ?_⟩
    rw [← isHeld_cell]
    exact Cell.place_eq_none_iff.mp hplace i (mem_probeOrder hsmall hi id)
  | some i =>
    obtain ⟨hfree, before, after, horder, hpassed⟩ := Cell.place_eq_some hplace
    have hmem : i ∈ probeOrder s.entryCapacity id := by simp [horder]
    have hi : i < s.entryCapacity := lt_of_mem_probeOrder hmem
    have hfits : s.Fits id i := ⟨hi, hfree, before, after, horder, hpassed⟩
    rw [wp_bind, wp_set, wp_pure]
    exact ⟨hfits, rfl⟩

theorem not_full_recycledAt (hi : i < s.entryCapacity) : ¬(s.recycledAt i).Full := by
  intro hfull
  have hlt : i < (s.recycledAt i).entryCapacity := by
    rw [entryCapacity, recycledAt, setEntry, length_set]
    exact hi
  have hheld := hfull i hlt
  rw [entry_of_write hi rfl, if_pos rfl] at hheld
  cases hheld

theorem makeRoom_cells (hsmall : s.entryCapacity ≤ 2 ^ 31) (id : Identity) :
    wp (makeRoom id) (fun i u => ∃ t : TransactionLedger, s.Roomy t ∧ t.Fits id i ∧
        u = t.uncounted i)
      (fun error t => t = s ∧ error = .capacityExceeded ∧ s.Full ∧
        s.oldestTerminalEntry = none) s := by
  rw [makeRoom, wp_bind, wp_attempt]
  refine wp_mono (selectInsertionEntry_cells hsmall id) ?_ ?_
  · rintro i u ⟨hfits, rfl⟩
    rw [wp_pure]
    refine ⟨s, .inl ⟨fun hfull => ?_, rfl⟩, hfits, rfl⟩
    have hfree := hfits.2.1
    rw [look, isHeld_cell, hfull i hfits.1] at hfree
    cases hfree
  rintro error t ⟨rfl, rfl, hfull⟩
  rw [wp_bind]
  refine wp_mono recycleOldestTerminalEntry_cells ?_ ?_
  · rintro _ u ⟨j, holdest, rfl⟩
    have hj := lt_of_isStored (isStored_of_isTerminal (oldestTerminalEntry_eq_some holdest).1)
    have hcapacity : (t.recycledAt j).entryCapacity = t.entryCapacity := length_set
    refine wp_mono (selectInsertionEntry_cells (hcapacity ▸ hsmall) id) ?_ ?_
    · rintro i v ⟨hfits, rfl⟩
      exact ⟨_, .inr ⟨hfull, j, holdest, rfl⟩, hfits, rfl⟩
    · rintro error v ⟨-, -, hfull'⟩
      exact absurd hfull' (not_full_recycledAt hj)
  · rintro error u ⟨rfl, rfl, hnone⟩
    exact ⟨rfl, rfl, hfull, hnone⟩

theorem Mapped.roomy (h : s.Mapped) (ht : s.Roomy t) :
    t.Mapped ∧ t.epoch = s.epoch ∧ t.activeControlGeneration = s.activeControlGeneration ∧
      ∀ id e, t.Stored id e → s.Stored id e := by
  rcases ht with ⟨-, rfl⟩ | ⟨-, j, holdest, rfl⟩
  · exact ⟨h, rfl, rfl, fun _ _ he => he⟩
  · obtain ⟨hmapped, hstored⟩ := h.recycledAt (oldestTerminalEntry_eq_some holdest).1
    exact ⟨hmapped, rfl, rfl, fun id e he => ((hstored id e).mp he).2⟩

theorem uncounted_eq (s : TransactionLedger) (i : Nat) :
    s.uncounted i = { s with tombstoneEntryCount :=
      s.tombstoneEntryCount - if (s.entry i).isTombstone then 1 else 0 } := by
  rw [uncounted]
  split_ifs <;> rfl

theorem Mapped.insertedAt (h : s.Mapped) (hfits : s.Fits id i) (hnew : ∀ e, ¬s.Stored id e)
    (hvalid : identityIsValid id)
    (hgeneration : id.controlGeneration = s.activeControlGeneration)
    (hcell : e.cell = .held id) (hactive : e.isActive) :
    ((s.uncounted i).insertedAt i e).Mapped ∧
      ((s.uncounted i).insertedAt i e).entries = s.entries.set i e ∧
      ((s.uncounted i).insertedAt i e).epoch = s.epoch ∧
      ((s.uncounted i).insertedAt i e).activeControlGeneration = s.activeControlGeneration ∧
      ∀ id' e', ((s.uncounted i).insertedAt i e).Stored id' e' ↔
        if id' = id then e' = e else s.Stored id' e' := by
  obtain ⟨hi, hfree, before, after, horder, hpassed⟩ := hfits
  have hfree' : (s.entry i).state.isStored = false := by
    rw [← isHeld_cell]
    exact hfree
  obtain ⟨hstored, hterminal⟩ := isActive_iff.mp hactive
  have hnotTerminal : (s.entry i).isTerminal = false := by
    by_contra hcontra
    rw [isStored_of_isTerminal (Bool.eq_true_of_not_eq_false hcontra)] at hfree'
    cases hfree'
  rw [uncounted_eq]
  refine ⟨h.write hi rfl rfl ?_ ?_ ?_ ?_ ?_ fun _ => ?_, rfl, rfl, rfl,
    fun id' e' => stored_insert hi hfree rfl hcell hnew⟩
  · rw [hcell]
    exact h.findable.write horder hpassed fun j hj =>
      hnew (s.entry j) (stored_iff.mpr ⟨j, rfl, hj⟩)
  · rw [LedgerEntry.isActive, hfree', hactive]
    rfl
  · rw [hnotTerminal, hterminal]
    rfl
  · show s.entryCount + 1 = s.activeEntryCount + 1 + s.terminalEntryCount
    rw [h.count, Nat.add_right_comm]
  · rw [isTombstone_of_isStored hstored]
    rfl
  · rw [(cell_eq_held.mp hcell).2]
    exact ⟨hvalid, hgeneration⟩

/-! ### Generations -/

theorem Mapped.activeEntryCount_eq_zero_iff (h : s.Mapped) :
    s.activeEntryCount = 0 ↔ ∀ id e, s.Stored id e → e.isTerminal = true := by
  rw [h.active, countP_eq_zero]
  constructor
  · rintro hnone id e ⟨hmem, hstored, -⟩
    by_contra hterminal
    exact hnone e hmem (isActive_iff.mpr ⟨hstored, Bool.eq_false_of_not_eq_true hterminal⟩)
  · intro hall e hmem hactive
    obtain ⟨hstored, hterminal⟩ := isActive_iff.mp hactive
    rw [hall e.identity e ⟨hmem, hstored, rfl⟩] at hterminal
    cases hterminal

theorem entry_of_vacant (hentries : s.entries = List.replicate n {}) (i : Nat) :
    s.entry i = {} := by
  rw [entry, hentries, getD_eq_getElem?_getD, List.getElem?_replicate]
  split_ifs <;> rfl

theorem mapped_of_vacant (hpos : 0 < n) (hsmall : n ≤ 2 ^ 31) (generation : Nat) :
    Mapped { entries := List.replicate n {}, activeControlGeneration := generation } := by
  set s : TransactionLedger :=
    { entries := List.replicate n {}, activeControlGeneration := generation } with hs
  have hcapacity : s.entryCapacity = n := length_replicate
  have hentry i : s.entry i = {} := entry_of_vacant rfl i
  have hcount p (hp : p {} = false) : s.entries.countP p = 0 := by
    rw [countP_replicate, hp]
    rfl
  refine ⟨hcapacity ▸ hpos, hcapacity ▸ hsmall, Cell.findable_of_vacant fun i => ?_,
    (hcount _ rfl).symm, (hcount _ rfl).symm, rfl, (hcount _ rfl).symm, fun {i} hi => ?_⟩
  · rw [look, hentry]
    rfl
  · rw [hentry] at hi
    cases hi

theorem Mapped.reset (h : s.Mapped) (generation : Nat) : (s.reset generation).Mapped :=
  mapped_of_vacant h.pos h.small generation

theorem not_stored_reset : ¬(s.reset generation).Stored id e := by
  rintro ⟨hmem, hstored, -⟩
  rw [eq_of_mem_replicate hmem] at hstored
  cases hstored

/-- The generation is the active one, or has replaced one without active entries. -/
def Prepared (s : TransactionLedger) (generation : Nat) (t : TransactionLedger) : Prop :=
  generation = s.activeControlGeneration ∧ t = s ∨ s.activeControlGeneration < generation ∧
      (∀ id e, s.Stored id e → e.isTerminal) ∧ t = s.reset generation

/-- Why a generation is refused. -/
def Unprepared (s : TransactionLedger) (generation : Nat) (error : SparkStatus) : Prop :=
  generation < s.activeControlGeneration ∧ error = .validationFailed ∨
    s.activeControlGeneration < generation ∧
      (¬∀ id e, s.Stored id e → e.isTerminal) ∧ error = .busy

theorem prepareControlGeneration_wp (h : s.Mapped) (hgeneration : generation ≠ 0) :
    wp (prepareControlGeneration generation) (fun _ t => s.Prepared generation t)
      (fun error t => t = s ∧ s.Unprepared generation error) s := by
  rw [prepareControlGeneration, wp_read]
  refine wp_ite.mpr ⟨fun hzero => ?_, fun hne => wp_ite.mpr ⟨fun hsame => .inl ⟨hsame, rfl⟩,
    fun hother => wp_ite.mpr ⟨fun hold => ⟨rfl, .inl ⟨hold, rfl⟩⟩, fun hnew => ?_⟩⟩⟩
  · rw [wp_set]
    refine .inr ⟨by omega, fun id e hstored => ?_, rfl⟩
    -- nothing is stored before the first generation
    obtain ⟨i, rfl, hlook⟩ := stored_iff.mp hstored
    obtain ⟨hvalid, hactive⟩ := h.valid (cell_eq_held.mp hlook).1
    rw [hzero] at hactive
    simp [identityIsValid, hactive] at hvalid
  · have hlt : s.activeControlGeneration < generation := by omega
    refine wp_ite.mpr ⟨fun hbusy => ?_, fun hfree => ?_⟩
    · exact ⟨rfl, .inr ⟨hlt, h.activeEntryCount_eq_zero_iff.not.mp hbusy, rfl⟩⟩
    · rw [wp_set]
      exact .inr ⟨hlt, h.activeEntryCount_eq_zero_iff.mp (not_not.mp hfree), rfl⟩

theorem Mapped.prepared (h : s.Mapped) (ht : s.Prepared generation t) :
    t.Mapped ∧ t.epoch ≤ s.epoch ∧ t.activeControlGeneration = generation := by
  rcases ht with ⟨rfl, rfl⟩ | ⟨-, -, rfl⟩
  · exact ⟨h, le_rfl, rfl⟩
  · exact ⟨h.reset generation, Nat.zero_le _, rfl⟩

/-! ### Observing -/

/-- What an observation answers about an entry. -/
def answerOf (e : LedgerEntry) (fingerprint : Nat) : Observation :=
  if e.payloadFingerprint ≠ fingerprint then .conflict
  else if e.isTerminal then .replayTerminal
  else .replayActive

/-- A known entry was touched, or a new one added. -/
def Answered (t : TransactionLedger) (id : Identity) (fingerprint : Nat) (answer : Observation)
    (s' : TransactionLedger) : Prop :=
  (∃ i, t.look i = .held id ∧ answer = answerOf (t.entry i) fingerprint ∧
    s' = t.bumpEpoch.touchedAt i) ∨
  (∀ e, ¬t.Stored id e) ∧ answer = .new ∧ ∃ r i, t.bumpEpoch.Roomy r ∧ r.Fits id i ∧
    s' = (r.uncounted i).insertedAt i (preparedEntry id fingerprint t.bumpEpoch.epoch)

/-- Why an observation is refused. -/
def Refused (s : TransactionLedger) (id : Identity) (error : SparkStatus)
    (s' : TransactionLedger) : Prop :=
  s' = s ∧ s.Unprepared id.controlGeneration error ∨
    id.controlGeneration = s.activeControlGeneration ∧ error = .capacityExceeded ∧
      (∀ e, ¬s.Stored id e) ∧ s.Full ∧ s.oldestTerminalEntry = none ∧ s' = s.bumpEpoch

theorem observeKnown_cells (i fingerprint : Nat) : wp (observeKnown i fingerprint)
      (fun answer s' => answer.1 = answerOf (s.entry i) fingerprint ∧ s' = s.touchedAt i)
      (fun _ _ => False) s := by
  rw [observeKnown, wp_read, wp_bind, wp_set]
  refine wp_ite.mpr ⟨fun hconflict => ?_, fun hsame => wp_ite.mpr ⟨fun hterminal => ?_,
    fun hterminal => ?_⟩⟩
  · exact ⟨(if_pos hconflict).symm, rfl⟩
  · exact ⟨by rw [answerOf, if_neg hsame, if_pos hterminal], rfl⟩
  · exact ⟨by rw [answerOf, if_neg hsame, if_neg hterminal], rfl⟩

theorem observeNew_cells (h : s.Mapped) (id : Identity) (fingerprint : Nat) :
    wp (observeNew id fingerprint)
      (fun answer s' => answer.1 = .new ∧ ∃ r i, s.Roomy r ∧ r.Fits id i ∧
        s' = (r.uncounted i).insertedAt i (preparedEntry id fingerprint s.epoch))
      (fun error t => t = s ∧ error = .capacityExceeded ∧ s.Full ∧
        s.oldestTerminalEntry = none) s := by
  rw [observeNew, wp_bind]
  refine wp_post (makeRoom_cells h.small id) ?_
  rintro i u ⟨r, hroomy, hfits, rfl⟩
  rw [wp_read, wp_bind, wp_set, wp_pure]
  have hepoch : (r.uncounted i).epoch = s.epoch := by
    rw [uncounted_eq, ← (h.roomy hroomy).2.1]
  refine ⟨rfl, r, i, hroomy, hfits, ?_⟩
  rw [← hepoch]
  rfl

theorem observe_cells (h : s.Mapped) (hvalid : identityIsValid id) {fingerprint : Nat}
    (hfingerprint : fingerprint ≠ 0) :
    wp (observe id fingerprint) (fun answer s' => ∃ t, s.Prepared id.controlGeneration t ∧
        t.Answered id fingerprint answer.1 s')
      (fun error s' => s.Refused id error s') s := by
  have hgeneration : id.controlGeneration ≠ 0 := by
    intro hzero
    simp [identityIsValid, hzero] at hvalid
  rw [observe, if_neg hfingerprint, wp_bind, h.wp_validate, if_neg (by simp [hvalid]), wp_bind]
  refine wp_mono (prepareControlGeneration_wp h hgeneration) ?_ ?_
  · intro _ t hprepared
    have ht := (h.prepared hprepared).1
    rw [wp_bind, wp_modify, wp_read]
    cases hfind : t.bumpEpoch.findInternal id with
    | some i =>
      have hlook := ht.bumpEpoch.findInternal_eq_some_iff.mp hfind
      refine wp_total (observeKnown_cells i fingerprint) ?_
      rintro answer s' ⟨hanswer, rfl⟩
      exact ⟨t, hprepared, .inl ⟨i, hlook, hanswer, rfl⟩⟩
    | none =>
      have hnew := ht.bumpEpoch.findInternal_eq_none_iff.mp hfind
      refine wp_mono (observeNew_cells ht.bumpEpoch id fingerprint) ?_ ?_
      · rintro answer s' ⟨hanswer, hroom⟩
        exact ⟨t, hprepared, .inr ⟨hnew, hanswer, hroom⟩⟩
      rintro error s' ⟨rfl, herror, hfull, hnone⟩
      rcases hprepared with ⟨hsame, rfl⟩ | ⟨-, -, rfl⟩
      · exact .inr ⟨hsame, herror, hnew, hfull, hnone, rfl⟩
      · -- a new generation starts with vacant cells
        have hheld : ((s.reset id.controlGeneration).entry 0).state.isStored = true :=
          hfull 0 ht.pos
        exact absurd (stored_iff.mpr ⟨0, rfl, cell_of_isStored hheld⟩) not_stored_reset
  · rintro error t ⟨rfl, hrefused⟩
    exact .inl ⟨rfl, hrefused⟩

/-! ### Moving entries -/

/-- Why an entry is not moved. -/
def Unmoved (s : TransactionLedger) (id : Identity) (target : LedgerState) (status : SparkStatus)
    (error : SparkStatus) : Prop :=
  target.isStored = false ∧ error = .invalidArgument ∨ (∀ e, ¬s.Stored id e) ∧ error = .notFound ∨
    ∃ e, s.Stored id e ∧ (e.isTerminal ∧
        error = (if e.state = target ∧ e.terminalStatus = status then .duplicate
          else .invalidArgument) ∨
      e.isTerminal = false ∧ LedgerState.transitionIsLegal e.state target = false ∧
        error = .invalidArgument)

theorem moveEntry_eq (s : TransactionLedger) (i : Nat) (target : LedgerState)
    (status : SparkStatus) :
    s.moveEntry i target status = { s.bumpEpoch.setEntry i
        ((s.entry i).moved s.bumpEpoch.epoch target status) with
      activeEntryCount := s.activeEntryCount - if target.isTerminal then 1 else 0
      terminalEntryCount := s.terminalEntryCount + if target.isTerminal then 1 else 0 } := by
  rw [moveEntry]
  cases target.isTerminal <;> rfl

theorem Mapped.moveEntry (h : s.Mapped) (hlook : s.look i = .held id)
    (hactive : (s.entry i).isTerminal = false) {target : LedgerState}
    (htarget : target.isStored) (status : SparkStatus) :
    (s.moveEntry i target status).Mapped ∧ (s.moveEntry i target status).entries =
        s.entries.set i ((s.entry i).moved s.bumpEpoch.epoch target status) ∧
      (s.moveEntry i target status).epoch = s.bumpEpoch.epoch ∧
      (s.moveEntry i target status).activeControlGeneration = s.activeControlGeneration ∧
      ∀ id' e', (s.moveEntry i target status).Stored id' e' ↔
        if id' = id then e' = (s.entry i).moved s.bumpEpoch.epoch target status
        else s.Stored id' e' := by
  obtain ⟨hheld, hid⟩ := cell_eq_held.mp hlook
  have hcell : ((s.entry i).moved s.bumpEpoch.epoch target status).cell = .held id :=
    cell_eq_held.mpr ⟨htarget, hid⟩
  have hold := isActive_iff.mpr ⟨hheld, hactive⟩
  have hpos : 0 < s.activeEntryCount := by
    rw [h.active, countP_pos_iff]
    exact ⟨s.entry i, (stored_iff.mpr ⟨i, rfl, hlook⟩).1, hold⟩
  have hcount := h.count
  rw [moveEntry_eq]
  refine ⟨h.write (lt_of_isStored hheld) rfl rfl (h.findable_rewrite hlook hcell) ?_ ?_ ?_ ?_
    fun _ => h.valid hheld, rfl, rfl, rfl, fun id' e' => h.stored_rewrite hlook rfl hcell⟩
  · rw [if_pos hold, LedgerEntry.isActive,
      show ((s.entry i).moved s.bumpEpoch.epoch target status).state = target from rfl, htarget]
    cases target.isTerminal with
    | true => rfl
    | false => exact (Nat.sub_add_cancel hpos).symm
  · rw [hactive]
    rfl
  · show s.entryCount = s.activeEntryCount - (if target.isTerminal then 1 else 0) +
      (s.terminalEntryCount + if target.isTerminal then 1 else 0)
    split_ifs <;> omega
  · rw [isTombstone_of_isStored hheld, isTombstone_of_isStored (cell_eq_held.mp hcell).1]
    rfl

theorem transition_cells (h : s.Mapped) (hvalid : identityIsValid id)
    (target : LedgerState) (status : SparkStatus) :
    wp (transition id target status)
      (fun _ s' => target.isStored ∧ ∃ i, s.look i = .held id ∧
        (s.entry i).isTerminal = false ∧
        LedgerState.transitionIsLegal (s.entry i).state target ∧
        s' = s.moveEntry i target status)
      (fun error s' => s' = s ∧ s.Unmoved id target status error) s := by
  rw [transition, wp_bind, h.wp_validate, if_neg (by simp [hvalid])]
  refine wp_ite.mpr ⟨fun hbad => ⟨rfl, .inl ⟨hbad, rfl⟩⟩, fun htarget => ?_⟩
  have htarget := Bool.eq_true_of_not_eq_false htarget
  rw [wp_read, wp_bind, wp_orFail]
  refine ⟨fun i hfind => ?_, fun hnone =>
    ⟨rfl, .inr (.inl ⟨h.findInternal_eq_none_iff.mp hnone, rfl⟩)⟩⟩
  have hlook := h.findInternal_eq_some_iff.mp hfind
  have hstored : s.Stored id (s.entry i) := stored_iff.mpr ⟨i, rfl, hlook⟩
  refine wp_ite.mpr ⟨fun hterminal => wp_ite.mpr ⟨fun hsame => ?_, fun hother => ?_⟩,
    fun hactive => wp_ite.mpr ⟨fun hillegal => ?_, fun hlegal => ?_⟩⟩
  · exact ⟨rfl, .inr (.inr ⟨_, hstored, .inl ⟨hterminal, (if_pos hsame).symm⟩⟩)⟩
  · exact ⟨rfl, .inr (.inr ⟨_, hstored, .inl ⟨hterminal, (if_neg hother).symm⟩⟩)⟩
  · have hactive := Bool.eq_false_of_not_eq_true hactive
    exact ⟨rfl, .inr (.inr ⟨_, hstored, .inr ⟨hactive, hillegal, rfl⟩⟩)⟩
  · have hactive := Bool.eq_false_of_not_eq_true hactive
    rw [wp_set]
    exact ⟨htarget, i, hlook, hactive, Bool.eq_true_of_not_eq_false hlegal, rfl⟩

end TransactionLedger

end SparkPipe
