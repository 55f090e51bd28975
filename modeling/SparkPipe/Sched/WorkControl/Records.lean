import SparkPipe.Sched.WorkControl.Keys
import SparkPipe.Sched.WorkControl.Ownership

/-!
# Records and directory entries

The operations on single records and directory entries as events of `KvCore`: a record is
resolved, dropped, renamed or made resident, and a directory entry is acquired or released.
-/

open Program

namespace SparkPipe

open Function KvCore Slots

namespace KvCore

variable {k : KvKey} {c c' : KvCore}

/-- A record has got one more reference, perhaps its first one. -/
def Resolved (k : KvKey) (c c' : KvCore) : Prop :=
  (∃ e, c.record k = some e ∧ c' = c.setRecord k (some e.retained)) ∨
    c.record k = none ∧ ∃ p b, c.IsFree p ∧ c' = c.give k p b

/-- A key names the wanted record, or one whose block is pinned, or was given another. -/
def Placed (D k : KvKey) (c c' : KvCore) : Prop :=
  (c' = c ∧ ∃ k₀ e, c.directory D = some k₀ ∧ c.record k₀ = some e ∧
    (k₀ = k ∨ e.residencyState = .gpu ∧ c.isPinned e.physicalBlockIndex)) ∨
    c.Step (.place D k) c'

/-- The record that a directory key names. -/
def namedRecord (c : KvCore) (D : KvKey) : Option KvBlockEntry := (c.directory D).bind c.record

/-- The record of a key has a physical block that was used in this epoch. -/
def MadeResident (D : KvKey) (p : Nat) (c c' : KvCore) : Prop :=
  ∃ k e, c.directory D = some k ∧ c.record k = some e ∧
    (e.residencyState = .gpu ∧ p = e.physicalBlockIndex ∧
      c' = c.setBlock p ((c.block p).usedAt c.setting.epoch) ∨
    e.residencyState ≠ .gpu ∧ c.IsFree p ∧ c' = c.load k e p)

section

variable (h : c.Resolved k c')
include h

theorem Resolved.stored (hstored : c.Stored) (hk : k ≠ {}) : c'.Stored := by
  rcases h with ⟨e, hrec, rfl⟩ | ⟨hrec, p, b, hfree, rfl⟩
  · exact hstored.retained hrec
  · exact hstored.give hrec hk hfree

theorem Resolved.record_of_ne {k₀ : KvKey} (hne : k₀ ≠ k) : c'.record k₀ = c.record k₀ := by
  rcases h with ⟨e, -, rfl⟩ | ⟨-, p, b, -, rfl⟩
  · rw [record_setRecord, if_neg hne]
  · rw [record_give, if_neg hne]

theorem Resolved.isPinned (p : Nat) : c'.isPinned p = c.isPinned p := by
  rcases h with ⟨e, -, rfl⟩ | ⟨-, q, b, -, rfl⟩
  · rfl
  · rw [isPinned, block_give]
    split_ifs with hp
    · rw [hp]
      rfl
    · rfl

theorem Resolved.place {D k₀ : KvKey} {e : KvBlockEntry}
    (hdir : c.directory D = some k₀) (hne : k₀ ≠ k) (hk : k ≠ {}) (hrec₀ : c.record k₀ = some e)
    (hpin : e.residencyState = .gpu → c.isPinned e.physicalBlockIndex = false)
    (hshared : c.record k = none → 1 < e.referenceCount) :
    c.Step (.place D k) ((c'.drop k₀ e).name D (some k)) := by
  rcases h with ⟨e', hrec, rfl⟩ | ⟨hrec, p, b, hfree, rfl⟩
  · exact .join hdir hne hrec₀ hrec hpin
  · exact .split b hdir hrec₀ hrec hk (hshared hrec) hfree hpin

theorem Resolved.enter {D : KvKey} (hdir : c.directory D = none)
    (hk : k ≠ {}) : c.Step (.place D k) (c'.name D (some k)) := by
  rcases h with ⟨e, hrec, rfl⟩ | ⟨hrec, p, b, hfree, rfl⟩
  · exact .enter hdir hrec
  · exact .found b hdir hrec hk hfree

end

end KvCore

namespace KvState

open WorkControl

variable {W : SwapHooks} {s s' : KvState W} {k D : KvKey} {slot p b : Nat} {e e' : KvBlockEntry}
  {spare : Option Nat} {k₀ : KvKey}

/-! ### What operations on records leave alone -/

theorem named_of_swept (h : s'.swept = s.swept) : s'.named = s.named := (Prod.mk.inj h).1

theorem directoryEntries_of_named (h : s'.named = s.named) :
    s'.directoryEntries = s.directoryEntries := (Prod.mk.inj h).1

theorem directoryEntryCount_of_named (h : s'.named = s.named) :
    s'.directoryEntryCount = s.directoryEntryCount := (Prod.mk.inj (Prod.mk.inj h).2).1

theorem table_of_named (h : s'.named = s.named) :
    s'.physicalBlockIndices = s.physicalBlockIndices := (Prod.mk.inj (Prod.mk.inj h).2).2

theorem outline_of_setting (h : s'.core.setting = s.core.setting) : s'.outline = s.outline :=
  congrArg KvSetting.outline h

theorem blockEntryLimit_of_outline (h : s'.outline = s.outline) :
    s'.blockEntryLimit = s.blockEntryLimit := by
  have hbacking : s'.backingBlockCapacity = s.backingBlockCapacity :=
    congrArg KvOutline.backingBlockCapacity h
  have hphysical : s'.physicalBlockCapacity = s.physicalBlockCapacity :=
    congrArg (·.physicalBlockCapacity) h
  rw [blockEntryLimit, blockEntryLimit, hbacking, hphysical]

/-! ### Backing slots -/

theorem Kept.freeBackingBlockHead_lt (h : s.Kept none) (hswap : s.backingBlockCapacity ≠ 0)
    (hlimit : s.blockEntryCount < s.blockEntryLimit) :
    s.freeBackingBlockHead < s.backingBlockCapacity := by
  have hne : s.backingBlockFreeNext ≠ [] := fun hnil =>
    hswap (by rw [backingBlockCapacity, hnil]; rfl)
  have hfree := h.backed.free hne
  by_contra hlt
  -- the list has ended, so that every slot has a record
  have hstop : s.freeBackingBlockHead = kvInvalidBlockIndex := by
    by_contra hstop
    exact hlt (hfree.head_free hstop).1
  rw [hstop] at hfree
  have hused : ∀ b : Fin s.backingBlockCapacity, ∃ k, s.slotOf k = some b.1 := by
    intro b
    by_contra hnone
    exact hfree.not_free_of_head_eq b ⟨b.2, by simp, fun k hk => hnone ⟨k, hk⟩⟩
  choose owner howner using hused
  have hinj : Injective owner := fun b b' heq =>
    Fin.ext (Option.some.inj ((howner b).symm.trans ((congrArg s.slotOf heq).trans (howner b'))))
  have hle := h.tabled.tally_record.le_of_injective hinj fun b => by
    obtain ⟨e, he, -⟩ := Option.map_eq_some_iff.mp (howner b)
    exact he.symm ▸ Option.some_ne_none e
  rw [blockEntryLimit, if_pos hswap] at hlimit
  omega

section Relinked

variable {l : List Nat} {head : Nat} (hlength : l.length = s.backingBlockFreeNext.length)
include hlength

theorem Tabled.relinked (h : s.Tabled) :
    ({ s with freeBackingBlockHead := head, backingBlockFreeNext := l } : KvState W).Tabled := by
  have hcapacity : ({ s with freeBackingBlockHead := head, backingBlockFreeNext := l } :
      KvState W).backingBlockCapacity = s.backingBlockCapacity := hlength
  obtain ⟨h1, h2, h3, h4, h5, h6, h7, h8, h9, h10⟩ := h
  refine ⟨h1, h2, h3, h4, h5, h6, h7, hcapacity ▸ h8, hcapacity ▸ h9, h10.trans_eq ?_⟩
  rw [blockEntryLimit, blockEntryLimit, hcapacity]
  rfl

theorem core_relinked :
    ({ s with freeBackingBlockHead := head, backingBlockFreeNext := l } : KvState W).core =
      s.core := by
  simp only [core, outline, backingBlockCapacity, hlength]
  rfl

end Relinked

theorem core_kvTakeBacking : s.kvTakeBacking.core = s.core := core_relinked List.length_set

theorem core_kvPutBacking : (s.kvPutBacking b).core = s.core := core_relinked List.length_set

theorem slotOf_setRecord {v : Option KvBlockEntry}
    (h : s'.core.record = (s.core.setRecord k v).record) :
    s'.slotOf = update s.slotOf k (v.map KvBlockEntry.backingBlockIndex) := by
  funext k'
  rw [slotOf, h, record_setRecord, update_apply]
  split_ifs <;> rfl

theorem slotOf_congr (h : s'.core.record = s.core.record) : s'.slotOf = s.slotOf := by
  funext k
  rw [slotOf, slotOf, h]

theorem Kept.kvTakeBacking (h : s.Kept none)
    (hlt : s.freeBackingBlockHead < s.backingBlockCapacity) :
    s.kvTakeBacking.Kept (some s.freeBackingBlockHead) := by
  refine ⟨Tabled.relinked List.length_set h.tabled, ?_⟩
  exact h.backed.reserve hlt h.tabled.backing_le

theorem Kept.kvPutBacking (h : s.Kept (some b)) : (s.kvPutBacking b).Kept none := by
  refine ⟨Tabled.relinked List.length_set h.tabled, ?_⟩
  exact h.backed.putBack h.tabled.backing_le

/-- The slot that a new record gets: a spare one, or none at all. -/
def Spares (spare : Option Nat) (b : Nat) (s : KvState W) : Prop :=
  s.backingBlockCapacity = 0 ∧ spare = none ∧ b = kvInvalidBlockIndex ∨
    s.backingBlockCapacity ≠ 0 ∧ spare = some b

theorem Spares.of_outline (h : s.Spares spare b) (houtline : s'.outline = s.outline) :
    s'.Spares spare b := by
  rw [Spares, show s'.backingBlockCapacity = s.backingBlockCapacity from
    congrArg KvOutline.backingBlockCapacity houtline]
  exact h

theorem kvBackingAcquire_wp (h : s.Kept none) (hlimit : s.blockEntryCount < s.blockEntryLimit) :
    wp kvBackingAcquire (fun b s' => ∃ spare, s'.Kept spare ∧ s'.Spares spare b ∧ s'.core = s.core ∧
        s'.swept = s.swept) (fun _ _ => False) s := by
  rw [kvBackingAcquire, wp_read, wp_ite]
  refine ⟨fun hzero => ?_, fun hswap => ?_⟩
  · rw [wp_pure]
    exact ⟨none, h, .inl ⟨hzero, rfl, rfl⟩, rfl, rfl⟩
  · have hlt := h.freeBackingBlockHead_lt hswap hlimit
    rw [if_neg (not_le.mpr hlt), wp_bind, wp_set, wp_pure]
    have hcapacity : s.kvTakeBacking.backingBlockCapacity = s.backingBlockCapacity :=
      List.length_set
    exact ⟨_, h.kvTakeBacking hlt, .inr ⟨hcapacity ▸ hswap, rfl⟩, core_kvTakeBacking, rfl⟩

theorem kvBackingRelease_wp (h : s.Kept spare) (hspare : s.Spares spare b) : wp (kvBackingRelease b)
      (fun _ s' => s'.Kept none ∧ s'.core = s.core ∧ s'.named = s.named) (fun _ _ => False) s := by
  rw [kvBackingRelease, wp_read]
  rcases hspare with ⟨hzero, rfl, rfl⟩ | ⟨hswap, rfl⟩
  · rw [if_pos hzero, if_pos rfl, wp_pure]
    exact ⟨h, rfl, rfl⟩
  · obtain ⟨hlt, hnext⟩ := h.backed.spared rfl
    rw [if_neg hswap, if_neg, wp_set]
    · exact ⟨h.kvPutBacking, core_kvPutBacking, rfl⟩
    · rintro (hle | hne)
      · exact absurd hlt (not_lt.mpr hle)
      · exact hne hnext

/-! ### Resolving -/

theorem core_kvInstall (h : s.Tabled)
    (hprobe : kvBlockSlots.probe s.blockEntries k = some (slot, false)) (hk : k ≠ {})
    (hroom : (s.blockEntryCount + 1) * 2 ≤ s.blockEntryCapacity)
    (hp : p < s.physicalBlockCapacity) : (s.kvInstall slot k p b).core = s.core.give k p b := by
  rw [h.blockCount] at hroom
  have hlookup := (h.blocks.insert (e := .fresh k p b) hprobe hk rfl hroom).2.2
  have hrecord : (s.setBlockEntry slot (.fresh k p b)).core =
      s.core.setRecord k (some (.fresh k p b)) :=
    core_recorded List.length_set hlookup
  rw [give, ← hrecord, ← core_setPhysicalBlock (by exact hp)]
  rfl

theorem Kept.kvInstall (h : s.Kept spare) (hspare : s.Spares spare b)
    (hprobe : kvBlockSlots.probe s.blockEntries k = some (slot, false)) (hk : k ≠ {})
    (hlimit : s.blockEntryCount < s.blockEntryLimit)
    (hroom : s.blockEntryLimit * 2 ≤ s.blockEntryCapacity) (hp : p < s.physicalBlockCapacity) :
    (s.kvInstall slot k p b).Kept none := by
  have hroom' : (s.blockEntryCount + 1) * 2 ≤ s.blockEntryCapacity := by omega
  have hcore := core_kvInstall (b := b) h.tabled hprobe hk hroom' hp
  have hfresh : s.core.record k = none := findBlock_eq_none_iff.mp (find_of_probe hprobe)
  have hslot : (s.kvInstall slot k p b).slotOf = update s.slotOf k (some b) :=
    slotOf_setRecord (v := some (.fresh k p b)) (congrArg record hcore :)
  constructor
  · rw [h.tabled.blockCount] at hroom'
    obtain ⟨hfull, hsize, -⟩ := h.tabled.blocks.insert (e := .fresh k p b) hprobe hk rfl hroom'
    rw [← h.tabled.blockCount] at hsize
    exact (h.tabled.recorded hfull hsize.symm hlimit).setPhysicalBlock.congr rfl
  rw [hslot]
  have hnone : s.slotOf k = none := by rw [slotOf, hfresh]; rfl
  rcases hspare with ⟨hzero, rfl, rfl⟩ | ⟨-, rfl⟩
  · exact h.backed.update_absent (List.length_eq_zero_iff.mp hzero) (.inr rfl)
  · exact h.backed.assign hnone

/-- At most half of the cells will be used by records. -/
def Roomy (s : KvState W) : Prop := s.blockEntryLimit * 2 ≤ s.blockEntryCapacity

theorem Tabled.blockEntryLimit_pos (h : s.Tabled) : 0 < s.blockEntryLimit := by
  rw [blockEntryLimit]
  split_ifs with hswap
  · exact Nat.pos_of_ne_zero hswap
  · exact lt_of_le_of_lt (Nat.zero_le _) h.next_lt

/-- Why a record could not be resolved. -/
def Unresolved (k : KvKey) (s : KvState W) (error : WorkControlError) : Prop :=
  s.core.record k = none ∧ (error = .internalError ∨ W.Fails error ∨ error = .capacityExceeded ∧
      (s.blockEntryLimit ≤ s.blockEntryCount ∨ ∀ p, ¬s.core.Available p))

theorem kvBlockResolve_wp (h : s.Owned) (hroomy : s.Roomy) (hk : k ≠ {}) : wp (kvBlockResolve k)
      (fun _ s' => s'.Kept none ∧ s'.named = s.named ∧ ∃ c, s.core.Sweeps c ∧ c.Resolved k s'.core)
      (fun error s' => s'.Owned ∧ s'.named = s.named ∧ s.core.Sweeps s'.core ∧
        s.Unresolved k error) s := by
  have hpos : 0 < s.blockEntries.length := by
    have hlimit := h.kept.tabled.blockEntryLimit_pos
    have hroomy : s.blockEntryLimit * 2 ≤ s.blockEntries.length := hroomy
    omega
  rw [kvBlockResolve, wp_read]
  cases hprobe : kvBlockSlots.probe s.blockEntries k with
  | none => exact absurd hprobe (h.kept.tabled.blocks.probe_ne_none hpos hk)
  | some found =>
    obtain ⟨slot, found⟩ := found
    cases found with
    | true =>
      have hfind : s.findBlock k = some slot := find_of_probe_true hprobe
      have hkey := key_of_find hfind
      refine ⟨h.kept.setBlockEntry hfind hkey rfl, rfl, s.core, .refl _,
        .inl ⟨_, record_of_findBlock hfind, ?_⟩⟩
      exact core_setBlockEntry h.kept.tabled hfind hkey
    | false =>
      have hfresh : s.core.record k = none :=
        findBlock_eq_none_iff.mp (find_of_probe hprobe)
      refine wp_ite.mpr ⟨fun hfull => ?_, fun hfull => ?_⟩
      · exact ⟨h, rfl, .refl _, hfresh, .inr (.inr ⟨rfl, .inl hfull⟩)⟩
      rw [wp_bind]
      refine wp_total (kvBackingAcquire_wp h.kept (not_le.mp hfull)) ?_
      rintro b u ⟨spare, hkept, hspare, hcore, hsweptu⟩
      have hsoundu : u.core.Sound := hcore ▸ h.sound
      rw [wp_bind, wp_attempt]
      refine wp_mono (wp_and (kvAcquirePhysicalBlock_wp hkept hsoundu)
        (kvAcquirePhysicalBlock_swept.wp u)) ?_ ?_
      · rintro p t ⟨⟨hkeptt, hsweeps, hfree⟩, hswept⟩
        rw [wp_modify]
        have houtline := outline_of_setting hsweeps.sweptFrom.setting
        have hswept : t.swept = s.swept := hswept.trans hsweptu
        have houtlinet : t.outline = s.outline :=
          houtline.trans (congrArg (·.setting.outline) hcore)
        rw [hcore] at hsweeps
        have hprobet : kvBlockSlots.probe t.blockEntries k = some (slot, false) := by
          rw [probe_of_swept hswept, hprobe]
        have hcountt : t.blockEntryCount = s.blockEntryCount :=
          (Prod.mk.inj (Prod.mk.inj hswept).2).2
        have hlimitt := blockEntryLimit_of_outline houtlinet
        have hcapacityt : t.blockEntryCapacity = s.blockEntryCapacity :=
          congrArg (·.blockEntryCapacity) houtlinet
        have hlimit : t.blockEntryCount < t.blockEntryLimit := by
          rw [hcountt, hlimitt]
          exact not_le.mp hfull
        have hroomyt : t.blockEntryLimit * 2 ≤ t.blockEntryCapacity := by
          rw [hlimitt, hcapacityt]
          exact hroomy
        refine ⟨hkeptt.kvInstall (hspare.of_outline houtline) hprobet hk hlimit hroomyt hfree.1,
          (named_of_swept hswept :), t.core, hsweeps, .inr ⟨?_, p, b, hfree, ?_⟩⟩
        · exact findBlock_eq_none_iff.mp (find_of_probe hprobet)
        · exact core_kvInstall hkeptt.tabled hprobet hk (by omega) hfree.1
      · rintro error t ⟨⟨hkeptt, hsweeps, herror⟩, hswept⟩
        have hnamedt : t.named = s.named := named_of_swept (hswept.trans hsweptu)
        rw [wp_bind, wp_attempt]
        refine wp_total (kvBackingRelease_wp hkeptt
          (hspare.of_outline (outline_of_setting hsweeps.sweptFrom.setting))) ?_
        rintro _ v ⟨hkeptv, hcorev, hnamedv⟩
        rw [hcore] at hsweeps herror
        refine ⟨⟨hkeptv, hcorev ▸ hsweeps.sound h.sound⟩, hnamedv.trans hnamedt,
          hcorev ▸ hsweeps, hfresh, herror.imp id (Or.imp id (And.imp id Or.inr))⟩

/-! ### Dropping references -/

theorem kvBackingRelease_used (h : s.Kept none) (hslot : s.slotOf k = some b) :
    wp (kvBackingRelease b)
      (fun _ s' => s' = if s.backingBlockCapacity = 0 then s else s.kvPutBacking b)
      (fun _ _ => False) s := by
  rw [kvBackingRelease, wp_read]
  by_cases hzero : s.backingBlockCapacity = 0
  · have hb := (h.backed.absent (List.length_eq_zero_iff.mp hzero)).2 hslot
    rw [if_pos hzero, if_pos hb, wp_pure, if_pos hzero]
  · have hne : s.backingBlockFreeNext ≠ [] := fun hnil => hzero (List.length_eq_zero_iff.mpr hnil)
    obtain ⟨hlt, hnext, -⟩ := h.backed.used hne hslot
    rw [if_neg hzero, if_neg, wp_set, if_neg hzero]
    rintro (hle | hneq)
    · exact absurd hlt (not_lt.mpr hle)
    · exact hneq hnext

theorem core_kvForget (h : s.Tabled) (hfind : s.findBlock k = some slot) :
    (s.kvForget slot).core = s.core.setRecord k none :=
  core_recorded (length_erase (answers_of_find hfind).1) (h.blocks.erase hfind).2.2

theorem Tabled.kvForget (h : s.Tabled) (hfind : s.findBlock k = some slot) :
    (s.kvForget slot).Tabled := by
  obtain ⟨hfull, hsize, -⟩ := h.blocks.erase hfind
  have hcount := h.blockCount
  exact h.recorded hfull (by omega) ((Nat.sub_le _ _).trans h.within)

theorem core_kvVacate
    (hp : e.residencyState = .gpu → e.physicalBlockIndex < s.physicalBlockCapacity) :
    (s.kvVacate e).core.setRecord k none = s.core.free k e := by
  rw [kvVacate, free]
  split_ifs with hgpu
  · show setRecord { (s.kvClearPhysicalBlock e.physicalBlockIndex).core with
      allocated := s.core.allocated - 1 } k none = _
    rw [kvClearPhysicalBlock, core_setPhysicalBlock (hp hgpu)]
    rfl
  · rfl

theorem Tabled.kvVacate (h : s.Tabled) : (s.kvVacate e).Tabled := by
  rw [KvState.kvVacate]
  split_ifs
  · exact h.setPhysicalBlock.congr rfl
  · exact h.congr rfl

theorem named_kvVacate : (s.kvVacate e).named = s.named := by
  rw [kvVacate]
  split_ifs <;> rfl

theorem blockEntries_kvVacate : (s.kvVacate e).blockEntries = s.blockEntries := by
  rw [kvVacate]
  split_ifs <;> rfl

theorem backing_kvVacate : (s.kvVacate e).backingBlockFreeNext = s.backingBlockFreeNext ∧
    (s.kvVacate e).freeBackingBlockHead = s.freeBackingBlockHead := by
  rw [kvVacate]
  split_ifs <;> exact ⟨rfl, rfl⟩

theorem Kept.kvVacate (h : s.Kept spare) : (s.kvVacate e).Kept spare := by
  refine ⟨h.tabled.kvVacate, ?_⟩
  have hslot : (s.kvVacate e).slotOf = s.slotOf :=
    slotOf_congr (congrArg kvBlockSlots.lookup blockEntries_kvVacate)
  rw [hslot, backing_kvVacate.1, backing_kvVacate.2]
  exact h.backed

theorem Kept.forget (h : s.Kept none) (hfind : s.findBlock k = some slot)
    (hslot : s.slotOf k = some b) :
    let t := if s.backingBlockCapacity = 0 then s else s.kvPutBacking b
    (t.kvForget slot).Kept none ∧ (t.kvForget slot).core = s.core.setRecord k none ∧
      (t.kvForget slot).named = s.named := by
  intro t
  by_cases hzero : s.backingBlockCapacity = 0
  · have ht : t = s := if_pos hzero
    rw [ht]
    refine ⟨⟨h.tabled.kvForget hfind, ?_⟩, core_kvForget h.tabled hfind, rfl⟩
    rw [slotOf_setRecord (congrArg record (core_kvForget h.tabled hfind))]
    exact h.backed.update_absent (List.length_eq_zero_iff.mp hzero) (.inl rfl)
  · have ht : t = s.kvPutBacking b := if_neg hzero
    have hfindt : (s.kvPutBacking b).findBlock k = some slot := hfind
    have htabled : (s.kvPutBacking b).Tabled := .relinked List.length_set h.tabled
    rw [ht]
    refine ⟨⟨htabled.kvForget hfindt, ?_⟩, ?_, rfl⟩
    · have hne : s.backingBlockFreeNext ≠ [] := fun hnil =>
        hzero (List.length_eq_zero_iff.mpr hnil)
      rw [slotOf_setRecord (congrArg record (core_kvForget htabled hfindt))]
      exact (h.backed.unassign hslot hne).putBack h.tabled.backing_le
    · rw [core_kvForget htabled hfindt, core_kvPutBacking]

theorem kvBlockDeref_wp (h : s.Kept none) (hstored : s.core.Stored) : wp (kvBlockDeref k)
      (fun _ s' => ∃ e, s.core.record k = some e ∧ (e.referenceCount ≤ 1 →
        e.residencyState = .gpu → s.core.isPinned e.physicalBlockIndex = false) ∧
        s'.Kept none ∧ s'.core = s.core.drop k e ∧ s'.named = s.named)
      (fun error s' => s' = s ∧ (error = .notFound ∧ s.core.record k = none ∨
        error = .busy ∧ ∃ e, s.core.record k = some e ∧ e.referenceCount ≤ 1 ∧
          e.residencyState = .gpu ∧ s.core.isPinned e.physicalBlockIndex)) s := by
  rw [kvBlockDeref, wp_read, wp_bind, wp_orFail]
  refine ⟨fun slot hfind => ?_, fun hnone => ⟨rfl, .inl ⟨rfl, findBlock_eq_none_iff.mp hnone⟩⟩⟩
  have hrec := record_of_findBlock hfind
  have hkey := key_of_find hfind
  set e := s.blockEntry slot
  refine wp_ite.mpr
    ⟨fun hshared => ?_, fun hlast => wp_ite.mpr ⟨fun hpinned => ?_, fun hpinned => ?_⟩⟩
  · refine ⟨e, hrec, fun hone => absurd hshared (not_lt.mpr hone), h.setBlockEntry hfind hkey rfl,
      ?_, rfl⟩
    rw [drop, if_pos hshared]
    exact core_setBlockEntry h.tabled hfind hkey
  · exact ⟨rfl, .inr ⟨rfl, e, hrec, not_lt.mp hlast, hpinned.1, hpinned.2⟩⟩
  have hfindv : (s.kvVacate e).findBlock k = some slot := by
    rw [findBlock, blockEntries_kvVacate]
    exact hfind
  have hslotv : (s.kvVacate e).slotOf k = some e.backingBlockIndex := by
    rw [slotOf_congr (congrArg kvBlockSlots.lookup blockEntries_kvVacate), slotOf, hrec]
    rfl
  rw [wp_bind, wp_set, wp_bind]
  refine wp_total (kvBackingRelease_used h.kvVacate hslotv) ?_
  rintro _ t rfl
  rw [wp_modify]
  obtain ⟨hkept, hcore, hnamed⟩ := h.kvVacate.forget hfindv hslotv
  refine ⟨e, hrec, fun _ hgpu => Bool.eq_false_iff.mpr fun hpin => hpinned ⟨hgpu, hpin⟩,
    hkept, ?_, hnamed.trans named_kvVacate⟩
  rw [drop, if_neg hlast, hcore]
  exact core_kvVacate fun hgpu => (hstored.onDevice hrec hgpu).1

/-! ### Naming records -/

theorem directory_of_find (h : kvDirectorySlots.find s.directoryEntries D = some slot) :
    s.core.directory D = some (s.directoryEntry slot).blockKey := by
  have hlookup := lookup_of_find h
  show (kvDirectorySlots.lookup s.directoryEntries D).map _ = _
  rw [hlookup]
  rfl

theorem directory_of_find_none (h : kvDirectorySlots.find s.directoryEntries D = none) :
    s.core.directory D = none := by
  show (kvDirectorySlots.lookup s.directoryEntries D).map _ = _
  rw [lookup_eq_none_iff.mpr h]
  rfl

section Directed

variable {l : List KvDirectoryEntry} {n : Nat} {v : Option KvDirectoryEntry}

theorem core_directed (hlength : l.length = s.directoryEntries.length)
    (hlookup : kvDirectorySlots.lookup l =
      update (kvDirectorySlots.lookup s.directoryEntries) D v) :
    ({ s with directoryEntries := l, directoryEntryCount := n } : KvState W).core =
      s.core.name D (v.map KvDirectoryEntry.blockKey) := by
  have hdirectory : (fun D' => (kvDirectorySlots.lookup l D').map KvDirectoryEntry.blockKey) =
      update s.core.directory D (v.map KvDirectoryEntry.blockKey) := by
    funext D'
    rw [hlookup, update_apply, update_apply]
    split_ifs <;> rfl
  rw [name, ← hdirectory]
  simp only [core, outline, directoryCapacity, hlength]
  rfl

theorem Kept.directed (h : s.Kept spare) (hfull : kvDirectorySlots.HalfFull l)
    (hsize : n = kvDirectorySlots.size l) (hlength : l.length = s.directoryEntries.length) :
    ({ s with directoryEntries := l, directoryEntryCount := n } : KvState W).Kept spare := by
  obtain ⟨⟨-, h2, -, h4, h5, h6, h7, h8, h9, h10⟩, hbacked⟩ := h
  exact ⟨⟨hfull, h2, hsize, h4, h5, h6, hlength.trans_lt h7, h8, h9, h10⟩, hbacked⟩

end Directed

section Written

variable (hfind : kvDirectorySlots.find s.directoryEntries D = some slot)
include hfind

theorem core_kvRename (h : s.Tabled) : (s.kvRename slot k).core = s.core.name D (some k) := by
  obtain ⟨-, hkey, -⟩ := answers_of_find hfind
  exact core_directed List.length_set
    (h.directory.rewrite (e := KvDirectoryEntry.mk _ k) hfind hkey).2.2

theorem Kept.kvRename (h : s.Kept spare) : (s.kvRename slot k).Kept spare := by
  obtain ⟨-, hkey, -⟩ := answers_of_find hfind
  obtain ⟨hfull, hsize, -⟩ :=
    h.tabled.directory.rewrite (e := KvDirectoryEntry.mk _ k) hfind hkey
  exact h.directed hfull (h.tabled.directoryCount.trans hsize.symm) List.length_set

theorem core_kvLeave (h : s.Tabled) : (s.kvLeave slot).core = s.core.name D none :=
  core_directed (length_erase (answers_of_find hfind).1) (h.directory.erase hfind).2.2

theorem Kept.kvLeave (h : s.Kept spare) : (s.kvLeave slot).Kept spare := by
  obtain ⟨hfull, hsize, -⟩ := h.tabled.directory.erase hfind
  obtain ⟨hlt, -, -⟩ := answers_of_find hfind
  have hcount := h.tabled.directoryCount
  exact h.directed hfull (by omega) (length_erase hlt)

end Written

section Entered

variable (hprobe : kvDirectorySlots.probe s.directoryEntries D = some (slot, false)) (hD : D ≠ {})
  (hroom : (s.directoryEntryCount + 1) * 2 ≤ s.directoryCapacity)
include hprobe hD hroom

theorem core_kvEnter (h : s.Tabled) : (s.kvEnter slot D k).core = s.core.name D (some k) := by
  rw [h.directoryCount] at hroom
  exact core_directed List.length_set (h.directory.insert hprobe hD rfl hroom).2.2

theorem Kept.kvEnter (h : s.Kept spare) : (s.kvEnter slot D k).Kept spare := by
  have hcount := h.tabled.directoryCount
  rw [hcount] at hroom
  obtain ⟨hfull, hsize, -⟩ :=
    h.tabled.directory.insert (e := { key := D, blockKey := k }) hprobe hD rfl hroom
  exact h.directed hfull ((congrArg (· + 1) hcount).trans hsize.symm) List.length_set

theorem find_kvEnter (h : s.Tabled) :
    kvDirectorySlots.find (s.kvEnter slot D k).directoryEntries D = some slot := by
  rw [h.directoryCount] at hroom
  obtain ⟨hfull, -, -⟩ := h.directory.insert (e := { key := D, blockKey := k }) hprobe hD rfl hroom
  obtain ⟨hlt, -⟩ := probe_lt hprobe
  refine (hfull.reachable.find_eq_some_iff hD).mpr ⟨?_, ?_⟩
  · rwa [List.length_set]
  · exact (key_set hlt).trans (if_pos rfl)

end Entered

/-! ### Promotion -/

theorem Tabled.rekeyed (h : s.Tabled) (hfind : s.findBlock k₀ = some slot)
    (hrec : s.core.record k = none) (hk : k ≠ {}) :
    let erased := kvBlockSlots.erase s.blockEntries slot
    ∃ i, kvBlockSlots.probe erased k = some (i, false) ∧
      kvBlockSlots.HalfFull (erased.set i ((s.blockEntry slot).rekeyed k)) ∧
      kvBlockSlots.size (erased.set i ((s.blockEntry slot).rekeyed k)) = s.blockEntryCount ∧
      kvBlockSlots.lookup (erased.set i ((s.blockEntry slot).rekeyed k)) =
        update (update s.core.record k₀ none) k
          (some ((s.blockEntry slot).rekeyed k)) := by
  intro erased
  obtain ⟨hfull, hsize, hlookup⟩ := h.blocks.erase hfind
  obtain ⟨hlt, -, -⟩ := answers_of_find hfind
  have hlength : erased.length = s.blockEntries.length := length_erase hlt
  have hnone : kvBlockSlots.lookup erased k = none := by
    rw [hlookup, update_apply]
    split_ifs
    · rfl
    · exact hrec
  obtain ⟨i, hprobe⟩ := hfull.exists_probe (hlength ▸ Nat.zero_lt_of_lt hlt) hk hnone
  have hroom := h.blocks.room
  obtain ⟨hfull', hsize', hlookup'⟩ :=
    hfull.insert (e := (s.blockEntry slot).rekeyed k) hprobe hk rfl
    (by rw [hsize, hlength]; exact hroom)
  refine ⟨i, hprobe, hfull', ?_, ?_⟩
  · rw [hsize', hsize, h.blockCount]
  · rw [hlookup', hlookup]
    rfl

/-- The record is under its new key, before its physical block follows. -/
def moved (s : KvState W) (slot i : Nat) (k : KvKey) : KvState W :=
  { s with
    blockEntries := (kvBlockSlots.erase s.blockEntries slot).set i
      ((s.blockEntry slot).rekeyed k) }

theorem kvRekeyBlock_eq {i : Nat}
    (hprobe : kvBlockSlots.probe (kvBlockSlots.erase s.blockEntries slot) k = some (i, false)) :
    s.kvRekeyBlock slot k =
      if (s.blockEntry slot).residencyState = .gpu then
        (s.moved slot i k).setPhysicalBlock (s.blockEntry slot).physicalBlockIndex
          ((s.physicalBlock (s.blockEntry slot).physicalBlockIndex).rekeyed k)
      else s.moved slot i k := by
  simp only [kvRekeyBlock, hprobe]
  rfl

theorem Kept.kvRekeyBlock (h : s.Kept none) (hfind : s.findBlock k₀ = some slot)
    (hrec : s.core.record k = none) (hk : k ≠ {})
    (hp : (s.blockEntry slot).residencyState = .gpu →
      (s.blockEntry slot).physicalBlockIndex < s.physicalBlockCapacity) :
    (s.kvRekeyBlock slot k).Kept none ∧
      (s.kvRekeyBlock slot k).core = s.core.rekey k₀ (s.blockEntry slot) k ∧
      (s.kvRekeyBlock slot k).named = s.named := by
  obtain ⟨i, hprobe, hfull, hsize, hlookup⟩ := h.tabled.rekeyed hfind hrec hk
  have hlt := (answers_of_find hfind).1
  have hcore : (s.moved slot i k).core =
      (s.core.setRecord k₀ none).setRecord k (some ((s.blockEntry slot).rekeyed k)) :=
    core_recorded (List.length_set.trans (length_erase hlt)) hlookup
  have hkept : (s.moved slot i k).Kept none := by
    refine ⟨h.tabled.recorded hfull hsize.symm h.tabled.within, ?_⟩
    · have hslot₀ : s.slotOf k₀ = some (s.blockEntry slot).backingBlockIndex := by
        rw [slotOf, record_of_findBlock hfind]
        rfl
      have hslot : s.slotOf k = none := by
        rw [slotOf, hrec]
        rfl
      have hslots : (s.moved slot i k).slotOf = update (update s.slotOf k₀ none) k
          (some (s.blockEntry slot).backingBlockIndex) := by
        funext k'
        rw [slotOf, hcore]
        simp only [record_setRecord, update_apply]
        split_ifs <;> rfl
      rw [hslots]
      exact h.backed.rekey hslot₀ hslot
  rw [kvRekeyBlock_eq hprobe, rekey]
  split_ifs with hgpu
  · refine ⟨hkept.setPhysicalBlock, ?_, rfl⟩
    rw [← hcore]
    exact core_setPhysicalBlock (hp hgpu)
  · exact ⟨hkept, hcore, rfl⟩

theorem find_of_named (h : s'.named = s.named) :
    kvDirectorySlots.find s'.directoryEntries D = kvDirectorySlots.find s.directoryEntries D := by
  rw [directoryEntries_of_named h]

theorem find_kvRename (hfind : kvDirectorySlots.find s.directoryEntries D = some slot) :
    kvDirectorySlots.find (s.kvRename slot k).directoryEntries D = some slot := by
  have hprobe : kvDirectorySlots.probe (s.kvRename slot k).directoryEntries D =
      kvDirectorySlots.probe s.directoryEntries D := probe_set rfl
  rw [find, hprobe]
  exact hfind

theorem kvPromoteBlock_wp (h : s.Owned) (hroomy : s.Roomy) (hk : k ≠ {})
    (hfind : kvDirectorySlots.find s.directoryEntries D = some slot)
    (hne : (s.directoryEntry slot).blockKey ≠ k) :
    wp (kvPromoteBlock slot k)
      (fun _ s' => s'.Owned ∧ s'.physicalBlockIndices = s.physicalBlockIndices ∧
        kvDirectorySlots.find s'.directoryEntries D = some slot ∧
        ∃ c, s.core.Sweeps c ∧ c.Placed D k s'.core)
      (fun error s' => s'.Owned ∧ s'.named = s.named ∧ s.core.Sweeps s'.core ∧
        ¬s.core.Bound D ∧ (∀ e ∈ s.core.namedRecord D, e.referenceCount ≠ 1) ∧
        s.Unresolved k error) s := by
  set k₀ := (s.directoryEntry slot).blockKey
  have hdir : s.core.directory D = some k₀ := directory_of_find hfind
  obtain ⟨e₀, hrec₀⟩ := h.sound.referenced.exists_record hdir
  obtain ⟨source, hsource, rfl⟩ := findBlock_of_record hrec₀
  rw [kvPromoteBlock, wp_read, wp_bind, wp_orFail_some hsource]
  refine wp_ite.mpr
    ⟨fun hpinned => ?_, fun hpinned => wp_ite.mpr ⟨fun hsole => ?_, fun hshared => ?_⟩⟩
  · exact ⟨h, rfl, hfind, s.core, .refl _, .inl ⟨rfl, k₀, _, hdir, hrec₀, .inr hpinned⟩⟩
  · have hrec : s.core.record k = none := findBlock_eq_none_iff.mp hsole.1
    obtain ⟨hkept, hcore, hnamed⟩ := h.kept.kvRekeyBlock hsource hrec hk
      fun hgpu => (h.sound.stored.onDevice hrec₀ hgpu).1
    have hfind' := (find_of_named hnamed).trans hfind
    have hstep : s.core.Step (.place D k) ((s.kvRekeyBlock source k).kvRename slot k).core := by
      rw [core_kvRename hfind' hkept.tabled, hcore]
      exact .rekey hdir hrec₀ hrec hk hsole.2 fun hgpu => Bool.eq_false_iff.mpr fun hpin =>
        hpinned ⟨hgpu, hpin⟩
    exact ⟨⟨.kvRename hfind' hkept, hstep.sound h.sound⟩, (table_of_named hnamed :),
      find_kvRename hfind', s.core, .refl _, .inr hstep⟩
  · rw [wp_bind]
    have hfree : ¬s.core.Bound D := by
      rintro ⟨k₁, e₁, hdir₁, hrec₁, hgpu, hpin⟩
      obtain rfl := Option.some.inj (hdir.symm.trans hdir₁)
      obtain rfl := Option.some.inj (hrec₀.symm.trans hrec₁)
      exact hpinned ⟨hgpu, hpin⟩
    have hsole (hnone : s.core.record k = none) :
        ∀ e ∈ s.core.namedRecord D, e.referenceCount ≠ 1 := by
      intro e he hone
      rw [namedRecord, hdir] at he
      obtain rfl := Option.some.inj (hrec₀.symm.trans he)
      exact hshared ⟨findBlock_eq_none_iff.mpr hnone, hone⟩
    refine wp_mono (kvBlockResolve_wp h hroomy hk) ?_
      fun _ _ ⟨howned, hnamed, hsweeps, herror⟩ =>
        ⟨howned, hnamed, hsweeps, hfree, hsole herror.1, herror⟩
    rintro _ t ⟨hkept, hnamed, c, hsweeps, hresolved⟩
    have hsound := hsweeps.sound h.sound
    have hfrom := hsweeps.sweptFrom
    have hdirc : c.directory D = some k₀ := by rw [hfrom.directory, hdir]
    rw [wp_bind]
    refine wp_mono (kvBlockDeref_wp hkept (hresolved.stored hsound.stored hk)) ?_ ?_
    · rintro _ u ⟨e, hrec, -, hkeptu, hcoreu, hnamedu⟩
      rw [hresolved.record_of_ne hne] at hrec
      obtain ⟨e', hrec', hcount, hsame⟩ := hfrom.exists_record hrec
      obtain rfl := Option.some.inj (hrec'.symm.trans hrec₀)
      have hfind' := (find_of_named (hnamedu.trans hnamed)).trans hfind
      have hstep : c.Step (.place D k) (u.kvRename slot k).core := by
        rw [core_kvRename hfind' hkeptu.tabled, hcoreu]
        refine hresolved.place hdirc hne hk hrec (fun hgpu => ?_) fun hnone => ?_
        · rw [hfrom.isPinned]
          have hgpu' := hsame hgpu
          exact Bool.eq_false_iff.mpr fun hpin => hpinned ⟨hgpu' ▸ hgpu, hgpu' ▸ hpin⟩
        · have hpos := hsound.referenced.pos hrec
          have hone : (s.blockEntry source).referenceCount ≠ 1 := fun hone =>
            hshared ⟨findBlock_eq_none_iff.mpr (hfrom.record_none.mp hnone), hone⟩
          omega
      exact ⟨⟨.kvRename hfind' hkeptu, hstep.sound hsound⟩,
        (table_of_named (hnamedu.trans hnamed) :), find_kvRename hfind', c, hsweeps, .inr hstep⟩
    · -- the record that is left is there, and pins have not changed
      rintro error _ ⟨rfl, ⟨-, hnone⟩ | ⟨-, e, hrec, -, hgpu, hpin⟩⟩
      · rw [hresolved.record_of_ne hne] at hnone
        rw [hfrom.record_none.mp hnone] at hrec₀
        cases hrec₀
      · rw [hresolved.record_of_ne hne] at hrec
        obtain ⟨e', hrec', -, hsame⟩ := hfrom.exists_record hrec
        obtain rfl := Option.some.inj (hrec'.symm.trans hrec₀)
        rw [hresolved.isPinned, hfrom.isPinned] at hpin
        exact absurd ⟨hsame hgpu ▸ hgpu, hsame hgpu ▸ hpin⟩ hpinned

/-! ### Residency -/

theorem core_kvReturn (h : s.Tabled) (hfind : s.findBlock k = some slot)
    (hp : p < s.physicalBlockCapacity) :
    (s.kvReturn slot k p).core =
      { (s.core.setRecord k (some ((s.blockEntry slot).loaded p))).setBlock p
          ((s.core.block p).assigned k s.core.setting.epoch .resident) with
        allocated := s.core.allocated + 1
        swapped := s.core.swapped - 1 } := by
  have hkey : ((s.blockEntry slot).loaded p).key = k := key_of_find hfind
  rw [← core_setBlockEntry h hfind hkey, ← core_setPhysicalBlock (by exact hp)]
  rfl

theorem Kept.kvReturn (h : s.Kept spare) (hfind : s.findBlock k = some slot) :
    (s.kvReturn slot k p).Kept spare :=
  ((h.setBlockEntry hfind (show ((s.blockEntry slot).loaded p).key = k from key_of_find hfind)
    rfl).setPhysicalBlock).congr rfl

/-- A record is swapped out, and no block was found for it or a hook failed. -/
def Stranded (k : KvKey) (s : KvState W) (error : WorkControlError) : Prop :=
  (∃ e, s.core.record k = some e ∧ e.residencyState ≠ .gpu) ∧
    (error = .internalError ∨ W.Fails error ∨ error = .capacityExceeded ∧ ∀ p, ¬s.core.Available p)

theorem kvBlockResident_wp (h : s.Owned) (hdir : s.core.directory D = some k) :
    wp (kvBlockResident k) (fun p s' => s'.Owned ∧ s'.named = s.named ∧
        ∃ c, s.core.Sweeps c ∧ c.MadeResident D p s'.core)
      (fun error s' => s'.Owned ∧ s'.named = s.named ∧ s.core.Sweeps s'.core ∧
        s.Stranded k error) s := by
  obtain ⟨e, hrec⟩ := h.sound.referenced.exists_record hdir
  obtain ⟨slot, hfind, rfl⟩ := findBlock_of_record hrec
  rw [kvBlockResident, wp_read, wp_bind, wp_orFail_some hfind]
  refine wp_ite.mpr ⟨fun hgpu => ?_, fun hgpu => ?_⟩
  · rw [wp_bind, wp_set, wp_pure]
    have hp := (h.sound.stored.onDevice hrec hgpu).1
    refine ⟨⟨h.kept.setPhysicalBlock, ?_⟩, rfl, s.core, .refl _,
      k, _, hdir, hrec, .inl ⟨hgpu, rfl, core_setPhysicalBlock hp⟩⟩
    rw [kvTouch, core_setPhysicalBlock hp]
    exact (KvCore.Step.touch hrec hgpu).sound h.sound
  · rw [wp_bind]
    refine wp_mono (wp_and (kvAcquirePhysicalBlock_wp h.kept h.sound)
      (kvAcquirePhysicalBlock_swept.wp s)) ?_ ?_
    · rintro p u ⟨⟨hkept, hsweeps, hfree⟩, hswept⟩
      have hsound := hsweeps.sound h.sound
      have hfindu : u.findBlock k = some slot := by
        rw [findBlock, find, probe_of_swept hswept]
        exact hfind
      have hrecu : u.core.record k = some (s.blockEntry slot) := by
        rcases hsweeps.sweptFrom.record k with hk | ⟨e, hrec', hgpu', -⟩
        · rw [hk, hrec]
        · rw [hrec] at hrec'
          cases hrec'
          exact absurd hgpu' hgpu
      have hentry : u.blockEntry slot = s.blockEntry slot :=
        Option.some.inj ((record_of_findBlock hfindu).symm.trans hrecu)
      have hdiru : u.core.directory D = some k := by rw [hsweeps.sweptFrom.directory, hdir]
      rw [wp_bind]
      refine wp_mono (callHook_wp _ _) ?_ ?_
      · rintro _ _ ⟨hhooks, t, rfl⟩
        rw [wp_bind, wp_modify, wp_pure]
        set v := u.hooked t (.load k p (s.blockEntry slot).backingBlockIndex true)
        have hkeptv : v.Kept none := hkept.hooked hhooks _ _
        have hcorev : (v.kvReturn slot k p).core = u.core.load k (s.blockEntry slot) p := by
          rw [core_kvReturn hkeptv.tabled hfindu hfree.1, show v.blockEntry slot = _ from hentry]
          rfl
        have hstep : u.core.Step (.fault k) (v.kvReturn slot k p).core :=
          hcorev ▸ .load hrecu hgpu hfree
        exact ⟨⟨hkeptv.kvReturn hfindu, hstep.sound hsound⟩,
          (named_of_swept hswept :), u.core, hsweeps,
          k, _, hdiru, hrecu, .inr ⟨hgpu, hfree, hcorev⟩⟩
      · rintro error _ (⟨rfl, rfl⟩ | ⟨hhooks, ⟨t, t', hcall⟩, t'', rfl⟩)
        · exact ⟨⟨hkept, hsound⟩, named_of_swept hswept, hsweeps, ⟨_, hrec, hgpu⟩, .inl rfl⟩
        · have hstep : u.core.Step .failure
              (u.core.note (.load k p (s.blockEntry slot).backingBlockIndex false)) :=
            .loadFails hrecu hgpu hfree
          exact ⟨⟨hkept.hooked hhooks _ _, hstep.sound hsound⟩, named_of_swept hswept,
            hsweeps.trans (.single hstep (.inr rfl)), ⟨_, hrec, hgpu⟩,
            .inr (.inl ⟨_, _, _, _, _, .inr hcall⟩)⟩
    · rintro error u ⟨⟨hkept, hsweeps, herror⟩, hswept⟩
      exact ⟨⟨hkept, hsweeps.sound h.sound⟩, named_of_swept hswept, hsweeps,
        ⟨_, hrec, hgpu⟩, herror⟩

/-! ### Directory entries -/

/-- Why a directory key was not given a record. -/
def Unplaced (D k : KvKey) (s : KvState W) (error : WorkControlError) : Prop :=
  s.core.directory D = none ∧ error = .capacityExceeded ∧
      s.directoryCapacity / 2 ≤ s.directoryEntryCount ∨
    s.core.directory D ≠ some k ∧ ¬s.core.Bound D ∧
      (∀ e ∈ s.core.namedRecord D, e.referenceCount ≠ 1) ∧ s.Unresolved k error

/-- Acquiring a directory entry: a block is sought, the key placed, and its record made resident. -/
def Acquires (D k : KvKey) (p : Nat) (s s' : KvState W) : Prop :=
  ∃ c₁ c₂ c₃, s.core.Sweeps c₁ ∧ c₁.Placed D k c₂ ∧ c₂.Sweeps c₃ ∧ c₃.MadeResident D p s'.core

/-- A failure stops at one of the two searches. -/
def FailsToAcquire (D k : KvKey) (error : WorkControlError) (s s' : KvState W) : Prop :=
  s.core.Sweeps s'.core ∧ s.Unplaced D k error ∨
    ∃ c₁ k₁, ∃ t : KvState W, s.core.Sweeps c₁ ∧ c₁.Placed D k t.core ∧ t.core.Sweeps s'.core ∧
      t.core.directory D = some k₁ ∧ t.Stranded k₁ error

theorem resident_wp {t : KvState W} {c₁ : KvCore} (h : t.Owned)
    (htable : t.physicalBlockIndices = s.physicalBlockIndices)
    (hfind : kvDirectorySlots.find t.directoryEntries D = some slot)
    (hsweeps : s.core.Sweeps c₁) (hplaced : c₁.Placed D k t.core) :
    wp (do kvBlockResident ((← get).directoryEntry slot).blockKey : KvM W Nat)
      (fun p s' => s'.Owned ∧ s'.physicalBlockIndices = s.physicalBlockIndices ∧
        s.Acquires D k p s')
      (fun error s' => s'.Owned ∧ s'.physicalBlockIndices = s.physicalBlockIndices ∧
        s.FailsToAcquire D k error s') t := by
  have hdir := directory_of_find hfind
  rw [wp_read]
  refine wp_mono (kvBlockResident_wp h hdir) ?_ ?_
  · rintro p s' ⟨howned, hnamed, c, hsweeps', hresident⟩
    exact ⟨howned, (table_of_named hnamed).trans htable, c₁, t.core, c, hsweeps, hplaced, hsweeps',
      hresident⟩
  · rintro error s' ⟨howned, hnamed, hsweeps', hstranded⟩
    exact ⟨howned, (table_of_named hnamed).trans htable,
      .inr ⟨c₁, _, t, hsweeps, hplaced, hsweeps', hdir, hstranded⟩⟩

theorem kvDirectoryAcquire_wp (h : s.Owned) (hroomy : s.Roomy) (hk : k ≠ {})
    (hdirectory : 0 < s.directoryCapacity) (sequenceId logicalBlockIndex : Nat)
    (hD : privateKey sequenceId logicalBlockIndex = D) :
    wp (kvDirectoryAcquire sequenceId logicalBlockIndex k)
      (fun p s' => s'.Owned ∧ s'.physicalBlockIndices = s.physicalBlockIndices ∧
        s.Acquires D k p s')
      (fun error s' => s'.Owned ∧ s'.physicalBlockIndices = s.physicalBlockIndices ∧
        s.FailsToAcquire D k error s') s := by
  have hDne : D ≠ {} := hD ▸ privateKey_ne _ _
  rw [kvDirectoryAcquire, wp_read, hD]
  cases hprobe : kvDirectorySlots.probe s.directoryEntries D with
  | none => exact absurd hprobe (h.kept.tabled.directory.probe_ne_none hdirectory hDne)
  | some found =>
    obtain ⟨slot, found⟩ := found
    cases found with
    | false =>
      have hdir := directory_of_find_none (find_of_probe hprobe)
      simp only [hprobe, if_true]
      refine wp_ite.mpr ⟨fun hfull => ?_, fun hfull => ?_⟩
      · exact ⟨h, rfl, .inl ⟨.refl _, .inl ⟨hdir, rfl, hfull⟩⟩⟩
      rw [wp_bind]
      refine wp_mono (kvBlockResolve_wp h hroomy hk) ?_ ?_
      · rintro _ t ⟨hkept, hnamed, c, hsweeps, hresolved⟩
        rw [wp_bind, wp_modify]
        have hentries := directoryEntries_of_named hnamed
        have hcount := directoryEntryCount_of_named hnamed
        have hprobet : kvDirectorySlots.probe t.directoryEntries D = some (slot, false) := by
          rw [hentries, hprobe]
        have hroom : (t.directoryEntryCount + 1) * 2 ≤ t.directoryCapacity := by
          rw [directoryCapacity, hentries]
          have hfull : ¬s.directoryEntries.length / 2 ≤ s.directoryEntryCount := hfull
          omega
        have hdirc : c.directory D = none := by rw [hsweeps.sweptFrom.directory, hdir]
        have hstep : c.Step (.place D k) (t.kvEnter slot D k).core := by
          rw [core_kvEnter hprobet hDne hroom hkept.tabled]
          exact hresolved.enter hdirc hk
        exact resident_wp ⟨.kvEnter hprobet hDne hroom hkept,
          hstep.sound (hsweeps.sound h.sound)⟩ (table_of_named hnamed :)
          (find_kvEnter hprobet hDne hroom hkept.tabled) hsweeps (.inr hstep)
      · rintro error t ⟨howned, hnamed, hsweeps, hunresolved⟩
        refine ⟨howned, table_of_named hnamed, .inl ⟨hsweeps, .inr ⟨?_, ?_, ?_, hunresolved⟩⟩⟩
        · rw [hdir]
          exact fun hnone => by cases hnone
        · rintro ⟨k₁, e₁, hdir₁, -⟩
          rw [hdir] at hdir₁
          cases hdir₁
        · rw [namedRecord, hdir]
          exact fun e he => by cases he
    | true =>
      have hfind : kvDirectorySlots.find s.directoryEntries D = some slot :=
        find_of_probe_true hprobe
      have hdir := directory_of_find hfind
      simp only [hprobe, Bool.true_eq_false, if_false]
      refine wp_ite.mpr ⟨fun hother => ?_, fun hsame => ?_⟩
      · rw [wp_bind]
        refine wp_mono (kvPromoteBlock_wp h hroomy hk hfind hother) ?_ ?_
        · rintro _ t ⟨howned, htable, hfindt, c, hsweeps, hplaced⟩
          exact resident_wp howned htable hfindt hsweeps hplaced
        · rintro error t ⟨howned, hnamed, hsweeps, hunplaced⟩
          refine ⟨howned, table_of_named hnamed, .inl ⟨hsweeps, .inr ⟨?_, hunplaced⟩⟩⟩
          rw [hdir]
          exact fun heq => hother (Option.some.inj heq)
      · obtain ⟨e, hrec⟩ := h.sound.referenced.exists_record hdir
        exact resident_wp h rfl hfind (.refl _)
          (.inl ⟨rfl, _, e, hdir, hrec, .inl (not_not.mp hsame)⟩)

theorem kvDirectoryRelease_wp (h : s.Owned) (sequenceId logicalBlockIndex : Nat)
    (hD : privateKey sequenceId logicalBlockIndex = D) :
    wp (kvDirectoryRelease sequenceId logicalBlockIndex)
      (fun _ s' => s'.Owned ∧ s.core.Step (.remove D) s'.core)
      (fun error s' => s' = s ∧ (error = .notFound ∧ s.core.directory D = none ∨
        error = .busy ∧ ∃ k e, s.core.directory D = some k ∧ s.core.record k = some e ∧
          e.referenceCount ≤ 1 ∧ e.residencyState = .gpu ∧
          s.core.isPinned e.physicalBlockIndex)) s := by
  rw [kvDirectoryRelease, wp_read, wp_bind, wp_orFail, findDirectory, hD]
  refine ⟨fun slot hfind => ?_, fun hnone => ⟨rfl, .inl ⟨rfl, directory_of_find_none hnone⟩⟩⟩
  have hdir := directory_of_find hfind
  rw [wp_bind]
  refine wp_mono (kvBlockDeref_wp h.kept h.sound.stored) ?_ ?_
  · rintro _ t ⟨e, hrec, hpin, hkept, hcore, hnamed⟩
    rw [wp_modify]
    have hfindt := (find_of_named hnamed).trans hfind
    have hstep : s.core.Step (.remove D) (t.kvLeave slot).core := by
      rw [core_kvLeave hfindt hkept.tabled, hcore]
      exact .remove hdir hrec hpin
    exact ⟨⟨.kvLeave hfindt hkept, hstep.sound h.sound⟩, hstep⟩
  · rintro error _ ⟨rfl, ⟨-, hnone⟩ | ⟨hbusy, e, hrec, hone, hgpu, hpin⟩⟩
    · obtain ⟨e, hrec⟩ := h.sound.referenced.exists_record hdir
      rw [hnone] at hrec
      cases hrec
    · exact ⟨rfl, .inr ⟨hbusy, _, e, hdir, hrec, hone, hgpu, hpin⟩⟩

end KvState

end SparkPipe
