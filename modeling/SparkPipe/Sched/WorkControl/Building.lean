import SparkPipe.Sched.WorkControl.Operations

/-!
# Building block tables

A build is refused before anything has changed, or it acquires the blocks of the packet one after
another. Every block that is acquired is a sequence of events, and so is what a failure leaves.
-/

open Program

namespace SparkPipe

namespace KvCore

variable {D : KvKey} {c c' : KvCore}

/-- Making room, and what is done to the record of a directory key. -/
def Attending (D : KvKey) : KvRule := fun c event =>
  event = .evict ∨ event = .failure ∨ ∃ k, c.directory D = some k ∧
    (event = .fault k ∨ event = .touch k ∨ event = .start k)

/-- A block of a build: room is made, its key is placed, its record attended to. -/
def Turn (D k : KvKey) (c c' : KvCore) : Prop :=
  ∃ c₁ c₂, c.Sweeps c₁ ∧ c₁.Placed D k c₂ ∧ Evolves Step (Attending D) c₂ c'

theorem Sweeps.attending (h : c.Sweeps c') : Evolves Step (Attending D) c c' :=
  .mono (fun _ _ hevent => hevent.imp id Or.inl) h

theorem MadeResident.attending {p : Nat} (h : c.MadeResident D p c') :
    Evolves Step (Attending D) c c' := by
  obtain ⟨k, e, hdir, hrec, ⟨hgpu, rfl, rfl⟩ | ⟨hout, hfree, rfl⟩⟩ := h
  · exact .single (.touch hrec hgpu) (.inr (.inr ⟨k, hdir, .inr (.inl rfl)⟩))
  · exact .single (.load hrec hout hfree) (.inr (.inr ⟨k, hdir, .inl rfl⟩))

theorem Turn.setting {k : KvKey} (h : c.Turn D k c') : c'.setting = c.setting := by
  obtain ⟨c₁, c₂, hsweeps, hplaced, hattends⟩ := h
  have hlast : c'.setting = c₂.setting := by
    refine Evolves.invariant (I := (·.setting = c₂.setting)) ?_ hattends rfl
    intro c event c' hc hevent hstep
    rw [← hc]
    refine hstep.setting ?_ ?_ ?_ ?_ <;>
    rcases hevent with rfl | rfl | ⟨k, -, rfl | rfl | rfl⟩ <;> simp
  have hmiddle : c₂.setting = c₁.setting := by
    rcases hplaced with ⟨rfl, -⟩ | hstep
    · rfl
    · exact hstep.setting (by simp) (by simp) (by simp) (by simp)
  exact hlast.trans (hmiddle.trans hsweeps.sweptFrom.setting)

end KvCore

namespace KvState

open WorkControl

variable {W : SwapHooks} {s s' : KvState W} {k D : KvKey} {p : Nat} {e : KvBlockEntry}
  {rule : KvRule} {spare : Option Nat}
  {blk laneIndex : Nat} {state : KvEntryState} {config : WorkControlConfig}

/-! ### What a build leaves alone -/

theorem core_tabulated {l c : List Nat} (htable : l.length = s.physicalBlockIndices.length)
    (hcounts : c.length = s.lanePhysicalBlockCounts.length) :
    ({ s with physicalBlockIndices := l, lanePhysicalBlockCounts := c } : KvState W).core =
      s.core := by
  simp only [core, outline, tableEntryCapacity, laneCapacity, htable, hcounts]
  rfl

theorem roomy_of_outline (h : s'.outline = s.outline) (hroomy : s.Roomy) : s'.Roomy := by
  have hcapacity : s'.blockEntryCapacity = s.blockEntryCapacity :=
    congrArg (·.blockEntryCapacity) h
  rwa [Roomy, blockEntryLimit_of_outline h, hcapacity]

theorem kvBlockKeyOf_of_setting (h : s'.core.setting = s.core.setting)
    (packet : WorkControlPacket) (laneIndex blk : Nat) :
    s'.kvBlockKeyOf packet laneIndex blk = s.kvBlockKeyOf packet laneIndex blk := by
  have hsharing : (s'.laneBlockKeys, s'.laneBlockKeyStride) =
      (s.laneBlockKeys, s.laneBlockKeyStride) := congrArg KvSetting.sharing h
  obtain ⟨hkeys, hstride⟩ := Prod.mk.inj hsharing
  simp only [kvBlockKeyOf, kvLaneKeys, hkeys, hstride]

/-! ### One block -/

/-- The blocks of a packet, with the keys under which they are wanted. -/
def Wants (s : KvState W) (packet : WorkControlPacket) (D k : KvKey) : Prop :=
  ∃ laneIndex < packet.activeSequenceCount, ∃ blk < laneBlockCount packet (packet.lane laneIndex),
      D = privateKey (packet.lane laneIndex).sequenceId blk ∧
        k = s.kvBlockKeyOf packet laneIndex blk

variable {packet : WorkControlPacket} {E : WorkControlError → KvState W → Prop}
  {entryState : KvEntryState} {error : WorkControlError} {t : KvState W} {count : Nat}

theorem wants_block (s : KvState W) (hlane : laneIndex < packet.activeSequenceCount)
    (hblk : blk < laneBlockCount packet (packet.lane laneIndex)) :
    s.Wants packet (privateKey (packet.lane laneIndex).sequenceId blk)
      (s.kvBlockKeyOf packet laneIndex blk) := ⟨laneIndex, hlane, blk, hblk, rfl, rfl⟩

/-- What building a table may do once its epoch has begun. -/
def Building (wants : KvKey → KvKey → Prop) : KvRule := fun c event =>
  ∃ D k, wants D k ∧ (event = .place D k ∨ KvCore.Attending D c event)

theorem Turn.building {wants : KvKey → KvKey → Prop} {c c' : KvCore} (h : c.Turn D k c')
    (hwants : wants D k) : Evolves KvCore.Step (Building wants) c c' := by
  obtain ⟨c₁, c₂, hsweeps, hplaced, hattends⟩ := h
  have hquiet {c c' : KvCore} h : Evolves KvCore.Step (Building wants) c c' :=
    .mono (fun _ _ hevent => ⟨D, k, hwants, .inr hevent⟩) h
  refine (hquiet hsweeps.attending).trans (.trans ?_ (hquiet hattends))
  rcases hplaced with ⟨rfl, -⟩ | hstep
  · exact .refl _
  · exact .single hstep ⟨D, k, hwants, .inl rfl⟩

theorem Acquires.turn (h : s.Acquires D k p s') : s.core.Turn D k s'.core := by
  obtain ⟨c₁, c₂, c₃, hsweeps, hplaced, hsweeps', hresident⟩ := h
  exact ⟨c₁, c₂, hsweeps, hplaced, hsweeps'.attending.trans hresident.attending⟩

theorem FailsToAcquire.turn (h : s.FailsToAcquire D k error s') :
    s.core.Sweeps s'.core ∨ s.core.Turn D k s'.core := by
  rcases h with ⟨hsweeps, -⟩ | ⟨c₁, k₁, t, hsweeps, hplaced, hsweeps', -, -⟩
  · exact .inl hsweeps
  · exact .inr ⟨c₁, t.core, hsweeps, hplaced, hsweeps'.attending⟩

theorem Acquires.record (h : s.Acquires D k p s') : ∃ k₁ e, s'.core.directory D = some k₁ ∧
    s'.core.record k₁ = some e ∧ e.residencyState = .gpu ∧ e.physicalBlockIndex = p := by
  obtain ⟨c₁, c₂, c₃, -, -, -, k₁, e, hdir, hrec, ⟨hgpu, rfl, hcore⟩ | ⟨hout, hfree, hcore⟩⟩ := h
  · rw [hcore]
    exact ⟨k₁, e, hdir, hrec, hgpu, rfl⟩
  · rw [hcore]
    exact ⟨k₁, e.loaded p, hdir, (KvCore.record_load ..).trans (if_pos rfl), rfl, rfl⟩

theorem kvBlockKeyOf_ne (packet : WorkControlPacket) (laneIndex blk : Nat) :
    s.kvBlockKeyOf packet laneIndex blk ≠ {} := kvSelectKey_ne _ _ _ _ _

theorem Kept.kvTabulate (h : s.Kept spare) : (s.kvTabulate laneIndex blk p state).Kept spare :=
  h.setPhysicalBlock.congr rfl

theorem core_kvTabulate (hp : p < s.physicalBlockCapacity) :
    (s.kvTabulate laneIndex blk p state).core =
      s.core.setBlock p ((s.core.block p).withState state) := by
  refine Eq.trans ?_ (core_setPhysicalBlock hp)
  exact core_tabulated List.length_set rfl

theorem kvResolveEntryState_ok (h : kvResolveEntryState packet blk count entryState = .ok state) :
    state = entryState ∨ entryState = .missing ∧ state = .inFlight := by
  unfold kvResolveEntryState at h
  grind

theorem kvResolveEntryState_ne_missing
    (h : kvResolveEntryState packet blk count entryState = .ok state)
    (hblk : blk < count) :
    state ≠ .missing := by
  unfold kvResolveEntryState at h
  grind

/-- A block of a build is acquired, gets its state and is entered into the table. -/
def Builds (packet : WorkControlPacket) (laneIndex blk : Nat) (D k : KvKey) (s s' : KvState W) :
    Prop :=
  ∃ (t : KvState W) (p : Nat) (state : KvEntryState), t.Owned ∧
    t.physicalBlockIndices = s.physicalBlockIndices ∧ s.Acquires D k p t ∧
      p < t.physicalBlockCapacity ∧
    kvResolveEntryState packet blk (laneBlockCount packet (packet.lane laneIndex))
      (t.core.block p).state = .ok state ∧
    s' = t.kvTabulate laneIndex blk p state

/-- A block of a build could not be acquired, or is not resident. -/
def FailsToBuild (packet : WorkControlPacket) (laneIndex blk : Nat) (D k : KvKey)
    (error : WorkControlError) (s s' : KvState W) : Prop :=
  s.FailsToAcquire D k error s' ∨ ∃ p, s.Acquires D k p s' ∧
    kvResolveEntryState packet blk (laneBlockCount packet (packet.lane laneIndex))
      (s'.core.block p).state = .error error

theorem kvBuildBlock_wp (h : s.Owned) (hroomy : s.Roomy) (hdirectory : 0 < s.directoryCapacity)
    (packet : WorkControlPacket) (laneIndex blk : Nat)
    (hD : privateKey (packet.lane laneIndex).sequenceId blk = D)
    (hk : s.kvBlockKeyOf packet laneIndex blk = k) :
    wp (kvBuildBlock packet laneIndex blk)
      (fun _ s' => s'.Owned ∧ s.Builds packet laneIndex blk D k s')
      (fun error s' => s'.Owned ∧ s.FailsToBuild packet laneIndex blk D k error s') s := by
  rw [kvBuildBlock, wp_read, wp_bind, hk]
  refine wp_mono (kvDirectoryAcquire_wp h hroomy (hk ▸ kvBlockKeyOf_ne _ _ _) hdirectory _ _ hD)
    ?_ ?_
  · rintro p t ⟨ht, htable, hacquires⟩
    rw [wp_read]
    obtain ⟨k₁, e, hdir, hrec, hgpu, rfl⟩ := hacquires.record
    have hlt := (ht.sound.stored.onDevice hrec hgpu).1
    cases hstate : kvResolveEntryState packet blk (laneBlockCount packet (packet.lane laneIndex))
        (t.physicalBlock e.physicalBlockIndex).state with
    | error error => exact ⟨ht, .inr ⟨_, hacquires, hstate⟩⟩
    | ok state =>
      rw [wp_set]
      refine ⟨⟨ht.kept.kvTabulate, ?_⟩, t, _, state, ht, htable, hacquires, hlt, hstate, rfl⟩
      rw [core_kvTabulate hlt]
      refine ⟨ht.sound.stored.setBlock rfl ?_, ht.sound.referenced.pos, ht.sound.referenced.tally⟩
      rcases kvResolveEntryState_ok hstate with rfl | ⟨hmissing, rfl⟩
      · exact Iff.rfl
      · rw [show (t.core.block e.physicalBlockIndex).state = .missing from hmissing]
        exact iff_of_false (fun h => by cases h) fun h => by cases h
  · rintro error s' ⟨howned, -, hfails⟩
    exact ⟨howned, .inl hfails⟩

theorem setBlock_self (c : KvCore) (p : Nat) : c.setBlock p (c.block p) = c := by
  rw [KvCore.setBlock, Function.update_eq_self]

theorem Builds.turn (h : s.Builds packet laneIndex blk D k s') : s.core.Turn D k s'.core := by
  obtain ⟨t, p, state, ht, -, hacquires, hp, hstate, rfl⟩ := h
  obtain ⟨c₁, c₂, hsweeps, hplaced, hattends⟩ := hacquires.turn
  refine ⟨c₁, c₂, hsweeps, hplaced, hattends.trans ?_⟩
  obtain ⟨k₁, e, hdir, hrec, hgpu, rfl⟩ := hacquires.record
  rw [core_kvTabulate hp]
  rcases kvResolveEntryState_ok hstate with rfl | ⟨hmissing, rfl⟩
  · rw [show (t.core.block e.physicalBlockIndex).withState
      (t.core.block e.physicalBlockIndex).state = t.core.block e.physicalBlockIndex from rfl,
      setBlock_self]
    exact .refl _
  · exact .single (.start hrec hgpu hmissing) (.inr (.inr ⟨k₁, hdir, .inr (.inr rfl)⟩))

theorem FailsToBuild.turn (h : s.FailsToBuild packet laneIndex blk D k error s') :
    s.core.Sweeps s'.core ∨ s.core.Turn D k s'.core := by
  rcases h with hfails | ⟨p, hacquires, -⟩
  · exact hfails.turn
  · exact .inr hacquires.turn

/-! ### Whole builds -/

theorem wp_kvAdmitPacket {Q : Unit → KvState W → Prop} :
    wp (kvAdmitPacket packet) Q E s ↔ (s.kvAdmitStatus packet = .ok () → Q () s) ∧
      ∀ error, s.kvAdmitStatus packet = .error error → E error s := by
  unfold wp kvAdmitPacket
  cases s.kvAdmitStatus packet with
  | ok | error => simp

/-- The table that a build reports. -/
def tableView (packet : WorkControlPacket) (s : KvState W) : KvTableView where
  blockTokenCount := packet.blockTokenCount
  laneCount := packet.activeSequenceCount
  laneStride := s.laneStride
  laneCapacity := s.laneStride
  physicalBlockIndices := s.physicalBlockIndices
  lanePhysicalBlockCounts := s.lanePhysicalBlockCounts

theorem buildHostKvBlockTable_wp {Q : KvTableView → KvState W → Prop} (packet : WorkControlPacket)
    (config : WorkControlConfig)
    (hrefused : ∀ error, s.kvStateStatus packet config = .error error ∨
      packet.controlGeneration = 0 ∧ error = .invalidArgument ∨
      packet.controlGeneration < s.controlGeneration ∧ error = .notFound → E error s)
    (hunfit : ∀ error t, s.Selected packet t → t.kvAdmitStatus packet = .error error → E error t)
    (hbuild : ∀ t, s.Validated packet config → s.Selected packet t →
      t.kvAdmitStatus packet = .ok () → wp (forM (List.range packet.activeSequenceCount)
        (kvBuildLane packet)) (fun _ s' => Q (s'.tableView packet) s') E (t.kvStartEpoch packet)) :
    wp (buildHostKvBlockTable packet config) Q E s := by
  rw [buildHostKvBlockTable, wp_bind, wp_validateKvState]
  refine ⟨fun hvalid => ?_, fun error hstatus => hrefused error (.inl hstatus)⟩
  rw [wp_bind]
  refine wp_mono (selectKvGeneration_wp packet) ?_ ?_
  · intro _ t hselected
    rw [wp_bind, wp_kvAdmitPacket]
    refine ⟨fun hroom => ?_, fun error hroom => hunfit error t hselected hroom⟩
    rw [wp_bind, wp_modify, wp_bind]
    exact wp_post (hbuild t hvalid hselected hroom) fun _ _ h => h
  · rintro error _ ⟨rfl, hold⟩
    exact hrefused error (.inr hold)

theorem kvBuildLanes_wp (I : List (Nat × Nat) → KvState W → Prop)
    (hfits : ∀ laneIndex < packet.activeSequenceCount, laneFits packet laneIndex)
    (htable : ∀ {rest s}, I rest s → ∀ laneIndex < packet.activeSequenceCount,
      laneIndex * s.laneStride + laneBlockCount packet (packet.lane laneIndex) ≤
        s.tableEntryCapacity)
    (hcounts : ∀ {rest s} laneIndex count, I rest s →
      I rest { s with lanePhysicalBlockCounts := s.lanePhysicalBlockCounts.set laneIndex count })
    (hstep : ∀ {rest s} laneIndex blk, laneIndex < packet.activeSequenceCount →
      blk < laneBlockCount packet (packet.lane laneIndex) → I ((laneIndex, blk) :: rest) s →
      wp (kvBuildBlock packet laneIndex blk) (fun _ s' => I rest s') E s)
    (hs : I (packetBlocks packet) s) :
    wp (forM (List.range packet.activeSequenceCount) (kvBuildLane packet))
      (fun _ s' => I [] s') E s := by
  refine wp_forM_rest (fun lanes s => I (lanes.flatMap fun laneIndex =>
    (List.range (laneBlockCount packet (packet.lane laneIndex))).map (laneIndex, ·)) s) hs
    fun laneIndex hmem lanes s hI => ?_
  have hlane := List.mem_range.mp hmem
  rw [List.flatMap_cons] at hI
  have hroom := htable hI laneIndex hlane
  rw [kvBuildLane, wp_read]
  refine wp_ite.mpr ⟨fun hbad => ?_, fun _ => ?_⟩
  · rcases hbad with hunfit | hsmall
    · rw [hfits laneIndex hlane] at hunfit
      cases hunfit
    · omega
  · rw [wp_bind, wp_set]
    exact wp_forM_rest (fun blks s => I (blks.map (laneIndex, ·) ++ lanes.flatMap _) s)
      (hcounts laneIndex _ hI)
      fun blk hblk rest s hI => hstep laneIndex blk hlane (List.mem_range.mp hblk) hI

theorem laneFits_of_admitted (h : s.kvAdmitStatus packet = .ok ()) :
    ∀ laneIndex < packet.activeSequenceCount, laneFits packet laneIndex = true := by
  intro laneIndex hlane
  rw [kvAdmitStatus] at h
  split_ifs at h with hfits
  all_goals
    rw [Bool.not_eq_false, List.all_eq_true] at hfits
    exact hfits laneIndex (List.mem_range.mpr hlane)

theorem Validated.table_le (h : s.Validated packet config)
    (hlane : laneIndex < packet.activeSequenceCount) (hfits : laneFits packet laneIndex) :
    laneIndex * s.laneStride + laneBlockCount packet (packet.lane laneIndex) ≤
      s.tableEntryCapacity := by
  simp only [laneFits, Bool.and_eq_true, decide_eq_true_eq] at hfits
  rw [h.table]
  have hnext : (laneIndex + 1) * s.laneStride ≤ s.laneCapacity * s.laneStride :=
    Nat.mul_le_mul_right _ (Nat.lt_of_lt_of_le hlane h.lanes)
  have hblocks := h.blocks
  rw [Nat.add_mul] at hnext
  omega

theorem Validated.of_sizes (h : s.Validated packet config)
    (hsizes : s'.outline.toKvSizes = s.outline.toKvSizes) (hcounters : s'.countersAreValid) :
    s'.Validated packet config := by
  obtain ⟨hcapacities, htable, -, hpacket, htokens, hblocks, hlanes⟩ := h
  simp only [outline, KvSizes.mk.injEq] at hsizes
  obtain ⟨h1, h2, h3, h4, h5, h6, h7⟩ := hsizes
  rw [← h1, ← h2, ← h3, ← h5, ← h6, ← h7] at hcapacities
  rw [← h1, ← h2, ← h4] at htable
  rw [← h1] at hpacket hlanes
  rw [← h3] at htokens
  rw [← h2] at hblocks
  exact ⟨hcapacities, htable, hcounters, hpacket, htokens, hblocks, hlanes⟩

theorem Validated.selected (h : s.Validated packet config) (hselected : s.Selected packet t) :
    t.Validated packet config := by
  rcases hselected with ⟨-, rfl⟩ | ⟨-, rfl⟩
  · exact h
  set t := s.resetKvGeneration packet.controlGeneration
  have hcore : t.core = _ := core_resetKvGeneration packet.controlGeneration
  refine h.of_sizes (congrArg (·.setting.outline.toKvSizes) hcore) ?_
  have hbacking : t.backingBlockCapacity = s.backingBlockCapacity := length_freshBackingBlocks _
  have hrecords : t.blockEntryCapacity = s.blockEntryCapacity := List.length_replicate
  have hcounters := h.counters
  simp only [countersAreValid, Bool.and_eq_true, decide_eq_true_eq] at hcounters ⊢
  rw [hbacking, hrecords]
  exact ⟨⟨⟨⟨hcounters.1.1.1.1, Nat.zero_le _⟩, Nat.zero_le _⟩, Nat.zero_le _⟩, Nat.zero_le _⟩

theorem Selected.wants (hselected : s.Selected packet t) : t.Wants packet = s.Wants packet := by
  rcases hselected with ⟨-, rfl⟩ | ⟨-, rfl⟩ <;> rfl

theorem core_kvStartEpoch (hvalid : s.Validated packet config) : (s.kvStartEpoch packet).core =
      { s.core with setting := { s.core.setting with epoch := nextEpoch s.epoch } } := by
  refine core_tabulated (s := { s with epoch := nextEpoch s.epoch }) rfl ?_
  rw [List.length_append, List.length_replicate, List.length_drop]
  exact Nat.add_sub_cancel' hvalid.lanes

theorem outline_of_kvStartEpoch (hvalid : s.Validated packet config)
    (h : s'.core.setting = (s.kvStartEpoch packet).core.setting) : s'.outline = s.outline :=
  (outline_of_setting h).trans (congrArg (·.setting.outline) (core_kvStartEpoch hvalid))

theorem Owned.kvStartEpoch (h : s.Owned)
    (hvalid : s.Validated packet config) : (s.kvStartEpoch packet).Owned :=
  ⟨h.kept.congr rfl, core_kvStartEpoch hvalid ▸ (KvCore.Step.tick _).sound h.sound⟩

theorem kvBuildBlocks_wp
    (hs : s.Owned) (hvalid : s.Validated packet config) (hroom : s.kvAdmitStatus packet = .ok ())
    (I : List (Nat × Nat) → KvState W → Prop)
    (hstart : I (packetBlocks packet) (s.kvStartEpoch packet))
    (hcounts : ∀ {rest v} counts, counts.length = v.lanePhysicalBlockCounts.length → I rest v →
      I rest { v with lanePhysicalBlockCounts := counts })
    (hbuilds : ∀ {rest v s'} laneIndex blk, laneIndex < packet.activeSequenceCount →
      blk < laneBlockCount packet (packet.lane laneIndex) → v.Owned →
      v.core.setting = (s.kvStartEpoch packet).core.setting → I ((laneIndex, blk) :: rest) v →
      v.Builds packet laneIndex blk (privateKey (packet.lane laneIndex).sequenceId blk)
      (s.kvBlockKeyOf packet laneIndex blk) s' → kvBuildBlock packet laneIndex blk v = .ok () s' →
      s'.Owned → s'.core.setting = (s.kvStartEpoch packet).core.setting → I rest s')
    (hfails : ∀ {rest v s' error} laneIndex blk, laneIndex < packet.activeSequenceCount →
      blk < laneBlockCount packet (packet.lane laneIndex) → v.Owned →
      v.core.setting = (s.kvStartEpoch packet).core.setting → I ((laneIndex, blk) :: rest) v →
      v.FailsToBuild packet laneIndex blk (privateKey (packet.lane laneIndex).sequenceId blk)
      (s.kvBlockKeyOf packet laneIndex blk) error s' →
      kvBuildBlock packet laneIndex blk v = .error error s' → s'.Owned → E error s') :
    wp (forM (List.range packet.activeSequenceCount) (kvBuildLane packet))
      (fun _ s' => s'.Owned ∧ s'.core.setting = (s.kvStartEpoch packet).core.setting ∧ I [] s') E
      (s.kvStartEpoch packet) := by
  have hfits := laneFits_of_admitted hroom
  refine kvBuildLanes_wp (fun rest v => v.Owned ∧
    v.core.setting = (s.kvStartEpoch packet).core.setting ∧ I rest v) hfits ?table ?counts ?step
    ⟨hs.kvStartEpoch hvalid, rfl, hstart⟩
  case table =>
    rintro _ v ⟨-, hsetting, -⟩ laneIndex hlane
    have houtline := outline_of_kvStartEpoch hvalid hsetting
    have hstride : v.laneStride = s.laneStride := congrArg (·.laneStride) houtline
    have htable : v.tableEntryCapacity = s.tableEntryCapacity :=
      congrArg (·.tableEntryCapacity) houtline
    rw [hstride, htable]
    exact hvalid.table_le hlane (hfits laneIndex hlane)
  case counts =>
    rintro _ v laneIndex count ⟨hv, hsetting, hI⟩
    have hcore := core_tabulated
      (c := v.lanePhysicalBlockCounts.set laneIndex count) rfl List.length_set
    exact ⟨⟨hv.kept.congr rfl, hcore ▸ hv.sound⟩, hcore ▸ hsetting, hcounts _ List.length_set hI⟩
  case step =>
    rintro _ v laneIndex blk hlane hblk ⟨hv, hsetting, hI⟩
    have houtline := outline_of_kvStartEpoch hvalid hsetting
    have hdirectory : v.directoryCapacity = s.directoryCapacity :=
      congrArg (·.directoryCapacity) houtline
    have hkey : v.kvBlockKeyOf packet laneIndex blk = s.kvBlockKeyOf packet laneIndex blk :=
      kvBlockKeyOf_of_setting hsetting packet laneIndex blk
    refine wp_mono (wp_outcome (kvBuildBlock_wp hv (roomy_of_outline houtline hvalid.roomy)
      (hdirectory.symm ▸ hvalid.directory_pos) packet laneIndex blk rfl hkey)) ?_ ?_
    · rintro _ s' ⟨⟨howned, hb⟩, hrun⟩
      have hsetting' := hb.turn.setting.trans hsetting
      exact ⟨howned, hsetting',
        hbuilds laneIndex blk hlane hblk hv hsetting hI hb hrun howned hsetting'⟩
    · rintro error s' ⟨⟨howned, hf⟩, hrun⟩
      exact hfails laneIndex blk hlane hblk hv hsetting hI hf hrun howned

/-- What a build may do. -/
def Tabulating (wants : KvKey → KvKey → Prop) (renews : Prop) : KvRule := fun c event =>
  Renewing renews c event ∨ event = .tick ∨ Building wants c event

theorem buildHostKvBlockTable_follows (config : WorkControlConfig) :
    Follows (Tabulating (s.Wants packet) (s.controlGeneration < packet.controlGeneration)) s
      (finalState (buildHostKvBlockTable packet config s)) := by
  intro h
  set rule := Tabulating (s.Wants packet) (s.controlGeneration < packet.controlGeneration)
    with hrule
  have hreset t (hselected : s.Selected packet t) : Reaches rule s t :=
    (hselected.follows h).imp id (.mono fun _ _ => .inl)
  refine wp_finalState (buildHostKvBlockTable_wp packet config (fun _ _ => ⟨h, .refl _⟩)
      (fun _ t hselected _ => hreset t hselected) fun t hvalid hselected hroom => ?_)
  obtain ⟨ht, hevolves⟩ := hreset t hselected
  have htick : Evolves KvCore.Step rule s.core (t.kvStartEpoch packet).core :=
    core_kvStartEpoch (hvalid.selected hselected) ▸
      hevolves.trans (.single (.tick (nextEpoch t.epoch)) (.inr (.inl rfl)))
  refine wp_post (kvBuildBlocks_wp ht (hvalid.selected hselected) hroom
    (fun _ v => Evolves KvCore.Step rule s.core v.core) htick
    (fun _ hlength h => core_tabulated rfl hlength ▸ h) ?builds ?fails) fun _ _ h => ⟨h.1, h.2.2⟩
  case builds =>
    intro _ v s' laneIndex blk hlane hblk _ _ hv hbuilds _ _ _
    exact hv.trans (Evolves.mono (fun _ _ hevent => .inr (.inr hevent))
      (Turn.building hbuilds.turn (hselected.wants ▸ t.wants_block hlane hblk)))
  case fails =>
    intro _ v s' error laneIndex blk hlane hblk _ _ hv hfails _ howned
    have hwanted := hselected.wants ▸ t.wants_block hlane hblk
    refine ⟨howned, hv.trans (.mono (fun _ _ hevent => .inr (.inr hevent)) ?_)⟩
    rcases hfails.turn with hsweeps | hturn
    · exact Evolves.mono (fun _ _ hevent => ⟨_, _, hwanted, .inr hevent⟩) hsweeps.attending
    · exact Turn.building hturn hwanted

end KvState

end SparkPipe
