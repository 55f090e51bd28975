import SparkPipe.Sched.WorkControl.Outline

/-!
# Built tables

A build that succeeds leaves a table in which every block of the packet stands with the physical
block of the record that it names, as long as no block is wanted under two keys. Two lanes of one
sequence, of which only one has its content published, want a block under two keys; the record of
the first lane is then given up while its block stands in the table.

What a build has tabulated is not spilled before the build has finished, and after that a pinned
block keeps its key and its owner until the generation changes.
-/

open Program

namespace SparkPipe

open WorkControl

/-! ### Pinned blocks -/

namespace KvCore

variable {c c' : KvCore} {k : KvKey} {p : Nat} {event : KvEvent}

/-- A record has its content in a physical block. -/
def Owns (c : KvCore) (k : KvKey) (p : Nat) : Prop :=
  ∃ e, c.record k = some e ∧ e.residencyState = .gpu ∧ e.physicalBlockIndex = p

/-- A physical block has the same key, and is lent out or not as before. -/
def SameBlock (p : Nat) (c c' : KvCore) : Prop :=
  (c'.block p).key = (c.block p).key ∧
    ((c'.block p).state = .transient ↔ (c.block p).state = .transient)

theorem SameBlock.trans {c'' : KvCore} (h : c.SameBlock p c') (h' : c'.SameBlock p c'') :
    c.SameBlock p c'' :=
  ⟨h'.1.trans h.1, h'.2.trans h.2⟩

theorem Sound.owns_iff (h : c.Sound) : c.Owns k p ↔
    k ≠ {} ∧ (c.block p).key = k ∧ (c.block p).state ≠ .transient := by
  constructor
  · rintro ⟨e, hrec, hgpu, rfl⟩
    exact ⟨h.stored.key_ne hrec, (h.stored.onDevice hrec hgpu).2⟩
  · rintro ⟨hk, rfl, hstate⟩
    exact h.stored.owner hk hstate

theorem SameBlock.owns_iff (hsame : c.SameBlock p c') (h : c.Sound) (h' : c'.Sound) :
    c'.Owns k p ↔ c.Owns k p := by
  rw [h.owns_iff, h'.owns_iff, hsame.1, ne_eq (c'.block p).state, hsame.2]

theorem Step.pinned (hstep : Step c event c') (hsound : c.Sound) (hpin : c.isPinned p)
    (hreset : event ≠ .reset) (hback : event ≠ .takeBack p) (hunpin : event ≠ .unpin p) :
    c.SameBlock p c' ∧ c'.isPinned p = true := by
  cases hstep <;> grind [SameBlock, note]

theorem Step.generation_le (hstep : Step c event c') :
    c.setting.outline.controlGeneration ≤ c'.setting.outline.controlGeneration ∧
      (c'.setting.outline.controlGeneration = c.setting.outline.controlGeneration →
        event ≠ .reset) := by
  cases hstep with
  | reset hnew => exact ⟨hnew.le, fun heq => absurd heq hnew.ne'⟩
  | _ => simp [note]

end KvCore

namespace KvOp

variable {W : SwapHooks} {s : KvState W}

/-- The block stays pinned over the operation, and the generation stays. -/
def KeepsPinned (p : Nat) (s : KvState W) (op : KvOp W) : Prop :=
  s.core.isPinned p ∧ (op.exec s).core.isPinned p ∧
    (op.exec s).controlGeneration = s.controlGeneration

theorem exec_pinned {p : Nat} {op : KvOp W} (h : s.Owned) (hkeeps : op.KeepsPinned p s) :
    s.core.SameBlock p (op.exec s).core := by
  obtain ⟨hpin, hpin', hgeneration⟩ := hkeeps
  have hrun := h.sound.invariant (I := fun c => s.controlGeneration ≤
      c.setting.outline.controlGeneration ∧
      (c.setting.outline.controlGeneration = s.controlGeneration →
        s.core.SameBlock p c ∧ (c.isPinned p = true ∨ op = .unpinPhysicalBlock p) ∨
          op = .releaseTransientPhysicalBlock p ∧ c.isPinned p = false))
    (op.exec_follows s h).2 ?_ ⟨le_rfl, fun _ => .inl ⟨⟨rfl, Iff.rfl⟩, .inl hpin⟩⟩
  · rcases hrun.2 hgeneration with hsame | ⟨-, hfree⟩
    · exact hsame.1
    · exact absurd hpin' (by simp [hfree])
  rintro c event c' hsound ⟨hle, hblock⟩ hevent hstep
  have hcause := causes_of_allows hevent
  obtain ⟨hle', hreset⟩ := hstep.generation_le
  refine ⟨hle.trans hle', fun hsame => ?_⟩
  have hold := le_antisymm (hle'.trans_eq hsame) hle
  by_cases hback : event = .takeBack p
  · refine .inr ⟨hcause.takeBack.mp hback, ?_⟩
    subst hback
    cases hstep
    grind
  rcases hblock hold with ⟨hkey, hpinned⟩ | ⟨hop, -⟩
  · by_cases hunpin : event = .unpin p
    · refine .inl ⟨hkey.trans ?_, .inr (hcause.unpin.mp hunpin)⟩
      subst hunpin
      cases hstep
      grind [KvCore.SameBlock]
    · obtain ⟨hsame', hstill⟩ := hstep.pinned hsound
        (hpinned.resolve_right fun hop => hunpin (hcause.unpin.mpr hop))
        (hreset (hsame.trans hold.symm)) hback hunpin
      exact .inl ⟨hkey.trans hsame', .inl hstill⟩
  · exact absurd (hcause.takeBack.mpr hop) hback

theorem run_pinned {p : Nat} (h : s.Owned) (ops : List (KvOp W))
    (hkeeps : Along exec (fun t op => op.KeepsPinned p t) s ops) :
    ((runAll exec s ops).core.block p).key = (s.core.block p).key ∧
      ∀ k, (runAll exec s ops).core.Owns k p ↔ s.core.Owns k p := by
  have hsame := run_invariant (I := fun t => s.core.SameBlock p t.core)
    (fun ht hop hsame => hsame.trans (exec_pinned ht hop)) hkeeps h ⟨rfl, Iff.rfl⟩
  exact ⟨hsame.1, fun k => hsame.owns_iff h.sound (run_owned h ops).sound⟩

end KvOp

/-! ### Built tables -/

/-- The physical block in a cell of a table. -/
def KvTableView.block (view : KvTableView) (laneIndex blk : Nat) : Nat :=
  view.physicalBlockIndices.getD (laneIndex * view.laneStride + blk) kvInvalidBlockIndex

namespace KvState

variable {W : SwapHooks}

/-- A key names a record on the device whose block is computed or in flight. -/
def Resolves (s : KvState W) (D k : KvKey) (p : Nat) : Prop :=
  s.core.directory D = some k ∧ s.core.Owns k p ∧
    ((s.core.block p).state = .resident ∨ (s.core.block p).state = .inFlight)

/-- What a built table tells of the state after the build. -/
structure Tabulates (packet : WorkControlPacket) (view : KvTableView) (start s : KvState W) :
    Prop where
  resolves : ∀ laneIndex < packet.activeSequenceCount,
    ∀ blk < laneBlockCount packet (packet.lane laneIndex),
      ∃ k, s.Resolves (privateKey (packet.lane laneIndex).sequenceId blk) k
        (view.block laneIndex blk)
  sameKey : ∀ {D D' k k' p}, s.Resolves D k p → s.Resolves D' k' p → k = k'
  unspilled : ∀ laneIndex < packet.activeSequenceCount,
    ∀ blk < laneBlockCount packet (packet.lane laneIndex), ∃ before after t,
      before ++ (laneIndex, blk) :: after = packetBlocks packet ∧
      Built packet (before ++ [(laneIndex, blk)]) start t ∧
      t.cell laneIndex blk = view.block laneIndex blk ∧
      t.core.Unspilled (view.block laneIndex blk) s.core

end KvState

/-- When no block of a packet is wanted under two keys, the table that is built for it in a state
that was reached holds the physical block of every block of the packet, none of them was spilled
since it was built, and from then on a block keeps its key and its owner while it is pinned. -/
theorem built_table_is_correct_and_stable {W : SwapHooks} {laneCapacity laneStride blockTokenCount
      physicalBlockCapacity directoryCapacity blockEntryCapacity : UInt32} {s₀ s' : KvState W}
    (hnew : KvState.new laneCapacity laneStride blockTokenCount physicalBlockCapacity
      directoryCapacity blockEntryCapacity = .ok s₀) (ops : List (KvOp W))
    {packet : WorkControlPacket} {config : WorkControlConfig} {view : KvTableView}
    (hfunctional : ∀ D k k', (runAll KvOp.exec s₀ ops).Wants packet D k →
      (runAll KvOp.exec s₀ ops).Wants packet D k' → k = k')
    (hbuild : KvState.buildHostKvBlockTable packet config (runAll KvOp.exec s₀ ops) = .ok view s') :
    (∃ t, (runAll KvOp.exec s₀ ops).Selected packet t ∧
      KvState.Tabulates packet view (t.kvStartEpoch packet) s') ∧
    ∀ p earlier later, Along KvOp.exec (fun t op => op.KeepsPinned p t)
        (runAll KvOp.exec s' earlier) later →
      ((runAll KvOp.exec s' (earlier ++ later)).core.block p).key =
          ((runAll KvOp.exec s' earlier).core.block p).key ∧
        ∀ k, (runAll KvOp.exec s' (earlier ++ later)).core.Owns k p ↔
          (runAll KvOp.exec s' earlier).core.Owns k p := by
  have hs := KvOp.run_owned (owned_of_new hnew) ops
  obtain ⟨howned, rfl, t, hselected, -, hserved⟩ := wp_ok
    (KvState.buildHostKvBlockTable_serves hs packet config (hfunctional _ _ _)) hbuild
  refine ⟨⟨t, hselected, ?_, ?_, fun laneIndex hlane blk hblk =>
    (hserved laneIndex hlane blk hblk).2⟩,
    fun p earlier later hkeeps => ?_⟩
  · intro laneIndex hlane blk hblk
    obtain ⟨k, e, hdir, hrec, hgpu, hphys, hmissing, -⟩ := (hserved laneIndex hlane blk hblk).1
    have hlent := (howned.sound.stored.onDevice hrec hgpu).2.2
    rw [hphys] at hlent
    refine ⟨k, hdir, ⟨e, hrec, hgpu, hphys⟩, ?_⟩
    show (s'.core.block (s'.cell laneIndex blk)).state = _ ∨ _
    cases hstate : (s'.core.block (s'.cell laneIndex blk)).state with
    | missing => exact absurd hstate hmissing
    | transient => exact absurd hstate hlent
    | resident => exact .inl rfl
    | inFlight => exact .inr hstate
  · rintro D D' k k' p ⟨-, hk, -⟩ ⟨-, hk', -⟩
    exact (howned.sound.owns_iff.mp hk).2.1.symm.trans (howned.sound.owns_iff.mp hk').2.1
  · rw [runAll_append]
    exact KvOp.run_pinned (KvOp.run_owned howned earlier) later hkeeps

/-- Two lanes of one sequence, and one of another. -/
def doubledPacket : WorkControlPacket :=
  smallPacket true 4 [smallLane 2 0 4, smallLane 1 0 4, smallLane 1 0 4]

/-- One content is published for the block of the first and of the third lane. -/
def doublySharedOps : List (KvOp steadyHooks) :=
  [.configureKvSharing (some [⟨7, 7⟩, {}, ⟨7, 7⟩]) 1]

/-- The second lane enters a block under its private key, the third lane takes it to the published
record, and the table keeps the physical block that was given up. -/
theorem built_table_names_a_freed_block : ∃ s₀ : KvState steadyHooks,
    KvState.new 16 4 4 8 16 16 = .ok s₀ ∧
      ((KvState.buildHostKvBlockTable doubledPacket smallConfig).run'
        (runAll KvOp.exec s₀ doublySharedOps)).map (·.block 1 0) = some 1 ∧
      let s' := runAll KvOp.exec s₀
        (doublySharedOps ++ [.buildHostKvBlockTable doubledPacket smallConfig])
      ((s'.core.directory (privateKey 1 0)).bind s'.core.record).map
        KvBlockEntry.physicalBlockIndex = some 0 :=
  ⟨_, rfl, by decide +kernel, by decide +kernel⟩

/-- Blocks may be pinned, and the first two lanes share one content. -/
def sharingState : KvState steadyHooks :=
  runAll KvOp.exec roomyState
    [.configureKvPins, .configureKvSharing (some [⟨7, 7⟩, ⟨7, 7⟩]) 1]

/-- Two sequences share a block, which is pinned then; one of them is released. -/
theorem built_table_is_correct_and_stable_shared :
    let packet := smallPacket true 4 [smallLane 1 0 4, smallLane 2 0 4]
    let build := KvState.buildHostKvBlockTable packet smallConfig
    (build.run' sharingState).map (fun view => (view.block 0 0, view.block 1 0)) = some (0, 0) ∧
      ∃ view s' start, build sharingState = .ok view s' ∧
        KvState.Tabulates packet view start s' ∧
        (runAll KvOp.exec s' [.pinPhysicalBlock 0]).core.isPinned 0 = true ∧
        ((runAll KvOp.exec s' [.pinPhysicalBlock 0, .releaseSequence 1 1]).core.block 0).key =
          ((runAll KvOp.exec s' [.pinPhysicalBlock 0]).core.block 0).key := by
  intro packet build
  obtain ⟨view, hbuild⟩ := exists_ok_of_succeeds
    (show succeeds (build sharingState) = true by decide +kernel)
  have hkey : ∀ l < packet.activeSequenceCount,
      ∀ b < KvState.laneBlockCount packet (packet.lane l),
        sharingState.kvBlockKeyOf packet l b = contentKey 7 7 := by decide +kernel
  obtain ⟨⟨t, -, htable⟩, hstable⟩ := built_table_is_correct_and_stable
    new_roomyState _ (fun D k k' hk hk' => by
      obtain ⟨l, hl, b, hb, -, rfl⟩ := hk
      obtain ⟨l', hl', b', hb', -, rfl⟩ := hk'
      exact (hkey l hl b hb).trans (hkey l' hl' b' hb').symm) hbuild
  refine ⟨by decide +kernel, view, _, _, hbuild, htable, by decide +kernel,
    (hstable 0 [.pinPhysicalBlock 0] [.releaseSequence 1 1] ⟨⟨?_, ?_, ?_⟩, trivial⟩).1⟩
  all_goals decide +kernel

end SparkPipe
