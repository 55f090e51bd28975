import SparkPipe.Sched.WorkControl.Sharing

/-!
# Sizes and generations

The sizes of the state never change once something is held, and the generation changes only when an
operation begins a new one. Whether a packet is valid depends on nothing else, so that a packet that
was valid stays valid.
-/

open Program

namespace SparkPipe

open WorkControl

namespace KvState

variable {W : SwapHooks} {s s' : KvState W}

theorem Owned.countersAreValid (h : s.Owned)
    (hbacking : s.backingBlockCapacity ≤ s.blockEntryCapacity / 2) : s.countersAreValid = true := by
  have hhooks : decide (s.backingBlockCapacity = 0) = s.swapHooks.isNone := by
    rw [Bool.eq_iff_iff, decide_eq_true_eq, Option.isNone_iff_eq_none]
    exact h.kept.tabled.hooks
  have hdirectory : s.directoryEntryCount ≤ s.directoryCapacity / 2 := by
    have hroom := h.kept.tabled.directory.room
    have hcount := h.kept.tabled.directoryCount
    rw [directoryCapacity]
    omega
  have hallocated : s.allocatedPhysicalBlockCount ≤ s.physicalBlockCapacity := by
    refine h.sound.stored.allocated.le (.lt _) fun p hused => ?_
    by_contra hge
    refine hused ?_
    show (s.physicalBlocks.getD p {}).key = {}
    rw [List.getD_eq_default _ _ (not_lt.mp hge)]
  have hswapped : s.swappedBlockCount ≤ s.blockEntryCount := by
    refine h.sound.stored.swapped.le h.kept.tabled.tally_record ?_
    rintro k ⟨e, hrec, -⟩
    exact hrec.symm ▸ Option.some_ne_none e
  simp only [KvState.countersAreValid, Bool.and_eq_true, decide_eq_true_eq]
  exact ⟨⟨⟨⟨⟨hhooks, hbacking⟩, h.kept.tabled.within⟩, hdirectory⟩, hallocated⟩, hswapped⟩

theorem Validated.of_outline {packet : WorkControlPacket} {config : WorkControlConfig}
    (h : s.Validated packet config) (hs' : s'.Owned) (houtline : s'.outline = s.outline) :
    s'.Validated packet config := by
  refine h.of_sizes (congrArg (·.toKvSizes) houtline) (hs'.countersAreValid ?_)
  have hbacking : s'.backingBlockCapacity = s.backingBlockCapacity :=
    congrArg (·.backingBlockCapacity) houtline
  have hrecords : s'.blockEntryCapacity = s.blockEntryCapacity :=
    congrArg (·.blockEntryCapacity) houtline
  have hcounters := h.counters
  simp only [KvState.countersAreValid, Bool.and_eq_true, decide_eq_true_eq] at hcounters
  rw [hbacking, hrecords]
  exact hcounters.1.1.1.1.2

theorem finalState_configureKvSwap {capacity : Nat} {store : W.Store}
    (h : succeeds (configureKvSwap capacity store s) = false) :
    finalState (configureKvSwap capacity store s) = s := by
  have hkeeps : wp (configureKvSwap capacity store) (fun _ _ => True) (fun _ t => t = s) s := by
    rw [configureKvSwap, wp_read]
    exact wp_ite.mpr ⟨fun _ => rfl, fun _ => trivial⟩
  cases hrun : configureKvSwap capacity store s with
  | ok =>
    rw [hrun] at h
    cases h
  | error =>
    have hsame := wp_error hkeeps hrun
    exact hsame

end KvState

namespace KvOp

variable {W : SwapHooks} {s : KvState W} {op : KvOp W}

theorem exec_outline_of_ne (op : KvOp W) (h : s.Owned)
    (hsupply : ∀ capacity store, op ≠ .configureKvSwap capacity store) (hrenews : ¬op.Renews s) :
    (op.exec s).outline = s.outline := by
  refine Evolves.invariant (I := (·.setting.outline = s.outline)) ?_ (op.exec_follows s h).2 rfl
  intro c event c' hc hevent hstep
  have hcause := causes_of_allows hevent
  refine (hstep.outline (fun capacity heq => ?_) fun heq => hrenews (hcause.reset heq)).trans hc
  obtain ⟨store, hop⟩ := hcause.supply heq
  exact hsupply capacity store hop

theorem exec_outline {D : KvKey} (op : KvOp W) (h : s.Owned) (hheld : s.core.directory D ≠ none)
    (hrenews : ¬op.Renews s) : (op.exec s).outline = s.outline := by
  by_cases hsupply : ∃ capacity store, op = .configureKvSwap capacity store
  · obtain ⟨capacity, store, rfl⟩ := hsupply
    have hcount : s.directoryEntryCount ≠ 0 :=
      Nat.pos_iff_ne_zero.mp (h.kept.tabled.tally_directory.pos hheld)
    refine wp_finalState (R := fun t : KvState W => t.outline = s.outline) ?_
    rw [KvState.configureKvSwap, wp_read]
    exact wp_ite.mpr ⟨fun _ => rfl, fun hvalid => absurd (.inr (.inr (.inl hcount))) hvalid⟩
  · exact op.exec_outline_of_ne h (fun capacity store hop => hsupply ⟨capacity, store, hop⟩) hrenews

theorem exec_sizes (op : KvOp W) (h : s.Owned)
    (hswap : ∀ capacity store, op = .configureKvSwap capacity store →
      succeeds (KvState.configureKvSwap capacity store s) →
        capacity ≤ s.blockEntryCapacity / 2)
    (hbacking : s.backingBlockCapacity ≤ s.blockEntryCapacity / 2) :
    (op.exec s).outline.toKvSizes = s.outline.toKvSizes ∧
      (op.exec s).backingBlockCapacity ≤ (op.exec s).blockEntryCapacity / 2 := by
  by_cases hrefused : ∃ capacity store, op = .configureKvSwap capacity store ∧
      succeeds (KvState.configureKvSwap capacity store s) = false
  · obtain ⟨capacity, store, rfl, hrefused⟩ := hrefused
    rw [exec, KvState.finalState_configureKvSwap hrefused]
    exact ⟨rfl, hbacking⟩
  refine Evolves.invariant (I := fun c => c.setting.outline.toKvSizes = s.outline.toKvSizes ∧
    c.setting.outline.backingBlockCapacity ≤ c.setting.outline.blockEntryCapacity / 2) ?_
    (op.exec_follows s h).2 ⟨rfl, hbacking⟩
  rintro c event c' ⟨hsizes, hbound⟩ hevent hstep
  refine ⟨hstep.sizes.trans hsizes, hstep.backing (fun n heq => ?_) hbound⟩
  obtain ⟨store, hop⟩ := (causes_of_allows hevent).supply heq
  have haccepted := Bool.eq_true_of_not_eq_false fun h => hrefused ⟨n, store, hop, h⟩
  exact (hswap n store hop haccepted).trans_eq (congrArg (·.blockEntryCapacity / 2) hsizes.symm)

end KvOp

/-! ### The configuration -/

/-- The sizes with which a state is made. -/
def KvSizes.IsValid (z : KvSizes) : Prop :=
  KvState.capacitiesAreValid z.laneCapacity z.laneStride z.blockTokenCount z.physicalBlockCapacity
      z.directoryCapacity z.blockEntryCapacity ∧
    z.tableEntryCapacity = z.laneCapacity * z.laneStride

/-- The checks of a packet's validation that are about the state alone. -/
def KvState.IsServiceable {W : SwapHooks} (s : KvState W) : Prop :=
  s.outline.toKvSizes.IsValid ∧ s.countersAreValid

section New

variable {W : SwapHooks} {laneCapacity laneStride blockTokenCount physicalBlockCapacity
  directoryCapacity blockEntryCapacity : UInt32} {s₀ : KvState W}

theorem sizes_of_new (h : KvState.new laneCapacity laneStride blockTokenCount
    physicalBlockCapacity directoryCapacity blockEntryCapacity = .ok s₀) :
    s₀.outline.toKvSizes.IsValid ∧ s₀.backingBlockCapacity = 0 := by
  rw [KvState.new] at h
  split_ifs at h with hinvalid
  cases h
  simpa [KvSizes.IsValid, KvState.outline, KvState.laneCapacity, KvState.tableEntryCapacity,
    KvState.physicalBlockCapacity, KvState.directoryCapacity, KvState.blockEntryCapacity,
    KvState.backingBlockCapacity] using hinvalid

/-- As long as no more backing slots are accepted than half of the block table, every state of
every run passes the checks of the state alone, so that a packet is refused only for what is wrong
with it or for its geometry. -/
theorem accepted_configuration_stays_serviceable
    (hnew : KvState.new laneCapacity laneStride blockTokenCount physicalBlockCapacity
      directoryCapacity blockEntryCapacity = .ok s₀) (ops : List (KvOp W))
    (hswap : Along KvOp.exec (fun s op => ∀ capacity store, op = .configureKvSwap capacity store →
      succeeds (KvState.configureKvSwap capacity store s) = true →
        capacity ≤ s.blockEntryCapacity / 2) s₀ ops) :
    (runAll KvOp.exec s₀ ops).IsServiceable ∧ ∀ packet config error,
      (runAll KvOp.exec s₀ ops).kvStateStatus packet config = .error error →
        validatePacket packet config (runAll KvOp.exec s₀ ops).laneCapacity (2 ^ 32 - 1) ≠ .ok () ∨
          packet.blockTokenCount ≠ (runAll KvOp.exec s₀ ops).blockTokenCount ∨
          (runAll KvOp.exec s₀ ops).laneStride < packet.maxBlocksPerSequence ∨
          (runAll KvOp.exec s₀ ops).laneCapacity < packet.activeSequenceCount := by
  obtain ⟨hvalid, hzero⟩ := sizes_of_new hnew
  obtain ⟨hsizes, hbacking⟩ := KvOp.run_invariant
    (I := fun s => s.outline.toKvSizes = s₀.outline.toKvSizes ∧
      s.backingBlockCapacity ≤ s.blockEntryCapacity / 2)
    (fun hs hop ⟨hsizes, hbound⟩ => (KvOp.exec_sizes _ hs hop hbound).imp (·.trans hsizes) id)
    hswap (owned_of_new hnew) ⟨rfl, hzero.trans_le (Nat.zero_le _)⟩
  rw [← hsizes] at hvalid
  have hcounters := (KvOp.run_owned (owned_of_new hnew) ops).countersAreValid hbacking
  refine ⟨⟨hvalid, hcounters⟩, fun packet config error hrefused => ?_⟩
  by_contra hnone
  simp only [not_or, not_not, not_lt, ne_eq] at hnone
  obtain ⟨hpacket, htokens, hblocks, hlanes⟩ := hnone
  have hok := KvState.kvStateStatus_eq_ok.mpr
    ⟨hvalid.1, hvalid.2, hcounters, hpacket, htokens, hblocks, hlanes⟩
  rw [hok] at hrefused
  cases hrefused

/-- The configuration of the swap measures the backing slots against the directory, the validation
against the block table: with a larger directory every packet is refused. -/
theorem accepted_configuration_refuses_every_packet : ∃ s₀ : KvState steadyHooks,
    KvState.new 16 4 4 2 64 4 = .ok s₀ ∧ succeeds (KvState.configureKvSwap 4 () s₀) ∧
      ¬(runAll KvOp.exec s₀ [.configureKvSwap 4 ()]).IsServiceable ∧
      ∀ packet config, (runAll KvOp.exec s₀ [.configureKvSwap 4 ()]).kvStateStatus packet config =
        .error .invalidArgument :=
  ⟨_, rfl, by decide +kernel, fun h => absurd h.2 (by decide +kernel), fun packet config => rfl⟩

theorem accepted_configuration_stays_serviceable_swapping : ∃ s₀ : KvState steadyHooks,
    KvState.new 16 4 4 2 16 16 = .ok s₀ ∧ (runAll KvOp.exec s₀ swappingRun).IsServiceable :=
  ⟨_, rfl, (accepted_configuration_stays_serviceable new_smallState swappingRun (by
      refine ⟨?_, ?_, ?_, ?_, ?_, trivial⟩
      · rintro capacity store ⟨⟩ -
        decide +kernel
      all_goals rintro capacity store ⟨⟩)).1⟩

end New

end SparkPipe
