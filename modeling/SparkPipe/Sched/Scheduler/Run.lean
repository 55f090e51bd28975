import SparkPipe.Sched.Scheduler.Effects

/-!
# Runs of the scheduler

A run admits requests and batches, settles accepted decisions that are still outstanding, each
at most once, and releases sequences. The state of a run is the scheduler together with the
accepted decisions that no call has settled yet.
-/

open Program

namespace SparkPipe

open PrefixCache

/-- An accepted decision that is not settled yet. -/
inductive Outstanding
  | single (decision : SchedulerDecision)
  | batch (decision : PrefillBatchDecision)

namespace Outstanding

/-- What the decision writes. -/
def works : Outstanding → List PrefillWork
  | .single decision => decision.works
  | .batch decision => decision.lanes.map PrefillBatchLane.work

/-- Settle a decision by the entry point for its kind. -/
def settle : Outstanding → ReservationSettlement → SchedM Unit
  | .single decision, .commit => Scheduler.complete decision
  | .single decision, .cancel => Scheduler.cancel decision
  | .batch decision, .commit => Scheduler.completePrefillBatch decision
  | .batch decision, .cancel => Scheduler.cancelPrefillBatch decision

end Outstanding

/-- The scheduler and the accepted decisions that are in flight. -/
structure SchedulerRun where
  scheduler : Scheduler
  outstanding : List Outstanding := []

/-- The entry points; a settlement names an outstanding decision by its place. -/
inductive SchedulerOp
  | admitRequest (request : SchedulerRequest)
  | admitPrefillBatch (requests : List SchedulerRequest)
  | settle (place : Nat) (settlement : ReservationSettlement)
  | releaseSequence (sequenceId : Nat)

namespace SchedulerRun

def works (run : SchedulerRun) : List PrefillWork := run.outstanding.flatMap Outstanding.works

/-- The state an operation leaves, whether it succeeds or not. -/
def exec (op : SchedulerOp) (run : SchedulerRun) : SchedulerRun :=
  match op with
  | .admitRequest request =>
    match Scheduler.admitRequest request run.scheduler with
    | .ok decision scheduler =>
      { scheduler
        outstanding :=
          if decision.accepted then .single decision :: run.outstanding
          else run.outstanding }
    | .error _ scheduler => { run with scheduler }
  | .admitPrefillBatch requests =>
    match Scheduler.admitPrefillBatch requests run.scheduler with
    | .ok decision scheduler =>
      { scheduler
        outstanding :=
          if decision.accepted then .batch decision :: run.outstanding
          else run.outstanding }
    | .error _ scheduler => { run with scheduler }
  | .settle place settlement =>
    match run.outstanding[place]? with
    | none => run
    | some decision =>
      { scheduler := finalState (decision.settle settlement run.scheduler)
        outstanding := run.outstanding.eraseIdx place }
  | .releaseSequence sequenceId =>
    { run with scheduler := finalState (Scheduler.releaseSequence sequenceId run.scheduler) }

def after (run : SchedulerRun) (ops : List SchedulerOp) : SchedulerRun := runAll exec run ops

/-- Block `j` of a work is `p`, in the decision or in a table built now. -/
def TableHas (w : PrefillWork) (c : PrefixCache) (j p : Nat) : Prop :=
  w.listed[j]? = some p ∨
    ∃ table c', buildPhysicalBlockTable w.sequenceId w.kvBlockTableTokenCount c =
      .ok table c' ∧ table[j]? = some p

/-- Every block that a prefill in flight covers is of a pending entry that only its sequence holds.
-/
structure Exclusive (run : SchedulerRun) : Prop where
  owned : ∀ c ∈ run.scheduler.prefixCache, ∀ w ∈ run.works, ∀ j p,
    w.Covers c.blockTokenCount j → TableHas w c j p → c.PendingOwned w.sequenceId p
  unshared : ∀ c ∈ run.scheduler.prefixCache, ∀ w ∈ run.works, ∀ j p,
    w.Covers c.blockTokenCount j → TableHas w c j p →
    ∀ k, (c.entry k).valid → (c.entry k).physicalBlockIndex = p →
      c.isReusable (c.entry k) = false
  disjoint : ∀ c ∈ run.scheduler.prefixCache, ∀ w ∈ run.works, ∀ w' ∈ run.works,
    w.sequenceId ≠ w'.sequenceId → ∀ j j' p,
    w.Covers c.blockTokenCount j → TableHas w c j p →
    w'.Covers c.blockTokenCount j' → TableHas w' c j' p → False

/-- Decisions for two sequences list `p` as block `j` and schedule into it. -/
def SharesBlock (run : SchedulerRun) (j p : Nat) : Prop :=
  ∃ c ∈ run.scheduler.prefixCache, ∃ w ∈ run.works, ∃ w' ∈ run.works,
    w.sequenceId ≠ w'.sequenceId ∧ w.Covers c.blockTokenCount j ∧ w.listed[j]? = some p ∧
      w'.Covers c.blockTokenCount j ∧ w'.listed[j]? = some p

instance (run : SchedulerRun) (j p : Nat) : Decidable (run.SharesBlock j p) :=
  inferInstanceAs (Decidable (∃ c ∈ run.scheduler.prefixCache, ∃ w ∈ run.works,
    ∃ w' ∈ run.works, _ ∧ _))

theorem Exclusive.not_sharesBlock {run : SchedulerRun} {j p : Nat} (h : run.Exclusive) :
    ¬run.SharesBlock j p := by
  rintro ⟨c, hc, w, hw, w', hw', hne, hcovers, hlisted, hcovers', hlisted'⟩
  exact h.disjoint c hc w hw w' hw' hne j j p hcovers (.inl hlisted) hcovers' (.inl hlisted')

/-- A reservation finds only what its probe finds, and no sequence in flight is released. -/
def Foreseen (run : SchedulerRun) : SchedulerOp → Prop
  | .admitRequest request => run.scheduler.Foreseen request
  | .admitPrefillBatch requests => run.scheduler.BatchForeseen requests
  | .settle _ _ => True
  | .releaseSequence sequenceId => ∀ w ∈ run.works, w.sequenceId ≠ sequenceId

/-- Every work in flight is held, in an epoch of its own. -/
structure Holds (run : SchedulerRun) (c : PrefixCache) : Prop where
  backed : run.scheduler.Backed c
  held : ∀ w ∈ run.works, w.Held c
  nodup : (run.works.map PrefillWork.reservationEpoch).Nodup

variable {run : SchedulerRun} {c : PrefixCache} {scheduler : Scheduler} {c' : PrefixCache}

theorem Holds.exclusive (h : run.Holds c) : run.Exclusive := by
  have hc := h.backed.consistent
  have howned : ∀ w ∈ run.works, ∀ j p, w.Covers c.blockTokenCount j → TableHas w c j p →
      ∃ b k, c.HeldPending w.sequenceId w.reservationEpoch (j * c.blockTokenCount) p b k := by
    intro w hw j p hcovers htable
    have hheld := h.held w hw
    rcases htable with hlisted | ⟨table, c', hbuild, hp⟩
    · have hlt : j < w.listed.length := (List.getElem?_eq_some_iff.mp hlisted).1
      obtain ⟨p', b, k, hp', heq⟩ := hheld.held j hcovers (hlt.trans_le hheld.listed_length)
      rw [heq p hlisted]
      exact ⟨b, k, hp'⟩
    · obtain ⟨-, -, -, hlists⟩ := wp_ok buildPhysicalBlockTable_lists hbuild
      have hlt : j < table.length := (List.getElem?_eq_some_iff.mp hp).1
      obtain ⟨p', b, k, hp', -⟩ := hheld.held j hcovers (hlists.length ▸ hlt)
      rw [hp'.eq_of_lists hc hlists hp]
      exact ⟨b, k, hp'⟩
  have hcache : ∀ c' ∈ run.scheduler.prefixCache, c' = c := fun c' hc' =>
    Option.some.inj (hc'.symm.trans h.backed.prefixCache)
  refine ⟨fun c' hc' w hw j p hcovers htable => ?_,
    fun c' hc' w hw j p hcovers htable k hk hp => ?_,
    fun c' hc' w hw w' hw' hne j j' p hcovers htable hcovers' htable' => ?_⟩
  · obtain rfl := hcache c' hc'
    obtain ⟨b, k, hh⟩ := howned w hw j p hcovers htable
    exact hh.pendingOwned hc
  · obtain rfl := hcache c' hc'
    obtain ⟨b, k', hh⟩ := howned w hw j p hcovers htable
    have hvalid : (c'.entry k').valid = true :=
      hh.entryIndex ▸ (hc.binding_mirrors b hh.valid).valid
    obtain rfl := hc.block_injective k k' hk hvalid (hp.trans hh.physicalBlockIndex.symm)
    simp [isReusable, hh.pending]
  obtain rfl := hcache c' hc'
  obtain ⟨b, k, hh⟩ := howned w hw j p hcovers htable
  obtain ⟨b', k', hh'⟩ := howned w' hw' j' p hcovers' htable'
  have hvalid : ∀ {q e t p b k}, c'.HeldPending q e t p b k → (c'.entry k).valid = true :=
    fun hh => hh.entryIndex ▸ (hc.binding_mirrors _ hh.valid).valid
  obtain rfl := hc.block_injective k k' (hvalid hh) (hvalid hh')
    (hh.physicalBlockIndex.trans hh'.physicalBlockIndex.symm)
  have hb := hh.alone b' hh'.valid (.inl hh'.entryIndex)
  exact hne (hh.sequenceId.symm.trans (hb ▸ hh'.sequenceId))

theorem Holds.admits {foreseen : Prop} {works : List PrefillWork}
    {outstanding : List Outstanding} (h : run.Holds c) (hforeseen : foreseen)
    (ha : Scheduler.Admits run.scheduler c foreseen works scheduler c')
    (hworks : outstanding.flatMap Outstanding.works = works ++ run.works) :
    SchedulerRun.Holds { scheduler, outstanding } c' where
  backed := ha.keeps.backed h.backed
  held w hw := by
    change w ∈ outstanding.flatMap Outstanding.works at hw
    rw [hworks] at hw
    rcases List.mem_append.mp hw with hw | hw
    · exact ha.held hforeseen w hw
    · exact (h.held w hw).keeps h.backed.consistent (h.held w hw).epoch_le ha.keeps.keeps
  nodup := by
    change ((outstanding.flatMap Outstanding.works).map _).Nodup
    rw [hworks, List.map_append, List.nodup_append]
    refine ⟨ha.nodup, h.nodup, fun a hmem b hb => ?_⟩
    obtain ⟨w, hw, rfl⟩ := List.mem_map.mp hmem
    obtain ⟨w', hw', rfl⟩ := List.mem_map.mp hb
    exact Nat.ne_of_gt ((h.held w' hw').epoch_le.trans_lt (ha.epochs w hw).1)

theorem Holds.keeps (h : run.Holds c)
    (hk : Scheduler.Keeps c.operationEpoch run.scheduler c scheduler c') :
    SchedulerRun.Holds { run with scheduler } c' := by
  have ha : Scheduler.Admits run.scheduler c True [] scheduler c' := ⟨hk, nofun, .nil, nofun⟩
  exact h.admits trivial ha rfl

theorem settle_wp (o : Outstanding) (settlement : ReservationSettlement) {s : Scheduler}
    (hs : s.Backed c) :
    ends (o.settle settlement)
      (Scheduler.SettlesTo (o.works.map PrefillWork.reservationEpoch) s c) s := by
  cases o with
  | single =>
    cases settlement with
    | commit => exact Scheduler.complete_wp hs
    | cancel => exact Scheduler.cancel_wp hs
  | batch =>
    cases settlement with
    | commit | cancel => exact Scheduler.retirePrefillBatch_wp hs

theorem Holds.exec {op : SchedulerOp} (h : run.Holds c) (hop : run.Foreseen op) :
    ∃ c', (exec op run).Holds c' := by
  cases op with
  | admitRequest request =>
    simp only [SchedulerRun.exec]
    have hwp := Scheduler.admitRequest_wp request h.backed
    cases hrun : Scheduler.admitRequest request run.scheduler with
    | ok =>
      obtain ⟨c', ha⟩ := wp_ok hwp hrun
      refine ⟨c', h.admits hop ha ?_⟩
      split_ifs <;> rfl
    | error => exact (wp_error hwp hrun).imp fun _ hk => h.keeps hk
  | admitPrefillBatch requests =>
    simp only [SchedulerRun.exec]
    have hwp := Scheduler.admitPrefillBatch_wp requests h.backed
    cases hrun : Scheduler.admitPrefillBatch requests run.scheduler with
    | ok =>
      obtain ⟨c', ha⟩ := wp_ok hwp hrun
      refine ⟨c', h.admits hop ha ?_⟩
      split_ifs <;> rfl
    | error => exact (wp_error hwp hrun).imp fun _ hk => h.keeps hk
  | settle place settlement =>
    simp only [SchedulerRun.exec]
    cases hplace : run.outstanding[place]? with
    | none => exact ⟨c, h⟩
    | some o =>
      obtain ⟨c', hc'⟩ := wp_finalState (settle_wp o settlement h.backed)
      obtain ⟨hlt, hget⟩ := List.getElem?_eq_some_iff.mp hplace
      -- the settled decision comes off a list whose epochs are all distinct
      have hperm : (o.works ++ (run.outstanding.eraseIdx place).flatMap Outstanding.works).Perm
          run.works := by
        have := (List.getElem_cons_eraseIdx_perm hlt).flatMap_right Outstanding.works
        rwa [hget, List.flatMap_cons] at this
      have hnodup := (hperm.map PrefillWork.reservationEpoch).nodup_iff.mpr h.nodup
      rw [List.map_append, List.nodup_append] at hnodup
      refine ⟨c', hc'.backed h.backed, fun w hw => ?_, hnodup.2.1⟩
      refine hc'.held h.backed (fun hmem => ?_)
        (h.held w (hperm.subset (List.mem_append_right _ hw)))
      exact hnodup.2.2 _ hmem _ (List.mem_map_of_mem hw) rfl
  | releaseSequence q =>
    simp only [SchedulerRun.exec]
    have hwp := Scheduler.releaseSequence_wp (q := q) h.backed
    cases hrun : Scheduler.releaseSequence q run.scheduler with
    | ok =>
      obtain ⟨c', rfl, hc'⟩ := wp_ok hwp hrun
      have hcons := h.backed.consistent
      exact ⟨c', h.backed.withCache (hcons.evolves hc'), fun w hw =>
        (h.held w hw).releases hcons (hop w hw).symm hc', h.nodup⟩
    | error =>
      obtain rfl := wp_error hwp hrun
      exact ⟨c, h⟩

/-- From a new scheduler over any cache that was driven before, in every run whose steps meet
the condition, prefills in flight write blocks of their own. -/
theorem exclusive_run {arenaConfig : KvArenaConfig} {cacheConfig : PrefixCacheConfig}
    {arena : KvArena} {cache : PrefixCache} (ha : KvArena.new arenaConfig = .ok arena)
    (hc : PrefixCache.new cacheConfig arena = .ok cache) (cacheOps : List CacheOp)
    {config : SchedulerConfig} {scheduler : Scheduler}
    (hcache : config.prefixCache = some (cache.run cacheOps))
    (hreuse : config.configurationFlags.prefixCache = true)
    (hcross : config.configurationFlags.crossSequencePrefixReuse = true)
    (hs : Scheduler.new config = .ok scheduler) (ops : List SchedulerOp)
    (hops : Along exec Foreseen { scheduler } ops) :
    (SchedulerRun.after { scheduler } ops).Exclusive := by
  have hbacked := Scheduler.backed_of_new hs hcache hreuse hcross
    ((consistent_new ha hc).run cacheOps)
  obtain ⟨c, hholds⟩ := runAll_invariant_along (I := fun run : SchedulerRun => ∃ c, run.Holds c)
    (fun _ _ hop ⟨_, h⟩ => h.exec hop) ops hops ⟨_, hbacked, nofun, .nil⟩
  exact hholds.exclusive

/-- A scheduler of one stage over a cache with blocks of two tokens. -/
def smallSchedulerConfig (cache : PrefixCache) : SchedulerConfig where
  sparkCount := 1
  queueDepthPerSpark := 8
  measuredProfileId := StagePlan.profileUniformEstimated
  stageGeometry := { layerCount := 1, firstRoutedLayer := 0 }
  estimatedLayerCostNs := 1
  estimatedFinalStageExtraCostNs := 0
  quantizationMode := .auto
  maxPrefillTokensPerStep := 0
  defaultMaxPrefillTokensPerStep := 256
  maxContextTokens := 1024
  maxBatchBucket := StagePlan.maxBatchBucket
  prefixCacheBlockTokens := 2
  configurationFlags := { prefixCache := true, crossSequencePrefixReuse := true }
  prefixCache := some cache

/-- The admission of a prompt for one sequence. -/
def admitPrompt (sequenceId : Nat) (tokenIds : List Nat) : SchedulerOp :=
  .admitRequest
    (SchedulerRequest.prefillRequest 1 (UInt32.ofNat tokenIds.length) sequenceId tokenIds)

/-- The second prompt shares its first block with the first one; both later prompts are in
flight at the end. -/
theorem exclusive_run_small : ∃ arena cache scheduler,
    KvArena.new PrefixCache.smallArenaConfig = .ok arena ∧
    PrefixCache.new PrefixCache.smallConfig arena = .ok cache ∧
    Scheduler.new (smallSchedulerConfig (cache.run [])) = .ok scheduler ∧
    (SchedulerRun.after { scheduler } [admitPrompt 1 [1, 2, 3, 4, 5], .settle 0 .commit,
      admitPrompt 2 [1, 2, 6, 7], .releaseSequence 1, admitPrompt 3 [8, 9]]).Exclusive := by
  refine ⟨_, _, _, rfl, rfl, rfl, ?_⟩
  refine exclusive_run (show KvArena.new smallArenaConfig = .ok _ from rfl)
    (show new smallConfig _ = .ok _ from rfl) []
    (show (smallSchedulerConfig _).prefixCache = some _ from rfl) rfl rfl rfl _
    ⟨?_, ?_, ?_, ?_, ?_, trivial⟩
  · show Scheduler.Foreseen _ _
    decide +kernel
  · exact trivial
  · show Scheduler.Foreseen _ _
    decide +kernel
  · show ∀ w ∈ SchedulerRun.works _, w.sequenceId ≠ 1
    decide +kernel
  · show Scheduler.Foreseen _ _
    decide +kernel

/-- Without the condition two prefills in flight share a block. The second prompt evicts the
first block of the first prompt but not its second block. The probe for the third and for the
fourth sequence stops at the missing first block, so both schedule the whole prompt, and both
reservations reuse the committed second block. -/
theorem not_exclusive_after_eviction : ∃ arena cache scheduler,
    KvArena.new PrefixCache.smallArenaConfig = .ok arena ∧
    PrefixCache.new { PrefixCache.smallConfig with entryCount := 5 } arena = .ok cache ∧
    Scheduler.new (smallSchedulerConfig (cache.run [])) = .ok scheduler ∧
    ¬(SchedulerRun.after { scheduler } [admitPrompt 1 [1, 2, 3, 4, 5], .settle 0 .commit,
      .releaseSequence 1, admitPrompt 2 [9, 9, 8, 8, 7, 7, 6], .settle 0 .commit,
      .releaseSequence 2, admitPrompt 3 [1, 2, 3, 4, 5],
      admitPrompt 4 [1, 2, 3, 4, 5]]).Exclusive := by
  refine ⟨_, _, _, rfl, rfl, rfl, fun h => h.not_sharesBlock (j := 1) (p := 1) ?_⟩
  decide +kernel

end SchedulerRun

end SparkPipe
