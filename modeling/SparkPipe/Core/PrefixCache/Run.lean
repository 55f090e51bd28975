import SparkPipe.Core.PrefixCache.Probe

/-!
# Runs of the cache

A run applies public operations one after the other to a new cache over a new arena. An
operation may fail; the run goes on from the state it leaves.
-/

open Program

namespace SparkPipe

/-- The public operations of the cache, and those of the arena that manage residency. -/
inductive CacheOp
  | probePrompt (sequenceId : Nat) (tokenIds : List Nat)
  | probePhysicalBlockTable (tokenIds : List Nat) (physicalBlockCapacity : Nat)
  | probeReusablePrefixPrefetchSources (tokenIds : List Nat) (sourceBlockCapacity : Nat)
  | probeReusablePrefixResidency (tokenIds : List Nat)
  | probeSequenceResidency (sequenceId tokenCount : Nat)
  | buildPhysicalBlockTable (sequenceId tokenCount : Nat)
  | buildSequencePrefetchSources (sequenceId tokenCount : Nat)
  | lookupPrompt (sequenceId : Nat) (tokenIds : List Nat)
  | reservePrompt (sequenceId : Nat) (tokenIds : List Nat)
  | reserveSequencePrompt (sequenceId : Nat) (tokenIds : List Nat)
  | commitReservation (sequenceId reservationEpoch : Nat)
  | cancelReservation (sequenceId reservationEpoch : Nat)
  | commitPrompt (sequenceId : Nat) (tokenIds : List Nat)
  | ensureSequenceTokenCapacity (sequenceId tokenCount : Nat)
  | bindCommittedPrefixFromSequence (sourceSequenceId targetSequenceId tokenCount : Nat)
  | releaseSequence (sequenceId : Nat)
  | protectPromptLookahead (tokenIds : List Nat) (demandWeight : Nat)
  | resetLookaheadProtection
  | trimResidentBlocksByReuseScore (maxResidentBlockCount : Nat) (hardProtected : List Nat)
  | reset
  | markBlockResident (physicalBlockIndex : Nat)
  | markBlockNonresident (physicalBlockIndex : Nat)
  | trimResidentBlocks (protectedBlocks : List Nat) (targetResidentBlockCount : Nat)
  | evictResidentBlocksToLimit (maxResidentBlockCount : Nat) (protectedBlocks : List Nat)
  deriving DecidableEq

namespace CacheOp

open PrefixCache

/-- The state an operation leaves, whether it succeeds or not. -/
def exec (op : CacheOp) (c : PrefixCache) : PrefixCache :=
  match op with
  | .probePrompt q tokens => finalState (PrefixCache.probePrompt q tokens c)
  | .probePhysicalBlockTable tokens capacity =>
    finalState (PrefixCache.probePhysicalBlockTable tokens capacity c)
  | .probeReusablePrefixPrefetchSources tokens capacity =>
    finalState (PrefixCache.probeReusablePrefixPrefetchSources tokens capacity c)
  | .probeReusablePrefixResidency tokens =>
    finalState (PrefixCache.probeReusablePrefixResidency tokens c)
  | .probeSequenceResidency q n => finalState (PrefixCache.probeSequenceResidency q n c)
  | .buildPhysicalBlockTable q n => finalState (PrefixCache.buildPhysicalBlockTable q n c)
  | .buildSequencePrefetchSources q n =>
    finalState (PrefixCache.buildSequencePrefetchSources q n c)
  | .lookupPrompt q tokens => finalState (PrefixCache.lookupPrompt q tokens c)
  | .reservePrompt q tokens => finalState (PrefixCache.reservePrompt q tokens c)
  | .reserveSequencePrompt q tokens => finalState (PrefixCache.reserveSequencePrompt q tokens c)
  | .commitReservation q epoch => finalState (PrefixCache.commitReservation q epoch c)
  | .cancelReservation q epoch => finalState (PrefixCache.cancelReservation q epoch c)
  | .commitPrompt q tokens => finalState (PrefixCache.commitPrompt q tokens c)
  | .ensureSequenceTokenCapacity q n =>
    finalState (PrefixCache.ensureSequenceTokenCapacity q n c)
  | .bindCommittedPrefixFromSequence source target n =>
    finalState (PrefixCache.bindCommittedPrefixFromSequence source target n c)
  | .releaseSequence q => finalState (PrefixCache.releaseSequence q c)
  | .protectPromptLookahead tokens weight =>
    finalState (PrefixCache.protectPromptLookahead tokens weight c)
  | .resetLookaheadProtection => finalState (PrefixCache.resetLookaheadProtection c)
  | .trimResidentBlocksByReuseScore limit blocks =>
    finalState (PrefixCache.trimResidentBlocksByReuseScore limit blocks c)
  | .reset => finalState (PrefixCache.reset c)
  | .markBlockResident p => finalState (onArena (KvArena.markBlockResident p) c)
  | .markBlockNonresident p => finalState (onArena (KvArena.markBlockNonresident p) c)
  | .trimResidentBlocks blocks target =>
    finalState (onArena (KvArena.trimResidentBlocks blocks target) c)
  | .evictResidentBlocksToLimit limit blocks =>
    finalState (onArena (KvArena.evictResidentBlocksToLimit limit blocks) c)

/-- The scope of an operation that opens the next epoch. -/
def nextScope (c : PrefixCache) (sequenceId : Nat) : Scope :=
  { sequenceId, epoch := c.operationEpoch + 1, rollsBack := True }

def lookupScope (c : PrefixCache) (sequenceId : Nat) (tokenIds : List Nat) : Scope :=
  { nextScope c sequenceId with fresh := c.LookupAgrees sequenceId tokenIds }

def reserveScope (c : PrefixCache) (sequenceId : Nat) (tokenIds : List Nat)
    (allowCrossSequenceReuse : Bool) : Scope :=
  { nextScope c sequenceId with
    installs := ReservedBlock c.blockTokenCount tokenIds allowCrossSequenceReuse }

def commitPromptScope (c : PrefixCache) (sequenceId : Nat) (tokenIds : List Nat) : Scope :=
  { reserveScope c sequenceId tokenIds true with commits := True }

/-- A growth commits the private blocks it installs. -/
def growScope (c : PrefixCache) (sequenceId : Nat) : Scope :=
  { nextScope c sequenceId with commits := True, installs := fun i => i.liveOnly = true }

def commitScope (sequenceId epoch : Nat) : Scope := { sequenceId, epoch, commits := True }

def cancelScope (sequenceId epoch : Nat) : Scope := { sequenceId, epoch, rollsBack := True }

/-- The transitions an operation on `c` may make. -/
def allows (c : PrefixCache) : CacheOp → PrefixCache → Event → Prop
  | .lookupPrompt q tokens => (lookupScope c q tokens).Allows
  | .reservePrompt q tokens => (reserveScope c q tokens true).Allows
  | .reserveSequencePrompt q tokens => (reserveScope c q tokens false).Allows
  | .commitReservation q epoch => (commitScope q epoch).Allows
  | .cancelReservation q epoch => (cancelScope q epoch).Allows
  | .commitPrompt q tokens => (commitPromptScope c q tokens).Allows
  | .ensureSequenceTokenCapacity q _ => (growScope c q).Allows
  | .bindCommittedPrefixFromSequence _ target _ => (nextScope c target).Allows
  | .releaseSequence q => Releases q
  | .reset => fun _ e => e = .reset
  | _ => fun _ e => e = .quiet

variable {c : PrefixCache} {α : Type}

theorem evolves_of_quiet {m : CacheM α} {Q : α → PrefixCache → Prop}
    {E : PrefixCacheError → PrefixCache → Prop} (h : wp m Q E c)
    (hQ : ∀ a c', Q a c' → c.Quiet c') (hE : ∀ e c', E e c' → c.Quiet c') :
    Evolves Step (fun _ e => e = .quiet) c (finalState (m c)) :=
  .single (.quiet (wp_finalState (wp_mono h hQ hE))) rfl

theorem evolves_of_arena {m : EStateM KvArenaError KvArena α}
    (h : ends m c.arena.SameOwnership c.arena) :
    Evolves Step (fun _ e => e = .quiet) c (finalState (onArena m c)) :=
  .single (.quiet (wp_finalState (wp_onArena.mpr (ends_mono h fun _ => .withArena)))) rfl

theorem reserve_wp {q : Nat} {tokenIds : List Nat} {allow : Bool} (h : c.Consistent) :
    let s := reserveScope c q tokenIds allow
    wp (reservePromptInternal q tokenIds allow) (fun r c' => ReservedTo s.forward c tokenIds allow
        (c.ceilBlockCount (tokenCountOf tokenIds)) r c' ∧
        r.reservedTokenCount = tokenCountOf tokenIds ∧ s.epoch ≤ c'.operationEpoch)
      (fun e c' => s.Withdraws c c' ∧ c.RefusedFor q tokenIds allow e) c :=
  reservePromptInternal_wp (s := reserveScope c q tokenIds allow) h rfl trivial fun _ hi => hi

theorem exec_evolves (h : c.Consistent) (op : CacheOp) :
    Evolves Step (op.allows c) c (op.exec c) := by
  have hpos := h.blockTokenCount_pos
  have hsame {c' : PrefixCache} (heq : c' = c) : c.Quiet c' := heq ▸ .refl c
  have hquiet {c' : PrefixCache} {p : Prop} (hd : c.Touches c' ∧ p) : c.Quiet c' := hd.1.toQuiet
  cases op with
  | probePrompt =>
    exact evolves_of_quiet probePrompt_wp (fun _ _ => hquiet) fun _ _ hd => hsame hd.1
  | probePhysicalBlockTable =>
    exact evolves_of_quiet (probePhysicalBlockTable_wp hpos) (fun _ _ => hquiet) fun _ _ => hquiet
  | probeReusablePrefixPrefetchSources =>
    exact evolves_of_quiet (probeReusablePrefixPrefetchSources_wp hpos)
      (fun _ _ => hquiet) fun _ _ => hquiet
  | probeReusablePrefixResidency =>
    exact evolves_of_quiet (probeReusablePrefixResidency_wp hpos)
      (fun _ _ => hquiet) fun _ _ => hquiet
  | probeSequenceResidency =>
    exact evolves_of_quiet probeSequenceResidency_wp (fun _ _ => hsame) fun _ _ => hsame
  | buildPhysicalBlockTable =>
    exact evolves_of_quiet buildPhysicalBlockTable_lists
      (fun _ _ hd => hsame hd.1) fun _ _ hd => hsame hd.1
  | buildSequencePrefetchSources =>
    exact evolves_of_quiet buildSequencePrefetchSources_wp (fun _ _ => hsame) fun _ _ => hsame
  | lookupPrompt q tokens =>
    exact wp_finalState (wp_mono (lookupPrompt_wp (s := lookupScope c q tokens) h id rfl trivial)
      (fun _ _ hd => hd.2.2.reaches.of_forward) (fun _ _ hd => hd.1.1))
  | reservePrompt | reserveSequencePrompt =>
    exact wp_finalState (wp_mono (reserve_wp h)
      (fun _ _ hd => hd.1.reaches.of_forward) (fun _ _ hd => hd.1.1))
  | commitReservation q epoch =>
    exact wp_finalState (commitReservation_wp (s := commitScope q epoch) trivial)
  | cancelReservation q epoch =>
    exact wp_finalState (cancelReservation_wp (s := cancelScope q epoch) h trivial)
  | commitPrompt q tokens =>
    exact wp_finalState (commitPrompt_wp (s := commitPromptScope c q tokens) h rfl trivial
      trivial fun _ hi => hi)
  | ensureSequenceTokenCapacity q =>
    exact wp_finalState (wp_post (ensureSequenceTokenCapacity_wp (s := growScope c q) h trivial
      (fun _ hi => hi) rfl trivial trivial) fun _ _ hd => hd.of_forward)
  | bindCommittedPrefixFromSequence _ target =>
    exact wp_finalState (wp_post (bindCommittedPrefixFromSequence_wp (s := nextScope c target) h rfl
      trivial) fun _ _ hd => hd.of_forward)
  | releaseSequence =>
    exact wp_finalState (wp_mono (releaseSequence_wp h) (fun _ _ hd => hd)
      (fun _ _ hd => by rw [hd]; exact .refl c))
  | protectPromptLookahead =>
    exact evolves_of_quiet protectPromptLookahead_wp (fun _ _ => hquiet) fun _ _ => hquiet
  | resetLookaheadProtection =>
    exact evolves_of_quiet (resetLookaheadProtection_wp (E := fun _ _ => False))
      (fun _ _ hd => hd.toQuiet) fun _ _ hf => hf.elim
  | trimResidentBlocksByReuseScore =>
    exact evolves_of_quiet trimResidentBlocksByReuseScore_wp
      (fun _ _ hd => hd.toQuiet) fun _ _ hd => hd.toQuiet
  | reset => exact .single (.reset ⟨rfl, rfl, rfl, rfl, rfl, rfl, rfl⟩) rfl
  | markBlockResident => exact evolves_of_arena (KvArena.markBlockResident_wp _ _)
  | markBlockNonresident => exact evolves_of_arena (KvArena.markBlockNonresident_wp _ _)
  | trimResidentBlocks =>
    exact evolves_of_arena (KvArena.trimResidentBlocks_wp _ _ _)
  | evictResidentBlocksToLimit =>
    exact evolves_of_arena (KvArena.evictResidentBlocksToLimit_wp _ _ _)

end CacheOp

namespace PrefixCache

variable {c c' : PrefixCache} {op : CacheOp}

def run (c : PrefixCache) (ops : List CacheOp) : PrefixCache := runAll CacheOp.exec c ops

theorem Quiet.of_evolves (h : Evolves Step (fun _ e => e = .quiet) c c') : c.Quiet c' :=
  Evolves.invariant (by
    rintro d _ d' hd rfl (hq | _)
    exact hd.trans hq) h (.refl c)

theorem Consistent.run (h : c.Consistent) (ops : List CacheOp) : (c.run ops).Consistent :=
  runAll_invariant (fun op _ hd => hd.evolves (CacheOp.exec_evolves hd op)) ops h

theorem Consistent.run_invariant {I : PrefixCache → Prop} (h : c.Consistent) (hc : I c)
    (hstep : ∀ d e d', d.Consistent → I d → Step d e d' → I d') (ops : List CacheOp) :
    I (c.run ops) := by
  refine (runAll_invariant (I := fun d => d.Consistent ∧ I d) (fun op d hd => ?_) ops ⟨h, hc⟩).2
  exact (CacheOp.exec_evolves hd.1 op).invariant (I := fun d => d.Consistent ∧ I d)
    (fun d e d' hd _ hs => ⟨hd.1.step hs, hstep d e d' hd.1 hd.2 hs⟩) hd

/-! ### Ownership accounting -/

/-- Entries, bindings, free lists and arena agree on who owns what. -/
structure Accounted (c : PrefixCache) : Prop where
  references : ∀ k, (c.entry k).valid →
    (c.entry k).referenceCount = c.bindings.countP (fun b => b.valid && b.entryIndex == k) ∧
      (c.entry k).referenceCount = c.arena.referenceCount (c.entry k).physicalBlockIndex
  bindings : ∀ b, (c.binding b).valid → (c.entry (c.binding b).entryIndex).valid ∧
      (c.binding b).firstTokenIndex = (c.entry (c.binding b).entryIndex).firstTokenIndex ∧
      (c.binding b).tokenCount = (c.entry (c.binding b).entryIndex).tokenCount ∧
      (c.binding b).physicalBlockIndex = (c.entry (c.binding b).entryIndex).physicalBlockIndex
  allocated : ∀ k, (c.entry k).valid →
    c.arena.isAllocated (c.entry k).physicalBlockIndex
  distinct : ∀ k k', (c.entry k).valid → (c.entry k').valid → k ≠ k' →
    (c.entry k).physicalBlockIndex ≠ (c.entry k').physicalBlockIndex
  allocated_count : c.arena.blocks.countP (·.allocated) = c.entries.countP (·.valid)
  free_entries : FreeList (fun k => (c.entry k).reserved) noEntry c.freeEntryHead
    fun k => k < c.entries.length ∧ (c.entry k).valid = false
  free_bindings : FreeList (fun b => (c.binding b).reserved) noEntry c.freeBindingHead
    fun b => b < c.bindings.length ∧ (c.binding b).valid = false

theorem Consistent.accounted (h : c.Consistent) : c.Accounted where
  references k hk := ⟨h.references k hk, (h.block_owned k hk).2.symm⟩
  bindings b hb :=
    have hm := h.binding_mirrors b hb
    ⟨hm.valid, hm.firstTokenIndex, hm.tokenCount, hm.physicalBlockIndex⟩
  allocated k hk := (h.block_owned k hk).1
  distinct k k' hk hk' hne heq := hne (h.block_injective k k' hk hk' heq)
  allocated_count := h.allocated_count
  free_entries := h.free_entries
  free_bindings := h.free_bindings

/-- Ownership accounting is exact after every run from a new cache over a new arena. -/
theorem accounted_run {arenaConfig : KvArenaConfig} {config : PrefixCacheConfig}
    {arena : KvArena} (ha : KvArena.new arenaConfig = .ok arena)
    (hc : PrefixCache.new config arena = .ok c) (ops : List CacheOp) : (c.run ops).Accounted :=
  ((consistent_new ha hc).run ops).accounted

/-- A small arena and a small cache over it: eight blocks of two tokens. -/
def smallArenaConfig : KvArenaConfig where
  physicalBlockCount := 8
  blockTokenCount := 2
  residentBlockCapacity := 8
  layerCount := 1
  kvHeadCount := 1
  headDim := 1
  bytesPerScalar := 1
  keyBlockStrideBytes := 0
  valueBlockStrideBytes := 0
  keyDeviceBase := 1
  valueDeviceBase := 0

def smallConfig : PrefixCacheConfig where
  blockTokenCount := 2
  entryCount := 8
  physicalBlockCount := 8
  sequenceBindingCount := 8

theorem accounted_run_small : ∃ arena c, KvArena.new smallArenaConfig = .ok arena ∧
    PrefixCache.new smallConfig arena = .ok c ∧
    (c.run [.reservePrompt 1 [1, 2, 3], .commitReservation 1 1, .reservePrompt 2 [1, 2, 4],
      .cancelReservation 2 2, .releaseSequence 1]).Accounted := by
  refine ⟨_, _, rfl, rfl, ?_⟩
  exact @accounted_run _ smallArenaConfig smallConfig _ rfl rfl _

/-! ### One binding for each position -/

/-- A sequence has at most one binding at each token offset. -/
def UniqueBindings (c : PrefixCache) : Prop :=
  ∀ b b', (c.binding b).valid → (c.binding b').valid →
    (c.binding b).sequenceId = (c.binding b').sequenceId →
    (c.binding b).firstTokenIndex = (c.binding b').firstTokenIndex → b = b'

namespace UniqueBindings

theorem congr (h : c.UniqueBindings)
    (hb : ∀ b, (c'.binding b).valid → (c.binding b).valid ∧
      (c'.binding b).sequenceId = (c.binding b).sequenceId ∧
      (c'.binding b).firstTokenIndex = (c.binding b).firstTokenIndex) : c'.UniqueBindings := by
  intro b b' hv hv' hq ht
  obtain ⟨hv, hbq, hbt⟩ := hb b hv
  obtain ⟨hv', hbq', hbt'⟩ := hb b' hv'
  exact h b b' hv hv' (hbq.symm.trans (hq.trans hbq')) (hbt.symm.trans (ht.trans hbt'))

theorem congr_bindings (h : c.UniqueBindings) (hb : c'.bindings = c.bindings) : c'.UniqueBindings :=
  h.congr fun b hv => by
    rw [binding_congr hb] at hv ⊢
    exact ⟨hv, rfl, rfl⟩

theorem binds {k q epoch : Nat} (h : c.UniqueBindings) (hb : c.Binds k q epoch c')
    (hfresh : c.UnboundAt q k) : c'.UniqueBindings := by
  obtain ⟨pending, hself⟩ := hb.binding_self
  have hnew : ∀ b, b ≠ c.freeBindingHead → (c'.binding b).valid = true →
      (c'.binding b).sequenceId = q →
      (c'.binding b).firstTokenIndex ≠ (c.entry k).firstTokenIndex := by
    intro b hne hv hq
    rw [hb.binding_of_ne b hne] at hv hq ⊢
    exact hfresh b hv hq
  intro b b' hv hv' hq ht
  by_cases hbh : b = c.freeBindingHead <;> by_cases hbh' : b' = c.freeBindingHead
  · exact hbh.trans hbh'.symm
  · subst hbh
    rw [hself] at hq ht
    exact absurd ht.symm (hnew b' hbh' hv' hq.symm)
  · subst hbh'
    rw [hself] at hq ht
    exact absurd ht (hnew b hbh hv hq)
  · rw [hb.binding_of_ne b hbh] at hv hq ht
    rw [hb.binding_of_ne b' hbh'] at hv' hq ht
    exact h b b' hv hv' hq ht

theorem step {e : Event} (h : c.UniqueBindings)
    (hfresh : ∀ k q epoch, e = .bind k q epoch → c.UnboundAt q k) (hs : Step c e c') :
    c'.UniqueBindings := by
  cases hs with
  | quiet hq =>
    exact h.congr fun b hv => ⟨(hq.binding_eq Binding.valid b).symm.trans hv,
      hq.binding_eq Binding.sequenceId b, hq.binding_eq Binding.firstTokenIndex b⟩
  | install hs | invalidate hs | commit hs => exact h.congr_bindings hs.bindings
  | bind hb => exact h.binds hb (hfresh _ _ _ rfl)
  | @unbind _ b' hu =>
    refine h.congr fun b hv => ?_
    by_cases hbb : b = b'
    · rw [hbb, hu.binding_self] at hv
      cases hv
    · rw [hu.binding_of_ne b hbb] at hv ⊢
      exact ⟨hv, rfl, rfl⟩
  | @grow _ b' _ hg =>
    refine h.congr fun b hv => ?_
    by_cases hbb : b = b'
    · subst hbb
      rw [hg.binding_self] at hv ⊢
      exact ⟨hv, rfl, rfl⟩
    · rw [hg.binding_of_ne b hbb] at hv ⊢
      exact ⟨hv, rfl, rfl⟩
  | reset hr =>
    intro b _ hv
    simp [(Consistent.binding_freeBindings hr.bindings b).1] at hv

end UniqueBindings

/-- A lookup agrees with what its sequence holds; other operations always do. -/
def Agrees (c : PrefixCache) : CacheOp → Prop
  | .lookupPrompt q tokens => c.LookupAgrees q tokens
  | _ => True

theorem Agrees.unboundAt {d : PrefixCache} {k q epoch : Nat} (h : c.Agrees op)
    (ha : op.allows c d (.bind k q epoch)) : d.UnboundAt q k := by
  cases op with
  | lookupPrompt => exact ha.2.2.2 h
  | reservePrompt | reserveSequencePrompt | commitReservation | cancelReservation | commitPrompt
  | ensureSequenceTokenCapacity | bindCommittedPrefixFromSequence => exact ha.2.2.2 trivial
  | releaseSequence => exact ha.elim
  | _ => exact Event.noConfusion ha

theorem UniqueBindings.exec (hu : c.UniqueBindings) (h : c.Consistent)
    (hagrees : c.Agrees op) : (op.exec c).UniqueBindings :=
  Evolves.invariant (fun _ _ _ hd ha hs => hd.step (fun _ _ _ he => hagrees.unboundAt (he ▸ ha)) hs)
    (CacheOp.exec_evolves h op) hu

theorem UniqueBindings.eq_of_lists {q n : Nat} {indices : List Nat} (h : c.UniqueBindings)
    (hl : c.Lists q n indices) {i p b : Nat} (hp : indices[i]? = some p)
    (hv : (c.binding b).valid) (hq : (c.binding b).sequenceId = q)
    (ht : (c.binding b).firstTokenIndex = i * c.blockTokenCount) :
    (c.binding b).physicalBlockIndex = p := by
  obtain ⟨b', hb', rfl⟩ := hl.bound hp
  obtain ⟨hv', hq', ht'⟩ := findBindingAtTokenOffset_some hb'
  rw [h b b' hv hv' (hq.trans hq'.symm) (ht.trans ht'.symm)]

theorem tables_of_new {config : PrefixCacheConfig} {arena : KvArena}
    (hc : new config arena = .ok c) :
    c.entries = freeEntries config.entryCount.toNat ∧
      c.bindings = freeBindings config.sequenceBindingCount.toNat ∧ c.arena = arena := by
  unfold new at hc
  split_ifs at hc
  cases hc
  exact ⟨rfl, rfl, rfl⟩

/-- In a run in which every lookup agrees with what its sequence holds, a sequence has at most
one binding at each offset, and block tables list the blocks of these bindings. -/
theorem unique_run {arenaConfig : KvArenaConfig} {config : PrefixCacheConfig} {arena : KvArena}
    (ha : KvArena.new arenaConfig = .ok arena) (hc : PrefixCache.new config arena = .ok c)
    (ops : List CacheOp) (hops : Along CacheOp.exec Agrees c ops) :
    (c.run ops).UniqueBindings ∧
      ∀ q n indices d, buildPhysicalBlockTable q n (c.run ops) = .ok indices d →
        ∀ i p b, indices[i]? = some p → ((c.run ops).binding b).valid = true →
          ((c.run ops).binding b).sequenceId = q →
          ((c.run ops).binding b).firstTokenIndex = i * (c.run ops).blockTokenCount →
          ((c.run ops).binding b).physicalBlockIndex = p := by
  have hnew : c.UniqueBindings := by
    intro b _ hv
    simp [(Consistent.binding_freeBindings (tables_of_new hc).2.1 b).1] at hv
  have hrun : (c.run ops).Consistent ∧ (c.run ops).UniqueBindings :=
    runAll_invariant_along (I := fun d => d.Consistent ∧ d.UniqueBindings)
      (fun op d hagrees hd => ⟨hd.1.evolves (CacheOp.exec_evolves hd.1 op),
        hd.2.exec hd.1 hagrees⟩) ops hops ⟨consistent_new ha hc, hnew⟩
  refine ⟨hrun.2, fun q n indices d hbuild i p b hp hv hq ht => ?_⟩
  obtain ⟨-, -, -, hlists⟩ := wp_ok buildPhysicalBlockTable_lists hbuild
  exact hrun.2.eq_of_lists hlists hp hv hq ht

/-- A lookup whose sequence holds its own block at an offset binds a second one there. -/
theorem not_unique_after_lookup : ∃ arena c, KvArena.new smallArenaConfig = .ok arena ∧
    PrefixCache.new smallConfig arena = .ok c ∧
    ¬(c.run [.reservePrompt 1 [1, 2, 3], .reservePrompt 2 [1, 2, 3], .commitReservation 2 2,
      .lookupPrompt 1 [1, 2, 3]]).UniqueBindings := by
  refine ⟨_, _, rfl, rfl, fun hunique => ?_⟩
  exact absurd (hunique 0 4 (by decide +kernel) (by decide +kernel) (by decide +kernel)
    (by decide +kernel)) (by decide)

theorem unique_run_small : ∃ arena c, KvArena.new smallArenaConfig = .ok arena ∧
    PrefixCache.new smallConfig arena = .ok c ∧
    (c.run [.commitPrompt 1 [1, 2, 3], .lookupPrompt 1 [1, 2, 3],
      .lookupPrompt 2 [1, 2, 4]]).UniqueBindings := by
  refine ⟨_, _, rfl, rfl, ?_⟩
  refine (@unique_run _ smallArenaConfig smallConfig _ rfl rfl _ ?_).1
  exact ⟨trivial, show PrefixCache.LookupAgrees _ _ _ by decide +kernel,
    show PrefixCache.LookupAgrees _ _ _ by decide +kernel, trivial⟩

end PrefixCache

end SparkPipe
