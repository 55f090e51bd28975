import SparkPipe.Core.PrefixCache.Housing

/-!
# Reuse-scored trimming

Trimming by reuse score evicts one block after another until few enough are resident. It scores
all blocks anew in every round, and fails when only hard-protected blocks are left to evict.
-/

open Program

namespace SparkPipe

namespace PrefixCache

/-- What decides which block is evicted first. -/
def ResidentEvictionCandidate.key (candidate : ResidentEvictionCandidate) :
    Nat ×ₗ Bool ×ₗ Nat ×ₗ Nat :=
  toLex (candidate.keepScore, toLex (candidate.hasPrefixEntry,
    toLex (candidate.lastUsedEpoch, candidate.physicalBlockIndex)))

theorem ResidentEvictionCandidate.isBetter_iff (x y : ResidentEvictionCandidate) :
    x.isBetter y ↔ x.key < y.key := by
  unfold isBetter key
  simp only [Prod.Lex.toLex_lt_toLex]
  split_ifs with hscore hentry hepoch
  · simp [hscore]
  · cases hx : x.hasPrefixEntry <;> cases hy : y.hasPrefixEntry <;> simp_all
  · simp_all
  · simp_all

variable {c c' : PrefixCache} {hardProtected : List Nat} {limit p n : Nat}

theorem selectResidentReuseScoreVictim_eq (c : PrefixCache) (hardProtected : List Nat) :
    c.selectResidentReuseScoreVictim hardProtected =
      ((c.arena.victims hardProtected).map c.residentEvictionCandidate).argmin
        ResidentEvictionCandidate.key := by
  refine KvArena.foldl_victims _ _ fun victim p => ?_
  cases victim <;>
    simp only [KvArena.isVictim, List.argAux, ← ResidentEvictionCandidate.isBetter_iff] <;> grind

/-! ### Rounds -/

/-- The block comes first among those that trimming may evict. -/
def EvictsFirst (c : PrefixCache) (hardProtected : List Nat) (p : Nat) : Prop :=
  c.arena.isVictim hardProtected p ∧ ∀ q, c.arena.isVictim hardProtected q →
    (c.residentEvictionCandidate p).key ≤ (c.residentEvictionCandidate q).key

/-- The cache after a resident block has lost its residency. -/
def evict (c : PrefixCache) (p : Nat) : PrefixCache :=
  { c with arena := c.arena.evictResidentBlock p }

/-- So many rounds lead to the other cache; each evicts the block that comes first. -/
def TrimsTo (hardProtected : List Nat) : Nat → PrefixCache → PrefixCache → Prop
  | 0, c, c' => c' = c
  | n + 1, c, c' => ∃ p, c.EvictsFirst hardProtected p ∧ TrimsTo hardProtected n (c.evict p) c'

/-- What a round leaves of a block. -/
def roundKeeps (block : KvBlock) : KvBlock := { block with resident := false, lastUsedEpoch := 0 }

/-- Resident bits, their counter and stamps of use may differ, and nothing else. -/
structure ChangesResidency (c c' : PrefixCache) : Prop where
  cache : c' = { c with arena := { c.arena with
    blocks := c'.arena.blocks
    epoch := c'.arena.epoch
    residentBlockCount := c'.arena.residentBlockCount } }
  physicalBlockCount : c'.arena.physicalBlockCount = c.arena.physicalBlockCount
  blocks : ∀ p, roundKeeps (c'.arena.block p) = roundKeeps (c.arena.block p)

theorem ChangesResidency.evict (h : (c.evict p).ChangesResidency c') : c.ChangesResidency c' where
  cache := h.cache
  physicalBlockCount := h.physicalBlockCount.trans List.length_set
  blocks q := by
    rw [h.blocks q, PrefixCache.evict, KvArena.evictResidentBlock, KvArena.block_stamp]
    split_ifs with hq
    · rw [← hq.1]
      rfl
    · rfl

theorem TrimsTo.trims (h : TrimsTo hardProtected n c c') (hacc : c.arena.Accounted) :
    c.arena.residentBlockCount = c'.arena.residentBlockCount + n ∧
      KvArena.Trims hardProtected c.arena c'.arena ∧ c.ChangesResidency c' := by
  induction n generalizing c with
  | zero =>
    cases h
    exact ⟨rfl, hacc.trims hardProtected, rfl, rfl, fun _ => rfl⟩
  | succ n ih =>
    obtain ⟨p, hfirst, hrest⟩ := h
    obtain ⟨hcount, htrims, hchanges⟩ := ih hrest (hacc.evict hfirst.1)
    have hpos := hacc.pos_of_isResident (KvArena.isVictim_iff.mp hfirst.1).2.1
    have hless : (c.evict p).arena.residentBlockCount = c.arena.residentBlockCount - 1 := rfl
    have hround := (hacc.trims hardProtected).evict hfirst.1
    exact ⟨by omega, ⟨htrims.accounted, fun q hq => (htrims.residency q hq).trans
      (hround.residency q hq)⟩, hchanges.evict⟩

theorem TrimsTo.protectedResidents (h : TrimsTo hardProtected n c c') (hacc : c.arena.Accounted) :
    c'.arena.protectedResidents hardProtected = c.arena.protectedResidents hardProtected := by
  obtain ⟨-, htrims, hchanges⟩ := h.trims hacc
  unfold KvArena.protectedResidents
  rw [hchanges.physicalBlockCount]
  exact Finset.filter_congr fun p _ =>
    and_congr_left fun hp => by rw [htrims.residency p hp]

theorem onArena_victim {victim : ResidentEvictionCandidate}
    (h : c.selectResidentReuseScoreVictim hardProtected = some victim) :
    ∃ p, c.EvictsFirst hardProtected p ∧
      onArena (KvArena.markBlockNonresident victim.physicalBlockIndex) c = .ok () (c.evict p) := by
  rw [selectResidentReuseScoreVictim_eq] at h
  obtain ⟨p, hp, rfl⟩ := List.mem_map.mp (List.argmin_mem h)
  have hvictim := KvArena.mem_victims.mp hp
  obtain ⟨halloc, hres, -⟩ := KvArena.isVictim_iff.mp hvictim
  refine ⟨p, ⟨hvictim, fun q hq => ?_⟩, onPart_of_ok ?_⟩
  · exact List.le_of_mem_argmin (List.mem_map_of_mem (KvArena.mem_victims.mpr hq)) h
  · show KvArena.markBlockNonresident p c.arena = _
    simp [KvArena.markBlockNonresident, halloc, KvArena.residentCountWithout, hres,
      KvArena.evictResidentBlock]

theorem trimByReuseScoreLoop_trims : ∀ (fuel evicted : Nat) {c : PrefixCache}, c.arena.Accounted →
      c.arena.residentBlockCount = limit + fuel →
      wp (trimByReuseScoreLoop limit hardProtected fuel evicted)
        (fun k c' => k = evicted + fuel ∧ TrimsTo hardProtected fuel c c')
        (fun e c' => e = .capacityExceeded ∧ ∃ n < fuel, TrimsTo hardProtected n c c' ∧
          c'.arena.victims hardProtected = []) c
  | 0, _, _, _, _ => ⟨rfl, rfl⟩
  | fuel + 1, evicted, c, hacc, hcount => by
      unfold trimByReuseScoreLoop
      rw [wp_read, if_pos (show limit < c.arena.residentBlockCount by omega)]
      cases hselect : c.selectResidentReuseScoreVictim hardProtected with
      | none =>
        rw [selectResidentReuseScoreVictim_eq, List.argmin_eq_none, List.map_eq_nil_iff] at hselect
        exact ⟨rfl, 0, Nat.succ_pos fuel, rfl, hselect⟩
      | some =>
        obtain ⟨p, hfirst, hrun⟩ := onArena_victim hselect
        have hless : (c.evict p).arena.residentBlockCount = limit + fuel := by
          show c.arena.residentBlockCount - 1 = limit + fuel
          omega
        have ih := trimByReuseScoreLoop_trims fuel (evicted + 1) (hacc.evict hfirst.1) hless
        dsimp only
        unfold wp
        rw [bind_of_ok hrun]
        refine wp_mono ih (fun k c' h => ⟨by omega, p, hfirst, h.2⟩) fun e c' h => ?_
        obtain ⟨he, n, hn, hrounds, hnone⟩ := h
        exact ⟨he, n + 1, Nat.succ_lt_succ hn, ⟨p, hfirst, hrounds⟩, hnone⟩

theorem trimResidentBlocksByReuseScore_trims (hacc : c.arena.Accounted)
    (hlimit : limit ≤ c.arena.physicalBlockCount) (hardProtected : List Nat) :
    wp (trimResidentBlocksByReuseScore limit hardProtected)
      (fun k c' => k = c.arena.residentBlockCount - limit ∧ TrimsTo hardProtected k c c')
      (fun e c' => e = .capacityExceeded ∧ limit < c'.arena.residentBlockCount ∧
        ∃ n, TrimsTo hardProtected n c c' ∧ c'.arena.victims hardProtected = []) c := by
  unfold trimResidentBlocksByReuseScore
  rw [wp_read, if_neg (not_lt.mpr hlimit)]
  rcases Nat.le_total c.arena.residentBlockCount limit with hle | hle
  · rw [Nat.sub_eq_zero_of_le hle]
    exact ⟨rfl, rfl⟩
  · refine wp_mono (trimByReuseScoreLoop_trims _ 0 hacc (by omega)) (fun k c' h => ?_)
      fun e c' h => ?_
    · obtain ⟨rfl, hrounds⟩ := h
      exact ⟨by omega, by rwa [Nat.zero_add]⟩
    · obtain ⟨he, n, hn, hrounds, hnone⟩ := h
      have hcount := (hrounds.trims hacc).1
      exact ⟨he, by omega, n, hrounds, hnone⟩

end PrefixCache

open PrefixCache

/-- After any operations on a new cache, trimming succeeds exactly when the
limit already holds or the hard-protected residents fit in it. It then evicts the excess, one
block that comes first after the other, and otherwise stops when only hard-protected blocks are
left. In both cases no hard-protected block loses its residency, and only residency and stamps
of use change. -/
theorem reuse_trimming_is_exact {arenaConfig : KvArenaConfig} {config : PrefixCacheConfig}
    {arena : KvArena} {fresh : PrefixCache} (ha : KvArena.new arenaConfig = .ok arena)
    (hc : PrefixCache.new config arena = .ok fresh) (ops : List CacheOp) (limit : Nat)
    (hardProtected : List Nat) (hlimit : limit ≤ (fresh.run ops).arena.physicalBlockCount) :
    let c := fresh.run ops
    let before := c.arena.residentCount
    let outcome := trimResidentBlocksByReuseScore limit hardProtected c
    let c' := finalState outcome
    (succeeds outcome ↔ (c.arena.protectedResidents hardProtected).card ≤ limit ∨ before ≤ limit) ∧
    (∀ k, outcome = .ok k c' → k = before - limit ∧
      c'.arena.residentCount = min before limit ∧ TrimsTo hardProtected k c c') ∧
    (∀ e, outcome = .error e c' → e = .capacityExceeded ∧ ∃ n, TrimsTo hardProtected n c c') ∧
    (∀ p ∈ hardProtected, c'.arena.isResident p = c.arena.isResident p) ∧
    c.ChangesResidency c' := by
  have hacc := (housed_run ha hc ops).1
  generalize fresh.run ops = c at hlimit hacc
  have hspec := trimResidentBlocksByReuseScore_trims hacc hlimit hardProtected
  have hbefore := hacc.count
  dsimp only
  cases hrun : trimResidentBlocksByReuseScore limit hardProtected c with
  | ok k d =>
    obtain ⟨hk, hrounds⟩ := wp_ok hspec hrun
    obtain ⟨hcount, htrims, hchanges⟩ := hrounds.trims hacc
    have hafter := htrims.accounted.count
    have hleft := d.arena.card_protectedResidents_le hardProtected
    rw [hrounds.protectedResidents hacc] at hleft
    refine ⟨iff_of_true rfl (by omega), fun k' hk' => ?_, nofun, htrims.residency, hchanges⟩
    cases hk'
    refine ⟨by omega, ?_, hrounds⟩
    show d.arena.residentCount = _
    omega
  | error =>
    obtain ⟨he, hover, n, hrounds, hnone⟩ := wp_error hspec hrun
    obtain ⟨hcount, htrims, hchanges⟩ := hrounds.trims hacc
    have hleft := htrims.accounted.count_of_victims hnone
    rw [hrounds.protectedResidents hacc] at hleft
    refine ⟨iff_of_false nofun (by omega), nofun, fun e' he' => ?_, htrims.residency, hchanges⟩
    cases he'
    exact ⟨he, n, hrounds⟩

theorem reuse_trimming_is_exact_small : ∃ arena c, KvArena.new smallArenaConfig = .ok arena ∧
    PrefixCache.new smallConfig arena = .ok c ∧ succeeds (trimResidentBlocksByReuseScore 1 [0]
      (c.run [.commitPrompt 1 [1, 2, 3, 4]])) := by
  refine ⟨_, _, rfl, rfl,
    (@reuse_trimming_is_exact smallArenaConfig smallConfig _ _ rfl rfl _ 1 [0] ?_).1.mpr (.inl ?_)⟩
  · decide +kernel
  · decide +kernel

end SparkPipe
