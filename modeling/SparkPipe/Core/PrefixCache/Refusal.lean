import SparkPipe.Core.PrefixCache.Run

/-!
# When a reservation is refused

A reservation of a prompt is refused for want of capacity just where the supply of blocks falls
short of what the prompt takes of it, or the free bindings fall short of the blocks that the
sequence does not hold. A block needs an entry, so blocks of the arena beyond the table do not
help; and free entries go first, so in a table with more entries than blocks the entries that
nobody holds do not help either.
-/

open Program

namespace SparkPipe.PrefixCache

variable {c : PrefixCache} {q : Nat} {tokenIds : List Nat} {allow : Bool}

/-- The blocks of a prompt that have to be installed. -/
def newBlockCount (c : PrefixCache) (sequenceId : Nat) (tokenIds : List Nat)
    (allowCrossSequenceReuse : Bool) : Nat :=
  (List.range (c.ceilBlockCount (tokenCountOf tokenIds))).countP fun j =>
    (c.findReserved sequenceId tokenIds allowCrossSequenceReuse j).isNone

/-- The blocks that are unallocated or belong to an entry that could be evicted. -/
def spareBlockCount (c : PrefixCache) : Nat :=
  c.arena.freeBlockCount + c.entries.countP Entry.isEvictable

/-- A reservation is refused only for want of spare blocks or of free bindings. -/
def RefusesOnlyWhenFull (c : PrefixCache) (sequenceId : Nat) (tokenIds : List Nat)
    (allowCrossSequenceReuse : Bool) : Prop :=
  errorOf (reservePromptInternal sequenceId tokenIds allowCrossSequenceReuse c) =
      some .capacityExceeded →
    c.spareBlockCount < c.newBlockCount sequenceId tokenIds allowCrossSequenceReuse ∨
      c.freeBindingCount < c.neededBlockCount sequenceId tokenIds

theorem lacking_of_refused (h : c.Consistent)
    (hrefused : errorOf (reservePromptInternal q tokenIds allow c) = some .capacityExceeded) :
    c.Lacking q tokenIds allow := by
  have hcause := (wp_error (CacheOp.reserve_wp h) (eq_error_of_errorOf hrefused)).2
  exact (hcause.resolve_left fun hbad => absurd hbad.1 (by decide)).2

theorem refused_of_lacking (h : c.Consistent) (hq : q ≠ 0) (htokens : tokenIds ≠ [])
    (heven : ∀ j < c.ceilBlockCount (tokenCountOf tokenIds),
      c.SharesEvenly (c.reservedLabel tokenIds j)) (hlacking : c.Lacking q tokenIds allow) :
    errorOf (reservePromptInternal q tokenIds allow c) = some .capacityExceeded := by
  cases hrun : reservePromptInternal q tokenIds allow c with
  | error e c' =>
    rcases (wp_error (CacheOp.reserve_wp h) hrun).2 with ⟨-, hbad⟩ | ⟨rfl, -⟩
    · exact (hbad.elim htokens hq).elim
    · rfl
  | ok r c' =>
    -- a reservation that succeeds has paid for every block
    obtain ⟨-, m, ⟨hsupply, hbindings⟩, -, hge⟩ := (wp_ok (CacheOp.reserve_wp h) hrun).1.charged
    have hdemand : c.demand q tokenIds allow ≤ m := hge heven
    have hneeded : c.freeBindingCount = c'.freeBindingCount + c.neededBlockCount q tokenIds :=
      hbindings
    unfold Lacking at hlacking
    omega

/-- In every state a cache reaches, reservations of a prompt are refused only when the cache is
full, if the prompt takes no more of the supply than there is wherever the spare blocks and the
free bindings would do; and only if, where copies of one block are held alike. -/
theorem refuses_only_when_full {arenaConfig : KvArenaConfig} {config : PrefixCacheConfig}
    {arena : KvArena} (ha : KvArena.new arenaConfig = .ok arena)
    (hc : PrefixCache.new config arena = .ok c) (ops : List CacheOp) (hq : q ≠ 0)
    (htokens : tokenIds ≠ []) :
    let d := c.run ops
    let Supplied := d.newBlockCount q tokenIds allow ≤ d.spareBlockCount →
      d.neededBlockCount q tokenIds ≤ d.freeBindingCount → d.demand q tokenIds allow ≤ d.supply
    (Supplied → d.RefusesOnlyWhenFull q tokenIds allow) ∧
      ((∀ j < d.ceilBlockCount (tokenCountOf tokenIds),
          d.SharesEvenly (d.reservedLabel tokenIds j)) →
        d.RefusesOnlyWhenFull q tokenIds allow → Supplied) := by
  have h := (consistent_new ha hc).run ops
  generalize c.run ops = d at h
  refine ⟨fun hsupplied hrefused => ?_, fun heven hfull hnew hneeded => ?_⟩
  · have hlacking := lacking_of_refused h hrefused
    unfold Lacking at hlacking
    omega
  · by_contra hdemand
    have hrefused := refused_of_lacking h hq htokens heven (.inl (not_le.mp hdemand))
    have hcause := hfull hrefused
    omega

/-- One new block is refused with two entries to evict, when the table has a free entry and the
arena no free block. -/
theorem refused_with_blocks_left : ∃ arena c, KvArena.new { smallArenaConfig with
      physicalBlockCount := 2, residentBlockCapacity := 2 } = .ok arena ∧
    PrefixCache.new { smallConfig with entryCount := 3, physicalBlockCount := 2 } arena = .ok c ∧
    let d := c.run [.commitPrompt 1 [1, 2, 3, 4], .releaseSequence 1]
    errorOf (reservePrompt 2 [5, 6] d) = some .capacityExceeded ∧
      d.newBlockCount 2 [5, 6] true = 1 ∧ d.neededBlockCount 2 [5, 6] = 1 ∧
      d.arena.freeBlockCount = 0 ∧ d.entries.countP Entry.isEvictable = 2 ∧
      d.freeBindingCount = 8 ∧ ¬d.RefusesOnlyWhenFull 2 [5, 6] true :=
  ⟨_, _, rfl, rfl, by decide +kernel, by decide +kernel, by decide +kernel, by decide +kernel,
    by decide +kernel, by decide +kernel, fun hfull => absurd (hfull (by decide +kernel))
      (by decide +kernel)⟩

/-- With more entries than blocks, two new blocks are refused while one is spare; and after the
release of both blocks one new block is refused although two are spare. -/
theorem refuses_only_when_full_small : ∃ arena c, KvArena.new { smallArenaConfig with
      physicalBlockCount := 2, residentBlockCapacity := 2 } = .ok arena ∧
    PrefixCache.new { smallConfig with entryCount := 3, physicalBlockCount := 2 } arena = .ok c ∧
    errorOf (reservePrompt 2 [5, 6, 7, 8] (c.run [.commitPrompt 1 [1, 2]])) =
      some .capacityExceeded ∧
    (c.run [.commitPrompt 1 [1, 2]]).RefusesOnlyWhenFull 2 [5, 6, 7, 8] true ∧
    ¬(c.run [.commitPrompt 1 [1, 2, 3, 4], .releaseSequence 1]).RefusesOnlyWhenFull 2 [5, 6]
      true := by
  refine ⟨_, _, rfl, rfl, by decide +kernel, ?_, fun hfull => ?_⟩
  · refine (@refuses_only_when_full _ 2 [5, 6, 7, 8] true { smallArenaConfig with
      physicalBlockCount := 2, residentBlockCapacity := 2 } { smallConfig with
      entryCount := 3, physicalBlockCount := 2 } _ rfl rfl [.commitPrompt 1 [1, 2]] (by decide)
      (by decide)).1 ?_
    decide +kernel
  · have hsupplied := (@refuses_only_when_full _ 2 [5, 6] true { smallArenaConfig with
      physicalBlockCount := 2, residentBlockCapacity := 2 } { smallConfig with
      entryCount := 3, physicalBlockCount := 2 } _ rfl rfl
      [.commitPrompt 1 [1, 2, 3, 4], .releaseSequence 1] (by decide) (by decide)).2
      (by decide +kernel) hfull
    exact absurd hsupplied (by decide +kernel)

end SparkPipe.PrefixCache
