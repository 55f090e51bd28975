import SparkPipe.Core.PrefixCache.Tables

/-!
# A reservation and the table after it

A reservation takes whatever block its sequence holds at an offset, without a look at its length
or its hashes. The table of the sequence does look at the length, so the two agree only where the
blocks that the sequence held before are long enough; and a block that is counted as cached has
the hashes of the prompt only where they agreed before.
-/

open Program

namespace SparkPipe

/-- The hashes of two blocks agree. -/
def BlockLabel.SameHashes (label label' : BlockLabel) : Prop :=
  label.parentHash = label'.parentHash ∧ label.blockHash = label'.blockHash ∧
    label.contentHash = label'.contentHash

instance (label label' : BlockLabel) : Decidable (label.SameHashes label') :=
  inferInstanceAs (Decidable (_ ∧ _ ∧ _))

namespace PrefixCache

variable {c c' d : PrefixCache} {q : Nat} {tokenIds : List Nat} {allow : Bool} {r : Reservation}

/-- The label of block `j` of a prompt, the last of which may be short. -/
def promptBlock (c : PrefixCache) (tokenIds : List Nat) (j : Nat) : BlockLabel :=
  labelAt tokenIds (chainHash c.blockTokenCount tokenIds j) (j * c.blockTokenCount)
    (min c.blockTokenCount (tokenCountOf tokenIds - j * c.blockTokenCount))

/-- The table lists the blocks of the reservation, and those counted as cached have the hashes of
the prompt. -/
structure ReservationTabled (c : PrefixCache) (q : Nat) (tokenIds : List Nat) (r : Reservation) :
    Prop where
  table : buildPhysicalBlockTable q (tokenCountOf tokenIds) c = .ok r.physicalBlockIndices c
  counted : r.cachedPhysicalBlockCount =
    (List.range (c.ceilBlockCount (tokenCountOf tokenIds))).countP (c.cachedAt q)
  cached : ∀ j < c.ceilBlockCount (tokenCountOf tokenIds), c.cachedAt q j →
    ∀ b ∈ c.findBindingAtTokenOffset q (j * c.blockTokenCount),
      (c.entry (c.binding b).entryIndex).label.SameHashes (c.promptBlock tokenIds j)

/-- The block of a binding is long enough for block `j`, and has its hashes if shared. -/
def FitsPrompt (c : PrefixCache) (tokenIds : List Nat) (j b : Nat) : Prop :=
  (c.promptBlock tokenIds j).tokenCount ≤ (c.binding b).tokenCount ∧
    (c.isReusable (c.entry (c.binding b).entryIndex) →
      (c.entry (c.binding b).entryIndex).label.SameHashes (c.promptBlock tokenIds j))

instance (c : PrefixCache) (tokenIds : List Nat) (j b : Nat) :
    Decidable (c.FitsPrompt tokenIds j b) :=
  inferInstanceAs (Decidable (_ ∧ _))

/-- The prompt has tokens, counted in 32 bits, and fits what the sequence holds. -/
def ReserveReady (c : PrefixCache) (q : Nat) (tokenIds : List Nat) : Prop :=
  tokenCountOf tokenIds ≠ 0 ∧ ∀ j < c.ceilBlockCount (tokenCountOf tokenIds),
    ∀ b ∈ c.findBindingAtTokenOffset q (j * c.blockTokenCount), c.FitsPrompt tokenIds j b

instance (c : PrefixCache) (q : Nat) (tokenIds : List Nat) :
    Decidable (c.ReserveReady q tokenIds) :=
  inferInstanceAs (Decidable (_ ∧ ∀ j < c.ceilBlockCount (tokenCountOf tokenIds), _))

theorem reserved_block (h : c.Consistent)
    (hreserve : reservePromptInternal q tokenIds allow c = .ok r c') {j : Nat}
    (hj : j < c.ceilBlockCount (tokenCountOf tokenIds)) :
    ∃ b, r.physicalBlockIndices[j]? = some (c'.binding b).physicalBlockIndex ∧
      HoldsBlock c q (c.promptBlock tokenIds j) c' b ∧
      (c.findBindingAtTokenOffset q (j * c.blockTokenCount) = some b → KeepsBinding c c' b) := by
  obtain ⟨hd, -⟩ := wp_ok (CacheOp.reserve_wp h) hreserve
  have hs : (CacheOp.reserveScope c q tokenIds allow).forward.Adds := ⟨trivial, id, id⟩
  obtain ⟨b, hp, hholds⟩ := hd.holds hs j hj
  exact ⟨b, hp, hholds, fun hown =>
    hd.reaches.keeps hs h (findBindingAtTokenOffset_some hown).1⟩

theorem KeepsBinding.fitsPrompt {j b : Nat} (hk : KeepsBinding c c' b)
    (hbt : c'.blockTokenCount = c.blockTokenCount) :
    c'.FitsPrompt tokenIds j b ↔ c.FitsPrompt tokenIds j b := by
  rw [FitsPrompt, FitsPrompt, Binding.eq_of_core hk.binding Binding.entryIndex,
    Binding.eq_of_core hk.binding Binding.tokenCount, isReusable_congr hbt hk.entry,
    Entry.eq_of_content hk.entry Entry.label, promptBlock, promptBlock, hbt]

theorem reservationTabled_iff_fits (h : c.Consistent) (hq : q ≠ 0)
    (hreserve : reservePromptInternal q tokenIds allow c = .ok r c') :
    c'.ReservationTabled q tokenIds r ↔ c'.ReserveReady q tokenIds := by
  obtain ⟨hd, -⟩ := wp_ok (CacheOp.reserve_wp h) hreserve
  have hbt := hd.reaches.shape.blockTokenCount
  have hceil : c'.ceilBlockCount (tokenCountOf tokenIds) =
      c.ceilBlockCount (tokenCountOf tokenIds) := by
    rw [ceilBlockCount, ceilBlockCount, hbt]
  constructor
  · intro htabled
    obtain ⟨-, -, hn, hl⟩ := wp_ok buildPhysicalBlockTable_lists htabled.table
    refine ⟨hn, fun j hj b hb => ⟨?_, fun hreusable => ?_⟩⟩
    · obtain ⟨p, hp⟩ := Option.isSome_iff_exists.mp (hl.isSome hj)
      obtain ⟨b', hb', hmin, -⟩ := heldBlock_eq_some.mp hp
      rw [hb'] at hb
      cases hb
      exact hmin
    · refine htabled.cached j hj ?_ b hb
      rw [cachedAt, show c'.findBindingAtTokenOffset q _ = some b from hb]
      exact hreusable
  · rintro ⟨hn, hready⟩
    refine ⟨(buildPhysicalBlockTable_eq_ok hq hn).mpr ⟨hd.length.trans hceil.symm, fun j hj => ?_⟩,
      hceil ▸ hd.cached ⟨trivial, id, id⟩, fun j hj hcached b hb => ?_⟩
    · obtain ⟨b, hp, hholds, -⟩ := reserved_block h hreserve (hceil ▸ hj)
      have hfound : c'.findBindingAtTokenOffset q (j * c'.blockTokenCount) = some b :=
        hbt ▸ hholds.found
      rw [hp, heldBlock_eq_some.mpr ⟨b, hfound, (hready j hj b hfound).1, rfl⟩]
    · refine (hready j hj b hb).2 ?_
      rwa [cachedAt, show c'.findBindingAtTokenOffset q _ = some b from hb] at hcached

/-- In every state a cache reaches, a reservation that succeeds agrees with the table right after
it exactly if what its sequence held before fits the prompt. -/
theorem reservation_tabled_iff {arenaConfig : KvArenaConfig} {config : PrefixCacheConfig}
    {arena : KvArena} (ha : KvArena.new arenaConfig = .ok arena)
    (hc : PrefixCache.new config arena = .ok c) (ops : List CacheOp) (hq : q ≠ 0)
    (hreserve : reservePromptInternal q tokenIds allow (c.run ops) = .ok r c') :
    c'.ReservationTabled q tokenIds r ↔ (c.run ops).ReserveReady q tokenIds := by
  have h := (consistent_new ha hc).run ops
  generalize c.run ops = d at h hreserve
  rw [reservationTabled_iff_fits h hq hreserve]
  obtain ⟨hd, -⟩ := wp_ok (CacheOp.reserve_wp h) hreserve
  have hbt := hd.reaches.shape.blockTokenCount
  have h' := hd.reaches.of_forward.consistent h
  rw [ReserveReady, ReserveReady, ceilBlockCount, hbt]
  refine and_congr_right fun _ => forall₂_congr fun j hj => ?_
  obtain ⟨b, -, hholds, hkeeps⟩ := reserved_block h hreserve hj
  have hfound : c'.findBindingAtTokenOffset q (j * d.blockTokenCount) = some b := hholds.found
  simp only [hfound, Option.mem_some_iff, forall_eq']
  cases hown : d.findBindingAtTokenOffset q (j * d.blockTokenCount) with
  | some b' =>
    obtain rfl := hholds.own b' hown
    simp only [Option.mem_some_iff, forall_eq']
    exact (hkeeps hown).fitsPrompt hbt
  | none =>
    -- a block that was bound just now is the block of the prompt
    simp only [Option.not_mem_none, false_imp_iff, implies_true, iff_true]
    have hlabel := hholds.label hown
    have hmirrors := h'.binding_mirrors b (findBindingAtTokenOffset_some hfound).1
    have hblock : c'.promptBlock tokenIds j = d.promptBlock tokenIds j := by
      rw [promptBlock, promptBlock, hbt]
    refine ⟨?_, fun _ => ?_⟩
    · rw [hblock, hmirrors.tokenCount, ← hlabel]
      exact le_rfl
    · rw [hblock, hlabel]
      exact ⟨rfl, rfl, rfl⟩

/-- After a reservation of one token, the reservation of two takes the same short block, which
the table refuses. -/
theorem reservation_of_longer_prompt_not_tabled : ∃ arena c,
    KvArena.new smallArenaConfig = .ok arena ∧ PrefixCache.new smallConfig arena = .ok c ∧
    ∃ r c', reservePrompt 1 [1, 2] (c.run [.reservePrompt 1 [1]]) = .ok r c' ∧
      ¬c'.ReservationTabled 1 [1, 2] r := by
  refine ⟨_, _, rfl, rfl, ?_⟩
  refine (exists_ok_of_succeeds ?ok).imp fun r hr => ⟨_, hr, fun htabled => ?_⟩
  case ok => decide +kernel
  have hok : succeeds _ = true := congrArg succeeds htabled.table
  revert hok
  decide +kernel

theorem reservation_tabled_small : ∃ arena c,
    KvArena.new smallArenaConfig = .ok arena ∧ PrefixCache.new smallConfig arena = .ok c ∧
    ∃ r c', reservePrompt 1 [1, 2, 3] (c.run [.reservePrompt 1 [1, 2]]) = .ok r c' ∧
      c'.ReservationTabled 1 [1, 2, 3] r := by
  refine ⟨_, _, rfl, rfl, ?_⟩
  refine (exists_ok_of_succeeds ?ok).imp fun r hr => ⟨_, hr, ?_⟩
  case ok => decide +kernel
  refine (@reservation_tabled_iff _ _ _ _ _ _ smallArenaConfig smallConfig _ rfl rfl
    [.reservePrompt 1 [1, 2]] (by decide)
    hr).mpr ?_
  decide +kernel

end PrefixCache

end SparkPipe
