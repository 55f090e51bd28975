import SparkPipe.Core.PrefixCache.Provenance
import SparkPipe.Core.PrefixCache.Tables

/-!
# The walks along a prompt

The cache follows the hash chain of a prompt in four places: the probe of a sequence, the walk
that three other probes share, the lookahead protection and the lookup. All of them stop at the
same block, and none changes what the next of them finds.

The prefetch sources are the exception. They refuse a block whose index lies outside the
geometry of the cache, while the blocks come from an arena that may be larger. The same holds
of the walks along the blocks that a sequence holds, whose residency probe in addition takes
such a block for resident.
-/

open Program

namespace SparkPipe.PrefixCache

variable {c c' d : PrefixCache} {s : Scope} {q : Nat} {tokenIds blocks : List Nat}

/-- The sequence holds no bindings. -/
def Unbound (c : PrefixCache) (q : Nat) : Prop :=
  ∀ b < c.bindings.length, (c.binding b).valid → (c.binding b).sequenceId ≠ q

instance (c : PrefixCache) (q : Nat) : Decidable (c.Unbound q) :=
  inferInstanceAs (Decidable (∀ b < c.bindings.length, _ → _))

theorem Unbound.ne (hq : c.Unbound q) (b : Nat) (hb : (c.binding b).valid) :
    (c.binding b).sequenceId ≠ q := hq b (lt_bindings_length_of_valid hb) hb

theorem Unbound.matchForSequence (hq : c.Unbound q) : c.matchForSequence q = (c.findEntry · true) :=
  funext fun label => matchForSequence_of_unbound label hq.ne

/-- The blocks of a prompt that match for a sequence, up to the first that does not. -/
@[mk_iff]
structure Matches (c : PrefixCache) (q : Nat) (tokenIds blocks : List Nat) :
    Prop where
  stops : PrefixMatch (c.matchForSequence q) c.blockTokenCount tokenIds
    (c.reusableBlockCount tokenIds) blocks.length
  block : ∀ i p, blocks[i]? = some p →
    ∃ k, c.matchForSequence q (promptLabel c.blockTokenCount tokenIds i) = some k ∧
      p = (c.entry k).physicalBlockIndex

/-- Whatever the prompt and the sequence, the same blocks match. -/
def SameMatches (c d : PrefixCache) : Prop :=
  ∀ q tokenIds blocks, d.Matches q tokenIds blocks ↔ c.Matches q tokenIds blocks

theorem Matches.unique {blocks' : List Nat} (h : c.Matches q tokenIds blocks)
    (h' : c.Matches q tokenIds blocks') : blocks = blocks' := by
  have hlength := h.stops.unique h'.stops
  refine List.ext_getElem hlength fun i hi hi' => ?_
  obtain ⟨k, hk, hp⟩ := h.block i _ (List.getElem?_eq_getElem hi)
  obtain ⟨k', hk', hp'⟩ := h'.block i _ (List.getElem?_eq_getElem hi')
  rw [hk] at hk'
  cases hk'
  rw [hp, hp']

/-! ### What the walks leave alone -/

theorem sameMatches_of_eq (hshape : c.SameShape d)
    (hmatch : ∀ q label, d.matchForSequence q label = c.matchForSequence q label)
    (hblock : ∀ k, (d.entry k).physicalBlockIndex = (c.entry k).physicalBlockIndex) :
    c.SameMatches d := by
  intro q tokenIds blocks
  have hfind : d.matchForSequence q = c.matchForSequence q := funext (hmatch q)
  rw [matches_iff, matches_iff, hfind, hshape.blockTokenCount, hshape.reusableBlockCount]
  simp only [hblock]

theorem Quiet.sameMatches (hq : c.Quiet d) : c.SameMatches d :=
  sameMatches_of_eq hq.toSameShape hq.matchForSequence (hq.entry_eq Entry.physicalBlockIndex)

theorem Scope.Reaches.content (hr : s.Reaches c d) (hold : c.Precedes s.epoch)
    (hinstalls : ∀ i, ¬s.installs i) (hcommits : ¬s.commits) (k : Nat) :
    (d.entry k).content = (c.entry k).content := by
  refine hr.invariant (I := fun d : PrefixCache => ∀ k, (d.entry k).content = (c.entry k).content)
    (fun d e d' hd ha hs k => ?_) (fun _ => rfl) k
  cases hs with
  | quiet h | bind h | unbind h => exact (h.entry_eq Entry.content k).trans (hd k)
  | install => exact absurd ha.2 (hinstalls _)
  | invalidate h =>
    -- no entry that is there was installed by this operation
    exact absurd ((Entry.eq_of_content (hd _) Entry.reservationEpoch).symm.trans ha.2.2)
      (hold.entry _ ((Entry.eq_of_content (hd _) Entry.valid).symm.trans h.valid))
  | commit | grow => exact absurd ha.1 hcommits
  | reset => exact ha.elim

theorem sameMatches_of_content (hshape : c.SameShape d)
    (hcontent : ∀ k, (d.entry k).content = (c.entry k).content)
    (hold : ∀ b, (c.binding b).valid → (d.binding b).core = (c.binding b).core)
    (hnew : ∀ b, (d.binding b).valid → (c.binding b).valid = false →
      (d.binding b).sequenceId = q ∧
        c.findEntry (c.entry (d.binding b).entryIndex).label true = some (d.binding b).entryIndex)
    (hq : c.Unbound q) :
    c.SameMatches d := by
  have hentry {α : Type} (f : Entry → α) hf k :
      f (d.entry k) = f (c.entry k) := Entry.eq_of_content (hcontent k) f hf
  have hvalid := hentry Entry.valid fun _ => rfl
  have hlabel := hentry Entry.label fun _ => rfl
  have hfind label := hshape.findEntry hcontent label true
  refine sameMatches_of_eq hshape (fun q' label => ?_)
    (hentry Entry.physicalBlockIndex fun _ => rfl)
  by_cases hqq : q' = q
  · subst hqq
    rw [matchForSequence_of_unbound label hq.ne, matchForSequence, hfind]
    cases hown : d.findBindingAtTokenOffset q' label.firstTokenIndex with
    | none => rfl
    | some b =>
      obtain ⟨hv, hseq, -⟩ := findBindingAtTokenOffset_some hown
      have hfree : (c.binding b).valid = false := by
        by_contra hb
        rw [Bool.not_eq_false] at hb
        exact hq.ne b hb ((Binding.eq_of_core (hold b hb) Binding.sequenceId).symm.trans hseq)
      have hb := (hnew b hv hfree).2
      simp only [Option.bind_some, hlabel]
      split_ifs with hmatch
      · rw [hmatch.2.2] at hb
        exact hb.symm
      · rfl
  · have hoffset t : d.findBindingAtTokenOffset q' t = c.findBindingAtTokenOffset q' t := by
      refine findIdx?_congr_getD {} hshape.bindingCount fun b => ?_
      change ((d.binding b).valid && (d.binding b).sequenceId == q' &&
          (d.binding b).firstTokenIndex == t) =
        ((c.binding b).valid && (c.binding b).sequenceId == q' &&
          (c.binding b).firstTokenIndex == t)
      cases hb : (c.binding b).valid with
      | true =>
        rw [Binding.eq_of_core (hold b hb) Binding.valid, hb,
          Binding.eq_of_core (hold b hb) Binding.sequenceId,
          Binding.eq_of_core (hold b hb) Binding.firstTokenIndex]
      | false =>
        cases hv : (d.binding b).valid with
        | false => rfl
        | true =>
          rw [(hnew b hv hb).1, beq_eq_false_iff_ne.mpr (Ne.symm hqq)]
          rfl
    unfold matchForSequence
    rw [hoffset, hfind, hshape.entryCount]
    cases hown : c.findBindingAtTokenOffset q' label.firstTokenIndex with
    | none => rfl
    | some b =>
      have hb := (findBindingAtTokenOffset_some hown).1
      simp only [Option.bind_some, hvalid, hlabel,
        Binding.eq_of_core (hold b hb) Binding.entryIndex]

theorem lookupReady_of_unbound (hq : c.Unbound q) : c.LookupReady q tokenIds := fun _ _ hmatch =>
  ⟨fun i hi _ => matchForSequence_of_unbound _ hq.ne ▸ hmatch.found i hi, fun _ _ _ b hb =>
    absurd (findBindingAtTokenOffset_some hb).2.1
      (hq.ne b (findBindingAtTokenOffset_some hb).1)⟩

theorem lookupPrompt_sameMatches (h : c.Consistent) (hq : c.Unbound q) :
    ends (lookupPrompt q tokenIds) c.SameMatches c := by
  have hold := h.precedes
  have hkeeps {d : PrefixCache} (hr : (CacheOp.lookupScope c q tokenIds).Reaches c d) :
      Intact q (c.operationEpoch + 1) c d ∧ ∀ k, (d.entry k).content = (c.entry k).content :=
    ⟨(Intact.refl hold).reaches hold id h hr, fun k => hr.content hold (fun _ => id) id k⟩
  refine wp_mono (lookupPrompt_wp (s := CacheOp.lookupScope c q tokenIds) h id rfl trivial)
    (fun r d hd => ?_) fun _ d hd => ?_
  · obtain ⟨-, -, hl⟩ := hd
    obtain ⟨hi, hcontent⟩ := hkeeps hl.reaches.of_forward
    refine sameMatches_of_content hl.reaches.shape hcontent hi.binding (fun b hv hb => ?_) hq
    obtain ⟨hseq, -⟩ := hi.bound b hv hb
    rcases hl.binding b with hcore | ⟨i, -, hnew⟩
    · exact absurd ((Binding.eq_of_core hcore Binding.valid).symm.trans hv) (by simp [hb])
    · rw [(findEntry_some hnew.found).1]
      exact ⟨hseq, hnew.found⟩
  · obtain ⟨hreach, hcleared⟩ := hd.1
    obtain ⟨hi, hcontent⟩ := hkeeps hreach
    refine sameMatches_of_content hreach.shape hcontent hi.binding (fun b hv hb => ?_) hq
    exact absurd hv (by simp [hi.valid_eq hcleared b, hb])

/-! ### Agreement -/

/-- The walks that are compared, for a sequence and a prompt. -/
inductive Walks (q : Nat) (tokenIds : List Nat) : CacheOp → Prop
  | probe : Walks q tokenIds (.probePrompt q tokenIds)
  | table (capacity : Nat) : Walks q tokenIds (.probePhysicalBlockTable tokenIds capacity)
  | prefetch (capacity : Nat) :
      Walks q tokenIds (.probeReusablePrefixPrefetchSources tokenIds capacity)
  | residency : Walks q tokenIds (.probeReusablePrefixResidency tokenIds)
  | protect (demandWeight : Nat) :
      Walks q tokenIds (.protectPromptLookahead tokenIds demandWeight)
  | lookup : Walks q tokenIds (.lookupPrompt q tokenIds)

theorem Walks.sameMatches {op : CacheOp} (hop : Walks q tokenIds op) (h : c.Consistent)
    (hq : c.Unbound q) : c.SameMatches (op.exec c) := by
  have hevolves := CacheOp.exec_evolves h op
  cases hop with
  | lookup => exact wp_finalState (lookupPrompt_sameMatches h hq)
  | _ => exact (Quiet.of_evolves hevolves).sameMatches

/-- Every walk reports the same blocks, and no prompt matches others after it. -/
structure WalkersAgree (c : PrefixCache) (q : Nat) (tokenIds blocks : List Nat) : Prop where
  blocks_match : c.Matches q tokenIds blocks
  probe : ∃ r d, probePrompt q tokenIds c = .ok r d ∧
    r.matchedTokenCount = blocks.length * c.blockTokenCount ∧
    ∀ p ∈ blocks.getLast?, r.physicalBlockIndex = p
  table : ∀ capacity, blocks.length ≤ capacity → ∃ d, probePhysicalBlockTable tokenIds capacity c =
      .ok (blocks.length * c.blockTokenCount, blocks) d
  prefetch : ∀ capacity, blocks.length ≤ capacity → ∃ sources d,
    probeReusablePrefixPrefetchSources tokenIds capacity c =
      .ok (blocks.length * c.blockTokenCount, sources) d ∧
    sources.map (·.physicalBlockIndex) = blocks
  residency : ∃ r d, probeReusablePrefixResidency tokenIds c =
      .ok (blocks.length * c.blockTokenCount, r) d ∧
    r.residentBlockCount + r.nonresidentBlockCount = blocks.length
  protect : ∀ demandWeight, ∃ d, protectPromptLookahead tokenIds demandWeight c =
    .ok (blocks.length * c.blockTokenCount, blocks.length) d
  lookup : ∀ r d, lookupPrompt q tokenIds c = .ok r d →
    r.matchedTokenCount = blocks.length * c.blockTokenCount ∧
    (blocks ≠ [] → buildPhysicalBlockTable q r.matchedTokenCount d = .ok blocks d)
  keeps : ∀ op, Walks q tokenIds op → c.SameMatches (op.exec c)

/-- The sequence may be probed, and the reusable blocks lie in the geometry of the cache. -/
def WalksInRange (c : PrefixCache) (q : Nat) (tokenIds : List Nat) : Prop :=
  q ≠ 0 ∧ ∀ i < c.reusableBlockCount tokenIds,
    (∀ j < i + 1, (c.findEntry (promptLabel c.blockTokenCount tokenIds j) true).isSome) →
    ∀ k ∈ c.findEntry (promptLabel c.blockTokenCount tokenIds i) true,
      (c.entry k).physicalBlockIndex < c.physicalBlockCount

instance (c : PrefixCache) (q : Nat) (tokenIds : List Nat) :
    Decidable (c.WalksInRange q tokenIds) :=
  inferInstanceAs (Decidable (q ≠ 0 ∧ ∀ i < c.reusableBlockCount tokenIds, (∀ j < i + 1, _) → _))

theorem matches_of_found (hq : c.Unbound q)
    (hlists : c.ListsReusable tokenIds (fun k p => p = (c.entry k).physicalBlockIndex) blocks)
    (hstops : c.MatchesPrompt (c.findEntry · true) tokenIds blocks.length) :
    c.Matches q tokenIds blocks :=
  ⟨hq.matchForSequence ▸ hstops, by rw [hq.matchForSequence]; exact hlists⟩

theorem Matches.probePrompt (hm : c.Matches q tokenIds blocks) (hq0 : q ≠ 0)
    (htokens : tokenIds ≠ []) :
    ∃ r d, probePrompt q tokenIds c = .ok r d ∧
      r.matchedTokenCount = blocks.length * c.blockTokenCount ∧
      ∀ p ∈ blocks.getLast?, r.physicalBlockIndex = p := by
  obtain ⟨r, d, hprobe, -, hr, hstops⟩ := exists_ok_of_wp probePrompt_wp
    fun _ _ hd => hd.2.elim htokens hq0
  have hcount := hstops.unique hm.stops
  refine ⟨r, d, hprobe, hcount ▸ hr.matchedTokenCount, fun p hp => ?_⟩
  rw [List.getLast?_eq_getElem?] at hp
  obtain ⟨k, hk, rfl⟩ := hm.block _ p hp
  have hlt := (List.getElem?_eq_some_iff.mp hp).1
  exact hr.physicalBlockIndex _ k (by omega) hk

section Agreement

variable (hq : c.Unbound q) (hm : c.Matches q tokenIds blocks) {capacity : Nat}

include hq hm

theorem Matches.found : c.MatchesPrompt (c.findEntry · true) tokenIds blocks.length :=
  hq.matchForSequence ▸ hm.stops

theorem Matches.lt_length {i : Nat} (hi : c.FoundTo tokenIds i) : i < blocks.length := by
  by_contra hle
  have hstops := (hm.found hq).stops ((not_lt.mp hle).trans_lt hi.1)
  exact absurd (hi.2 blocks.length (by omega)) (by simp [hstops])

theorem Matches.probePhysicalBlockTable (h : c.Consistent) (htokens : tokenIds ≠ [])
    (hcapacity : blocks.length ≤ capacity) :
    ∃ d, probePhysicalBlockTable tokenIds capacity c =
      .ok (blocks.length * c.blockTokenCount, blocks) d := by
  obtain ⟨⟨n, l⟩, d, hprobe, -, hlists, hstops, hn⟩ := exists_ok_of_wp
    (@probePhysicalBlockTable_wp c tokenIds capacity h.blockTokenCount_pos) fun _ _ hd => by
      obtain ⟨i, hi, hle⟩ := hd.2 htokens
      exact absurd (hm.lt_length hq hi) (by omega)
  obtain rfl : l = blocks := (matches_of_found hq hlists hstops).unique hm
  exact ⟨d, hprobe.trans (congrArg (fun n => EStateM.Result.ok (n, l) d) hn)⟩

theorem Matches.prefetchSources (h : c.Consistent) (htokens : tokenIds ≠ [])
    (hrange : c.WalksInRange q tokenIds) (hcapacity : blocks.length ≤ capacity) :
    ∃ sources d, probeReusablePrefixPrefetchSources tokenIds capacity c =
        .ok (blocks.length * c.blockTokenCount, sources) d ∧
      sources.map (·.physicalBlockIndex) = blocks := by
  obtain ⟨⟨n, l⟩, d, hprobe, -, hlists, hstops, hn⟩ := exists_ok_of_wp
    (@probeReusablePrefixPrefetchSources_wp c tokenIds capacity h.blockTokenCount_pos)
    fun _ _ hd => by
      obtain ⟨i, hi, hle | ⟨k, hfind, hbad⟩⟩ := hd.2 htokens
      · exact absurd (hm.lt_length hq hi) (by omega)
      · have hvalid := (isReusable_iff.mp (findEntry_some hfind).2).1
        exact hbad ⟨hvalid, h.physicalBlockIndex_ne hvalid, hrange.2 i hi.1 hi.2 k hfind⟩
  have hblocks : l.map (·.physicalBlockIndex) = blocks := by
    refine (matches_of_found hq (fun i p hp => ?_) (by rwa [List.length_map])).unique hm
    rw [List.getElem?_map, Option.map_eq_some_iff] at hp
    obtain ⟨v, hv, rfl⟩ := hp
    obtain ⟨k, hfind, -, hvk⟩ := hlists i v hv
    exact ⟨k, hfind, hvk⟩
  refine ⟨l, d, hprobe.trans ?_, hblocks⟩
  rw [← hblocks, List.length_map, ← hn]

theorem Matches.residency (h : c.Consistent) (htokens : tokenIds ≠ []) :
    ∃ r d, probeReusablePrefixResidency tokenIds c = .ok (blocks.length * c.blockTokenCount, r) d ∧
      r.residentBlockCount + r.nonresidentBlockCount = blocks.length := by
  obtain ⟨⟨n, r⟩, d, hprobe, -, hn, hstops⟩ := exists_ok_of_wp
    (probeReusablePrefixResidency_wp h.blockTokenCount_pos) fun _ _ hd => htokens hd.2
  have hcount := hstops.unique (hm.found hq)
  exact ⟨r, d, hprobe.trans (by rw [← hcount, ← hn]), hcount⟩

theorem Matches.protectPromptLookahead (htokens : tokenIds ≠ []) (demandWeight : Nat) :
    ∃ d, protectPromptLookahead tokenIds demandWeight c =
      .ok (blocks.length * c.blockTokenCount, blocks.length) d := by
  obtain ⟨⟨n, count⟩, d, hprotect, -, hn, hstops⟩ := exists_ok_of_wp
    (@protectPromptLookahead_wp c tokenIds demandWeight) fun _ _ hd => htokens hd.2
  obtain rfl : count = _ := hstops.unique (hm.found hq)
  exact ⟨d, hprotect.trans (by rw [← hn])⟩

theorem Matches.eq_of_held (h : c.Consistent) {count : Nat} (hl : LookedUp s c tokenIds count d)
    {n i p : Nat} (hi : i < blocks.length)
    (hheld : d.heldBlock q n i = some p) : blocks[i]? = some p := by
  obtain ⟨b, hb, -, hp⟩ := heldBlock_eq_some.mp hheld
  obtain ⟨hv, hseq, hfirst⟩ := findBindingAtTokenOffset_some hb
  rcases hl.binding b with hcore | ⟨j, -, hnew⟩
  · exact absurd ((Binding.eq_of_core hcore Binding.sequenceId).symm.trans hseq)
      (hq.ne b ((Binding.eq_of_core hcore Binding.valid).symm.trans hv))
  have hmirrors := (hl.reaches.consistent h).binding_mirrors b hv
  have hji := (hl.firstTokenIndex h hnew).symm.trans hfirst
  rw [hl.reaches.shape.blockTokenCount] at hji
  obtain rfl := Nat.eq_of_mul_eq_mul_right h.blockTokenCount_pos hji
  obtain ⟨k, hk, hpk⟩ := hm.block j _ (List.getElem?_eq_getElem hi)
  rw [matchForSequence_of_unbound _ hq.ne, hnew.found] at hk
  cases hk
  rw [List.getElem?_eq_getElem hi, hpk, ← hp, hmirrors.physicalBlockIndex, hl.block]

theorem Matches.lookupPrompt (h : c.Consistent) (hq0 : q ≠ 0) (htokens : tokenIds ≠ [])
    {r : Lookup} (hlookup : lookupPrompt q tokenIds c = .ok r d) :
    r.matchedTokenCount = blocks.length * c.blockTokenCount ∧
      (blocks ≠ [] → buildPhysicalBlockTable q r.matchedTokenCount d = .ok blocks d) := by
  have hready : c.LookupReady q tokenIds := lookupReady_of_unbound hq
  obtain ⟨hr, hstops, hl⟩ := wp_ok (lookupPrompt_wp (s := CacheOp.lookupScope c q tokenIds) h id
    rfl trivial) hlookup
  have hn : r.matchedTokenCount = blocks.length * c.blockTokenCount :=
    hstops.unique hm.stops ▸ hr.matchedTokenCount
  refine ⟨hn, fun hne => ?_⟩
  have hnpos : 0 < r.matchedTokenCount := by
    rw [hn]
    exact Nat.mul_pos (List.length_pos_iff.mpr hne) h.blockTokenCount_pos
  have hceil (i : Nat) : i < d.ceilBlockCount r.matchedTokenCount ↔ i < blocks.length := by
    rw [lt_ceilBlockCount_iff (hl.reaches.consistent h).blockTokenCount_pos,
      hl.reaches.shape.blockTokenCount, hn, Nat.mul_lt_mul_right h.blockTokenCount_pos]
  have hok := wp_ok ((lookupSound_iff h hq0 htokens).mpr hready).outcome hlookup hnpos
  cases hbuild : buildPhysicalBlockTable q r.matchedTokenCount d with
  | error =>
    rw [hbuild] at hok
    cases hok
  | ok indices =>
    obtain ⟨rfl, -, -, hlists⟩ := wp_ok buildPhysicalBlockTable_lists hbuild
    congr 1
    have hlength : indices.length = blocks.length :=
      hlists.length.trans (eq_of_forall_lt_iff hceil)
    refine List.ext_getElem? fun i => ?_
    by_cases hi : i < blocks.length
    · have hheld := hlists.held i ((hceil i).mpr hi)
      rw [List.getElem?_eq_getElem (hlength ▸ hi)] at hheld ⊢
      exact (hm.eq_of_held hq h hl hi hheld.symm).symm
    · rw [List.getElem?_eq_none (not_lt.mp hi), List.getElem?_eq_none (hlength ▸ not_lt.mp hi)]

end Agreement

theorem WalkersAgree.inRange (ha : c.WalkersAgree q tokenIds blocks) (h : c.Consistent)
    (hq : c.Unbound q) :
    c.WalksInRange q tokenIds := by
  refine ⟨fun hq0 => ?_, fun i hi hfound k hfind => ?_⟩
  · obtain ⟨r, d, hprobe, -⟩ := ha.probe
    rw [probePrompt, if_pos (.inr hq0)] at hprobe
    cases hprobe
  obtain ⟨sources, d, hprefetch, hblocks⟩ := ha.prefetch _ le_rfl
  obtain ⟨-, hlists, -⟩ := wp_ok
    (probeReusablePrefixPrefetchSources_wp h.blockTokenCount_pos) hprefetch
  have hlt : i < sources.length := by
    rw [← List.length_map, hblocks]
    exact ha.blocks_match.lt_length hq ⟨hi, hfound⟩
  obtain ⟨k', hfind', hfetch, -⟩ := hlists i _ (List.getElem?_eq_getElem hlt)
  rw [hfind] at hfind'
  cases hfind'
  exact hfetch.2.2

/-- In every state a cache reaches, the walks along a prompt agree for a sequence without
bindings exactly when the sequence may be probed and no block lies outside the geometry of the
cache. -/
theorem walkers_agree_iff {arenaConfig : KvArenaConfig} {config : PrefixCacheConfig}
    {arena : KvArena} (ha : KvArena.new arenaConfig = .ok arena)
    (hc : PrefixCache.new config arena = .ok c) (ops : List CacheOp) (htokens : tokenIds ≠ [])
    (hq : (c.run ops).Unbound q) :
    (∃ blocks, (c.run ops).WalkersAgree q tokenIds blocks) ↔
      (c.run ops).WalksInRange q tokenIds := by
  have h := (consistent_new ha hc).run ops
  generalize c.run ops = d at h hq
  constructor
  · rintro ⟨blocks, hagree⟩
    exact hagree.inRange h hq
  intro hrange
  have hq0 := hrange.1
  -- with room for every block the table probe succeeds
  obtain ⟨r, -, -, -, hlists, hstops, -⟩ := exists_ok_of_wp (@probePhysicalBlockTable_wp
    _ tokenIds (d.reusableBlockCount tokenIds) h.blockTokenCount_pos) fun _ _ hd => by
      obtain ⟨i, hi, hle⟩ := hd.2 htokens
      exact absurd hi.1 (not_lt.mpr hle)
  have hm := matches_of_found hq hlists hstops
  exact ⟨r.2, hm, hm.probePrompt hq0 htokens,
    fun _ hcapacity => hm.probePhysicalBlockTable hq h htokens hcapacity,
    fun _ hcapacity => hm.prefetchSources hq h htokens hrange hcapacity,
    hm.residency hq h htokens, hm.protectPromptLookahead hq htokens,
    fun _ _ hlookup => hm.lookupPrompt hq h hq0 htokens hlookup,
    fun _ hop => hop.sameMatches h hq⟩

/-- A cache of one block over an arena of eight. -/
def narrowConfig : PrefixCacheConfig := { smallConfig with physicalBlockCount := 1 }

/-- The second block of a prompt comes from the arena, outside the geometry of the cache: the
probe matches it, and the prefetch sources refuse it. -/
theorem walkers_disagree_beyond_geometry : ∃ arena c,
    KvArena.new smallArenaConfig = .ok arena ∧ PrefixCache.new narrowConfig arena = .ok c ∧
    (c.run [.commitPrompt 1 [1, 2, 3, 4, 5]]).Unbound 2 ∧
    ¬∃ blocks, (c.run [.commitPrompt 1 [1, 2, 3, 4, 5]]).WalkersAgree 2 [1, 2, 3, 4, 5] blocks := by
  refine ⟨_, _, rfl, rfl, by decide +kernel, ?_⟩
  rintro ⟨blocks, hagree⟩
  have h := (@consistent_new _ smallArenaConfig narrowConfig _ rfl rfl).run
    [.commitPrompt 1 [1, 2, 3, 4, 5]]
  exact absurd (hagree.inRange h (by decide +kernel)) (by decide +kernel)

theorem walkers_agree_small : ∃ arena c, KvArena.new smallArenaConfig = .ok arena ∧
    PrefixCache.new smallConfig arena = .ok c ∧
    ∃ blocks, (c.run [.commitPrompt 1 [1, 2, 3, 4, 5]]).WalkersAgree 2 [1, 2, 3, 4, 6] blocks := by
  refine ⟨_, _, rfl, rfl, ?_⟩
  refine (@walkers_agree_iff _ _ _ smallArenaConfig smallConfig _ rfl rfl
    [.commitPrompt 1 [1, 2, 3, 4, 5]]
    (by decide) (by decide +kernel)).mpr ?_
  decide +kernel

/-! ### The walks along a sequence -/

section Sequence

variable {n : Nat}

/-- The prefetch sources and the residency probe describe the table of a sequence. -/
structure TableDescribed (c : PrefixCache) (q n : Nat) (blocks : List Nat) : Prop where
  sources : ∃ sources, buildSequencePrefetchSources q n c = .ok sources c ∧
    sources.map (·.physicalBlockIndex) = blocks ∧
    ∀ i source, sources[i]? = some source → source.firstTokenIndex = i * c.blockTokenCount
  residency : ∃ probe, probeSequenceResidency q n c = .ok (blocks.length, probe) c ∧
    probe.residentBlockCount + probe.nonresidentBlockCount = blocks.length ∧
    probe.nonresidentBlockCount = blocks.countP fun p => !c.arena.isResident p

/-- Every block that the sequence holds lies in the geometry of the cache. -/
def HeldInRange (c : PrefixCache) (q n : Nat) : Prop :=
  ∀ i < c.ceilBlockCount n, ∀ b ∈ c.findBindingAtTokenOffset q (i * c.blockTokenCount),
    (c.binding b).physicalBlockIndex < c.physicalBlockCount

instance (c : PrefixCache) (q n : Nat) : Decidable (c.HeldInRange q n) :=
  inferInstanceAs (Decidable (∀ i < c.ceilBlockCount n, _))

section

variable (hl : c.Lists q n blocks) (h : c.Consistent)
include hl h

theorem wp_iterate_lists {α : Type} {f : Nat × α → CacheM (Nat × α)} {acc : α}
    {E : PrefixCacheError → PrefixCache → Prop} (I : Nat → α → Prop) (hstart : I 0 acc)
    (hstep : ∀ j acc b, j < c.ceilBlockCount n → I j acc →
      c.findBindingAtTokenOffset q (j * c.blockTokenCount) = some b →
      blocks[j]? = some (c.binding b).physicalBlockIndex →
      wp (f (j * c.blockTokenCount, acc)) (fun r c' => c' = c ∧
        r.1 = j * c.blockTokenCount + (c.binding b).tokenCount ∧ I (j + 1) r.2) E c) :
    wp (iterate f (c.ceilBlockCount n) (0, acc))
      (fun r c' => c' = c ∧ I (c.ceilBlockCount n) r.2) E c := by
  refine wp_post (wp_iterate (fun rounds r c' => c' = c ∧ ∃ j, j + rounds = c.ceilBlockCount n ∧
    (rounds ≠ 0 → r.1 = j * c.blockTokenCount) ∧ I j r.2) (fun rounds r d hd => ?_)
    ⟨rfl, 0, Nat.zero_add _, fun _ => (Nat.zero_mul _).symm, hstart⟩) fun r c' hd => ?_
  · obtain ⟨rfl, j, hj, hoffset, hI⟩ := hd
    obtain ⟨offset, acc⟩ := r
    obtain rfl := hoffset (Nat.succ_ne_zero rounds)
    have hlt : j < d.ceilBlockCount n := by omega
    obtain ⟨p, hp⟩ := Option.isSome_iff_exists.mp (hl.isSome hlt)
    obtain ⟨b, hb, hmin, rfl⟩ := heldBlock_eq_some.mp hp
    refine wp_post (hstep j acc b hlt hI hb ((hl.held j hlt).trans hp)) fun r c' hd => ?_
    obtain ⟨rfl, hr, hI'⟩ := hd
    refine ⟨rfl, j + 1, by omega, fun hrounds => ?_, hI'⟩
    have hm := h.binding_mirrors b (findBindingAtTokenOffset_some hb).1
    have hle := (h.entry_wellFormed _ hm.valid).tokenCount_le
    have hnext := (lt_ceilBlockCount_iff h.blockTokenCount_pos (j := j + 1) (n := n)).mp (by omega)
    rw [← hm.tokenCount] at hle
    rw [Nat.succ_mul] at hnext
    rw [Nat.succ_mul]
    omega
  · obtain ⟨rfl, j, hj, -, hI⟩ := hd
    obtain rfl : j = c'.ceilBlockCount n := by omega
    exact ⟨rfl, hI⟩

variable (hq : q ≠ 0) (hn : n ≠ 0)
include hq hn

theorem buildSequencePrefetchSources_describes :
    wp (buildSequencePrefetchSources q n)
      (fun sources c' => c' = c ∧ sources.length = blocks.length ∧
        ∀ i source, sources[i]? = some source → blocks[i]? = some source.physicalBlockIndex ∧
          source.physicalBlockIndex < c.physicalBlockCount ∧
          source.firstTokenIndex = i * c.blockTokenCount)
      (fun _ _ => ¬c.HeldInRange q n) c := by
  unfold buildSequencePrefetchSources
  rw [if_neg (not_or.mpr ⟨hq, hn⟩), wp_read, wp_bind]
  refine wp_post (wp_iterate_lists hl h (fun j sources =>
      sources.length = j ∧
      ∀ i source, sources[i]? = some source → blocks[i]? = some source.physicalBlockIndex ∧
        source.physicalBlockIndex < c.physicalBlockCount ∧
        source.firstTokenIndex = i * c.blockTokenCount) ⟨rfl, fun _ _ hnil => nomatch hnil⟩
    fun j sources b hj hI hb hblock => ?_) fun _ _ hd => hl.length ▸ hd
  obtain ⟨hvalid, -, hfirst⟩ := findBindingAtTokenOffset_some hb
  have hm := h.binding_mirrors b hvalid
  rw [wp_bind, wp_orFail_some hb]
  simp only [wp_bind, wp_ite, wp_throw, wp_pure]
  refine ⟨fun hle => absurd (lt_entries_length_of_valid hm.valid) (not_lt.mpr hle), fun _ => ?_⟩
  rcases c.fillPrefetchSourceBlock_cases (c.binding b).entryIndex with
    ⟨source, hfill, hfetch, hsource, hoffset⟩ | ⟨e, hfill, hfetch⟩
  · rw [hfill]
    refine ⟨rfl, trivial, by simp [hI.1], forall_getElem?_concat hI.2 ?_⟩
    rw [hI.1, hblock, hsource, hoffset, hm.physicalBlockIndex, ← hm.firstTokenIndex]
    exact ⟨rfl, hfetch.2.2, hfirst⟩
  · rw [hfill]
    intro hrange
    exact hfetch ⟨hm.valid, h.physicalBlockIndex_ne hm.valid,
      hm.physicalBlockIndex ▸ hrange j hj b hb⟩

theorem probeSequenceResidency_describes (hrange : c.HeldInRange q n) :
    wp (probeSequenceResidency q n) (fun r c' => c' = c ∧ r.1 = blocks.length ∧
        r.2.residentBlockCount + r.2.nonresidentBlockCount = blocks.length ∧
        r.2.nonresidentBlockCount = blocks.countP fun p => !c.arena.isResident p)
      (fun _ _ => False) c := by
  unfold probeSequenceResidency
  rw [if_neg (not_or.mpr ⟨hq, hn⟩), wp_read, wp_bind]
  refine wp_post (wp_iterate_lists hl h (fun j probe =>
      probe.residentBlockCount + probe.nonresidentBlockCount = j ∧
      probe.nonresidentBlockCount = (blocks.take j).countP fun p => !c.arena.isResident p)
    ⟨rfl, rfl⟩ fun j probe b hj hI hb hblock => ?_) fun r c' hd => ?_
  · rw [wp_bind, wp_orFail_some hb, wp_pure]
    refine ⟨rfl, rfl, ?_⟩
    rw [List.take_add_one, hblock, List.countP_append, Option.toList_some, List.countP_singleton,
      countResidency]
    have hin := hrange j hj b hb
    cases c.arena.isResident (c.binding b).physicalBlockIndex <;>
      simp [hin] <;> omega
  · obtain ⟨rfl, hsum, hcount⟩ := hd
    rw [← hl.length] at hsum hcount
    exact ⟨rfl, hl.length.symm, hsum, by rw [hcount, List.take_length]⟩

theorem TableDescribed.inRange (hdescribed : c.TableDescribed q n blocks) : c.HeldInRange q n := by
  intro i hi b hb
  obtain ⟨sources, hok, -⟩ := hdescribed.sources
  obtain ⟨-, hlength, hsource⟩ := wp_ok (buildSequencePrefetchSources_describes hl h hq hn) hok
  have hlt : i < sources.length := by rwa [hlength, hl.length]
  obtain ⟨hblock, hrange, -⟩ := hsource i _ (List.getElem?_eq_getElem hlt)
  obtain ⟨b', hb', hp⟩ := hl.bound hblock
  obtain rfl := Option.some.inj (hb'.symm.trans hb)
  exact hp ▸ hrange

end

/-- In every state a cache reaches, the prefetch sources and the residency probe of a sequence
describe its table exactly when every block it holds lies inside the geometry of the cache. -/
theorem table_described_iff {arenaConfig : KvArenaConfig} {config : PrefixCacheConfig}
    {arena : KvArena} (ha : KvArena.new arenaConfig = .ok arena)
    (hc : PrefixCache.new config arena = .ok c) (ops : List CacheOp)
    (htable : buildPhysicalBlockTable q n (c.run ops) = .ok blocks d) :
    (c.run ops).TableDescribed q n blocks ↔ (c.run ops).HeldInRange q n := by
  have h := (consistent_new ha hc).run ops
  obtain ⟨-, hq, hn, hl⟩ := wp_ok buildPhysicalBlockTable_lists htable
  refine ⟨fun hdescribed => hdescribed.inRange hl h hq hn, fun hrange => ?_⟩
  obtain ⟨sources, d, hok, rfl, hlength, hsource⟩ := exists_ok_of_wp
    (buildSequencePrefetchSources_describes hl h hq hn) fun _ _ he => he hrange
  obtain ⟨⟨count, probe⟩, d', hprobe, rfl, rfl, hsum, hcount⟩ := exists_ok_of_wp
    (probeSequenceResidency_describes hl h hq hn hrange) fun _ _ => id
  refine ⟨⟨sources, hok, List.ext_getElem? fun i => ?_, fun i source hi =>
    (hsource i source hi).2.2⟩, probe, hprobe, hsum, hcount⟩
  rw [List.getElem?_map]
  cases hi : sources[i]? with
  | some source => exact (hsource i source hi).1.symm
  | none =>
    rw [List.getElem?_eq_none_iff, hlength] at hi
    exact (List.getElem?_eq_none hi).symm

end Sequence

/-- The table lists the second block of a prompt although it lies outside the geometry of the
cache; the prefetch sources refuse it. -/
theorem table_not_described_beyond_geometry : ∃ arena c,
    KvArena.new smallArenaConfig = .ok arena ∧ PrefixCache.new narrowConfig arena = .ok c ∧
    ∃ blocks d, buildPhysicalBlockTable 1 4 (c.run [.commitPrompt 1 [1, 2, 3, 4]]) = .ok blocks d ∧
      ¬(c.run [.commitPrompt 1 [1, 2, 3, 4]]).TableDescribed 1 4 blocks := by
  refine ⟨_, _, rfl, rfl, (exists_ok_of_succeeds ?_).imp fun blocks hbuild =>
    ⟨_, hbuild, fun hdescribed => ?_⟩⟩
  · decide +kernel
  have h := (@consistent_new _ smallArenaConfig narrowConfig _ rfl rfl).run
    [.commitPrompt 1 [1, 2, 3, 4]]
  exact absurd (hdescribed.inRange (wp_ok buildPhysicalBlockTable_lists hbuild).2.2.2 h
    (by decide) (by decide)) (by decide +kernel)

theorem table_described_small : ∃ arena c, KvArena.new smallArenaConfig = .ok arena ∧
    PrefixCache.new smallConfig arena = .ok c ∧
    ∃ blocks, (c.run [.commitPrompt 1 [1, 2, 3, 4]]).TableDescribed 1 4 blocks := by
  refine ⟨_, _, rfl, rfl, (exists_ok_of_succeeds ?_).imp fun blocks hbuild =>
    (@table_described_iff _ _ _ _ _ smallArenaConfig smallConfig _ rfl rfl
      [.commitPrompt 1 [1, 2, 3, 4]]
      hbuild).mpr ?_⟩
  · decide +kernel
  · decide +kernel

end SparkPipe.PrefixCache
