import SparkPipe.Core.PrefixCache.Rollback

/-!
# Block tables of sequences

The table of a sequence lists, position by position, the block of the first binding the
sequence holds at the offset of the position; it is refused where there is none or where the
binding covers too few tokens. This module says when a table can be built and what it lists,
and proves that a fork gives the target the table of the source or changes nothing, and when a
lookup leaves a table for what it matched.
-/

open Program

namespace SparkPipe

/-- An entry without its reference count. -/
def Entry.unreferenced (e : Entry) : Entry := { e with referenceCount := 0 }

namespace PrefixCache

variable {c c' d d' : PrefixCache} {n q : Nat} {indices : List Nat}

/-! ### What a table lists -/

theorem Lists.isSome {i : Nat} (h : c.Lists q n indices) (hi : i < c.ceilBlockCount n) :
    (c.heldBlock q n i).isSome := by
  rw [← h.held i hi, List.getElem?_eq_getElem (h.length ▸ hi)]
  rfl

theorem lists_of_isSome (h : ∀ i < c.ceilBlockCount n, (c.heldBlock q n i).isSome) :
    c.Lists q n ((List.range (c.ceilBlockCount n)).map fun i => (c.heldBlock q n i).getD 0) where
  length := by simp
  held i hi := by
    obtain ⟨p, hp⟩ := Option.isSome_iff_exists.mp (h i hi)
    simp [List.getElem?_range hi, hp]

theorem Lists.unique {indices' : List Nat} (h : c.Lists q n indices) (h' : c.Lists q n indices') :
    indices = indices' := by
  refine List.ext_getElem? fun i => ?_
  by_cases hi : i < c.ceilBlockCount n
  · rw [h.held i hi, h'.held i hi]
  · rw [List.getElem?_eq_none (h.length ▸ not_lt.mp hi),
      List.getElem?_eq_none (h'.length ▸ not_lt.mp hi)]

theorem buildPhysicalBlockTable_eq_ok (hq : q ≠ 0) (hn : n ≠ 0) :
    buildPhysicalBlockTable q n c = .ok indices c ↔ c.Lists q n indices := by
  constructor
  · exact fun hbuild => (wp_ok buildPhysicalBlockTable_lists hbuild).2.2.2
  intro hl
  cases hbuild : buildPhysicalBlockTable q n c with
  | ok =>
    obtain ⟨rfl, -, -, hl'⟩ := wp_ok buildPhysicalBlockTable_lists hbuild
    rw [hl.unique hl']
  | error =>
    obtain ⟨i, hi, hnone⟩ := (wp_error buildPhysicalBlockTable_lists hbuild).2 hq hn
    exact absurd (hl.isSome hi) (by simp [hnone])

/-! ### Forking -/

section Fork

variable {source target n epoch b i t : Nat}

/-- Both hold the same entry at position `i`, full unless it ends at `t`. -/
def Shares (c : PrefixCache) (source target t i : Nat) : Prop :=
  ∃ b b', c.findBindingAtTokenOffset source (i * c.blockTokenCount) = some b ∧
    c.findBindingAtTokenOffset target (i * c.blockTokenCount) = some b' ∧
    (c.binding b').entryIndex = (c.binding b).entryIndex ∧
    ((c.binding b).tokenCount = c.blockTokenCount ∨
      i * c.blockTokenCount + (c.binding b).tokenCount = t)

theorem Shares.heldBlock (hs : c.Shares source target n i) (h : c.Consistent) :
    c.heldBlock target n i = c.heldBlock source n i ∧ (c.heldBlock source n i).isSome := by
  obtain ⟨b, b', hb, hb', hentry, hlong⟩ := hs
  have hm := h.binding_mirrors b (findBindingAtTokenOffset_some hb).1
  have hm' := h.binding_mirrors b' (findBindingAtTokenOffset_some hb').1
  rw [hentry] at hm'
  have hmin : min c.blockTokenCount (n - i * c.blockTokenCount) ≤ (c.binding b).tokenCount := by
    omega
  have hsource : c.heldBlock source n i = some (c.binding b).physicalBlockIndex :=
    heldBlock_eq_some.mpr ⟨b, hb, hmin, rfl⟩
  have htarget : c.heldBlock target n i = some (c.binding b).physicalBlockIndex :=
    heldBlock_eq_some.mpr ⟨b', hb', by rwa [hm'.tokenCount, ← hm.tokenCount],
      by rw [hm'.physicalBlockIndex, hm.physicalBlockIndex]⟩
  exact ⟨htarget.trans hsource.symm, by rw [hsource]; rfl⟩

section

variable {next : Nat} (hb : c.BindsBlock source target n epoch t b next c') (h : c.Consistent)
include hb h

theorem BindsBlock.consistent : c'.Consistent ∧ c.SameShape c' := by
  rcases hb.shared with ⟨rfl, -⟩ | ⟨hbinds, -⟩
  · exact ⟨h, Quiet.toSameShape (.refl c')⟩
  · exact ⟨h.binds hbinds, hbinds.toSameShape⟩

variable (hne : source ≠ target)
include hne

theorem BindsBlock.shares_of_ne {t' : Nat} (hs : c.Shares source target t' i)
    (hi : i * c.blockTokenCount ≠ t) : c'.Shares source target t' i := by
  rcases hb.shared with ⟨rfl, -⟩ | ⟨hbinds, -⟩
  · exact hs
  obtain ⟨b₁, b₂, hb₁, hb₂, hentry, hlong⟩ := hs
  obtain ⟨hvalid, -, hoffset⟩ := findBindingAtTokenOffset_some hb.found
  have hfirst := (h.binding_mirrors b hvalid).firstTokenIndex
  refine ⟨b₁, b₂, ?_, ?_, ?_, ?_⟩
  · rw [hbinds.blockTokenCount, hbinds.findBindingAtTokenOffset (.inl hne), hb₁]
  · rw [hbinds.blockTokenCount, hbinds.findBindingAtTokenOffset (.inr (by omega)), hb₂]
  · rw [hbinds.binding_of_valid (findBindingAtTokenOffset_some hb₁).1,
      hbinds.binding_of_valid (findBindingAtTokenOffset_some hb₂).1, hentry]
  · rwa [hbinds.binding_of_valid (findBindingAtTokenOffset_some hb₁).1, hbinds.blockTokenCount]

theorem BindsBlock.shares (hi : i * c.blockTokenCount = t) : c'.Shares source target next i := by
  obtain ⟨hvalid, -, hoffset⟩ := findBindingAtTokenOffset_some hb.found
  rcases hb.shared with ⟨rfl, b', hb', hentry⟩ | ⟨hbinds, hnone⟩
  · exact ⟨b, b', hi ▸ hb.found, hi ▸ hb', hentry, .inr (by rw [hi, hb.next_eq])⟩
  have hfirst := (h.binding_mirrors b hvalid).firstTokenIndex
  have hself := hbinds.binding_of_valid hvalid
  obtain ⟨pending, hnew⟩ := hbinds.binding_self
  refine ⟨b, c.freeBindingHead, ?_, ?_, ?_, .inr ?_⟩
  · rw [hbinds.blockTokenCount, hi, hbinds.findBindingAtTokenOffset (.inl hne), hb.found]
  · rw [hbinds.blockTokenCount, hi, ← hoffset, hfirst]
    refine hbinds.findBindingAtTokenOffset_self fun b' hb' hq' => ?_
    rw [← hfirst, hoffset]
    exact findBindingAtTokenOffset_none hnone hb' hq'
  · rw [hself, hnew]
    rfl
  · rw [hself, hbinds.blockTokenCount, hi, hb.next_eq]

theorem BindsBlock.shares_next (hshared : ∀ i, i * c.blockTokenCount < t → c.Shares source target t i) :
    ∀ i, i * c'.blockTokenCount < next → c'.Shares source target next i := by
  intro i hi
  obtain ⟨hvalid, -, hoffset⟩ := findBindingAtTokenOffset_some hb.found
  have hm := h.binding_mirrors b hvalid
  have hwf := h.entry_wellFormed _ hm.valid
  have hle : (c.binding b).tokenCount ≤ c.blockTokenCount := hm.tokenCount ▸ hwf.tokenCount_le
  obtain ⟨m, hm'⟩ : c.blockTokenCount ∣ t := by
    rw [← hoffset, hm.firstTokenIndex]
    exact hwf.aligned
  rw [Nat.mul_comm] at hm'
  rw [(hb.consistent h).2.blockTokenCount, hb.next_eq] at hi
  have him : i ≤ m := by
    by_contra hlt
    have := Nat.mul_le_mul_right c.blockTokenCount (Nat.succ_le_of_lt (not_le.mp hlt))
    rw [Nat.succ_mul] at this
    omega
  rcases him.lt_or_eq with hlt | rfl
  · have hold : i * c.blockTokenCount + c.blockTokenCount ≤ t := by
      have := Nat.mul_le_mul_right c.blockTokenCount (Nat.succ_le_of_lt hlt)
      rw [Nat.succ_mul] at this
      omega
    obtain ⟨b₁, b₂, hb₁, hb₂, hentry, hlong⟩ := hshared i (by have := h.blockTokenCount_pos; omega)
    have hm₁ := h.binding_mirrors b₁ (findBindingAtTokenOffset_some hb₁).1
    have hle₁ := (h.entry_wellFormed _ hm₁.valid).tokenCount_le
    rw [← hm₁.tokenCount] at hle₁
    exact hb.shares_of_ne h hne ⟨b₁, b₂, hb₁, hb₂, hentry, .inl (by omega)⟩
      (by have := h.blockTokenCount_pos; omega)
  · exact hb.shares h hne hm'.symm

end

theorem bindCommittedPrefixFromSequence_shares (h : c.Consistent) :
    wp (bindCommittedPrefixFromSequence source target n)
      (fun _ c' => ∃ indices, buildPhysicalBlockTable target n c' = .ok indices c' ∧
        buildPhysicalBlockTable source n c' = .ok indices c')
      (fun _ _ => True) c := by
  refine wp_mono (wp_bindCommittedPrefixFromSequence (I := fun t d => source ≠ target ∧
      (d.Consistent ∧ c.operationEpoch + 1 ≤ d.operationEpoch) ∧
      ∀ i, i * d.blockTokenCount < t → d.Shares source target t i) (fun hd => hd.2.1) ?_ rfl
    fun hne => ⟨hne, ⟨h.quiet .nextEpoch, le_rfl⟩, fun i hi => absurd hi (Nat.not_lt_zero _)⟩) ?_
    fun _ _ _ => trivial
  · rintro t d b next d' ⟨hne, ⟨hd, hepoch⟩, hshared⟩ hb
    obtain ⟨hd', hshape⟩ := hb.consistent hd
    exact ⟨hne, ⟨hd', hepoch.trans hshape.epoch_mono⟩, hb.shares_next hd hne hshared⟩
  rintro _ d ⟨hsource, htarget, hn, -, ⟨hd, -⟩, hshared⟩
  have hheld : ∀ i < d.ceilBlockCount n, d.heldBlock target n i = d.heldBlock source n i ∧
      (d.heldBlock source n i).isSome := fun i hi =>
    (hshared i ((lt_ceilBlockCount_iff hd.blockTokenCount_pos).mp hi)).heldBlock hd
  have hl := lists_of_isSome fun i hi => (hheld i hi).2
  refine ⟨_, ?_, (buildPhysicalBlockTable_eq_ok hsource hn).mpr hl⟩
  exact (buildPhysicalBlockTable_eq_ok htarget hn).mpr
    ⟨hl.length, fun i hi => (hl.held i hi).trans (hheld i hi).1.symm⟩

/-- The transitions of a fork and of its rollback. -/
def Relinks (q epoch : Nat) (c : PrefixCache) : Event → Prop
  | .bind _ q' epoch' => q' = q ∧ epoch' = epoch
  | e => RollsBack q epoch c e

/-- Apart from what a fork added, only reference counts differ. -/
structure Relinked (q epoch : Nat) (c d : PrefixCache) : Prop extends Intact q epoch c d where
  entry_eq : ∀ k, (d.entry k).unreferenced = (c.entry k).unreferenced
  binding_same : ∀ b, (c.binding b).valid → d.binding b = c.binding b

theorem Relinked.step {e : Event} (hr : Relinked q epoch c d) (hold : c.Precedes epoch)
    (ha : Relinks q epoch d e) (hs : Step d e d') :
    Relinked q epoch c d' := by
  cases hs with
  | @bind _ _ _ _ hb =>
    obtain ⟨rfl, rfl⟩ := ha
    refine ⟨hr.toIntact.binds hb, fun j => ?_, fun b hvalid => ?_⟩
    · rw [← hr.entry_eq j]
      exact hb.entry_eq Entry.unreferenced j
    · have hsame := hr.binding_same b hvalid
      rw [hb.binding_of_valid (by rwa [hsame]), hsame]
  | @unbind _ b hu =>
    refine ⟨hr.toIntact.unbinds hold ha.2 hu, fun j => ?_, fun b' hvalid => ?_⟩
    · rw [← hr.entry_eq j]
      exact hu.entry_eq Entry.unreferenced j
    · have hsame := hr.binding_same b' hvalid
      have hne : b' ≠ b := by
        rintro rfl
        exact hold.binding b' hvalid (hsame ▸ ha.2)
      rw [hu.binding_of_ne b' hne, hsame]
  | @invalidate _ k hi =>
    -- no entry carries the epoch
    have hvalid : (c.entry k).valid = true :=
      (congrArg (·.valid) (hr.entry_eq k)).symm.trans hi.valid
    exact absurd ((congrArg (·.reservationEpoch) (hr.entry_eq k)).symm.trans ha.2)
      (hold.entry k hvalid)
  | quiet | install | commit | grow | reset => exact ha.elim

theorem bindCommittedPrefixFromSequence_relinks (h : c.Consistent) :
    wp (bindCommittedPrefixFromSequence source target n) (fun _ _ => True)
      (fun _ c' => Relinked target (c.operationEpoch + 1) c c' ∧
        c'.Cleared target (c.operationEpoch + 1)) c := by
  have hold := h.precedes
  have hready {d} (hd : Evolves Step (Relinks target (c.operationEpoch + 1))
      { c with operationEpoch := c.operationEpoch + 1 } d) := (h.quiet .nextEpoch).evolves hd
  refine wp_mono (wp_bindCommittedPrefixFromSequence (fun hd => ⟨hready hd,
      (shape_of_evolves (by exact fun _ h => h) hd).epoch_mono⟩) ?_ rfl fun _ => .refl _)
    (fun _ _ _ => trivial) ?_
  · rintro t d b next d' hd hb
    rcases hb.shared with ⟨rfl, -⟩ | ⟨hbinds, -⟩
    · exact hd
    · exact hd.trans (.single (.bind hbinds) ⟨rfl, rfl⟩)
  rintro _ _ (rfl | ⟨t, d, hd, rfl⟩)
  · exact ⟨⟨.refl hold, fun _ => rfl, fun _ _ => rfl⟩, h.cleared rfl⟩
  refine wp_finalState (R := fun c' => Relinked target (c.operationEpoch + 1) c c' ∧
    c'.Cleared target (c.operationEpoch + 1)) (wp_total (rollbackEpoch_clears (hready hd))
    fun _ d' hd' => ⟨?_, hd'.2⟩)
  have hback : Evolves Step (Relinks target (c.operationEpoch + 1)) d d' := by
    refine hd'.1.mono fun d e he => ?_
    cases e with
    | bind => exact he.elim
    | _ => exact he
  exact (hd.trans hback).invariant (fun _ _ _ hr ha hs => hr.step hold ha hs)
    ⟨(Intact.refl hold).keep (fun _ _ => rfl) (fun _ _ => .inl rfl) fun _ _ => rfl,
      fun _ => rfl, fun _ _ => rfl⟩

/-- The entries, the reference counts and the valid bindings of before. -/
structure Unchanged (c c' : PrefixCache) : Prop where
  entry : ∀ k, c'.entry k = c.entry k
  binding_valid : ∀ b, (c'.binding b).valid = (c.binding b).valid
  binding : ∀ b, (c.binding b).valid → c'.binding b = c.binding b
  referenceCount : ∀ p, c'.arena.referenceCount p = c.arena.referenceCount p

theorem referenceCount_eq_of_entry (h : c.Consistent) (h' : c'.Consistent) (hh : c.Housed)
    (hh' : c'.Housed) (hentry : ∀ k, c'.entry k = c.entry k) (p : Nat) :
    c'.arena.referenceCount p = c.arena.referenceCount p := by
  cases hp : c.arena.isAllocated p with
  | true =>
    obtain ⟨k, hk, rfl⟩ := h.block_held p hp
    have howned := (h'.block_owned k (by rwa [hentry k])).2
    rw [hentry k] at howned
    exact howned.trans (h.block_owned k hk).2.symm
  | false =>
    have hp' : c'.arena.isAllocated p = false := by
      by_contra halloc
      obtain ⟨k, hk, rfl⟩ := h'.block_held p (by simpa using halloc)
      rw [hentry k] at hk hp
      exact absurd (h.block_owned k hk).1 (by simp [hp])
    rw [hh.1.unreferenced p hp, hh'.1.unreferenced p hp']

theorem Relinked.unchanged (hr : Relinked target (c.operationEpoch + 1) c c')
    (hclear : c'.Cleared target (c.operationEpoch + 1)) (h : c.Consistent) (h' : c'.Consistent)
    (hshape : c.SameShape c') (hblank : c.Blank) (hblank' : c'.Blank) (hh : c.Housed)
    (hh' : c'.Housed) : Unchanged c c' := by
  have hentry : ∀ k, c'.entry k = c.entry k := fun k => by
    have hvalid : (c'.entry k).valid = (c.entry k).valid :=
      congrArg (·.valid) (hr.entry_eq k)
    have href : (c'.entry k).referenceCount = (c.entry k).referenceCount := by
      cases hk : (c.entry k).valid with
      | true => exact hr.toIntact.referenceCount_eq hclear h h' hshape hk (hvalid.trans hk)
      | false => rw [(hblank k hk).1, (hblank' k (hvalid.trans hk)).1]
    calc c'.entry k
      _ = { (c'.entry k).unreferenced with
            referenceCount := (c'.entry k).referenceCount } := rfl
      _ = { (c.entry k).unreferenced with
            referenceCount := (c.entry k).referenceCount } := by rw [hr.entry_eq k, href]
      _ = c.entry k := rfl
  exact ⟨hentry, hr.toIntact.valid_eq hclear, hr.binding_same,
    referenceCount_eq_of_entry h h' hh hh' hentry⟩

/-- In every state a cache reaches, a fork that succeeds gives the target the table of the
source, and a fork that fails changes nothing. -/
theorem fork_shares_or_restores {arenaConfig : KvArenaConfig} {config : PrefixCacheConfig}
    {arena : KvArena} (ha : KvArena.new arenaConfig = .ok arena)
    (hc : PrefixCache.new config arena = .ok c) (ops : List CacheOp) (source target n : Nat) :
    (∀ d, bindCommittedPrefixFromSequence source target n (c.run ops) = .ok () d →
      ∃ indices, buildPhysicalBlockTable target n d = .ok indices d ∧
        buildPhysicalBlockTable source n d = .ok indices d) ∧
    (∀ e d, bindCommittedPrefixFromSequence source target n (c.run ops) = .error e d →
      Unchanged (c.run ops) d) := by
  have h := (consistent_new ha hc).run ops
  have hblank := blank_run (consistent_new ha hc) hc ops
  have hhoused := housed_run ha hc ops
  generalize c.run ops = d at h hblank hhoused
  refine ⟨fun d' hok => wp_ok (bindCommittedPrefixFromSequence_shares h) hok, fun e d' herror => ?_⟩
  obtain ⟨hr, hclear⟩ := wp_error (bindCommittedPrefixFromSequence_relinks h) herror
  have hreach := wp_error (bindCommittedPrefixFromSequence_wp (s := CacheOp.nextScope d target)
    h rfl trivial) herror
  exact hr.unchanged hclear h (hreach.consistent h) hreach.shape hblank (hblank.reaches h hreach)
    hhoused (hhoused.evolves hreach)

theorem fork_shares_or_restores_small : ∃ arena c, KvArena.new smallArenaConfig = .ok arena ∧
    PrefixCache.new smallConfig arena = .ok c ∧
    let d := finalState (bindCommittedPrefixFromSequence 1 2 4
      (c.run [.commitPrompt 1 [1, 2, 3, 4]]))
    ∃ indices, buildPhysicalBlockTable 2 4 d = .ok indices d ∧
      buildPhysicalBlockTable 1 4 d = .ok indices d := by
  refine ⟨_, _, rfl, rfl, ?_⟩
  refine (@fork_shares_or_restores _ smallArenaConfig smallConfig _ rfl rfl
    [.commitPrompt 1 [1, 2, 3, 4]]
    1 2 4).1 _ (eq_ok_of_succeeds ?_)
  decide +kernel

end Fork

/-! ### Looking up -/

section Lookup

variable {q : Nat} {tokenIds : List Nat} {s : Scope} {count b : Nat}

theorem LookedUp.full (hl : LookedUp s c tokenIds count d) (h : c.Consistent)
    (hnew : c.BoundFor s.sequenceId tokenIds i b d) :
    (d.binding b).tokenCount = c.blockTokenCount := by
  have hfull := (isReusable_iff.mp (findEntry_some ((hl.findEntry _).trans hnew.found)).2).2.2.2
  exact ((hl.reaches.consistent h).binding_mirrors b hnew.valid).tokenCount.trans
    (hfull.trans hl.reaches.shape.blockTokenCount)

instance {find : BlockLabel → Option Nat} {blockTokenCount bound : Nat} :
    Decidable (PrefixMatch find blockTokenCount tokenIds bound count) :=
  decidable_of_iff (count ≤ bound ∧
      (∀ i < count, (find (promptLabel blockTokenCount tokenIds i)).isSome) ∧
      (count < bound → find (promptLabel blockTokenCount tokenIds count) = none))
    ⟨fun h => ⟨h.1, h.2.1, h.2.2⟩, fun h => ⟨h.le_bound, h.found, h.stops⟩⟩

/-- Once a lookup has bound what it has to, the first binding at block `i` is full. -/
def FullFirst (c : PrefixCache) (q : Nat) (tokenIds : List Nat) (i : Nat) : Prop :=
  ∀ b ∈ c.findBindingAtTokenOffset q (i * c.blockTokenCount),
    c.blockTokenCount ≤ (c.binding b).tokenCount ∨
      (c.bindsAt q tokenIds i ∧ c.freeSlot (c.bindsBefore q tokenIds i) < b)

instance (c : PrefixCache) (q : Nat) (tokenIds : List Nat) (i : Nat) :
    Decidable (c.FullFirst q tokenIds i) :=
  inferInstanceAs (Decidable (∀ b ∈ c.findBindingAtTokenOffset q (i * c.blockTokenCount), _ ∨ _))

/-- The matched blocks that the free bindings reach may be shared; if they reach all, the table
finds a full block first at each. -/
def LookupReady (c : PrefixCache) (q : Nat) (tokenIds : List Nat) : Prop :=
  ∀ n < c.reusableBlockCount tokenIds + 1, c.MatchesPrompt (c.matchForSequence q) tokenIds n →
    (∀ i < n, c.bindsBefore q tokenIds i ≤ c.freeBindingCount →
      (c.findEntry (promptLabel c.blockTokenCount tokenIds i) true).isSome) ∧
    (c.bindsBefore q tokenIds n ≤ c.freeBindingCount → ∀ i < n, c.FullFirst q tokenIds i)

instance (c : PrefixCache) (q : Nat) (tokenIds : List Nat) :
    Decidable (c.LookupReady q tokenIds) :=
  inferInstanceAs (Decidable (∀ n < c.reusableBlockCount tokenIds + 1, _ → _ ∧ _))

/-- A lookup succeeds or runs out of bindings, and the table of what it matched can be
built. -/
structure LookupSound (c : PrefixCache) (q : Nat) (tokenIds : List Nat) : Prop where
  outcome : wp (lookupPrompt q tokenIds) (fun lookup c' => 0 < lookup.matchedTokenCount →
      succeeds (buildPhysicalBlockTable q lookup.matchedTokenCount c'))
    (fun e _ => e = .capacityExceeded) c

theorem heldBlock_isSome_iff {n : Nat} (hi : i < n) :
    (c.heldBlock q (n * c.blockTokenCount) i).isSome ↔
      ∃ b, c.findBindingAtTokenOffset q (i * c.blockTokenCount) = some b ∧
        c.blockTokenCount ≤ (c.binding b).tokenCount := by
  have hle : (i + 1) * c.blockTokenCount ≤ n * c.blockTokenCount := Nat.mul_le_mul_right _ hi
  rw [Nat.succ_mul] at hle
  rw [Option.isSome_iff_exists]
  simp only [heldBlock_eq_some, min_eq_left (Nat.le_sub_of_add_le' hle)]
  exact ⟨fun ⟨_, b, hb, hfull, _⟩ => ⟨b, hb, hfull⟩, fun ⟨b, hb, hfull⟩ => ⟨_, b, hb, hfull, rfl⟩⟩

section

variable (hl : LookedUp s c tokenIds count d) (h : c.Consistent)
include hl h

theorem LookedUp.first (hb : d.findBindingAtTokenOffset s.sequenceId (i * c.blockTokenCount) =
      some b) :
    c.BoundFor s.sequenceId tokenIds i b d ∨
      (c.findBindingAtTokenOffset s.sequenceId (i * c.blockTokenCount) = some b ∧
        (d.binding b).core = (c.binding b).core) := by
  obtain ⟨hv, hseq, ht⟩ := findBindingAtTokenOffset_some hb
  rcases hl.binding b with hcore | ⟨i', -, hnew⟩
  · refine .inr ⟨?_, hcore⟩
    have hv' := (congrArg Binding.valid hcore).symm.trans hv
    have hseq' := (congrArg Binding.sequenceId hcore).symm.trans hseq
    have ht' := (congrArg Binding.firstTokenIndex hcore).symm.trans ht
    cases hold : c.findBindingAtTokenOffset s.sequenceId (i * c.blockTokenCount) with
    | none => exact absurd ht' (findBindingAtTokenOffset_none hold hv' hseq')
    | some b' =>
      obtain ⟨hv₀, hseq₀, ht₀⟩ := findBindingAtTokenOffset_some hold
      have hkept := hl.kept hv₀
      have hle := findBindingAtTokenOffset_le hold hv' hseq' ht'
      have hge := findBindingAtTokenOffset_le hb ((congrArg Binding.valid hkept).trans hv₀)
        ((congrArg Binding.sequenceId hkept).trans hseq₀)
        ((congrArg Binding.firstTokenIndex hkept).trans ht₀)
      rw [le_antisymm hle hge]
  · obtain rfl : i' = i := Nat.eq_of_mul_eq_mul_right h.blockTokenCount_pos
      ((hl.firstTokenIndex h hnew).symm.trans ht)
    exact .inl hnew

theorem LookedUp.held_iff (hi : i < count) :
    (∃ b, d.findBindingAtTokenOffset s.sequenceId (i * c.blockTokenCount) = some b ∧
        c.blockTokenCount ≤ (d.binding b).tokenCount) ↔ c.FullFirst s.sequenceId tokenIds i := by
  refine ⟨fun ⟨b₀, hb₀, hfull⟩ b hb => ?_, fun hready => ?_⟩
  · obtain ⟨hv, hseq, ht⟩ := findBindingAtTokenOffset_some hb
    have hkept := hl.kept hv
    have hle := findBindingAtTokenOffset_le hb₀ ((congrArg Binding.valid hkept).trans hv)
      ((congrArg Binding.sequenceId hkept).trans hseq)
      ((congrArg Binding.firstTokenIndex hkept).trans ht)
    rcases hl.first h hb₀ with hnew | ⟨hold, hcore⟩
    · refine .inr ⟨hnew.binds, hnew.slot ▸ lt_of_le_of_ne hle ?_⟩
      rintro rfl
      exact absurd hv (by simp [hnew.free])
    · obtain rfl := Option.some.inj (hold.symm.trans hb)
      exact .inl (hfull.trans (congrArg Binding.tokenCount hcore).le)
  · obtain ⟨k, b, -, hv, hseq, ht, -⟩ := hl.bound h i hi
    cases hb₀ : d.findBindingAtTokenOffset s.sequenceId (i * c.blockTokenCount) with
    | none => exact absurd ht (findBindingAtTokenOffset_none hb₀ hv hseq)
    | some b₀ =>
      refine ⟨b₀, rfl, ?_⟩
      rcases hl.first h hb₀ with hnew | ⟨hold, hcore⟩
      · exact (hl.full h hnew).ge
      rcases hready b₀ hold with hfull | ⟨hbinds, hlt⟩
      · exact hfull.trans (congrArg Binding.tokenCount hcore).ge
      · -- the new binding would have been found first
        have hslot := hl.boundFor i hi hbinds
        exact absurd (findBindingAtTokenOffset_le hb₀ hslot.valid hslot.sequenceId
          (hl.firstTokenIndex h hslot)) (not_le.mpr hlt)

theorem LookedUp.table_iff (hq : s.sequenceId ≠ 0) {n : Nat} (hn : n = count * c.blockTokenCount) :
    (0 < n → succeeds (buildPhysicalBlockTable s.sequenceId n d)) ↔
      ∀ i < count, c.FullFirst s.sequenceId tokenIds i := by
  have hd := hl.reaches.consistent h
  have hbt := hl.reaches.shape.blockTokenCount
  have hceil (i : Nat) : i < d.ceilBlockCount n ↔ i < count := by
    rw [lt_ceilBlockCount_iff hd.blockTokenCount_pos, hbt, hn,
      Nat.mul_lt_mul_right h.blockTokenCount_pos]
  have hheld (i : Nat) (hi : i < count) := hl.held_iff h hi
  rw [← hbt] at hn hheld
  subst hn
  constructor
  · intro hok i hi
    have hpos : 0 < count * d.blockTokenCount :=
      Nat.mul_pos (Nat.zero_lt_of_lt hi) hd.blockTokenCount_pos
    obtain ⟨indices, hbuild⟩ := exists_ok_of_succeeds (hok hpos)
    obtain ⟨-, -, -, hlists⟩ := wp_ok buildPhysicalBlockTable_lists hbuild
    have hlt : i < indices.length := hlists.length ▸ (hceil i).mpr hi
    rw [← hheld i hi, ← heldBlock_isSome_iff hi, ← hlists.held i ((hceil i).mpr hi),
      List.getElem?_eq_getElem hlt]
    rfl
  · intro hready hpos
    rw [(buildPhysicalBlockTable_eq_ok hq hpos.ne').mpr (lists_of_isSome fun i hi => ?_)]
    · rfl
    · have hi' := (hceil i).mp hi
      rw [heldBlock_isSome_iff hi', hheld i hi']
      exact hready i hi'

end

theorem lookupSound_iff (h : c.Consistent) (hq : q ≠ 0) (htokens : tokenIds ≠ []) :
    c.LookupSound q tokenIds ↔ c.LookupReady q tokenIds := by
  have hlookup := lookupPrompt_wp (s := CacheOp.lookupScope c q tokenIds) h
    (id : c.LookupAgrees q tokenIds → c.LookupAgrees q tokenIds) rfl trivial
  cases hrun : lookupPrompt q tokenIds c with
  | error e c' =>
    obtain ⟨-, hstops⟩ := wp_error hlookup hrun
    obtain ⟨n, hmatch, i, hi, hstop⟩ : ∃ n, c.MatchesPrompt (c.matchForSequence q) tokenIds n ∧
      ∃ i < n, c.LookupStops q tokenIds i e := hstops hq htokens
    have hsound : c.LookupSound q tokenIds ↔ e = .capacityExceeded :=
      ⟨fun hs => by simpa only [wp, hrun] using hs.outcome, fun he => ⟨by rwa [wp, hrun]⟩⟩
    rw [hsound]
    constructor
    · intro he n' hn' hmatch'
      obtain rfl := hmatch'.unique hmatch
      obtain ⟨-, hbinds, hfull⟩ := hstop.cause.resolve_left fun hc => by simp [he] at hc
      have hnext : c.freeBindingCount < c.bindsBefore q tokenIds (i + 1) := by
        rw [bindsBefore_succ, if_pos hbinds, hfull]
        exact Nat.lt_succ_self _
      refine ⟨fun j hj hreach => ?_, fun hreach => ?_⟩
      · rcases lt_trichotomy j i with hji | rfl | hji
        · exact hstop.found j hji
        · exact Option.isSome_of_any hbinds
        · exact absurd (bindsBefore_mono hji) (not_le.mpr (hreach.trans_lt hnext))
      · exact absurd (bindsBefore_mono hi) (not_le.mpr (hreach.trans_lt hnext))
    · intro hready
      refine (hstop.cause.resolve_left fun hmissing => ?_).1
      have hsome := (hready n (Nat.lt_succ_of_le hmatch.le_bound) hmatch).1 i hi hstop.reached
      simp [hmissing.2] at hsome
  | ok r c' =>
    obtain ⟨hreports, hmatch, hl⟩ := wp_ok hlookup hrun
    have hcount := hl.freeBindingCount
    have hsound : c.LookupSound q tokenIds ↔ (0 < r.matchedTokenCount →
        succeeds (buildPhysicalBlockTable q r.matchedTokenCount c') = true) :=
      ⟨fun hs => by simpa only [wp, hrun] using hs.outcome, fun hs => ⟨by rwa [wp, hrun]⟩⟩
    refine (hsound.trans (hl.table_iff h hq hreports.matchedTokenCount)).trans ⟨?_, ?_⟩
    · intro hheld n hn hmatch'
      obtain rfl := hmatch'.unique hmatch
      exact ⟨fun i hi _ => hl.found i hi, fun _ => hheld⟩
    · intro hready
      exact (hready _ (Nat.lt_succ_of_le hmatch.le_bound) hmatch).2
        (hcount ▸ Nat.le_add_left _ _)

/-- In every state a cache reaches, a lookup never reports corruption, and the table of what it
matched can be built, just where the lookup is ready. -/
theorem lookup_is_sound_iff_ready {arenaConfig : KvArenaConfig} {config : PrefixCacheConfig}
    {arena : KvArena} (ha : KvArena.new arenaConfig = .ok arena)
    (hc : PrefixCache.new config arena = .ok c) (ops : List CacheOp) (hq : q ≠ 0)
    (htokens : tokenIds ≠ []) :
    (c.run ops).LookupSound q tokenIds ↔ (c.run ops).LookupReady q tokenIds :=
  lookupSound_iff ((consistent_new ha hc).run ops) hq htokens

/-- A lookup of a prompt that the sequence has only reserved reports corruption. -/
theorem lookup_of_reserved_is_internal_error : ∃ arena c,
    KvArena.new smallArenaConfig = .ok arena ∧ PrefixCache.new smallConfig arena = .ok c ∧
    ¬(c.run [.reservePrompt 1 [1, 2, 3]]).LookupSound 1 [1, 2, 3] := by
  refine ⟨_, _, rfl, rfl, fun hsound => ?_⟩
  refine absurd (wp_error hsound.outcome (eq_error_of_errorOf (e := .internalError) ?_)) (by decide)
  decide +kernel

/-- With five bindings the lookup runs out of them before it reaches the block that the sequence
has only reserved. -/
theorem lookup_is_sound_iff_ready_small : ∃ arena c, KvArena.new smallArenaConfig = .ok arena ∧
    PrefixCache.new { smallConfig with sequenceBindingCount := 5 } arena = .ok c ∧
    (c.run [.commitPrompt 1 [1, 2, 3]]).LookupSound 2 [1, 2, 4] ∧
    (c.run [.reservePrompt 1 [1, 2, 3, 4, 5], .reservePrompt 2 [1, 2, 3],
      .commitReservation 2 2]).LookupSound 1 [1, 2, 3, 4, 5] := by
  refine ⟨_, _, rfl, rfl, ?_, ?_⟩
  · refine (@lookup_is_sound_iff_ready _ _ _ smallArenaConfig
      { smallConfig with sequenceBindingCount := 5 } _ rfl rfl _ (by decide) (by decide)).mpr ?_
    decide +kernel
  · refine (@lookup_is_sound_iff_ready _ _ _ smallArenaConfig
      { smallConfig with sequenceBindingCount := 5 } _ rfl rfl _ (by decide) (by decide)).mpr ?_
    decide +kernel

end Lookup

end PrefixCache

end SparkPipe
