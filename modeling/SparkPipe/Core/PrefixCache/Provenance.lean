import SparkPipe.Core.PrefixCache.Run

/-!
# Where reusable blocks come from

A block that may be shared is described by its label, its physical block with the generation of
the block, and the epoch of its reservation. In every run such a description goes back to the
reservation of a prompt that installed it, and a reusable block to the commit of that
reservation; the description has not changed in between.
-/

open Program

namespace SparkPipe

/-- A block that may be shared. -/
structure SharedBlock where
  label : BlockLabel
  physicalBlockIndex : Nat
  generation : Nat
  reservationEpoch : Nat

namespace PrefixCache

variable {c c' d d' : PrefixCache}

/-- The block of entry `k`, when it may be shared. -/
def sharedBlock (c : PrefixCache) (k : Nat) : Option SharedBlock :=
  if (c.entry k).valid = true ∧ (c.entry k).liveOnly = false then
    some
      { label := (c.entry k).label
        physicalBlockIndex := (c.entry k).physicalBlockIndex
        generation := c.arena.generation (c.entry k).physicalBlockIndex
        reservationEpoch := (c.entry k).reservationEpoch }
  else none

theorem sharedBlock_eq_some {k : Nat} {block : SharedBlock} :
    c.sharedBlock k = some block ↔ (c.entry k).valid ∧ (c.entry k).liveOnly = false ∧
      (c.entry k).label = block.label ∧
      (c.entry k).physicalBlockIndex = block.physicalBlockIndex ∧
      c.arena.generation (c.entry k).physicalBlockIndex = block.generation ∧
      (c.entry k).reservationEpoch = block.reservationEpoch := by
  unfold sharedBlock
  cases block
  split_ifs with h
  · simp [h]
  · simp only [false_iff]
    exact fun hk => h ⟨hk.1, hk.2.1⟩

theorem sharedBlock_congr {k : Nat} (hcontent : (c'.entry k).content = (c.entry k).content)
    (hgeneration : (c.entry k).valid → c'.arena.generation (c.entry k).physicalBlockIndex =
        c.arena.generation (c.entry k).physicalBlockIndex) :
    c'.sharedBlock k = c.sharedBlock k := by
  unfold sharedBlock
  rw [Entry.eq_of_content hcontent Entry.valid, Entry.eq_of_content hcontent Entry.liveOnly,
    Entry.eq_of_content hcontent Entry.label, Entry.eq_of_content hcontent Entry.physicalBlockIndex,
    Entry.eq_of_content hcontent Entry.reservationEpoch]
  split_ifs with h
  · rw [hgeneration h.1]
  · rfl

/-- What may be shared in `d` was there in `c`, or was installed and committed since. -/
structure Explains (installs : Installation → Prop) (commits : Nat → Prop)
    (c d : PrefixCache) : Prop where
  generation_le : ∀ p, c.arena.generation p ≤ d.arena.generation p
  shared : ∀ k block, d.sharedBlock k = some block →
    (c.sharedBlock k = some block ∧ ((d.entry k).reusable →
      (c.entry k).reusable ∨ commits block.reservationEpoch)) ∨
    ((∃ i : Installation, installs i ∧ i.liveOnly = false ∧ i.label = block.label ∧
        i.operationEpoch = block.reservationEpoch) ∧
      c.arena.generation block.physicalBlockIndex < block.generation ∧
      ((d.entry k).reusable → commits block.reservationEpoch))

namespace Explains

variable {installs : Installation → Prop} {commits : Nat → Prop} {k : Nat}

theorem unchanged {block : SharedBlock} (hentry : d.entry k = c.entry k)
    (hgeneration : (c.entry k).valid → d.arena.generation (c.entry k).physicalBlockIndex =
        c.arena.generation (c.entry k).physicalBlockIndex)
    (hk : d.sharedBlock k = some block) :
    c.sharedBlock k = some block ∧ ((d.entry k).reusable →
      (c.entry k).reusable ∨ commits block.reservationEpoch) :=
  ⟨sharedBlock_congr (congrArg _ hentry) hgeneration ▸ hk, fun hr => .inl (hentry ▸ hr)⟩

theorem of_content (hgeneration : ∀ p, d.arena.generation p = c.arena.generation p)
    (hcontent : ∀ k, (d.entry k).content = (c.entry k).content) :
    Explains installs commits c d := by
  refine ⟨fun p => (hgeneration p).ge, fun k block hk => .inl ⟨?_, fun hr => .inl ?_⟩⟩
  · rw [← hk]
    exact (sharedBlock_congr (hcontent k) fun _ => hgeneration _).symm
  · rwa [← Entry.eq_of_content (hcontent k) Entry.reusable]

theorem refl (c : PrefixCache) : Explains installs commits c c :=
  .of_content (fun _ => rfl) fun _ => rfl

theorem trans {e : PrefixCache} (h : Explains installs commits c d)
    (h' : Explains installs commits d e) : Explains installs commits c e where
  generation_le p := (h.generation_le p).trans (h'.generation_le p)
  shared k block hk := by
    rcases h'.shared k block hk with ⟨hd, hr'⟩ | ⟨hi, hlt, hr'⟩
    · rcases h.shared k block hd with ⟨hc, hr⟩ | ⟨hi, hlt, hr⟩
      · exact .inl ⟨hc, fun hk => (hr' hk).elim hr .inr⟩
      · exact .inr ⟨hi, hlt, fun hk => (hr' hk).elim hr id⟩
    · exact .inr ⟨hi, (h.generation_le _).trans_lt hlt, hr'⟩

theorem of_quiet (hq : c.Quiet d) : Explains installs commits c d :=
  .of_content hq.arena.generation (hq.entry_eq Entry.content)

theorem of_installs {p : Nat} {i : Installation} (h : c.Consistent) (hi : c.Installs k i p d)
    (hinstalls : installs i) : Explains installs commits c d := by
  obtain ⟨tick, hself⟩ := hi.entry_self
  have hgeneration := hi.arena.generation
  refine ⟨hi.arena.generation_le (Nat.le_succ _), fun j block hj => ?_⟩
  by_cases hjk : j = k
  · subst hjk
    obtain ⟨-, hlive, hlabel, hblock, hgen, hepoch⟩ := sharedBlock_eq_some.mp hj
    rw [hself] at hlive hlabel hblock hgen hepoch
    have hp : p = block.physicalBlockIndex := hblock
    have hg : d.arena.generation p = block.generation := hgen
    rw [hgeneration p, if_pos rfl] at hg
    refine .inr ⟨⟨i, hinstalls, hlive, hlabel, hepoch⟩, ?_, fun hr => ?_⟩
    · rw [← hp, ← hg]
      exact Nat.lt_succ_self _
    · rw [hself] at hr
      cases hr
  · refine .inl (unchanged (hi.entry_of_ne j hjk) (fun hv => ?_) hj)
    rw [hgeneration, if_neg (h.block_ne_of_installs hi hv hjk)]

theorem of_invalidates (h : c.Consistent) (hi : c.Invalidates k d) :
    Explains installs commits c d := by
  refine ⟨hi.arena.generation_le (Nat.le_succ _), fun j block hj => ?_⟩
  have hjk : j ≠ k := by
    rintro rfl
    have hv := (sharedBlock_eq_some.mp hj).1
    rw [hi.entry_self] at hv
    cases hv
  refine .inl (unchanged (hi.entry_of_ne j hjk) (fun hv => ?_) hj)
  rw [hi.arena.generation, if_neg fun heq => hjk (h.block_injective j k hv hi.valid heq)]

theorem of_binds {q epoch : Nat} (hb : c.Binds k q epoch d) : Explains installs commits c d :=
  .of_content (hb.arena.generation_eq rfl) (hb.entry_eq Entry.content)

theorem of_unbinds {b : Nat} (hu : c.Unbinds b d) : Explains installs commits c d :=
  .of_content (hu.arena.generation_eq rfl) (hu.entry_eq Entry.content)

theorem of_commits (hc : c.Commits k d) (hcommits : commits (c.entry k).reservationEpoch) :
    Explains installs commits c d := by
  have hgeneration := hc.arena.generation
  refine ⟨fun p => (hgeneration p).ge, fun j block hj => ?_⟩
  by_cases hjk : j = k
  · subst hjk
    -- a commit either keeps the entry shared or makes it private
    have hself := hc.entry_self
    unfold commitEntry at hself
    split_ifs at hself
    · have hsame : d.sharedBlock j = c.sharedBlock j := by
        simp only [sharedBlock, hself, hgeneration]
        rfl
      rw [hsame] at hj
      refine .inl ⟨hj, fun _ => .inr ?_⟩
      rw [← (sharedBlock_eq_some.mp hj).2.2.2.2.2]
      exact hcommits
    · have hlive := (sharedBlock_eq_some.mp hj).2.1
      rw [hself] at hlive
      cases hlive
  · exact .inl (unchanged (hc.entry_of_ne j hjk) (fun _ => hgeneration _) hj)

theorem of_grows {b : Nat} (hg : c.Grows b k d) : Explains installs commits c d := by
  have hgeneration := hg.arena.generation
  refine ⟨fun p => (hgeneration p).ge, fun j block hj => ?_⟩
  have hjk : j ≠ k := by
    rintro rfl
    have hlive := (sharedBlock_eq_some.mp hj).2.1
    rw [hg.entry_self] at hlive
    cases hlive
  exact .inl (unchanged (hg.entry_of_ne j hjk) (fun _ => hgeneration _) hj)

theorem of_step {e : Event} (h : c.Consistent) (hs : Step c e d) (hreset : e ≠ .reset)
    (hinstalls : ∀ k i, e = .install k i → installs i)
    (hcommits : ∀ k, e = .commit k → commits (c.entry k).reservationEpoch) :
    Explains installs commits c d := by
  cases hs with
  | quiet hq => exact of_quiet hq
  | install hi => exact of_installs h hi (hinstalls _ _ rfl)
  | bind hb => exact of_binds hb
  | unbind hu => exact of_unbinds hu
  | invalidate hi => exact of_invalidates h hi
  | commit hc => exact of_commits hc (hcommits _ rfl)
  | grow hg => exact of_grows hg
  | reset => exact absurd rfl hreset

theorem of_evolves {allowed : PrefixCache → Event → Prop} (he : Evolves Step allowed c d)
    (h : c.Consistent) (hreset : ∀ d, ¬allowed d .reset)
    (hinstalls : ∀ d k i, allowed d (.install k i) → installs i)
    (hcommits : ∀ d k, allowed d (.commit k) → commits (d.entry k).reservationEpoch) :
    Explains installs commits c d := by
  refine Evolves.lift (fun _ => .refl _) (fun _ _ _ h h' => h.trans h')
    (fun d e d' hd ha hs => ⟨hd.step hs, ?_⟩) he h
  exact of_step hd hs (fun heq => hreset d (heq ▸ ha)) (fun k i heq => hinstalls d k i (heq ▸ ha))
    (fun k heq => hcommits d k (heq ▸ ha))

end Explains

end PrefixCache

namespace CacheOp

/-! ### What each operation explains -/

open PrefixCache

/-- The operation reserves the prompt and offers its full blocks for reuse. -/
def Reserves (op : CacheOp) (tokenIds : List Nat) : Prop :=
  ∃ q, op = .reservePrompt q tokenIds ∨ op = .commitPrompt q tokenIds

/-- The operation on `c` commits the reservations of an epoch. -/
def Commits (op : CacheOp) (c : PrefixCache) (epoch : Nat) : Prop :=
  (∃ q, op = .commitReservation q epoch) ∨
    ∃ q tokenIds, op = .commitPrompt q tokenIds ∧ epoch = c.operationEpoch + 1

/-- The operation on `c` installs a full block of a prompt it reserves. -/
def Installs (op : CacheOp) (c : PrefixCache) (i : Installation) : Prop :=
  i.liveOnly = false → ∃ tokenIds j, op.Reserves tokenIds ∧
    i.operationEpoch = c.operationEpoch + 1 ∧
    (j + 1) * c.blockTokenCount ≤ tokenCountOf tokenIds ∧
    i.label = promptLabel c.blockTokenCount tokenIds j

variable {c : PrefixCache}

theorem exec_explains (h : c.Consistent) {op : CacheOp} (hop : op ≠ .reset) :
    Explains (op.Installs c) (op.Commits c) c (op.exec c) := by
  have he := exec_evolves h op
  cases op with
  | reset => exact absurd rfl hop
  | lookupPrompt | cancelReservation | bindCommittedPrefixFromSequence =>
    exact .of_evolves he h (fun _ ha => ha) (fun _ _ _ ha => ha.2.elim) (fun _ _ ha => ha.1.elim)
  | reservePrompt q tokens =>
    refine .of_evolves he h (fun _ ha => ha) (fun _ _ i ha hlive => ?_) (fun _ _ ha => ha.1.elim)
    obtain ⟨-, j, hj, hlabel⟩ := ha.2 hlive
    exact ⟨tokens, j, ⟨q, .inl rfl⟩, ha.1, hj, hlabel⟩
  | reserveSequencePrompt =>
    refine .of_evolves he h (fun _ ha => ha) (fun _ _ i ha hlive => ?_) (fun _ _ ha => ha.1.elim)
    exact absurd (ha.2 hlive).1 Bool.false_ne_true
  | commitReservation q =>
    refine .of_evolves he h (fun _ ha => ha) (fun _ _ _ ha => ha.2.elim) (fun _ _ ha => ?_)
    exact .inl ⟨q, by rw [ha.2]; rfl⟩
  | commitPrompt q tokens =>
    refine .of_evolves he h (fun _ ha => ha) (fun _ _ i ha hlive => ?_) (fun _ _ ha => ?_)
    · obtain ⟨-, j, hj, hlabel⟩ := ha.2 hlive
      exact ⟨tokens, j, ⟨q, .inr rfl⟩, ha.1, hj, hlabel⟩
    · exact .inr ⟨q, tokens, rfl, ha.2⟩
  | ensureSequenceTokenCapacity q n =>
    -- the growth commits its own epoch, in which it installs private blocks only
    have hgrow : Explains (fun i => i.liveOnly = true) (fun epoch => epoch = c.operationEpoch + 1)
        c ((ensureSequenceTokenCapacity q n).exec c) :=
      .of_evolves he h (fun _ ha => ha) (fun _ _ _ ha => ha.2) (fun _ _ ha => ha.2)
    refine ⟨hgrow.generation_le, fun k block hk => ?_⟩
    rcases hgrow.shared k block hk with ⟨hc, hr⟩ | ⟨⟨i, hi, hlive, -⟩, -⟩
    · refine .inl ⟨hc, fun hk => .inl ((hr hk).resolve_right fun hepoch => ?_)⟩
      obtain ⟨hvalid, -, -, -, -, hblock⟩ := sharedBlock_eq_some.mp hc
      have hle := (h.entry_wellFormed k hvalid).epoch_le
      omega
    · exact absurd (hlive.symm.trans hi) Bool.false_ne_true
  | releaseSequence =>
    exact .of_evolves he h (fun _ ha => ha) (fun _ _ _ ha => ha.elim) (fun _ _ ha => ha.elim)
  | _ =>
    exact .of_evolves he h (fun _ ha => Event.noConfusion ha) (fun _ _ _ ha => Event.noConfusion ha)
      (fun _ _ ha => Event.noConfusion ha)

end CacheOp

namespace PrefixCache

variable {c : PrefixCache} {tokenIds : List Nat} {i q : Nat}

/-! ### Histories -/

theorem Consistent.blockTokenCount_run (h : c.Consistent) (ops : List CacheOp) :
    (c.run ops).blockTokenCount = c.blockTokenCount := by
  refine h.run_invariant (I := (·.blockTokenCount = c.blockTokenCount)) rfl
    (fun d e d' _ hd hs => ?_) ops
  by_cases he : e = .reset
  · subst he
    cases hs with
    | reset hr => exact hr.blockTokenCount.trans hd
  · exact (hs.shape he).blockTokenCount.trans hd

/-- An operation installed the block for the prompt, and entry `k` has described it since. -/
def ReservedSince (c : PrefixCache) (ops : List CacheOp) (tokenIds : List Nat) (k : Nat)
    (block : SharedBlock) : Prop :=
  Since CacheOp.exec
    (fun d op => op.Reserves tokenIds ∧ block.reservationEpoch = d.operationEpoch + 1 ∧
      d.arena.generation block.physicalBlockIndex < block.generation)
    (fun d => d.sharedBlock k = some block) c ops

/-- An operation committed the block, and entry `k` has offered it since. -/
def CommittedSince (c : PrefixCache) (ops : List CacheOp) (k : Nat) (block : SharedBlock) : Prop :=
  Since CacheOp.exec (fun d op => op.Commits d block.reservationEpoch)
    (fun d => d.sharedBlock k = some block ∧ (d.entry k).reusable) c ops

/-- Every block that may be shared has a history. -/
structure Historied (c : PrefixCache) (ops : List CacheOp) : Prop where
  reserved : ∀ k block, (c.run ops).sharedBlock k = some block → ∃ tokenIds j,
    (j + 1) * c.blockTokenCount ≤ tokenCountOf tokenIds ∧
      block.label = promptLabel c.blockTokenCount tokenIds j ∧
      c.ReservedSince ops tokenIds k block
  committed : ∀ k block, (c.run ops).sharedBlock k = some block →
    ((c.run ops).entry k).reusable → c.CommittedSince ops k block

variable {ops : List CacheOp}

theorem Historied.of_free {n : Nat}
    (h : (c.run ops).entries = freeEntries n) : c.Historied ops := by
  have hnone : ∀ k block, (c.run ops).sharedBlock k ≠ some block := fun k block hk => by
    have hvalid := (sharedBlock_eq_some.mp hk).1
    simp [(Consistent.entry_freeEntries h k).1] at hvalid
  exact ⟨fun k block hk => absurd hk (hnone k block), fun k block hk => absurd hk (hnone k block)⟩

theorem Historied.concat (hh : c.Historied ops) (h : c.Consistent)
    (op : CacheOp) : c.Historied (ops ++ [op]) := by
  have hrun : c.run (ops ++ [op]) = op.exec (c.run ops) := runAll_concat CacheOp.exec c ops op
  by_cases hop : op = .reset
  · subst hop
    exact .of_free (by rw [hrun]; rfl)
  have hexplains := CacheOp.exec_explains (h.run ops) hop
  rw [← hrun] at hexplains
  have hb := h.blockTokenCount_run ops
  constructor
  · intro k block hk
    rcases hexplains.shared k block hk with ⟨hold, -⟩ | ⟨⟨i, hi, hlive, hlabel, hepoch⟩, hlt, -⟩
    · obtain ⟨tokenIds, j, hj, hlabel, hsince⟩ := hh.reserved k block hold
      exact ⟨tokenIds, j, hj, hlabel, hsince.concat hk⟩
    · obtain ⟨tokenIds, j, hreserves, hepoch', hj, hlabel'⟩ := hi hlive
      rw [hb] at hj hlabel'
      exact ⟨tokenIds, j, hj, hlabel.symm.trans hlabel',
        .now ⟨hreserves, hepoch.symm.trans hepoch', hlt⟩ hk⟩
  · intro k block hk hr
    rcases hexplains.shared k block hk with ⟨hold, hr'⟩ | ⟨-, -, hcommits⟩
    · rcases hr' hr with hr' | hcommits
      · exact (hh.committed k block hold hr').concat ⟨hk, hr⟩
      · exact .now hcommits ⟨hk, hr⟩
    · exact .now (hcommits hr) ⟨hk, hr⟩

theorem historied_run {n : Nat} (h : c.Consistent) (hfree : c.entries = freeEntries n)
    (ops : List CacheOp) : c.Historied ops := by
  induction ops using List.reverseRecOn with
  | nil => exact .of_free hfree
  | append_singleton _ op ih => exact ih.concat h op

/-- Block `p` was reserved as block `i` of a prompt with these hashes, was committed, and is
unchanged since. -/
def CommittedFrom (c : PrefixCache) (ops : List CacheOp) (tokenIds : List Nat) (i p : Nat) :
    Prop :=
  ∃ (reserved : List Nat) (k : Nat) (block : SharedBlock), block.physicalBlockIndex = p ∧
    (i + 1) * c.blockTokenCount ≤ tokenCountOf reserved ∧
    block.label = promptLabel c.blockTokenCount reserved i ∧
    promptLabel c.blockTokenCount reserved i = promptLabel c.blockTokenCount tokenIds i ∧
    c.ReservedSince ops reserved k block ∧ c.CommittedSince ops k block

theorem committedFrom_of_findEntry {k : Nat} (h : c.Consistent) (hh : c.Historied ops)
    (hfind : (c.run ops).findEntry (promptLabel c.blockTokenCount tokenIds i) true = some k) :
    c.CommittedFrom ops tokenIds i ((c.run ops).entry k).physicalBlockIndex := by
  obtain ⟨hlabel, hreusable⟩ := findEntry_some hfind
  obtain ⟨hvalid, hre, -, -⟩ := isReusable_iff.mp hreusable
  have hlive := (((h.run ops).entry_wellFormed k hvalid).reusable hre).2
  have hblock : (c.run ops).sharedBlock k = some
      { label := ((c.run ops).entry k).label
        physicalBlockIndex := ((c.run ops).entry k).physicalBlockIndex
        generation := (c.run ops).arena.generation ((c.run ops).entry k).physicalBlockIndex
        reservationEpoch := ((c.run ops).entry k).reservationEpoch } :=
    if_pos ⟨hvalid, hlive⟩
  obtain ⟨reserved, j, hj, hlabel', hsince⟩ := hh.reserved k _ hblock
  have hlabels : promptLabel c.blockTokenCount reserved j =
      promptLabel c.blockTokenCount tokenIds i := hlabel'.symm.trans hlabel
  have hji : j = i := Nat.eq_of_mul_eq_mul_right h.blockTokenCount_pos
    (congrArg BlockLabel.firstTokenIndex hlabels)
  subst hji
  exact ⟨reserved, k, _, rfl, hj, hlabel', hlabels, hsince, hh.committed k _ hblock hre⟩

/-! ### What probes and lookups report -/

theorem matchForSequence_of_unbound (label : BlockLabel)
    (hq : ∀ b, (c.binding b).valid → (c.binding b).sequenceId ≠ q) :
    c.matchForSequence q label = c.findEntry label true := by
  unfold matchForSequence
  cases hown : c.findBindingAtTokenOffset q label.firstTokenIndex with
  | none => rfl
  | some b =>
    obtain ⟨hv, hseq, -⟩ := findBindingAtTokenOffset_some hown
    exact absurd hseq (hq b hv)

theorem LookupAgrees.matchForSequence {k : Nat} (ha : c.LookupAgrees q tokenIds) (h : c.Consistent)
    (hfind : c.findEntry (promptLabel c.blockTokenCount tokenIds i) true = some k) :
    c.matchForSequence q (promptLabel c.blockTokenCount tokenIds i) = some k := by
  unfold PrefixCache.matchForSequence
  cases hown : c.findBindingAtTokenOffset q
      (promptLabel c.blockTokenCount tokenIds i).firstTokenIndex with
  | none => exact hfind
  | some b =>
    obtain ⟨hv, hseq, ht⟩ := findBindingAtTokenOffset_some hown
    have ht : (c.binding b).firstTokenIndex = i * c.blockTokenCount := ht
    have hk := ha b (lt_bindings_length_of_valid hv) hv hseq k (by
      rw [ht, Nat.mul_div_cancel _ h.blockTokenCount_pos]
      exact hfind)
    obtain ⟨hlabel, hreusable⟩ := findEntry_some hfind
    have hvalid := (isReusable_iff.mp hreusable).1
    rw [Option.bind_some, hk, if_pos ⟨lt_entries_length_of_valid hvalid, hvalid, hlabel⟩]
    rfl

/-- Every block that a lookup counts was committed; it names the last one. -/
def ReportsCommitted (c : PrefixCache) (ops : List CacheOp) (sequenceId : Nat)
    (tokenIds : List Nat) (lookup : Lookup) : Prop :=
  ∀ i < lookup.matchedBlockCount, ∃ k,
    (c.run ops).matchForSequence sequenceId (promptLabel c.blockTokenCount tokenIds i) = some k ∧
      c.CommittedFrom ops tokenIds i ((c.run ops).entry k).physicalBlockIndex ∧
      (lookup.matchedBlockCount = i + 1 →
        lookup.physicalBlockIndex = ((c.run ops).entry k).physicalBlockIndex)

theorem reportsCommitted_of_reportsMatched {r : Lookup} (h : c.Consistent) (hh : c.Historied ops)
    (hr : (c.run ops).ReportsMatched q tokenIds r) (hmatch : ∀ i < r.matchedBlockCount, ∃ k,
      (c.run ops).findEntry (promptLabel c.blockTokenCount tokenIds i) true = some k ∧
      (c.run ops).matchForSequence q (promptLabel c.blockTokenCount tokenIds i) = some k) :
    c.ReportsCommitted ops q tokenIds r := by
  intro i hi
  obtain ⟨k, hfind, hmatch⟩ := hmatch i hi
  refine ⟨k, hmatch, committedFrom_of_findEntry h hh hfind, fun hlast => ?_⟩
  rw [← h.blockTokenCount_run ops] at hmatch
  exact hr.physicalBlockIndex i k hlast hmatch

/-- In every run, the blocks reported for a prompt were reserved for a prompt with the same
hashes and committed, and are unchanged since: by a probe of a sequence without bindings, by the
block tables and prefetch sources of the reusable prefix, and by a lookup, in the blocks it binds
and, when its sequence holds no other block at these offsets, in the block it names. Without hash
collisions the prompts agree. -/
theorem prefix_hit_sound {arenaConfig : KvArenaConfig} {config : PrefixCacheConfig}
    {arena : KvArena} (ha : KvArena.new arenaConfig = .ok arena)
    (hc : PrefixCache.new config arena = .ok c) (ops : List CacheOp) :
    (∀ q tokenIds r d,
      (∀ b, ((c.run ops).binding b).valid = true → ((c.run ops).binding b).sequenceId ≠ q) →
      probePrompt q tokenIds (c.run ops) = .ok r d → c.ReportsCommitted ops q tokenIds r) ∧
    (∀ tokenIds capacity r d, probePhysicalBlockTable tokenIds capacity (c.run ops) = .ok r d →
      ∀ i p, r.2[i]? = some p → c.CommittedFrom ops tokenIds i p) ∧
    (∀ tokenIds capacity r d,
      probeReusablePrefixPrefetchSources tokenIds capacity (c.run ops) = .ok r d →
      ∀ i v, r.2[i]? = some v → c.CommittedFrom ops tokenIds i v.physicalBlockIndex) ∧
    (∀ q tokenIds r d, lookupPrompt q tokenIds (c.run ops) = .ok r d →
      (∀ i < r.matchedBlockCount, ∃ b, (d.binding b).valid = true ∧
        (d.binding b).sequenceId = q ∧ (d.binding b).firstTokenIndex = i * c.blockTokenCount ∧
        c.CommittedFrom ops tokenIds i (d.binding b).physicalBlockIndex) ∧
      ((c.run ops).LookupAgrees q tokenIds → c.ReportsCommitted ops q tokenIds r)) ∧
    (∀ tokenIds reserved i,
      promptLabel c.blockTokenCount reserved i = promptLabel c.blockTokenCount tokenIds i →
      CollisionFree c.blockTokenCount reserved tokenIds i → ∀ j ≤ i,
      blockTokens reserved (j * c.blockTokenCount) c.blockTokenCount =
        blockTokens tokenIds (j * c.blockTokenCount) c.blockTokenCount) := by
  have h := consistent_new ha hc
  have hh := historied_run h (tables_of_new hc).1 ops
  have hb := h.blockTokenCount_run ops
  have hrun := h.run ops
  have hpos := hrun.blockTokenCount_pos
  refine ⟨fun q tokenIds r d hq hprobe => ?_, fun tokenIds capacity r d hprobe i p hp => ?_,
    fun tokenIds capacity r d hprobe i v hv => ?_, fun q tokenIds r d hlookup => ?_,
    fun tokenIds reserved i hlabel hfree => ?_⟩
  · obtain ⟨-, hr, -⟩ := wp_ok probePrompt_wp hprobe
    refine reportsCommitted_of_reportsMatched h hh hr fun i hi => ?_
    obtain ⟨k, hk⟩ := Option.isSome_iff_exists.mp (hr.found i hi)
    rw [hb] at hk
    exact ⟨k, (matchForSequence_of_unbound _ hq).symm.trans hk, hk⟩
  · obtain ⟨-, hlists, -⟩ := wp_ok (probePhysicalBlockTable_wp hpos) hprobe
    obtain ⟨k, hfind, rfl⟩ := hlists i p hp
    rw [hb] at hfind
    exact committedFrom_of_findEntry h hh hfind
  · obtain ⟨-, hlists, -⟩ := wp_ok (probeReusablePrefixPrefetchSources_wp hpos) hprobe
    obtain ⟨k, hfind, -, hvk⟩ := hlists i v hv
    rw [hb] at hfind
    rw [hvk]
    exact committedFrom_of_findEntry h hh hfind
  · obtain ⟨hr, -, hl⟩ := wp_ok (lookupPrompt_wp
      (s := CacheOp.lookupScope (c.run ops) q tokenIds) hrun id rfl trivial) hlookup
    refine ⟨fun i hi => ?_, fun hagrees =>
      reportsCommitted_of_reportsMatched h hh hr fun i hi => ?_⟩
    · obtain ⟨k, b, hfind, hv, hq, ht, hp⟩ := hl.bound hrun i hi
      rw [hb] at hfind ht
      exact ⟨b, hv, hq, ht, hp ▸ committedFrom_of_findEntry h hh hfind⟩
    · obtain ⟨k, -, hfind, -⟩ := hl.bound hrun i hi
      have hmatch := hagrees.matchForSequence hrun hfind
      rw [hb] at hfind hmatch
      exact ⟨k, hfind, hmatch⟩
  · exact fun j hj => hfree.blockTokens_eq (congrArg BlockLabel.blockHash hlabel) hj

theorem CommittedFrom.reusable {p : Nat} (h : c.CommittedFrom ops tokenIds i p) :
    ∃ k < (c.run ops).entries.length,
      ((c.run ops).entry k).physicalBlockIndex = p ∧ ((c.run ops).entry k).reusable = true := by
  obtain ⟨-, k, block, hp, -, -, -, -, hsince⟩ := h
  obtain ⟨hshared, hreusable⟩ := hsince.holds
  obtain ⟨hvalid, -, -, hblock, -⟩ := sharedBlock_eq_some.mp hshared
  exact ⟨k, lt_entries_length_of_valid hvalid, hblock.trans hp, hreusable⟩

/-- A lookup of a sequence with a pending block of its own names that block. -/
theorem lookup_names_pending_block : ∃ arena c, KvArena.new smallArenaConfig = .ok arena ∧
    PrefixCache.new smallConfig arena = .ok c ∧
    ∃ ops r d, lookupPrompt 1 [1, 2, 3] (c.run ops) = .ok r d ∧ r.matchedBlockCount = 1 ∧
      ¬c.CommittedFrom ops [1, 2, 3] 0 r.physicalBlockIndex := by
  refine ⟨_, _, rfl, rfl, [.reservePrompt 1 [1, 2, 3], .reservePrompt 2 [1, 2, 3],
    .commitReservation 2 2], ?_⟩
  generalize hs : PrefixCache.run _ _ = s
  have hlookup : (match lookupPrompt 1 [1, 2, 3] s with
      | .ok r _ => decide (r.matchedBlockCount = 1 ∧ r.physicalBlockIndex = 0)
      | .error _ _ => false) = true := by
    subst hs
    decide +kernel
  have hpending : ∀ k < s.entries.length, (s.entry k).physicalBlockIndex = 0 →
      (s.entry k).reusable = false := by
    subst hs
    decide +kernel
  cases hr : lookupPrompt 1 [1, 2, 3] s with
  | error => simp [hr] at hlookup
  | ok r d =>
    simp only [hr, decide_eq_true_eq] at hlookup
    refine ⟨r, d, rfl, hlookup.1, fun hcommitted => ?_⟩
    obtain ⟨k, hk, hp, hreusable⟩ := hcommitted.reusable
    rw [hs] at hk hp hreusable
    rw [hlookup.2] at hp
    exact absurd hreusable (by simp [hpending k hk hp])

/-- The block that a probe lists was committed. -/
theorem prefix_hit_sound_small : ∃ arena c, KvArena.new smallArenaConfig = .ok arena ∧
    PrefixCache.new smallConfig arena = .ok c ∧
    let ops := [CacheOp.reservePrompt 1 [1, 2, 3], .commitReservation 1 1]
    ∃ r d, probePhysicalBlockTable [1, 2, 4] 8 (c.run ops) = .ok r d ∧ r.2[0]? = some 0 ∧
      c.CommittedFrom ops [1, 2, 4] 0 0 := by
  refine ⟨_, _, rfl, rfl, ?_⟩
  intro ops
  generalize hs : PrefixCache.run _ _ = s
  have hlisted : (match probePhysicalBlockTable [1, 2, 4] 8 s with
      | .ok r _ => r.2[0]?
      | .error _ _ => none) = some 0 := by
    subst hs
    decide +kernel
  cases hprobe : probePhysicalBlockTable [1, 2, 4] 8 s with
  | error => simp [hprobe] at hlisted
  | ok r d =>
    have hfirst : r.2[0]? = some 0 := by simpa only [hprobe] using hlisted
    exact ⟨r, d, rfl, hfirst, (@prefix_hit_sound _ smallArenaConfig smallConfig _ rfl rfl ops).2.1
      _ _ r d (hs ▸ hprobe) 0 0 hfirst⟩

end PrefixCache

end SparkPipe
