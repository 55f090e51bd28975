import SparkPipe.Core.PrefixCache.Growing

/-!
# What the probes see

Probes, walks along the reusable prefix, lookahead protection and residency trimming leave
entries and bindings as they are. A probe reports the longest run of blocks, from the start of
the prompt, for which an entry is found.
-/

open Program

namespace SparkPipe

open List

/-- The first `count` blocks are found and, within the bound, the next one is not. -/
structure PrefixMatch (find : BlockLabel → Option Nat) (blockTokenCount : Nat)
    (tokenIds : List Nat) (bound count : Nat) : Prop where
  le_bound : count ≤ bound
  found : ∀ i < count, (find (promptLabel blockTokenCount tokenIds i)).isSome
  stops : count < bound → find (promptLabel blockTokenCount tokenIds count) = none

theorem PrefixMatch.unique {find : BlockLabel → Option Nat} {bt bound count count' : Nat}
    {tokenIds : List Nat} (h : PrefixMatch find bt tokenIds bound count)
    (h' : PrefixMatch find bt tokenIds bound count') : count = count' := by
  rcases lt_trichotomy count count' with hlt | heq | hlt
  · exact absurd (h'.found count hlt) (by simp [h.stops (hlt.trans_le h'.le_bound)])
  · exact heq
  · exact absurd (h.found count' hlt) (by simp [h'.stops (hlt.trans_le h.le_bound)])

namespace PrefixCache

variable {c c' : PrefixCache} {i n q : Nat} {tokenIds hardProtected : List Nat}
  {tokenCount limit : Nat}

/-! ### Quiet changes keep what is found -/

theorem Quiet.trans {c'' : PrefixCache} (h : c.Quiet c') (h' : c'.Quiet c'') : c.Quiet c'' where
  blockTokenCount := h'.blockTokenCount.trans h.blockTokenCount
  physicalBlockCount := h'.physicalBlockCount.trans h.physicalBlockCount
  entryCount := h'.entryCount.trans h.entryCount
  bindingCount := h'.bindingCount.trans h.bindingCount
  epoch_mono := h.epoch_mono.trans h'.epoch_mono
  entry j := (h'.entry j).trans (h.entry j)
  binding j := (h'.binding j).trans (h.binding j)
  arena := h.arena.trans h'.arena
  freeEntryHead := h'.freeEntryHead.trans h.freeEntryHead
  freeBindingHead := h'.freeBindingHead.trans h.freeBindingHead

theorem SameShape.findEntry (h : c.SameShape c')
    (hcontent : ∀ k, (c'.entry k).content = (c.entry k).content) (label : BlockLabel)
    (reusableOnly : Bool) : c'.findEntry label reusableOnly = c.findEntry label reusableOnly := by
  refine findIdx?_congr_getD {} h.entryCount fun k => ?_
  change ((c'.entry k).valid && (c'.entry k).label == label &&
    (!reusableOnly || c'.isReusable (c'.entry k))) = _
  rw [isReusable_congr h.blockTokenCount (hcontent k), Entry.eq_of_content (hcontent k) Entry.valid,
    Entry.eq_of_content (hcontent k) Entry.label]
  rfl

theorem Quiet.findEntry (h : c.Quiet c') (label : BlockLabel) (reusableOnly : Bool) :
    c'.findEntry label reusableOnly = c.findEntry label reusableOnly :=
  h.toSameShape.findEntry (h.entry_eq Entry.content) label reusableOnly

theorem Quiet.matchForSequence (h : c.Quiet c') (sequenceId : Nat) (label : BlockLabel) :
    c'.matchForSequence sequenceId label = c.matchForSequence sequenceId label := by
  unfold PrefixCache.matchForSequence
  simp only [h.findBindingAtTokenOffset, h.findEntry, h.entryCount]
  congr 2
  funext b
  rw [h.binding_eq Binding.entryIndex b, h.entry_eq Entry.valid, h.entry_eq Entry.label]

/-- A quiet change that does not advance the epoch. -/
structure Touches (c c' : PrefixCache) : Prop extends Quiet c c' where
  operationEpoch : c'.operationEpoch = c.operationEpoch

namespace Touches

theorem refl (c : PrefixCache) : c.Touches c := ⟨.refl c, rfl⟩

theorem trans {c'' : PrefixCache} (h : c.Touches c') (h' : c'.Touches c'') : c.Touches c'' :=
  ⟨h.toQuiet.trans h'.toQuiet, h'.operationEpoch.trans h.operationEpoch⟩

theorem setEntry (k : Nat) (e : Entry) (h : e.core = (c.entry k).core) :
    c.Touches (c.setEntry k e) := ⟨.setEntry k e h c.tick, rfl⟩

theorem touchEntry (k : Nat) : c.Touches (c.touchEntry k) := ⟨.touchEntry k, rfl⟩

end Touches

/-! ### Probing for a sequence -/

/-- The blocks of the prompt that a probe may match. -/
def reusableBlockCount (c : PrefixCache) (tokenIds : List Nat) : Nat :=
  c.maximumReusableTokenCount (tokenCountOf tokenIds) / c.blockTokenCount

theorem SameShape.reusableBlockCount (h : c.SameShape c') (tokenIds : List Nat) :
    c'.reusableBlockCount tokenIds = c.reusableBlockCount tokenIds := by
  unfold PrefixCache.reusableBlockCount maximumReusableTokenCount
  rw [h.blockTokenCount]

/-- So many blocks of the prompt are found, of those that may be reused. -/
abbrev MatchesPrompt (c : PrefixCache) (find : BlockLabel → Option Nat) (tokenIds : List Nat)
    (count : Nat) : Prop :=
  PrefixMatch find c.blockTokenCount tokenIds (c.reusableBlockCount tokenIds) count

/-- The lookup counts matched blocks and names the last one. -/
structure ReportsMatched (c : PrefixCache) (sequenceId : Nat) (tokenIds : List Nat)
    (lookup : Lookup) : Prop where
  found : ∀ i < lookup.matchedBlockCount,
    (c.matchForSequence sequenceId (promptLabel c.blockTokenCount tokenIds i)).isSome
  matchedTokenCount : lookup.matchedTokenCount = lookup.matchedBlockCount * c.blockTokenCount
  physicalBlockIndex : ∀ i k, lookup.matchedBlockCount = i + 1 →
    c.matchForSequence sequenceId (promptLabel c.blockTokenCount tokenIds i) = some k →
    lookup.physicalBlockIndex = (c.entry k).physicalBlockIndex

theorem probeBlocks_wp : ∀ (blocks : Nat) (lookup : Lookup) {d : PrefixCache}, c.Touches d →
      c.ReportsMatched q tokenIds lookup →
      wp (probeBlocks q tokenIds blocks
          (chainHash c.blockTokenCount tokenIds lookup.matchedBlockCount)
          (lookup.matchedBlockCount * c.blockTokenCount) lookup)
        (fun r d' => c.Touches d' ∧ c.ReportsMatched q tokenIds r ∧
          PrefixMatch (c.matchForSequence q) c.blockTokenCount tokenIds
            (lookup.matchedBlockCount + blocks) r.matchedBlockCount)
        (fun _ _ => False) d
  | 0, lookup, d, hd, hr => ⟨hd, hr, le_rfl, hr.found, fun h => absurd h (lt_irrefl _)⟩
  | blocks + 1, lookup, d, hd, hr => by
      unfold probeBlocks
      rw [wp_read]
      dsimp only
      rw [hd.toQuiet.matchForSequence, hd.blockTokenCount, labelAt_chainHash]
      cases hfind : c.matchForSequence q
          (promptLabel c.blockTokenCount tokenIds lookup.matchedBlockCount) with
      | none => exact ⟨hd, hr, Nat.le_add_right _ _, hr.found, fun _ => hfind⟩
      | some k =>
        rw [wp_bind, wp_set]
        have hr' : c.ReportsMatched q tokenIds
            { lookup with
              matchedTokenCount := lookup.matchedTokenCount + c.blockTokenCount
              matchedBlockCount := lookup.matchedBlockCount + 1
              physicalBlockIndex := (d.entry k).physicalBlockIndex
              lastBlockHash := (promptLabel c.blockTokenCount tokenIds
                lookup.matchedBlockCount).blockHash } := by
          refine ⟨fun i hi => ?_, ?_, fun i k' hi hk' => ?_⟩
          · exact Nat.forall_lt_succ_right.mpr
              ⟨hr.found, Option.isSome_iff_exists.mpr ⟨k, hfind⟩⟩ i hi
          · rw [hr.matchedTokenCount, Nat.succ_mul]
          · cases hi
            rw [hfind] at hk'
            cases hk'
            exact hd.toQuiet.entry_eq Entry.physicalBlockIndex k
        have ih := probeBlocks_wp blocks _ (hd.trans (Touches.touchEntry k)) hr'
        simp only [Nat.succ_mul] at ih
        refine wp_post ih fun r d' h => ?_
        rw [Nat.add_right_comm] at h
        exact h

theorem probePrompt_wp : wp (probePrompt q tokenIds)
      (fun r c' => c.Touches c' ∧ c.ReportsMatched q tokenIds r ∧
        c.MatchesPrompt (c.matchForSequence q) tokenIds r.matchedBlockCount)
      (fun _ c' => c' = c ∧ (tokenIds = [] ∨ q = 0)) c := by
  unfold probePrompt
  rw [wp_ite]
  refine ⟨fun hargs => ⟨rfl, hargs.imp_left isEmpty_iff.mp⟩, fun _ => ?_⟩
  rw [wp_read, wp_bind]
  have hstart : c.ReportsMatched q tokenIds
      { requestedTokenCount := tokenCountOf tokenIds, sequenceId := q } :=
    ⟨fun _ hi => absurd hi (Nat.not_lt_zero _), (Nat.zero_mul _).symm, nofun⟩
  have hloop := probeBlocks_wp (c.reusableBlockCount tokenIds) _ (.refl c) hstart
  simp only [Nat.zero_mul, Nat.zero_add] at hloop
  refine wp_total hloop fun r d hd => ?_
  exact ⟨hd.1, ⟨hd.2.1.found, hd.2.1.matchedTokenCount, hd.2.1.physicalBlockIndex⟩, hd.2.2⟩

/-! ### Lookup -/

/-- Where a block is found for reuse, the sequence holds that block or none. -/
def LookupAgrees (c : PrefixCache) (sequenceId : Nat) (tokenIds : List Nat) : Prop :=
  ∀ b < c.bindings.length, (c.binding b).valid → (c.binding b).sequenceId = sequenceId →
    ∀ k ∈ c.findEntry (promptLabel c.blockTokenCount tokenIds
      ((c.binding b).firstTokenIndex / c.blockTokenCount)) true, (c.binding b).entryIndex = k

instance (c : PrefixCache) (sequenceId : Nat) (tokenIds : List Nat) :
    Decidable (c.LookupAgrees sequenceId tokenIds) :=
  inferInstanceAs (Decidable (∀ b < c.bindings.length, _ → _ → _))

theorem Binds.findEntry {k epoch : Nat} (h : c.Binds k q epoch c') (label : BlockLabel)
    (reusableOnly : Bool) :
    c'.findEntry label reusableOnly = c.findEntry label reusableOnly :=
  h.toSameShape.findEntry (h.entry_eq Entry.content) label reusableOnly

/-! ### What a lookup binds -/

/-- Block `i` of a prompt may be shared, and the sequence is not bound to it yet. -/
def bindsAt (c : PrefixCache) (q : Nat) (tokenIds : List Nat) (i : Nat) : Bool :=
  (c.findEntry (promptLabel c.blockTokenCount tokenIds i) true).any fun k =>
    (c.findBinding q k).isNone

/-- How many of the first `count` blocks of a prompt a lookup has to bind. -/
def bindsBefore (c : PrefixCache) (q : Nat) (tokenIds : List Nat) (count : Nat) : Nat :=
  (List.range count).countP (c.bindsAt q tokenIds)

/-- The binding that is taken from the free list after `n` others. -/
def freeSlot (c : PrefixCache) (n : Nat) : Nat :=
  (fun b => (c.binding b).reserved)^[n] c.freeBindingHead

theorem bindsBefore_succ (count : Nat) : c.bindsBefore q tokenIds (count + 1) =
    c.bindsBefore q tokenIds count + if c.bindsAt q tokenIds count then 1 else 0 := by
  rw [bindsBefore, range_succ, countP_append, countP_singleton]
  rfl

theorem bindsBefore_mono {m n : Nat} (h : m ≤ n) :
    c.bindsBefore q tokenIds m ≤ c.bindsBefore q tokenIds n :=
  (range_sublist.mpr h).countP_le

theorem bindsAt_eq_isNone {k : Nat}
    (hfind : c.findEntry (promptLabel c.blockTokenCount tokenIds i) true = some k) :
    c.bindsAt q tokenIds i = (c.findBinding q k).isNone := by
  rw [bindsAt, hfind, Option.any_some]

/-- Binding `b` was made for block `i`, out of the free binding whose turn it was. -/
structure BoundFor (c : PrefixCache) (q : Nat) (tokenIds : List Nat) (i b : Nat)
    (d : PrefixCache) : Prop where
  binds : c.bindsAt q tokenIds i
  slot : b = c.freeSlot (c.bindsBefore q tokenIds i)
  free : (c.binding b).valid = false
  valid : (d.binding b).valid
  sequenceId : (d.binding b).sequenceId = q
  found : c.findEntry (promptLabel c.blockTokenCount tokenIds i) true =
    some (d.binding b).entryIndex

theorem BoundFor.congr {b : Nat} {d d' : PrefixCache} (h : c.BoundFor q tokenIds i b d)
    (hcore : (d'.binding b).core = (d.binding b).core) : c.BoundFor q tokenIds i b d' where
  binds := h.binds
  slot := h.slot
  free := h.free
  valid := (congrArg Binding.valid hcore).trans h.valid
  sequenceId := (congrArg Binding.sequenceId hcore).trans h.sequenceId
  found := h.found.trans (congrArg (fun b => some b.entryIndex) hcore.symm)

/-- A lookup has bound the first `count` blocks, each to an entry that was there. -/
structure LookedUp (s : Scope) (c : PrefixCache) (tokenIds : List Nat) (count : Nat)
    (d : PrefixCache) : Prop where
  reaches : s.Reaches c d
  epoch_le : s.epoch ≤ d.operationEpoch
  findEntry : ∀ label, d.findEntry label true = c.findEntry label true
  block : ∀ k, (d.entry k).physicalBlockIndex = (c.entry k).physicalBlockIndex
  found : ∀ i < count, (c.findEntry (promptLabel c.blockTokenCount tokenIds i) true).isSome
  binding : ∀ b, (d.binding b).core = (c.binding b).core ∨
    ∃ i < count, c.BoundFor s.sequenceId tokenIds i b d
  boundFor : ∀ i < count, c.bindsAt s.sequenceId tokenIds i →
    c.BoundFor s.sequenceId tokenIds i (c.freeSlot (c.bindsBefore s.sequenceId tokenIds i)) d
  freeBindingHead : d.freeBindingHead = c.freeSlot (c.bindsBefore s.sequenceId tokenIds count)
  freeBindingCount : c.freeBindingCount =
    d.freeBindingCount + c.bindsBefore s.sequenceId tokenIds count

namespace LookedUp

variable {s : Scope} {tokenIds : List Nat} {count k b : Nat} {d d' : PrefixCache}

theorem start (h : c.Consistent) (hq : c.Quiet d) (hepoch : s.epoch ≤ d.operationEpoch) :
    LookedUp s c tokenIds 0 d where
  reaches := .quiet hq
  epoch_le := hepoch
  findEntry label := hq.findEntry label true
  block := hq.entry_eq Entry.physicalBlockIndex
  found _ hi := absurd hi (Nat.not_lt_zero _)
  binding b := .inl (hq.binding b)
  boundFor _ hi := absurd hi (Nat.not_lt_zero _)
  freeBindingHead := hq.freeBindingHead
  freeBindingCount := (hq.spends h).freeBindingCount

section

variable (hl : LookedUp s c tokenIds count d)
include hl

theorem kept (hv : (c.binding b).valid) : (d.binding b).core = (c.binding b).core :=
  (hl.binding b).resolve_right fun ⟨_, _, hnew⟩ => absurd hv (by simp [hnew.free])

theorem core_of_free (hv : (d.binding b).valid = false) :
    (d.binding b).core = (c.binding b).core :=
  (hl.binding b).resolve_right fun ⟨_, _, hnew⟩ => absurd hnew.valid (by simp [hv])

theorem firstTokenIndex (h : c.Consistent) (hnew : c.BoundFor s.sequenceId tokenIds i b d) :
    (d.binding b).firstTokenIndex = i * c.blockTokenCount :=
  ((hl.reaches.consistent h).binding_mirrors b hnew.valid).firstTokenIndex.trans
    (congrArg BlockLabel.firstTokenIndex (findEntry_some ((hl.findEntry _).trans hnew.found)).1)

theorem findBinding_isNone (h : c.Consistent)
    (hfind : c.findEntry (promptLabel c.blockTokenCount tokenIds count) true = some k) :
    (d.findBinding s.sequenceId k).isNone = c.bindsAt s.sequenceId tokenIds count := by
  rw [bindsAt_eq_isNone hfind, Bool.eq_iff_iff, Option.isNone_iff_eq_none,
    Option.isNone_iff_eq_none, Option.eq_none_iff_forall_ne_some,
    Option.eq_none_iff_forall_ne_some]
  refine ⟨fun hnone b hb => ?_, fun hnone b hb => ?_⟩
  · obtain ⟨hv, hq, hk⟩ := findBinding_some hb
    have hcore := hl.kept hv
    exact findBinding_none (Option.eq_none_iff_forall_ne_some.mpr hnone)
      ((congrArg Binding.valid hcore).trans hv) ((congrArg Binding.sequenceId hcore).trans hq)
      ((congrArg Binding.entryIndex hcore).trans hk)
  · obtain ⟨hv, hq, hk⟩ := findBinding_some hb
    rcases hl.binding b with hcore | ⟨i, hi, hnew⟩
    · exact findBinding_none (Option.eq_none_iff_forall_ne_some.mpr hnone)
        ((congrArg Binding.valid hcore).symm.trans hv)
        ((congrArg Binding.sequenceId hcore).symm.trans hq)
        ((congrArg Binding.entryIndex hcore).symm.trans hk)
    · -- the entry of an earlier block has another offset
      have hlabel := (findEntry_some (hk ▸ hnew.found)).1.symm.trans (findEntry_some hfind).1
      have hoffset : i * c.blockTokenCount = count * c.blockTokenCount :=
        congrArg BlockLabel.firstTokenIndex hlabel
      exact hi.ne (Nat.eq_of_mul_eq_mul_right h.blockTokenCount_pos hoffset)

theorem quiet (hq : d.Quiet d') (h : d.Consistent)
    (hfind : c.findEntry (promptLabel c.blockTokenCount tokenIds count) true = some k)
    (hbound : c.bindsAt s.sequenceId tokenIds count = false) :
    LookedUp s c tokenIds (count + 1) d' where
  reaches := hl.reaches.trans (.quiet hq)
  epoch_le := hl.epoch_le.trans hq.epoch_mono
  findEntry label := (hq.findEntry label true).trans (hl.findEntry label)
  block k := (hq.entry_eq Entry.physicalBlockIndex k).trans (hl.block k)
  found := Nat.forall_lt_succ_right.mpr ⟨hl.found, by rw [hfind]; rfl⟩
  binding b := by
    rw [hq.binding b]
    exact (hl.binding b).imp_right fun ⟨i, hi, hnew⟩ =>
      ⟨i, Nat.lt_succ_of_lt hi, hnew.congr (hq.binding b)⟩
  boundFor := Nat.forall_lt_succ_right.mpr
    ⟨fun i hi hb => (hl.boundFor i hi hb).congr (hq.binding _),
      fun hb => absurd hb (by simp [hbound])⟩
  freeBindingHead := by
    rw [hq.freeBindingHead, hl.freeBindingHead, bindsBefore_succ, hbound]
    rfl
  freeBindingCount := by
    rw [hl.freeBindingCount, (hq.spends h).freeBindingCount, bindsBefore_succ, hbound]
    rfl

theorem binds (hb : d.Binds k s.sequenceId s.epoch d') (hreach : s.Reaches c d')
    (hfind : c.findEntry (promptLabel c.blockTokenCount tokenIds count) true = some k)
    (hnew : c.bindsAt s.sequenceId tokenIds count) :
    LookedUp s c tokenIds (count + 1) d' := by
  have hcore := hl.core_of_free hb.free
  have hself : c.BoundFor s.sequenceId tokenIds count d.freeBindingHead d' := by
    obtain ⟨pending, hself⟩ := hb.binding_self
    exact ⟨hnew, hl.freeBindingHead, (congrArg Binding.valid hcore).symm.trans hb.free,
      by rw [hself]; rfl, by rw [hself]; rfl, by rw [hself]; exact hfind⟩
  have hold {i b : Nat} (h : c.BoundFor s.sequenceId tokenIds i b d) :
      c.BoundFor s.sequenceId tokenIds i b d' :=
    h.congr (by rw [hb.binding_of_valid h.valid])
  refine ⟨hreach, hl.epoch_le.trans hb.epoch_mono,
    fun label => (hb.findEntry label true).trans (hl.findEntry label),
    fun k => (hb.entry_eq Entry.physicalBlockIndex k).trans (hl.block k),
    Nat.forall_lt_succ_right.mpr ⟨hl.found, by rw [hfind]; rfl⟩, fun b => ?_,
    Nat.forall_lt_succ_right.mpr ⟨fun i hi hbi => hold (hl.boundFor i hi hbi),
      fun _ => hl.freeBindingHead ▸ hself⟩, ?_, ?_⟩
  · by_cases hbh : b = d.freeBindingHead
    · exact .inr ⟨count, Nat.lt_succ_self count, hbh ▸ hself⟩
    · rw [hb.binding_of_ne b hbh]
      exact (hl.binding b).imp_right fun ⟨i, hi, hnew⟩ => ⟨i, Nat.lt_succ_of_lt hi, hold hnew⟩
  · rw [hb.freeBindingHead, bindsBefore_succ, if_pos hnew, freeSlot, Function.iterate_succ_apply',
      ← freeSlot, ← hl.freeBindingHead]
    exact Binding.eq_of_core hcore Binding.reserved
  · rw [hl.freeBindingCount, hb.freeBindingCount, bindsBefore_succ, if_pos hnew]
    omega

theorem bound (h : c.Consistent) (i : Nat) (hi : i < count) : ∃ k b,
    c.findEntry (promptLabel c.blockTokenCount tokenIds i) true = some k ∧
    (d.binding b).valid ∧ (d.binding b).sequenceId = s.sequenceId ∧
    (d.binding b).firstTokenIndex = i * c.blockTokenCount ∧
    (d.binding b).physicalBlockIndex = (c.entry k).physicalBlockIndex := by
  obtain ⟨k, hfind⟩ := Option.isSome_iff_exists.mp (hl.found i hi)
  have hmirrors {b : Nat} (hv : (d.binding b).valid = true) :=
    (hl.reaches.consistent h).binding_mirrors b hv
  cases hnew : c.bindsAt s.sequenceId tokenIds i with
  | true =>
    have hb := hl.boundFor i hi hnew
    obtain rfl := Option.some.inj (hfind.symm.trans hb.found)
    exact ⟨_, _, hfind, hb.valid, hb.sequenceId, hl.firstTokenIndex h hb,
      (hmirrors hb.valid).physicalBlockIndex.trans (hl.block _)⟩
  | false =>
    rw [bindsAt_eq_isNone hfind, Option.isNone_eq_false_iff, Option.isSome_iff_exists] at hnew
    obtain ⟨b, hb⟩ := hnew
    obtain ⟨hv, hq, rfl⟩ := findBinding_some hb
    have hcore := hl.kept hv
    have hm := h.binding_mirrors b hv
    exact ⟨_, b, hfind, (congrArg Binding.valid hcore).trans hv,
      (congrArg Binding.sequenceId hcore).trans hq,
      (congrArg Binding.firstTokenIndex hcore).trans (hm.firstTokenIndex.trans
        (congrArg BlockLabel.firstTokenIndex (findEntry_some hfind).1)),
      (congrArg Binding.physicalBlockIndex hcore).trans hm.physicalBlockIndex⟩

end

end LookedUp

section Lookup

variable {s : Scope} {tokenIds : List Nat}

variable (h : c.Consistent) (hfresh : s.fresh → c.LookupAgrees s.sequenceId tokenIds)
include h hfresh

theorem LookedUp.chosen {count k : Nat} {d : PrefixCache} (hl : LookedUp s c tokenIds count d)
    (hfind : c.findEntry (promptLabel c.blockTokenCount tokenIds count) true = some k) :
    Chosen s d k := by
  obtain ⟨hlabel, hreusable⟩ := findEntry_some ((hl.findEntry _).trans hfind)
  obtain ⟨hvalid, -, hpending, -⟩ := isReusable_iff.mp hreusable
  have hoffset : (d.entry k).firstTokenIndex = count * c.blockTokenCount :=
    congrArg BlockLabel.firstTokenIndex hlabel
  refine ⟨hvalid, fun hnone => ⟨rfl, rfl, fun hp => ?_, fun hf b hb hseq hat => ?_⟩⟩
  · simp [hpending] at hp
  rcases hl.binding b with hcore | ⟨i, hi, hnew⟩
  · -- a binding from before the lookup holds the block that was found
    have hvalid' := (congrArg Binding.valid hcore).symm.trans hb
    have hat' : (c.binding b).firstTokenIndex = count * c.blockTokenCount :=
      (congrArg Binding.firstTokenIndex hcore).symm.trans (hat.trans hoffset)
    refine findBinding_none hnone hb hseq ((congrArg Binding.entryIndex hcore).trans
      (hfresh hf b (lt_bindings_length_of_valid hvalid') hvalid'
        ((congrArg Binding.sequenceId hcore).symm.trans hseq) k ?_))
    rw [hat', Nat.mul_div_cancel _ h.blockTokenCount_pos]
    exact hfind
  · have heq := (hl.firstTokenIndex h hnew).symm.trans (hat.trans hoffset)
    exact hi.ne (Nat.eq_of_mul_eq_mul_right h.blockTokenCount_pos heq)

/-- A lookup fails at block `i`: it may not be shared, or no binding is left. -/
structure LookupStops (c : PrefixCache) (q : Nat) (tokenIds : List Nat) (i : Nat)
    (e : PrefixCacheError) : Prop where
  found : ∀ j < i, (c.findEntry (promptLabel c.blockTokenCount tokenIds j) true).isSome
  reached : c.bindsBefore q tokenIds i ≤ c.freeBindingCount
  cause : (e = .internalError ∧
      c.findEntry (promptLabel c.blockTokenCount tokenIds i) true = none) ∨
    (e = .capacityExceeded ∧ c.bindsAt q tokenIds i ∧
      c.bindsBefore q tokenIds i = c.freeBindingCount)

theorem lookupBlocks_wp :
    ∀ (blocks count : Nat) {d : PrefixCache}, LookedUp s c tokenIds count d →
      wp (lookupBlocks s.sequenceId tokenIds s.epoch blocks
          (chainHash c.blockTokenCount tokenIds count) (count * c.blockTokenCount))
        (fun _ d' => LookedUp s c tokenIds (count + blocks) d')
        (fun e d' => s.Reaches c d' ∧
          ∃ i < count + blocks, c.LookupStops s.sequenceId tokenIds i e) d
  | 0, _, _, hl => hl
  | blocks + 1, count, d, hl => by
      have hshape := hl.reaches.shape
      have hd := hl.reaches.consistent h
      have hcount := hl.freeBindingCount
      unfold lookupBlocks
      simp only [wp_bind, wp_get, wp_orFail, hl.findEntry, hshape.blockTokenCount,
        labelAt_chainHash, blockHash_promptLabel]
      refine ⟨fun k hfind => ?_, fun hnone => ⟨hl.reaches, count, by omega, hl.found,
        by omega, .inl ⟨rfl, hnone⟩⟩⟩
      have hchosen := LookedUp.chosen h hfresh hl hfind
      have hisNone := hl.findBinding_isNone h hfind
      refine wp_mono (acquireEntryForSequence_wp hchosen.valid hl.epoch_le) (fun _ d' hd' => ?_)
        (fun _ d' hd' => ⟨by rw [hd'.1]; exact hl.reaches, count, by omega, hl.found, by omega, ?_⟩)
      · have hl' : LookedUp s c tokenIds (count + 1) d' := by
          rcases hd' with ⟨hq, hsome⟩ | ⟨hb, hnone⟩
          · refine hl.quiet hq hd hfind (hisNone.symm.trans ?_)
            rwa [Option.isNone_eq_false_iff]
          · refine hl.binds hb (hl.reaches.trans (.step (.bind hb) (hchosen.bindable hnone)))
              hfind (hisNone.symm.trans ?_)
            rw [hnone, Option.isNone_none]
        have ih := lookupBlocks_wp blocks (count + 1) hl'
        rwa [Nat.succ_mul, Nat.add_right_comm, Nat.add_assoc] at ih
      · obtain ⟨he, hnone, hfree⟩ := hd'.2 hd
        have hempty := hd.freeBindingCount_of_findFreeBinding hfree
        refine .inr ⟨he, hisNone.symm.trans (by rw [hnone, Option.isNone_none]), by omega⟩

theorem lookupPrompt_wp (hepoch : s.epoch = c.operationEpoch + 1) (hrollsBack : s.rollsBack) :
    wp (lookupPrompt s.sequenceId tokenIds) (fun r c' => c.ReportsMatched s.sequenceId tokenIds r ∧
        c.MatchesPrompt (c.matchForSequence s.sequenceId) tokenIds r.matchedBlockCount ∧
        LookedUp s.forward c tokenIds r.matchedBlockCount c')
      (fun e c' => s.Withdraws c c' ∧ (s.sequenceId ≠ 0 → tokenIds ≠ [] →
        ∃ n, c.MatchesPrompt (c.matchForSequence s.sequenceId) tokenIds n ∧
          ∃ i < n, c.LookupStops s.sequenceId tokenIds i e)) c := by
  unfold lookupPrompt
  rw [wp_bind]
  refine wp_mono probePrompt_wp (fun r d hd => ?_) (fun _ _ hd =>
    ⟨by rw [hd.1]; exact h.withdraws hepoch, fun hq htokens => (hd.2.elim htokens hq).elim⟩)
  obtain ⟨ht, hr, hmatch⟩ := hd
  rw [wp_bind, nextOperationEpoch_wp, wp_bind, ht.operationEpoch, ← hepoch]
  have hnext : c.Quiet { d with operationEpoch := s.epoch } :=
    ht.toQuiet.trans (by rw [hepoch, ← ht.operationEpoch]; exact .nextEpoch)
  have hloop := lookupBlocks_wp (s := s.forward) h hfresh r.matchedBlockCount 0
    (.start h hnext le_rfl)
  rw [Nat.zero_mul, Nat.zero_add] at hloop
  refine wp_mono (wp_onError_rollback h hrollsBack (fun _ _ hd' => hd'.1) hloop)
    (fun _ d' hl => ⟨hr, hmatch, hl⟩) (fun _ d' hd' => ⟨hd'.1, fun _ _ => ?_⟩)
  obtain ⟨-, -, -, hstops⟩ := hd'
  exact ⟨_, hmatch, hstops⟩

end Lookup

/-! ### Walking the reusable prefix -/

theorem dvd_maximumReusableTokenCount (n : Nat) :
    c.blockTokenCount ∣ c.maximumReusableTokenCount n := by
  unfold maximumReusableTokenCount
  split_ifs
  · exact ⟨0, (Nat.mul_zero _).symm⟩
  · exact Nat.dvd_sub_mod _

theorem lt_reusableBlockCount_iff (hpos : 0 < c.blockTokenCount) :
    i < c.reusableBlockCount tokenIds ↔
      i * c.blockTokenCount < c.maximumReusableTokenCount (tokenCountOf tokenIds) :=
  Nat.lt_div_iff_mul_lt_of_dvd hpos.ne' (dvd_maximumReusableTokenCount _)

section Walk

variable {α : Type} {tokenIds : List Nat} {walk : ChainWalk} {count : Nat} {d : PrefixCache}
  {visit : α → Nat → CacheM α} {capacity : Nat}

/-- The walk has passed `count` blocks. -/
def ChainWalk.Passed (walk : ChainWalk) (c : PrefixCache) (tokenIds : List Nat) : Nat → Prop
  | 0 => walk.matchedBlockCount = 0 ∧ walk.tokenOffset = 0
  | j + 1 => walk.matchedBlockCount = j + 1 ∧ walk.tokenOffset = j * c.blockTokenCount ∧
      walk.blockHash = chainHash c.blockTokenCount tokenIds (j + 1) ∧
      walk.reusableTokenCount = c.maximumReusableTokenCount (tokenCountOf tokenIds)

theorem walkAdvance_spec (hw : walk.Passed c tokenIds count) (hd : c.Touches d) :
    c.Touches (walkAdvance tokenIds walk d).2 ∧
      (walkAdvance tokenIds walk d).1.matchedBlockCount = count ∧
      (walkAdvance tokenIds walk d).1.parentHash = chainHash c.blockTokenCount tokenIds count ∧
      (walkAdvance tokenIds walk d).1.tokenOffset = count * c.blockTokenCount ∧
      (walkAdvance tokenIds walk d).1.reusableTokenCount =
        c.maximumReusableTokenCount (tokenCountOf tokenIds) := by
  have hmax : d.maximumReusableTokenCount (tokenCountOf tokenIds) =
      c.maximumReusableTokenCount (tokenCountOf tokenIds) := by
    unfold maximumReusableTokenCount
    rw [hd.blockTokenCount]
  unfold walkAdvance
  cases count with
  | zero =>
    obtain ⟨hmatched, hoffset⟩ := hw
    rw [if_pos ⟨hmatched, hoffset⟩]
    exact ⟨hd, hmatched, rfl, hoffset.trans (Nat.zero_mul _).symm, hmax⟩
  | succ j =>
    obtain ⟨hmatched, hoffset, hhash, hreusable⟩ := hw
    rw [if_neg fun h => Nat.succ_ne_zero j (hmatched.symm.trans h.1)]
    refine ⟨hd.trans ⟨⟨⟨rfl, rfl, rfl, rfl, le_rfl⟩, fun _ => rfl, fun _ => rfl,
      .refl _, rfl, rfl⟩, rfl⟩, hmatched, hhash, ?_, hreusable⟩
    rw [Nat.succ_mul, ← hoffset, ← hd.blockTokenCount]

theorem walkNext_spec (hpos : 0 < c.blockTokenCount) (hw : walk.Passed c tokenIds count)
    (hd : c.Touches d) {r : Option Nat} {walk' : ChainWalk} {d' : PrefixCache}
    (hnext : walkNext tokenIds walk d = (r, walk', d')) :
    c.Touches d' ∧ ((r = none ∧ (count < c.reusableBlockCount tokenIds →
          c.findEntry (promptLabel c.blockTokenCount tokenIds count) true = none)) ∨
        ∃ k, r = some k ∧ count < c.reusableBlockCount tokenIds ∧
          c.findEntry (promptLabel c.blockTokenCount tokenIds count) true = some k ∧
          walk'.Passed c tokenIds (count + 1)) := by
  obtain ⟨hd₁, hmatched, hparent, hoffset, hreusable⟩ := walkAdvance_spec hw hd
  rw [lt_reusableBlockCount_iff hpos]
  unfold walkNext at hnext
  generalize walkAdvance tokenIds walk d = advanced at hnext hd₁ hmatched hparent hoffset hreusable
  obtain ⟨walk₁, d₁⟩ := advanced
  dsimp only at hnext hmatched hparent hoffset hreusable
  rw [hparent, hoffset, hreusable, hd₁.blockTokenCount, hd₁.toQuiet.findEntry,
    labelAt_chainHash] at hnext
  split_ifs at hnext with hend
  · cases hnext
    exact ⟨hd₁, .inl ⟨rfl, fun hlt => absurd hlt (not_lt.mpr hend)⟩⟩
  cases hfind : c.findEntry (promptLabel c.blockTokenCount tokenIds count) true with
  | none =>
    rw [hfind] at hnext
    cases hnext
    exact ⟨hd₁, .inl ⟨rfl, fun _ => rfl⟩⟩
  | some k =>
    rw [hfind] at hnext
    cases hnext
    refine ⟨hd₁.trans (.setEntry k { d₁.entry k with lastUsedTick := d₁.tick + 1 } rfl),
      .inr ⟨k, rfl, not_le.mp hend, rfl, ?_⟩⟩
    exact ⟨congrArg (· + 1) hmatched, rfl, rfl, rfl⟩

/-- The blocks of a prompt up to position `i` may all be reused. -/
def FoundTo (c : PrefixCache) (tokenIds : List Nat) (i : Nat) : Prop :=
  i < c.reusableBlockCount tokenIds ∧
    ∀ j < i + 1, (c.findEntry (promptLabel c.blockTokenCount tokenIds j) true).isSome

theorem walkPrefix_wp (I : Nat → α → Prop) (E : Nat → Prop) (hpos : 0 < c.blockTokenCount)
    (hvisit : ∀ count acc k d, c.Touches d → I count acc →
      c.findEntry (promptLabel c.blockTokenCount tokenIds count) true = some k →
      wp (visit acc k) (fun acc' d' => d' = d ∧ I (count + 1) acc')
        (fun _ d' => d' = d ∧ E count) d) :
    ∀ (rounds count : Nat) {walk : ChainWalk} {acc : α} {d : PrefixCache},
      rounds + count = c.reusableBlockCount tokenIds + 1 →
      count ≤ c.reusableBlockCount tokenIds →
      (∀ i < count, (c.findEntry (promptLabel c.blockTokenCount tokenIds i) true).isSome) →
      walk.Passed c tokenIds count → c.Touches d → I count acc →
      wp (walkPrefix tokenIds visit rounds walk acc)
        (fun acc' d' => c.Touches d' ∧ ∃ count, I count acc' ∧
          c.MatchesPrompt (c.findEntry · true) tokenIds count)
        (fun _ d' => c.Touches d' ∧ ∃ i, c.FoundTo tokenIds i ∧ E i) d
  | 0, count, _, _, _, hrounds, hle, _, _, _, _ => by omega
  | rounds + 1, count, walk, acc, d, hrounds, hle, hfound, hw, hd, hI => by
      unfold walkPrefix
      rw [wp_read]
      rcases hnext : walkNext tokenIds walk d with ⟨r, walk', d'⟩
      obtain ⟨hd', hr⟩ := walkNext_spec hpos hw hd hnext
      rcases hr with ⟨rfl, hstops⟩ | ⟨k, rfl, hlt, hfind, hw'⟩
      · exact ⟨hd', count, hI, hle, hfound, hstops⟩
      · have hfound' := Nat.forall_lt_succ_right.mpr
          ⟨hfound, Option.isSome_iff_exists.mpr ⟨k, hfind⟩⟩
        rw [wp_bind, wp_set, wp_bind]
        refine wp_mono (hvisit count acc k d' hd' hI hfind) (fun acc' d'' hd'' => ?_)
          (fun _ _ hd'' => ⟨hd''.1 ▸ hd', count, ⟨hlt, hfound'⟩, hd''.2⟩)
        obtain ⟨rfl, hI'⟩ := hd''
        exact walkPrefix_wp I E hpos hvisit rounds (count + 1) (by omega) hlt hfound' hw' hd' hI'

theorem walkReusablePrefix_wp {acc : α} (I : α → Prop)
    (E : Nat → Prop) (size : α → Nat) (hpos : 0 < c.blockTokenCount) (hsize : size acc = 0)
    (hI : I acc)
    (hvisit : ∀ acc k d, c.Touches d → I acc →
      c.findEntry (promptLabel c.blockTokenCount tokenIds (size acc)) true = some k →
      wp (visit acc k) (fun acc' d' => d' = d ∧ size acc' = size acc + 1 ∧ I acc')
        (fun _ d' => d' = d ∧ E (size acc)) d) :
    wp (if tokenIds.isEmpty then throw .invalidArgument else do
        let acc ← walkReusablePrefix tokenIds visit acc
        pure (size acc * (← get).blockTokenCount, acc) : CacheM (Nat × α))
      (fun r c' => c.Touches c' ∧ I r.2 ∧ c.MatchesPrompt (c.findEntry · true) tokenIds (size r.2) ∧
        r.1 = size r.2 * c.blockTokenCount)
      (fun _ c' => c.Touches c' ∧ (tokenIds ≠ [] → ∃ i, c.FoundTo tokenIds i ∧ E i)) c := by
  rw [wp_ite]
  refine ⟨fun hempty => ⟨.refl c, fun hne => absurd (isEmpty_iff.mp hempty) hne⟩, fun _ => ?_⟩
  rw [wp_bind]
  unfold walkReusablePrefix
  rw [wp_read]
  refine wp_mono (walkPrefix_wp (fun count acc => size acc = count ∧ I acc) E hpos ?_ _ 0 rfl
    (Nat.zero_le _) (fun _ hi => absurd hi (Nat.not_lt_zero _)) ⟨rfl, rfl⟩ (.refl c) ⟨hsize, hI⟩)
    (fun acc d hd => ?_) (fun _ _ hd => ⟨hd.1, fun _ => hd.2⟩)
  · rintro _ acc k d hd ⟨rfl, hI⟩ hfind
    exact hvisit acc k d hd hI hfind
  · obtain ⟨ht, _, ⟨rfl, hI⟩, hmatch⟩ := hd
    exact ⟨ht, hI, hmatch, congrArg (_ * ·) ht.blockTokenCount⟩

/-- The list describes the reusable blocks of a prompt in order, each by `describes`. -/
def ListsReusable {β : Type} (c : PrefixCache) (tokenIds : List Nat) (describes : Nat → β → Prop)
    (l : List β) : Prop :=
  ∀ i v, l[i]? = some v →
    ∃ k, c.findEntry (promptLabel c.blockTokenCount tokenIds i) true = some k ∧ describes k v

theorem ListsReusable.snoc {β : Type} {describes : Nat → β → Prop} {l : List β} {v : β} {k : Nat}
    (hl : c.ListsReusable tokenIds describes l)
    (hfind : c.findEntry (promptLabel c.blockTokenCount tokenIds l.length) true = some k)
    (hv : describes k v) : c.ListsReusable tokenIds describes (l ++ [v]) :=
  forall_getElem?_concat hl ⟨k, hfind, hv⟩

theorem probePhysicalBlockTable_wp (hpos : 0 < c.blockTokenCount) :
    wp (probePhysicalBlockTable tokenIds capacity) (fun r c' => c.Touches c' ∧
        c.ListsReusable tokenIds (fun k p => p = (c.entry k).physicalBlockIndex) r.2 ∧
        c.MatchesPrompt (c.findEntry · true) tokenIds r.2.length ∧
        r.1 = r.2.length * c.blockTokenCount)
      (fun _ c' => c.Touches c' ∧
        (tokenIds ≠ [] → ∃ i, c.FoundTo tokenIds i ∧ capacity ≤ i)) c := by
  refine walkReusablePrefix_wp (c.ListsReusable tokenIds fun k p =>
    p = (c.entry k).physicalBlockIndex) (capacity ≤ ·) List.length hpos rfl nofun
    fun l k d hd hl hfind => ?_
  simp only [wp_ite, wp_throw, wp_bind, wp_get, wp_pure]
  exact ⟨fun hfull => ⟨trivial, hfull⟩, fun _ => ⟨trivial, length_append,
    hl.snoc hfind (hd.toQuiet.entry_eq Entry.physicalBlockIndex k)⟩⟩

/-- The entry of a block is in use, and the block within the geometry of the cache. -/
def Fetchable (c : PrefixCache) (k : Nat) : Prop :=
  (c.entry k).valid ∧ (c.entry k).physicalBlockIndex ≠ noPhysicalBlock ∧
    (c.entry k).physicalBlockIndex < c.physicalBlockCount

theorem fillPrefetchSourceBlock_cases (c : PrefixCache) (k : Nat) :
    (∃ v, c.fillPrefetchSourceBlock k = .ok v ∧ c.Fetchable k ∧
      v.physicalBlockIndex = (c.entry k).physicalBlockIndex ∧
      v.firstTokenIndex = (c.entry k).firstTokenIndex) ∨
    (∃ e, c.fillPrefetchSourceBlock k = .error e ∧ ¬c.Fetchable k) := by
  unfold fillPrefetchSourceBlock
  by_cases hbad : !(c.entry k).valid ∨ (c.entry k).physicalBlockIndex = noPhysicalBlock ∨
      c.physicalBlockCount ≤ (c.entry k).physicalBlockIndex
  · rw [if_pos hbad]
    refine .inr ⟨_, rfl, fun hfetch => ?_⟩
    have hle := hfetch.2.2.not_ge
    simp [hfetch.1, hfetch.2.1, hle] at hbad
  · rw [if_neg hbad]
    refine .inl ⟨_, rfl, ?_, rfl, rfl⟩
    simpa only [Fetchable, not_or, Bool.not_eq_true', Bool.not_eq_false, not_le] using hbad

theorem probeReusablePrefixPrefetchSources_wp (hpos : 0 < c.blockTokenCount) :
    wp (probeReusablePrefixPrefetchSources tokenIds capacity) (fun r c' => c.Touches c' ∧
        c.ListsReusable tokenIds (fun k (v : PrefetchSourceBlock) => c.Fetchable k ∧
          v.physicalBlockIndex = (c.entry k).physicalBlockIndex) r.2 ∧
        c.MatchesPrompt (c.findEntry · true) tokenIds r.2.length ∧
        r.1 = r.2.length * c.blockTokenCount)
      (fun _ c' => c.Touches c' ∧ (tokenIds ≠ [] → ∃ i, c.FoundTo tokenIds i ∧ (capacity ≤ i ∨
        ∃ k, c.findEntry (promptLabel c.blockTokenCount tokenIds i) true = some k ∧
          ¬c.Fetchable k))) c := by
  refine walkReusablePrefix_wp (c.ListsReusable tokenIds fun k (v : PrefetchSourceBlock) =>
      c.Fetchable k ∧ v.physicalBlockIndex = (c.entry k).physicalBlockIndex)
    (fun i => capacity ≤ i ∨ ∃ k, c.findEntry (promptLabel c.blockTokenCount tokenIds i) true =
      some k ∧ ¬c.Fetchable k) List.length hpos rfl nofun fun l k d hd hl hfind => ?_
  have hfetch : d.Fetchable k ↔ c.Fetchable k := by
    rw [Fetchable, Fetchable, hd.toQuiet.entry_eq Entry.valid,
      hd.toQuiet.entry_eq Entry.physicalBlockIndex, hd.physicalBlockCount]
  simp only [wp_ite, wp_throw, wp_bind, wp_get, wp_pure]
  refine ⟨fun hfull => ⟨trivial, .inl hfull⟩, fun _ => ?_⟩
  rcases d.fillPrefetchSourceBlock_cases k with ⟨v, hfill, hk, hv, -⟩ | ⟨e, hfill, hk⟩
  · rw [hfill]
    exact ⟨rfl, length_append, hl.snoc hfind
      ⟨hfetch.mp hk, hv.trans (hd.toQuiet.entry_eq Entry.physicalBlockIndex k)⟩⟩
  · rw [hfill]
    exact ⟨rfl, .inr ⟨k, hfind, fun hc => hk (hfetch.mpr hc)⟩⟩

theorem probeReusablePrefixResidency_wp (hpos : 0 < c.blockTokenCount) :
    wp (probeReusablePrefixResidency tokenIds) (fun r c' => c.Touches c' ∧
        r.1 = (r.2.residentBlockCount + r.2.nonresidentBlockCount) * c.blockTokenCount ∧
        c.MatchesPrompt (c.findEntry · true) tokenIds
          (r.2.residentBlockCount + r.2.nonresidentBlockCount))
      (fun _ c' => c.Touches c' ∧ tokenIds = []) c := by
  refine wp_mono (walkReusablePrefix_wp (fun _ => True) (fun _ => False)
    (fun probe : ResidencyProbe => probe.residentBlockCount + probe.nonresidentBlockCount) hpos rfl
    trivial fun probe k d _ _ _ => ?_) (fun _ _ hd => ⟨hd.1, hd.2.2.2, hd.2.2.1⟩)
    (fun _ _ hd => ⟨hd.1, by simpa using hd.2⟩)
  rw [wp_read, wp_pure]
  refine ⟨rfl, ?_, trivial⟩
  unfold countResidency
  split_ifs
  · rfl
  · exact Nat.add_right_comm _ _ _

end Walk

/-! ### Protection and trimming -/

theorem Touches.mapEntries (f : Entry → Entry) (hf : ∀ e, (f e).core = e.core)
    (hdefault : f {} = {}) (epoch : Nat) :
    c.Touches { c with entries := c.entries.map f, lookaheadProtectionEpoch := epoch } := by
  refine ⟨⟨⟨rfl, rfl, length_map _, rfl, le_rfl⟩, fun j => ?_, fun _ => rfl,
    .refl _, rfl, rfl⟩, rfl⟩
  change ((c.entries.map f).getD j {}).core = (c.entries.getD j {}).core
  have hmap := getD_map (l := c.entries) (d := {}) (n := j) f
  rw [hdefault] at hmap
  rw [hmap, hf]

theorem resetLookaheadProtection_wp {E : PrefixCacheError → PrefixCache → Prop} :
    wp resetLookaheadProtection (fun _ c' => c.Touches c') E c := by
  unfold resetLookaheadProtection
  rw [wp_modify]
  split_ifs
  · refine .mapEntries _ ?_ ?_ 1
    · exact fun _ => rfl
    · rfl
  · exact ⟨⟨⟨rfl, rfl, rfl, rfl, le_rfl⟩, fun _ => rfl, fun _ => rfl, .refl _, rfl, rfl⟩, rfl⟩

theorem protectBlocks_wp {demandWeight : Nat} :
    ∀ (blocks count : Nat) {d : PrefixCache}, c.Touches d →
      (∀ i < count, (c.findEntry (promptLabel c.blockTokenCount tokenIds i) true).isSome) →
      wp (protectBlocks tokenIds demandWeight blocks (chainHash c.blockTokenCount tokenIds count)
          (count * c.blockTokenCount) count)
        (fun r c' => c.Touches c' ∧ PrefixMatch (c.findEntry · true) c.blockTokenCount tokenIds
          (count + blocks) r)
        (fun _ _ => False) d
  | 0, _, _, hd, hfound => ⟨hd, le_rfl, hfound, fun h => absurd h (lt_irrefl _)⟩
  | blocks + 1, count, d, hd, hfound => by
      unfold protectBlocks
      rw [wp_read]
      dsimp only
      rw [hd.toQuiet.findEntry, hd.blockTokenCount, labelAt_chainHash]
      cases hfind : c.findEntry (promptLabel c.blockTokenCount tokenIds count) true with
      | none => exact ⟨hd, Nat.le_add_right _ _, hfound, fun _ => hfind⟩
      | some k =>
        dsimp only
        rw [wp_bind, wp_set]
        have hprotect : c.Touches (d.setEntry k (d.protectEntry (d.entry k) demandWeight)) := by
          refine hd.trans (.setEntry k _ ?_)
          unfold protectEntry
          split_ifs <;> rfl
        have ih := @protectBlocks_wp demandWeight blocks (count + 1) _ hprotect
          (Nat.forall_lt_succ_right.mpr ⟨hfound, Option.isSome_iff_exists.mpr ⟨k, hfind⟩⟩)
        rwa [Nat.succ_mul, Nat.add_right_comm, Nat.add_assoc] at ih

theorem protectPromptLookahead_wp {demandWeight : Nat} :
    wp (protectPromptLookahead tokenIds demandWeight)
      (fun r c' => c.Touches c' ∧ r.1 = r.2 * c.blockTokenCount ∧
        c.MatchesPrompt (c.findEntry · true) tokenIds r.2)
      (fun _ c' => c.Touches c' ∧ tokenIds = []) c := by
  have hloop {d : PrefixCache} (hd : c.Touches d) := @protectBlocks_wp c tokenIds demandWeight
    (c.reusableBlockCount tokenIds) 0 d hd fun i hi => absurd hi (Nat.not_lt_zero i)
  simp only [Nat.zero_mul, Nat.zero_add] at hloop
  unfold protectPromptLookahead
  rw [wp_ite]
  refine ⟨fun hempty => ⟨.refl c, isEmpty_iff.mp hempty⟩, fun _ => ?_⟩
  rw [wp_read, wp_ite]
  refine ⟨fun _ => ?_, fun _ => ?_⟩
  · rw [wp_bind]
    refine wp_total resetLookaheadProtection_wp fun _ d hd => ?_
    rw [wp_read, wp_bind, maximumReusableTokenCount, hd.blockTokenCount]
    exact wp_total (hloop hd) fun _ _ h => ⟨h.1, rfl, h.2⟩
  · rw [wp_read, wp_bind]
    exact wp_total (hloop (.refl c)) fun _ _ h => ⟨h.1, rfl, h.2⟩

theorem trimByReuseScoreLoop_wp : ∀ (fuel evicted : Nat) {d : PrefixCache}, c.Touches d →
      ends (trimByReuseScoreLoop limit hardProtected fuel evicted) c.Touches d
  | 0, _, _, hd => hd
  | fuel + 1, evicted, d, hd => by
      unfold trimByReuseScoreLoop
      rw [ends, wp_read, wp_ite]
      refine ⟨fun _ => ?_, fun _ => hd⟩
      cases d.selectResidentReuseScoreVictim hardProtected with
      | none => exact hd
      | some =>
        rw [wp_bind, wp_onArena]
        refine wp_mono (KvArena.markBlockNonresident_wp _ _)
          (fun _ arena ha => trimByReuseScoreLoop_wp fuel _ (hd.trans ⟨.withArena ha, rfl⟩))
          (fun _ arena ha => hd.trans ⟨.withArena ha, rfl⟩)

theorem trimResidentBlocksByReuseScore_wp :
    ends (trimResidentBlocksByReuseScore limit hardProtected) c.Touches c := by
  unfold trimResidentBlocksByReuseScore
  rw [ends, wp_read, wp_ite]
  exact ⟨fun _ => .refl c, fun _ => trimByReuseScoreLoop_wp _ _ (.refl c)⟩

/-! ### Tables of a bound sequence -/

/-- The block that a table over `tokenCount` tokens lists at a position. -/
def heldBlock (c : PrefixCache) (sequenceId tokenCount blockIndex : Nat) : Option Nat :=
  (c.findBindingAtTokenOffset sequenceId (blockIndex * c.blockTokenCount)).bind fun bindingIndex =>
      if (c.binding bindingIndex).tokenCount <
          min c.blockTokenCount (tokenCount - blockIndex * c.blockTokenCount) then none
      else some (c.binding bindingIndex).physicalBlockIndex

/-- The table of a sequence lists the blocks it holds, one for each position. -/
structure Lists (c : PrefixCache) (sequenceId tokenCount : Nat) (indices : List Nat) : Prop where
  length : indices.length = c.ceilBlockCount tokenCount
  held : ∀ i < c.ceilBlockCount tokenCount, indices[i]? = c.heldBlock sequenceId tokenCount i

theorem heldBlock_eq_some {p : Nat} : c.heldBlock q n i = some p ↔
      ∃ b, c.findBindingAtTokenOffset q (i * c.blockTokenCount) = some b ∧
        min c.blockTokenCount (n - i * c.blockTokenCount) ≤ (c.binding b).tokenCount ∧
        (c.binding b).physicalBlockIndex = p := by
  unfold heldBlock
  rw [Option.bind_eq_some_iff]
  refine exists_congr fun b => and_congr_right fun _ => ?_
  split_ifs with hshort
  · simp [not_le.mpr hshort]
  · simp [not_lt.mp hshort]

theorem Lists.bound {p : Nat} {indices : List Nat} (h : c.Lists q n indices)
    (hp : indices[i]? = some p) :
    ∃ b, c.findBindingAtTokenOffset q (i * c.blockTokenCount) = some b ∧
      p = (c.binding b).physicalBlockIndex := by
  have hi : i < c.ceilBlockCount n := h.length ▸ (List.getElem?_eq_some_iff.mp hp).1
  obtain ⟨b, hb, -, hblock⟩ := heldBlock_eq_some.mp ((h.held i hi).symm.trans hp)
  exact ⟨b, hb, hblock.symm⟩

theorem buildPhysicalBlockTable_lists : wp (buildPhysicalBlockTable q n)
      (fun indices c' => c' = c ∧ q ≠ 0 ∧ n ≠ 0 ∧ c.Lists q n indices)
      (fun _ c' => c' = c ∧ (q ≠ 0 → n ≠ 0 → ∃ i < c.ceilBlockCount n, c.heldBlock q n i = none))
      c := by
  unfold buildPhysicalBlockTable
  rw [wp_ite]
  refine ⟨fun hzero => ⟨rfl, fun hq hn => (hzero.elim hq hn).elim⟩, fun hzero => ?_⟩
  rw [not_or] at hzero
  rw [wp_read, range_eq_range']
  -- the positions still to come start where the list so far ends
  refine wp_post (wp_foldlM (fun rest indices d => d = c ∧
      rest = List.range' indices.length rest.length ∧
      indices.length + rest.length = c.ceilBlockCount n ∧
      ∀ i < indices.length, indices[i]? = c.heldBlock q n i)
    (fun j rest indices d hd => ?_) ⟨rfl, by simp, by simp, by simp⟩) fun indices d hd => ?_
  · obtain ⟨rfl, hrange, hlength, hheld⟩ := hd
    rw [length_cons, List.range'_succ, List.cons.injEq] at hrange
    obtain ⟨rfl, hrange⟩ := hrange
    rw [length_cons] at hlength
    have hmissing hnone : ∃ i < d.ceilBlockCount n, d.heldBlock q n i = none :=
      ⟨indices.length, by omega, hnone⟩
    simp only [wp_bind, wp_orFail, wp_ite, wp_throw, wp_pure]
    refine ⟨fun b hb => ⟨fun hshort => ⟨trivial, fun _ _ => hmissing ?_⟩,
      fun hlong => ⟨trivial, ?_, ?_, ?_⟩⟩, fun hnone => ⟨trivial, fun _ _ => hmissing ?_⟩⟩
    · rw [heldBlock, hb, Option.bind_some, if_pos hshort]
    · rwa [length_append, length_singleton]
    · rw [length_append, length_singleton]
      omega
    · intro i hi
      rw [length_append, length_singleton, Nat.lt_succ_iff_lt_or_eq] at hi
      rcases hi with hi | rfl
      · rw [List.getElem?_append_left hi, hheld i hi]
      · rw [List.getElem?_concat_length, heldBlock, hb, Option.bind_some, if_neg hlong]
    · rw [heldBlock, hnone, Option.bind_none]
  · obtain ⟨rfl, -, hlength, hheld⟩ := hd
    rw [length_nil, Nat.add_zero] at hlength
    exact ⟨rfl, hzero.1, hzero.2, hlength, fun i hi => hheld i (hlength ▸ hi)⟩

theorem buildSequencePrefetchSources_wp :
    ends (buildSequencePrefetchSources q tokenCount) (· = c) c := by
  unfold buildSequencePrefetchSources
  rw [ends, wp_ite]
  refine ⟨fun _ => rfl, fun _ => ?_⟩
  rw [wp_read, wp_bind]
  refine wp_post (wp_iterate (fun _ _ d => d = c) (fun _ acc d hd => ?_) rfl) fun _ _ hd => hd
  simp only [wp_bind, wp_orFail, wp_ite, wp_throw, wp_pure]
  refine ⟨fun b _ => ⟨fun _ => hd, fun _ => ?_⟩, fun _ => hd⟩
  cases c.fillPrefetchSourceBlock (c.binding b).entryIndex with
  | error | ok => exact hd

theorem probeSequenceResidency_wp :
    ends (probeSequenceResidency q tokenCount) (· = c) c := by
  unfold probeSequenceResidency
  rw [ends, wp_ite]
  refine ⟨fun _ => rfl, fun _ => ?_⟩
  rw [wp_read, wp_bind]
  refine wp_post (wp_iterate (fun _ _ d => d = c) (fun _ acc d hd => ?_) rfl) fun _ _ hd => hd
  simp only [wp_bind, wp_orFail, wp_pure]
  exact ⟨fun _ _ => hd, fun _ => hd⟩

end PrefixCache

end SparkPipe
