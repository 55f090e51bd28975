import Mathlib.Algebra.Order.BigOperators.Group.List
import Mathlib.Algebra.Order.Group.Nat
import SparkPipe.Core.PrefixCache.Effects

/-!
# Reservations

What reserving a prompt does: block by block an entry is found or installed, and the sequence is
bound to it.
-/

open Program

namespace SparkPipe.PrefixCache

open List

variable {c c' : PrefixCache} {b epoch k q t : Nat} {label : BlockLabel} {s : Scope}
  {mayShare pending : Bool} {tokenIds : List Nat} {i : Installation} {n j : Nat} {e : Event}

/-- No entry that may be shared carries the label. -/
def Unshared (c : PrefixCache) (label : BlockLabel) : Prop :=
  ∀ k, c.isReusable (c.entry k) → (c.entry k).label ≠ label

theorem Step.content_of_shared (hs : Step c e c') (hcommit : ∀ k, e ≠ .commit k)
    (hreset : e ≠ .reset) (hk : c'.isReusable (c'.entry k)) :
    (c'.entry k).content = (c.entry k).content := by
  have hshared := isReusable_iff.mp hk
  cases hs with
  | quiet hs | bind hs | unbind hs => exact hs.entry_eq Entry.content k
  | @install _ k' p i hi =>
    have hne : k ≠ k' := by
      rintro rfl
      obtain ⟨tick, hself⟩ := hi.entry_self
      rw [hself] at hshared
      exact absurd hshared.2.1 (by simp [Installation.entry])
    rw [hi.entry_of_ne k hne]
  | @invalidate _ k' hi =>
    have hne : k ≠ k' := by
      rintro rfl
      rw [hi.entry_self] at hshared
      exact absurd hshared.1 (by simp)
    rw [hi.entry_of_ne k hne]
  | commit => exact absurd rfl (hcommit _)
  | @grow _ b k' hg =>
    have hne : k ≠ k' := by
      rintro rfl
      rw [hg.entry_self] at hshared
      exact absurd hshared.2.1 (by simp)
    rw [hg.entry_of_ne k hne]
  | reset => exact absurd rfl hreset

theorem Unshared.step (hu : c.Unshared label) (hs : Step c e c')
    (hcommit : ∀ k, e ≠ .commit k) (hreset : e ≠ .reset) : c'.Unshared label := by
  intro k hk
  have hcontent := hs.content_of_shared hcommit hreset hk
  rw [isReusable_congr (hs.shape hreset).blockTokenCount hcontent] at hk
  exact Entry.eq_of_content hcontent Entry.label ▸ hu k hk

theorem Unshared.reaches (hu : c.Unshared label) (hcommits : ¬s.commits) (hr : s.Reaches c c') :
    c'.Unshared label :=
  Evolves.invariant (I := fun d => d.Unshared label) (fun _ _ _ hd ha hs => hd.step hs
    (by rintro k rfl; exact hcommits ha.1) (by rintro rfl; exact ha)) hr hu

/-- The sequence is bound to entry `k`, or may be. -/
structure Chosen (s : Scope) (c : PrefixCache) (k : Nat) : Prop where
  valid : (c.entry k).valid
  bindable : c.findBinding s.sequenceId k = none → s.Allows c (.bind k s.sequenceId s.epoch)

theorem findForReservation_of_none
    (hown : c.findBindingAtTokenOffset q label.firstTokenIndex = none) :
    c.findForReservation q label mayShare =
      if mayShare then c.findEntry label true else none := by
  rw [findForReservation, hown, Option.bind_none, Option.none_or]

theorem findForReservation_cases (h : c.Consistent)
    (hk : c.findForReservation q label mayShare = some k) :
    (∃ b, c.findBindingAtTokenOffset q label.firstTokenIndex = some b ∧
      k = (c.binding b).entryIndex) ∨
    c.findBindingAtTokenOffset q label.firstTokenIndex = none ∧
      c.findEntry label true = some k := by
  unfold findForReservation at hk
  cases hown : c.findBindingAtTokenOffset q label.firstTokenIndex with
  | some b =>
    have hm := h.binding_mirrors b (findBindingAtTokenOffset_some hown).1
    simp only [hown, Option.bind_some, if_pos (lt_entries_length_of_valid hm.valid),
      Option.some_or, Option.some.injEq] at hk
    exact .inl ⟨b, rfl, hk.symm⟩
  | none =>
    simp only [hown, Option.bind_none, Option.none_or] at hk
    split_ifs at hk
    exact .inr ⟨rfl, hk⟩

theorem findForReservation_chosen (h : c.Consistent)
    (hk : c.findForReservation s.sequenceId label mayShare = some k) :
    Chosen s c k := by
  rcases findForReservation_cases h hk with ⟨b, hown, rfl⟩ | ⟨hown, hfind⟩
  · obtain ⟨hb, hq, -⟩ := findBindingAtTokenOffset_some hown
    exact ⟨(h.binding_mirrors b hb).valid, fun hnone => absurd rfl (findBinding_none hnone hb hq)⟩
  · obtain ⟨hlabel, hre⟩ := findEntry_some hfind
    obtain ⟨hvalid, -, hpending, -⟩ := isReusable_iff.mp hre
    refine ⟨hvalid, fun _ => ⟨rfl, rfl, fun hp => ?_, fun _ b hb hq => ?_⟩⟩
    · simp [hpending] at hp
    · have hne := findBindingAtTokenOffset_none hown hb hq
      rwa [← hlabel] at hne

theorem findForReservation_none (h : c.Consistent)
    (hnone : c.findForReservation q label mayShare = none) :
    c.findBindingAtTokenOffset q label.firstTokenIndex = none := by
  unfold findForReservation at hnone
  cases hown : c.findBindingAtTokenOffset q label.firstTokenIndex with
  | none => rfl
  | some b =>
    have hm := h.binding_mirrors b (findBindingAtTokenOffset_some hown).1
    simp [hown, lt_entries_length_of_valid hm.valid] at hnone

theorem Installs.chosen {p : Nat} (hi : c.Installs k i p c') (hepoch : i.operationEpoch = s.epoch)
    (hown : c.findBindingAtTokenOffset s.sequenceId i.label.firstTokenIndex = none) :
    Chosen s c' k := by
  obtain ⟨tick, hself⟩ := hi.entry_self
  refine ⟨by rw [hself]; rfl, fun _ => ⟨rfl, rfl, fun _ => by rw [hself]; exact hepoch,
    fun _ b hb hq => ?_⟩⟩
  rw [binding_congr hi.bindings] at hb hq ⊢
  rw [hself]
  exact findBindingAtTokenOffset_none hown hb hq

theorem firstTokenIndex_of_findForReservation (h : c.Consistent)
    (hk : c.findForReservation q label mayShare = some k) :
    (c.entry k).firstTokenIndex = label.firstTokenIndex := by
  rcases findForReservation_cases h hk with ⟨b, hown, rfl⟩ | ⟨-, hfind⟩
  · obtain ⟨hb, -, ht⟩ := findBindingAtTokenOffset_some hown
    exact (h.binding_mirrors b hb).firstTokenIndex.symm.trans ht
  · rw [← (findEntry_some hfind).1]
    rfl

/-- The block counted next is of an entry that is reusable or not. -/
structure Counts (r r' : Reservation) (reusable : Bool) : Prop where
  reservationEpoch : r'.reservationEpoch = r.reservationEpoch
  physicalBlockIndices : r'.physicalBlockIndices = r.physicalBlockIndices
  cachedPhysicalBlockCount :
    r'.cachedPhysicalBlockCount = r.cachedPhysicalBlockCount + reusable.toNat

theorem countFound_counts (r : Reservation) (e : Entry) (n : Nat) :
    Counts r (c.countFound r e n) (c.isReusable e) := by
  unfold countFound
  split_ifs with hreusable <;> constructor <;> simp [hreusable]

/-- Entry `k` is pending for the epoch and nothing is bound to it. -/
structure Untouched (c : PrefixCache) (epoch k : Nat) : Prop where
  pending : (c.entry k).pending
  reservationEpoch : (c.entry k).reservationEpoch = epoch
  unbound : ∀ b, (c.binding b).valid → (c.binding b).entryIndex ≠ k

/-- Entry `k` was found or installed for the block of `i`. -/
structure Finds (s : Scope) (c : PrefixCache) (i : Installation) (mayShare : Bool) (k : Nat)
    (c' : PrefixCache) : Prop where
  reaches : s.Reaches c c'
  chosen : Chosen s c' k
  bindings : c'.bindings = c.bindings
  firstTokenIndex : (c'.entry k).firstTokenIndex = i.label.firstTokenIndex
  installed : c.findForReservation s.sequenceId i.label mayShare = none → c'.Untouched s.epoch k
  own : ∀ b, c.findBindingAtTokenOffset s.sequenceId i.label.firstTokenIndex = some b →
    k = (c.binding b).entryIndex
  label : c.findBindingAtTokenOffset s.sequenceId i.label.firstTokenIndex = none →
    (c'.entry k).label = i.label
  installs : c' = c ∧ c.findForReservation s.sequenceId i.label mayShare = some k ∨
    c.findForReservation s.sequenceId i.label mayShare = none ∧ (∃ p, c.Installs k i p c') ∧
      (¬c.Evicts → (c.entry k).valid = false)

theorem Consistent.mayReplace (h : c.Consistent) (hk : c.selectVictim = some k) :
    c.MayReplace k := by
  rcases selectVictim_spec hk with ⟨hlt, hfree, rfl | hnone⟩ | hevict
  · exact .inl ⟨hlt, hfree, rfl⟩
  · exact absurd (hfree.symm.trans (h.valid_of_freeEntryHead hnone hlt)) (by decide)
  · have hvalid : (c.entry k).valid = true ∧ (c.entry k).referenceCount = 0 := by
      simp only [Entry.isEvictable, Bool.and_eq_true, beq_iff_eq] at hevict
      exact ⟨hevict.1.1, hevict.2⟩
    obtain ⟨halloc, href⟩ := h.block_owned k hvalid.1
    exact .inr ⟨hevict, halloc, href.trans hvalid.2⟩

theorem findOrInstall_wp {r : Reservation} (h : c.Consistent)
    (hfits : i.Fits c.blockTokenCount c.operationEpoch) (hepoch : i.operationEpoch = s.epoch)
    (hinstalls : s.installs i) :
    wp (findOrInstall s.sequenceId i mayShare r) (fun found c' => Finds s c i mayShare found.1 c' ∧
        Counts r found.2 (c'.isReusable (c'.entry found.1)))
      (fun e c' => s.Reaches c c' ∧ e = .capacityExceeded ∧ c.supply = 0 ∧
        c.findForReservation s.sequenceId i.label mayShare = none) c := by
  unfold findOrInstall
  rw [wp_read]
  cases hfind : c.findForReservation s.sequenceId i.label mayShare with
  | some =>
    refine ⟨⟨.refl c, findForReservation_chosen h hfind, rfl,
      firstTokenIndex_of_findForReservation h hfind, fun hnone => by simp [hfind] at hnone,
      fun b hown => ?_, fun hown => ?_, .inl ⟨rfl, hfind⟩⟩, countFound_counts _ _ _⟩
    · rcases findForReservation_cases h hfind with ⟨b', hown', hk⟩ | ⟨hnone, -⟩
      · rw [hown] at hown'
        cases hown'
        exact hk
      · simp [hown] at hnone
    · rcases findForReservation_cases h hfind with ⟨b', hown', -⟩ | ⟨-, hshared⟩
      · simp [hown] at hown'
      · exact (findEntry_some hshared).1
  | none =>
    simp only [wp_bind, wp_orFail, wp_pure]
    have hown := findForReservation_none h hfind
    refine ⟨fun k hk => ?_, fun hnone =>
      ⟨.refl c, trivial, h.supply_of_selectVictim hnone, trivial⟩⟩
    refine wp_mono (installEntry_wp hfits (h.mayReplace hk)) (fun _ d hd => ?_) ?_
    rotate_left
    · rintro _ _ ⟨rfl, rfl, hfull⟩
      exact ⟨.refl _, rfl, h.supply_of_exhausted hfull.1 hfull.2.1 hfull.2.2, trivial⟩
    obtain ⟨p, hi⟩ := hd
    obtain ⟨tick, hself⟩ := hi.entry_self
    refine ⟨⟨.step (.install hi) ⟨hepoch, hinstalls⟩,
      hi.chosen hepoch hown, hi.bindings, by rw [hself]; rfl,
      fun _ => ⟨by rw [hself]; rfl, by rw [hself]; exact hepoch, fun b hb => ?_⟩,
      fun b hsome => by simp [hown] at hsome, fun _ => by rw [hself]; rfl,
      .inr ⟨hfind, ⟨p, hi⟩, h.free_of_selectVictim hk⟩⟩, rfl, rfl, ?_⟩
    · rw [binding_congr hi.bindings] at hb ⊢
      exact h.unbound_of_installs hi hb
    · -- what is installed is pending
      have hpending : d.isReusable (d.entry k) = false := by
        rw [hself]
        rfl
      rw [hpending]
      rfl

theorem Chosen.acquire_wp (hk : Chosen s c k) (hepoch : s.epoch ≤ c.operationEpoch) :
    ends (acquireEntryForSequence s.sequenceId k s.epoch pending) (s.Reaches c) c := by
  refine wp_mono (acquireEntryForSequence_wp hk.valid hepoch) (fun _ d hd => ?_)
    (fun _ _ hd => by rw [hd.1]; exact .refl c)
  rcases hd with ⟨hq, -⟩ | ⟨hb, hnone⟩
  · exact .quiet hq
  · exact .step (.bind hb) (hk.bindable hnone)

theorem lt_ceilBlockCount_iff (hpos : 0 < c.blockTokenCount) :
    j < c.ceilBlockCount n ↔ j * c.blockTokenCount < n := by
  unfold ceilBlockCount
  rw [← Nat.succ_le_iff, Nat.le_div_iff_mul_le hpos, Nat.succ_mul]
  omega

theorem lt_maximumReusableTokenCount_iff (hpos : 0 < c.blockTokenCount) :
    j * c.blockTokenCount < c.maximumReusableTokenCount n ↔ (j + 1) * c.blockTokenCount < n := by
  have hdiv : n - 1 - (n - 1) % c.blockTokenCount =
    (n - 1) / c.blockTokenCount * c.blockTokenCount := by
    have := Nat.div_add_mod' (n - 1) c.blockTokenCount
    omega
  have hle := Nat.le_div_iff_mul_le hpos (x := j + 1) (y := n - 1)
  have hlt : j * c.blockTokenCount < (n - 1) / c.blockTokenCount * c.blockTokenCount ↔
      j + 1 ≤ (n - 1) / c.blockTokenCount := Nat.mul_lt_mul_right hpos
  unfold maximumReusableTokenCount
  split_ifs
  · omega
  · omega

/-- What a reservation may offer for sharing: full blocks of the prompt. -/
def ReservedBlock (blockTokenCount : Nat) (tokenIds : List Nat) (allowCrossSequenceReuse : Bool)
    (i : Installation) : Prop :=
  i.liveOnly = false → allowCrossSequenceReuse ∧
    ∃ j, (j + 1) * blockTokenCount ≤ tokenCountOf tokenIds ∧
      i.label = promptLabel blockTokenCount tokenIds j

/-- The cursor stands before block `j`. -/
structure ReserveCursor.At (cursor : ReserveCursor) (blockTokenCount : Nat)
    (tokenIds : List Nat) (j : Nat) : Prop where
  parentHash : cursor.parentHash = chainHash blockTokenCount tokenIds j
  tokenOffset : cursor.tokenOffset = j * blockTokenCount

/-- The label of block `j` of a prompt, whose last block may be short. -/
def reservedLabel (c : PrefixCache) (tokenIds : List Nat) (j : Nat) : BlockLabel :=
  labelAt tokenIds (chainHash c.blockTokenCount tokenIds j) (j * c.blockTokenCount)
    (min c.blockTokenCount (tokenCountOf tokenIds - j * c.blockTokenCount))

/-- What block `j` of a prompt is installed as. -/
def reservedInstallation (c : PrefixCache) (tokenIds : List Nat) (allowCrossSequenceReuse : Bool)
    (operationEpoch j : Nat) : Installation :=
  let blockTokenCount := min c.blockTokenCount (tokenCountOf tokenIds - j * c.blockTokenCount)
  { label := c.reservedLabel tokenIds j
    liveOnly := !(blockTokenCount == c.blockTokenCount) || !allowCrossSequenceReuse
    operationEpoch }

/-- Whether block `j` of a prompt may be another sequence's block. -/
def mayShareBlock (c : PrefixCache) (tokenIds : List Nat) (allowCrossSequenceReuse : Bool)
    (j : Nat) : Bool :=
  allowCrossSequenceReuse &&
    min c.blockTokenCount (tokenCountOf tokenIds - j * c.blockTokenCount) == c.blockTokenCount &&
    j * c.blockTokenCount < c.maximumReusableTokenCount (tokenCountOf tokenIds)

/-- What a reservation finds for block `j` of a prompt. -/
def findReserved (c : PrefixCache) (sequenceId : Nat) (tokenIds : List Nat)
    (allowCrossSequenceReuse : Bool) (j : Nat) : Option Nat :=
  c.findForReservation sequenceId (c.reservedLabel tokenIds j)
    (c.mayShareBlock tokenIds allowCrossSequenceReuse j)

/-- No installation can take the entry: it is held, or nothing is evicted. -/
def Stays (c : PrefixCache) (k : Nat) : Prop := c.Evicts → 0 < (c.entry k).referenceCount

instance (c : PrefixCache) (k : Nat) : Decidable (c.Stays k) := inferInstanceAs (Decidable (_ → _))

/-- What a block takes of the supply: one if it is installed or shared from an entry that could be
evicted. -/
def reservationCost (c : PrefixCache) (sequenceId : Nat) (label : BlockLabel) (mayShare : Bool) :
    Nat :=
  if (c.findBindingAtTokenOffset sequenceId label.firstTokenIndex).isSome then 0
  else
    match c.findForReservation sequenceId label mayShare with
    | none => 1
    | some k => if c.Stays k then 0 else 1

/-- What block `j` of a prompt takes of the supply. -/
def blockCost (c : PrefixCache) (sequenceId : Nat) (tokenIds : List Nat)
    (allowCrossSequenceReuse : Bool) (j : Nat) : Nat :=
  c.reservationCost sequenceId (c.reservedLabel tokenIds j)
    (c.mayShareBlock tokenIds allowCrossSequenceReuse j)

section Reserve

variable {s : Scope} {tokenIds : List Nat} {allow : Bool} {cursor : ReserveCursor} {j : Nat}
  {d d' : PrefixCache} {i : Installation} {r : Reservation}

theorem reservedInstallation_fits (hpos : 0 < c.blockTokenCount)
    (hepoch : s.epoch ≤ c.operationEpoch) (hlt : j * c.blockTokenCount < tokenCountOf tokenIds) :
    (c.reservedInstallation tokenIds allow s.epoch j).Fits c.blockTokenCount c.operationEpoch := by
  refine ⟨hepoch, lt_min hpos (Nat.sub_pos_of_lt hlt), min_le_left _ _, ⟨j, Nat.mul_comm _ _⟩,
    fun hfull => ?_⟩
  simp only [reservedInstallation, Bool.or_eq_false_iff, Bool.not_eq_false', beq_iff_eq] at hfull
  exact hfull.1

theorem reservedInstallation_reserved (hlt : j * c.blockTokenCount < tokenCountOf tokenIds) :
    ReservedBlock c.blockTokenCount tokenIds allow
      (c.reservedInstallation tokenIds allow s.epoch j) := by
  intro hfull
  simp only [reservedInstallation, Bool.or_eq_false_iff, Bool.not_eq_false', beq_iff_eq] at hfull
  refine ⟨hfull.2, j, ?_, ?_⟩
  · rw [Nat.succ_mul]
    omega
  · simp only [reservedInstallation, reservedLabel, hfull.1]
    rfl

/-- Binding `b` holds the reserved block: what was held in `c`, else a block with the label. -/
structure HoldsBlock (c : PrefixCache) (q : Nat) (label : BlockLabel) (d : PrefixCache) (b : Nat) :
    Prop where
  found : d.findBindingAtTokenOffset q label.firstTokenIndex = some b
  own : ∀ b', c.findBindingAtTokenOffset q label.firstTokenIndex = some b' → b = b'
  label : c.findBindingAtTokenOffset q label.firstTokenIndex = none →
    (d.entry (d.binding b).entryIndex).label = label

theorem HoldsBlock.reaches (hholds : HoldsBlock c q label d b) (hr : s.Reaches d d') (hs : s.Adds)
    (hd : d.Consistent) (hoffset : d'.findBindingAtTokenOffset q label.firstTokenIndex =
      d.findBindingAtTokenOffset q label.firstTokenIndex) : HoldsBlock c q label d' b := by
  have hkeeps := hr.keeps hs hd (findBindingAtTokenOffset_some hholds.found).1
  refine ⟨hoffset.trans hholds.found, hholds.own, fun hnone => ?_⟩
  rw [Binding.eq_of_core hkeeps.binding Binding.entryIndex,
    Entry.eq_of_content hkeeps.entry Entry.label]
  exact hholds.label hnone

/-- The sequence does not hold a block at position `i`. -/
def lacks (c : PrefixCache) (sequenceId i : Nat) : Bool :=
  (c.findBindingAtTokenOffset sequenceId (i * c.blockTokenCount)).isNone

/-- After the blocks before token `t`: entries that stay are there, none is new, and from `t` on
none is held by more. -/
structure Retains (c : PrefixCache) (t : Nat) (d : PrefixCache) : Prop extends SameShape c d where
  arena : d.arena.physicalBlockCount = c.arena.physicalBlockCount
  kept : ∀ k, c.isReusable (c.entry k) → c.Stays k →
    (d.entry k).content = (c.entry k).content ∧
      (c.entry k).referenceCount ≤ (d.entry k).referenceCount
  shared : ∀ k, d.isReusable (d.entry k) → (d.entry k).content = (c.entry k).content ∧
    (t ≤ (d.entry k).firstTokenIndex →
      (d.entry k).referenceCount = (c.entry k).referenceCount)

theorem stays_iff (hvalid : (c.entry k).valid) (hpending : (c.entry k).pending = false) :
    (if c.Evicts ∧ (c.entry k).isAvailable then 1 else 0) = if c.Stays k then 0 else 1 := by
  by_cases hevicts : c.Evicts
  · cases hcount : (c.entry k).referenceCount <;>
      simp [Stays, Entry.isAvailable, hvalid, hpending, hcount, hevicts]
  · simp [Stays, hevicts]

theorem Consistent.reservationCost_of_none (h : c.Consistent)
    (hnone : c.findForReservation q label mayShare = none) :
    c.reservationCost q label mayShare = 1 := by
  rw [reservationCost, findForReservation_none h hnone, hnone]
  rfl

theorem Retains.evicts (hr : c.Retains t d) : d.Evicts ↔ c.Evicts := by
  rw [Evicts, hr.entryCount, hr.arena]

section

variable {c₀ : PrefixCache} (hr : c₀.Retains t d)
include hr

theorem Retains.quiet (hq : d.Quiet d') : c₀.Retains t d' := by
  refine ⟨hr.toSameShape.trans hq.toSameShape, hq.arena.physicalBlockCount.trans hr.arena,
    fun k hk hstays => ?_, fun k hk => ?_⟩
  · obtain ⟨hcontent, hle⟩ := hr.kept k hk hstays
    exact ⟨(hq.entry_eq Entry.content k).trans hcontent,
      (hq.entry_eq Entry.referenceCount k).symm ▸ hle⟩
  · have hcontent := hq.entry_eq Entry.content k
    rw [isReusable_congr hq.blockTokenCount hcontent] at hk
    obtain ⟨hcontent₀, hcount⟩ := hr.shared k hk
    rw [hq.entry_eq Entry.firstTokenIndex, hq.entry_eq Entry.referenceCount]
    exact ⟨hcontent.trans hcontent₀, hcount⟩

theorem Retains.installs {p : Nat} (hi : d.Installs k i p d')
    (hfree : ¬d.Evicts → (d.entry k).valid = false) : c₀.Retains t d' := by
  refine ⟨hr.toSameShape.trans hi.toSameShape, hi.arena.physicalBlockCount.trans hr.arena,
    fun k' hk' hstays => ?_, fun k' hk' => ?_⟩
  · -- an entry that stays is not the one that was replaced
    obtain ⟨hcontent, hle⟩ := hr.kept k' hk' hstays
    have hvalid : (d.entry k').valid = true :=
      (Entry.eq_of_content hcontent Entry.valid).trans (isReusable_iff.mp hk').1
    have hne : k' ≠ k := by
      rintro rfl
      rcases hi.victim with ⟨hinvalid, -⟩ | ⟨hevictable, -⟩
      · exact absurd (hvalid.symm.trans hinvalid) (by decide)
      · simp only [Entry.isEvictable, Bool.and_eq_true, beq_iff_eq] at hevictable
        by_cases hevicts : d.Evicts
        · have hpos := hstays (hr.evicts.mp hevicts)
          omega
        · exact absurd (hvalid.symm.trans (hfree hevicts)) (by decide)
    rw [hi.entry_of_ne k' hne]
    exact ⟨hcontent, hle⟩
  · have hcontent := (Step.install hi).content_of_shared (by simp) (by simp) hk'
    have hne : k' ≠ k := by
      rintro rfl
      obtain ⟨tick, hself⟩ := hi.entry_self
      rw [hself] at hk'
      cases hk'
    rw [hi.entry_of_ne k' hne] at hk' ⊢
    rw [isReusable_congr hi.blockTokenCount rfl] at hk'
    exact hr.shared k' hk'

theorem Retains.binds {t' : Nat} (hb : d.Binds k q epoch d') (hk : (d.entry k).firstTokenIndex < t')
    (ht : t ≤ t') : c₀.Retains t' d' := by
  refine ⟨hr.toSameShape.trans hb.toSameShape, hb.arena.physicalBlockCount.trans hr.arena,
    fun k' hk' hstays => ?_, fun k' hk' => ?_⟩
  · obtain ⟨hcontent, hle⟩ := hr.kept k' hk' hstays
    refine ⟨(hb.entry_eq Entry.content k').trans hcontent, ?_⟩
    by_cases hne : k' = k
    · subst hne
      rw [hb.entry_self]
      exact Nat.le_succ_of_le hle
    · rwa [hb.entry_of_ne k' hne]
  · have hcontent := hb.entry_eq Entry.content k'
    rw [isReusable_congr hb.blockTokenCount hcontent] at hk'
    obtain ⟨hcontent₀, hcount⟩ := hr.shared k' hk'
    refine ⟨hcontent.trans hcontent₀, fun hat => ?_⟩
    rw [hb.entry_eq Entry.firstTokenIndex] at hat
    have hne : k' ≠ k := by
      rintro rfl
      omega
    rw [hb.entry_of_ne k' hne]
    exact hcount (ht.trans hat)

end

/-- Block `j` is listed and held; one that was not found is held alone. -/
structure ReservesBlock (s : Scope) (c : PrefixCache) (tokenIds : List Nat) (allow : Bool)
    (j : Nat) (cursor cursor' : ReserveCursor) (c' : PrefixCache) : Prop where
  reaches : s.Reaches c c'
  reservationEpoch : cursor'.reservation.reservationEpoch = cursor.reservation.reservationEpoch
  offsets : ∀ t, t ≠ j * c.blockTokenCount →
    c'.findBindingAtTokenOffset s.sequenceId t = c.findBindingAtTokenOffset s.sequenceId t
  listed : ∃ p, cursor'.reservation.physicalBlockIndices =
      cursor.reservation.physicalBlockIndices ++ [p] ∧
    (c.findReserved s.sequenceId tokenIds allow j = none →
      ∃ b k, c'.HeldPending s.sequenceId s.epoch (j * c.blockTokenCount) p b k) ∧
    ∃ b, HoldsBlock c s.sequenceId (c.reservedInstallation tokenIds allow s.epoch j).label c' b ∧
      p = (c'.binding b).physicalBlockIndex ∧
      cursor'.reservation.cachedPhysicalBlockCount = cursor.reservation.cachedPhysicalBlockCount +
          (c'.isReusable (c'.entry (c'.binding b).entryIndex)).toNat
  next : (j + 1) * c.blockTokenCount ≤ tokenCountOf tokenIds →
    cursor'.At c.blockTokenCount tokenIds (j + 1)
  spends : c.Spends (c.blockCost s.sequenceId tokenIds allow j) (c.lacks s.sequenceId j).toNat c'
  retains : ∀ c₀ : PrefixCache, c₀.Retains (j * c.blockTokenCount) c →
    c₀.Retains ((j + 1) * c.blockTokenCount) c'

theorem Untouched.heldPending (hk : c.Untouched epoch k) (hb : c.Binds k q epoch c')
    (hunheld : c.UnboundAt q k) :
    c'.HeldPending q epoch (c.entry k).firstTokenIndex (c'.entry k).physicalBlockIndex
      c.freeBindingHead k := by
  obtain ⟨pending, hself⟩ := hb.binding_self
  refine ⟨by rw [hself]; rfl, by rw [hself]; rfl, by rw [hself]; rfl, by rw [hself]; rfl,
    by rw [hself]; rfl, (hb.entry_eq Entry.pending k).trans hk.pending,
    (hb.entry_eq Entry.reservationEpoch k).trans hk.reservationEpoch, rfl,
    fun b' hb' hcase => ?_⟩
  by_contra hslot
  rw [hb.binding_of_ne b' hslot] at hb' hcase
  exact hcase.elim (hk.unbound b' hb') fun hcase => hunheld b' hb' hcase.1 hcase.2

theorem Untouched.findBinding (hk : c.Untouched epoch k) : c.findBinding q k = none := by
  cases hfind : c.findBinding q k with
  | none => rfl
  | some b =>
    obtain ⟨hb, -, hentry⟩ := findBinding_some hfind
    exact absurd hentry (hk.unbound b hb)

section

variable (hd : Finds s c i mayShare k d)
include hd

theorem Finds.own_eq_none (hnone : d.findBinding s.sequenceId k = none) :
    c.findBindingAtTokenOffset s.sequenceId i.label.firstTokenIndex = none := by
  cases hown : c.findBindingAtTokenOffset s.sequenceId i.label.firstTokenIndex with
  | none => rfl
  | some b =>
    obtain ⟨hb, hq, -⟩ := findBindingAtTokenOffset_some hown
    rw [← binding_congr hd.bindings] at hb hq
    refine absurd ?_ (findBinding_none hnone hb hq)
    rw [binding_congr hd.bindings, hd.own b hown]

theorem Finds.freeBindingCount_eq_zero (h : c.Consistent)
    (hnone : d.findFreeBinding = none) : c.freeBindingCount = 0 := by
  rw [freeBindingCount, ← hd.bindings]
  exact (hd.reaches.consistent h).freeBindingCount_of_findFreeBinding hnone

variable (hacquired : d.Acquired s.sequenceId k s.epoch d')
include hacquired

theorem Finds.retains {c₀ : PrefixCache} {t' : Nat} (ht : i.label.firstTokenIndex < t')
    (hr : c₀.Retains i.label.firstTokenIndex c) : c₀.Retains t' d' := by
  have hr' : c₀.Retains i.label.firstTokenIndex d := by
    rcases hd.installs with ⟨rfl, -⟩ | ⟨-, ⟨p, hi⟩, hfree⟩
    · exact hr
    · exact hr.installs hi hfree
  rcases hacquired with ⟨hq, -⟩ | ⟨hb, -⟩
  · have hq := hr'.quiet hq
    exact { hq with shared := fun k hk => ⟨(hq.shared k hk).1, fun hat =>
      (hq.shared k hk).2 (ht.le.trans hat)⟩ }
  · exact hr'.binds hb (hd.firstTokenIndex ▸ ht) ht.le

variable (h : c.Consistent)
include h

theorem Finds.binds
    (hown : c.findBindingAtTokenOffset s.sequenceId i.label.firstTokenIndex = none) :
    d.Binds k s.sequenceId s.epoch d' := by
  rcases hacquired with ⟨-, hsome⟩ | ⟨hb, -⟩
  · obtain ⟨b, hb⟩ := Option.isSome_iff_exists.mp hsome
    obtain ⟨hv, hq, rfl⟩ := findBinding_some hb
    have hfirst := ((hd.reaches.consistent h).binding_mirrors b hv).firstTokenIndex
    rw [binding_congr hd.bindings] at hv hq
    refine absurd ?_ (findBindingAtTokenOffset_none hown hv hq)
    rw [← binding_congr hd.bindings, hfirst, hd.firstTokenIndex]
  · exact hb

theorem Finds.spends : c.Spends (c.reservationCost s.sequenceId i.label mayShare)
      (c.findBindingAtTokenOffset s.sequenceId i.label.firstTokenIndex).isNone.toNat d' := by
  have h' := hd.reaches.consistent h
  unfold reservationCost
  cases hown : c.findBindingAtTokenOffset s.sequenceId i.label.firstTokenIndex with
  | some b =>
    rcases hd.installs with ⟨rfl, -⟩ | ⟨hnone, -⟩
    · rcases hacquired with ⟨hq, -⟩ | ⟨-, hnone⟩
      · exact hq.spends h
      · simp [hd.own_eq_none hnone] at hown
    · simp [findForReservation_none h hnone] at hown
  | none =>
    have hb := hd.binds hacquired h hown
    rcases hd.installs with ⟨rfl, hfind⟩ | ⟨hnone, ⟨p, hi⟩, hfree⟩
    · have hspends := hb.spends h
      have hfound := findForReservation_cases h hfind
      simp only [hown, reduceCtorEq, false_and, exists_false, true_and, false_or] at hfound
      obtain ⟨hvalid, -, hpending, -⟩ := isReusable_iff.mp (findEntry_some hfound).2
      rw [stays_iff hvalid hpending] at hspends
      simpa [hfind] using hspends
    · have hspends := (hi.spends h hfree).trans (hb.spends h')
      simpa [hnone, Entry.isAvailable, hd.chosen.valid, (hd.installed hnone).pending] using hspends

theorem Finds.holds : ∃ b, HoldsBlock c s.sequenceId i.label d' b ∧
    (d'.binding b).entryIndex = k := by
  have hfind := findBindingAtTokenOffset_congr hd.bindings s.sequenceId
  cases hown : c.findBindingAtTokenOffset s.sequenceId i.label.firstTokenIndex with
  | some b =>
    have hk := hd.own b hown
    rcases hacquired with ⟨hquiet, -⟩ | ⟨-, hnone⟩
    · refine ⟨b, ⟨by rw [hquiet.findBindingAtTokenOffset, hfind, hown], fun b' hb' => ?_,
        fun hnone => by simp [hown] at hnone⟩, ?_⟩
      · rw [hown] at hb'
        exact Option.some.inj hb'
      · rw [hquiet.binding_eq Binding.entryIndex, binding_congr hd.bindings, hk]
    · simp [hd.own_eq_none hnone] at hown
  | none =>
    have hunbound : d.UnboundAt s.sequenceId k := by
      rw [UnboundAt, hd.firstTokenIndex]
      exact findBindingAtTokenOffset_eq_none.mp ((hfind _).trans hown)
    have hb := hd.binds hacquired h hown
    obtain ⟨pending, hself⟩ := hb.binding_self
    have hk : (d'.binding d.freeBindingHead).entryIndex = k := by
      rw [hself]
      rfl
    refine ⟨d.freeBindingHead, ⟨?_, fun b' hb' => by simp [hown] at hb', fun _ => ?_⟩, hk⟩
    · rw [← hd.firstTokenIndex]
      exact hb.findBindingAtTokenOffset_self hunbound
    · rw [hk, hb.entry_eq Entry.label]
      exact hd.label hown

end

theorem reserveBlock_wp (h : c.Consistent) (hepoch : s.epoch ≤ c.operationEpoch)
    (hinstalls : ∀ i, ReservedBlock c.blockTokenCount tokenIds allow i → s.installs i)
    (hcursor : cursor.At c.blockTokenCount tokenIds j)
    (hlt : j * c.blockTokenCount < tokenCountOf tokenIds) :
    wp (reserveBlock s.sequenceId tokenIds allow s.epoch cursor)
      (ReservesBlock s c tokenIds allow j cursor)
      (fun e c' => s.Reaches c c' ∧ e = .capacityExceeded ∧ c.lacks s.sequenceId j ∧
        (c.supply < c.blockCost s.sequenceId tokenIds allow j ∨ c.freeBindingCount = 0)) c := by
  obtain ⟨parentHash, tokenOffset, reservation⟩ := cursor
  obtain ⟨rfl, rfl⟩ : parentHash = chainHash c.blockTokenCount tokenIds j ∧
      tokenOffset = j * c.blockTokenCount := ⟨hcursor.parentHash, hcursor.tokenOffset⟩
  unfold reserveBlock
  simp only [wp_bind, wp_get, wp_set, wp_pure]
  refine wp_mono (findOrInstall_wp h (reservedInstallation_fits h.blockTokenCount_pos hepoch hlt)
    rfl (hinstalls _ (reservedInstallation_reserved hlt))) (fun found d hd => ?_) ?_
  rotate_left
  · rintro _ _ ⟨hreach, hfails, hsupply, hnone⟩
    refine ⟨hreach, hfails, Option.isNone_iff_eq_none.mpr (findForReservation_none h hnone),
      .inl ?_⟩
    have hcost : c.blockCost s.sequenceId tokenIds allow j = 1 := h.reservationCost_of_none hnone
    omega
  obtain ⟨hd, hcounts⟩ := hd
  refine wp_mono (wp_and (hd.chosen.acquire_wp (hepoch.trans hd.reaches.shape.epoch_mono))
    (acquireEntryForSequence_wp hd.chosen.valid (hepoch.trans hd.reaches.shape.epoch_mono)))
    (fun _ d' hd' => ?_) (fun _ _ hd' => ⟨hd.reaches.trans hd'.1,
      have hfull := hd'.2.2 (hd.reaches.consistent h)
      ⟨hfull.1, Option.isNone_iff_eq_none.mpr (hd.own_eq_none hfull.2.1),
        .inr (hd.freeBindingCount_eq_zero h hfull.2.2)⟩⟩)
  obtain ⟨hreach, hacquired⟩ := hd'
  have htouch : d'.Quiet (d'.touchEntry found.1) := .touchEntry _
  refine ⟨(hd.reaches.trans hreach).trans (.quiet htouch), hcounts.reservationEpoch,
    fun t ht => ?_, ⟨_, congrArg (· ++ _) hcounts.physicalBlockIndices, fun hnone => ?_, ?_⟩,
    fun hfull => ?_, (hd.spends hacquired h).trans
      (htouch.spends ((hd.reaches.trans hreach).consistent h)), fun _ hr => ?_⟩
  · rw [← findBindingAtTokenOffset_congr hd.bindings]
    rcases hacquired with ⟨hq, -⟩ | ⟨hb, -⟩
    · exact hq.findBindingAtTokenOffset _ _
    · exact hb.findBindingAtTokenOffset (.inr (hd.firstTokenIndex ▸ ht.symm))
  · have huntouched := hd.installed hnone
    rcases hacquired with ⟨-, hsome⟩ | ⟨hb, -⟩
    · simp [huntouched.findBinding] at hsome
    have hunbound : d.UnboundAt s.sequenceId found.1 := by
      intro b hb hq
      rw [binding_congr hd.bindings] at hb hq ⊢
      rw [hd.firstTokenIndex]
      exact findBindingAtTokenOffset_none (findForReservation_none h hnone) hb hq
    have hheld := huntouched.heldPending hb hunbound
    rw [hd.firstTokenIndex] at hheld
    exact ⟨_, _, hheld.step (e := .quiet) ((hd.reaches.trans hreach).consistent h) trivial
      (.quiet htouch)⟩
  · obtain ⟨b, hholds, hk⟩ := hd.holds hacquired h
    have hmirrors := ((hd.reaches.trans hreach).consistent h).binding_mirrors b
      (findBindingAtTokenOffset_some hholds.found).1
    have hreusable : d'.isReusable (d'.entry found.1) = d.isReusable (d.entry found.1) := by
      rcases hacquired with ⟨hq, -⟩ | ⟨hb, -⟩
      · exact isReusable_congr hq.blockTokenCount (hq.entry_eq Entry.content _)
      · exact isReusable_congr hb.blockTokenCount (hb.entry_eq Entry.content _)
    refine ⟨b, ⟨?_, hholds.own, fun hnone => ?_⟩, ?_, hcounts.cachedPhysicalBlockCount.trans ?_⟩
    · exact (htouch.findBindingAtTokenOffset _ _).trans hholds.found
    · rw [htouch.entry_eq Entry.label]
      exact hholds.label hnone
    · rw [htouch.binding_eq Binding.physicalBlockIndex, hmirrors.physicalBlockIndex, hk]
    · rw [htouch.binding_eq Binding.entryIndex, hk,
        isReusable_congr htouch.blockTokenCount (htouch.entry_eq Entry.content _), hreusable]
  · have hmin : min c.blockTokenCount (tokenCountOf tokenIds - j * c.blockTokenCount) =
        c.blockTokenCount := by
      rw [Nat.succ_mul] at hfull
      omega
    constructor
    · rw [hmin]
      rfl
    · rw [hmin, Nat.succ_mul]
  · refine (hd.retains hacquired ?_ hr).quiet htouch
    exact Nat.mul_lt_mul_of_pos_right (Nat.lt_succ_self j) h.blockTokenCount_pos

/-- Block `i` of the prompt is neither held by the sequence nor offered for sharing. -/
structure Absent (c : PrefixCache) (sequenceId : Nat) (tokenIds : List Nat) (allow : Bool)
    (i : Nat) : Prop where
  unheld : c.UnheldAt sequenceId (i * c.blockTokenCount)
  unshared : allow →
    i * c.blockTokenCount < c.maximumReusableTokenCount (tokenCountOf tokenIds) →
    c.Unshared (promptLabel c.blockTokenCount tokenIds i)

theorem Absent.findReserved {i : Nat} (ha : c.Absent q tokenIds allow i) :
    c.findReserved q tokenIds allow i = none := by
  rw [PrefixCache.findReserved,
    findForReservation_of_none (findBindingAtTokenOffset_eq_none.mpr ha.unheld)]
  by_cases hshare : c.mayShareBlock tokenIds allow i = true
  · rw [if_pos hshare]
    simp only [mayShareBlock, Bool.and_eq_true, beq_iff_eq, decide_eq_true_eq] at hshare
    obtain ⟨⟨hallow, hfull⟩, hlt⟩ := hshare
    cases hfind : c.findEntry (c.reservedLabel tokenIds i) true with
    | none => rfl
    | some k =>
      obtain ⟨hlabel, hre⟩ := findEntry_some hfind
      refine absurd ?_ (ha.unshared hallow hlt k hre)
      rw [hlabel, reservedLabel, hfull]
      rfl
  · rw [if_neg hshare]

/-- The sequence holds a block at position `i` that may be shared. -/
def cachedAt (c : PrefixCache) (sequenceId i : Nat) : Bool :=
  (c.findBindingAtTokenOffset sequenceId (i * c.blockTokenCount)).any fun bindingIndex =>
    c.isReusable (c.entry (c.binding bindingIndex).entryIndex)

theorem cachedAt_reaches {i : Nat} (hr : s.Reaches c d) (hs : s.Adds) (h : c.Consistent)
    (hoffset : d.findBindingAtTokenOffset q (i * c.blockTokenCount) =
      c.findBindingAtTokenOffset q (i * c.blockTokenCount)) : d.cachedAt q i = c.cachedAt q i := by
  unfold cachedAt
  rw [hr.shape.blockTokenCount, hoffset]
  cases hfind : c.findBindingAtTokenOffset q (i * c.blockTokenCount) with
  | none => rfl
  | some =>
    have hkeeps := hr.keeps hs h (findBindingAtTokenOffset_some hfind).1
    simp only [Option.any_some, Binding.eq_of_core hkeeps.binding Binding.entryIndex]
    exact isReusable_congr hr.shape.blockTokenCount hkeeps.entry

/-! ### The account of a reservation -/

/-- If nobody holds the entry found for a label, nobody holds another one of that label. -/
def SharesEvenly (c : PrefixCache) (label : BlockLabel) : Prop :=
  ∀ k ∈ c.findEntry label true, (c.entry k).referenceCount = 0 →
    ∀ e ∈ c.entries, c.isReusable e → e.label = label → e.referenceCount = 0

instance (c : PrefixCache) (label : BlockLabel) : Decidable (c.SharesEvenly label) :=
  inferInstanceAs (Decidable (∀ k ∈ c.findEntry label true, _ → _))

theorem Retains.shared_before (hr : c.Retains t d) (hfind : d.findEntry label true = some k) :
    (c.entry k).label = label ∧ c.isReusable (c.entry k) = true := by
  obtain ⟨hlabel, hre⟩ := findEntry_some hfind
  have hcontent := (hr.shared k hre).1
  rw [isReusable_congr hr.blockTokenCount hcontent] at hre
  exact ⟨(Entry.eq_of_content hcontent Entry.label).symm.trans hlabel, hre⟩

theorem Retains.findEntry_of_stays (hr : c.Retains t d) (hfind : c.findEntry label true = some k)
    (hstays : c.Stays k) : d.findEntry label true = some k ∧ d.Stays k := by
  obtain ⟨hlabel, hre⟩ := findEntry_some hfind
  obtain ⟨hcontent, hle⟩ := hr.kept k hre hstays
  have hre₁ : d.isReusable (d.entry k) = true := by
    rwa [isReusable_congr hr.blockTokenCount hcontent]
  obtain ⟨k', hk', hfind'⟩ := exists_findEntry hre₁
    ((Entry.eq_of_content hcontent Entry.label).trans hlabel)
  obtain ⟨hlabel', hre'⟩ := hr.shared_before hfind'
  obtain ⟨k'', hk'', hfind''⟩ := exists_findEntry hre' hlabel'
  obtain rfl := Option.some.inj (hfind.symm.trans hfind'')
  obtain rfl := le_antisymm hk' hk''
  exact ⟨hfind', fun hevicts => (hstays (hr.evicts.mp hevicts)).trans_le hle⟩

theorem Retains.not_stays (hr : c.Retains t d) (heven : c.SharesEvenly label)
    (hfind : c.findEntry label true = some k) (hstays : ¬c.Stays k)
    (hat : t ≤ label.firstTokenIndex) {k' : Nat} (hfind' : d.findEntry label true = some k') :
    ¬d.Stays k' := by
  obtain ⟨hevicts, hcount⟩ := Classical.not_imp.mp hstays
  obtain ⟨hlabel', hre'⟩ := hr.shared_before hfind'
  have hmem : c.entry k' ∈ c.entries := by
    rw [PrefixCache.entry, getD_eq_getElem _ _
      (lt_entries_length_of_valid (isReusable_iff.mp hre').1)]
    exact getElem_mem _
  have hzero := heven k hfind (Nat.eq_zero_of_not_pos hcount) _ hmem hre' hlabel'
  have hsame := (hr.shared k' (findEntry_some hfind').2).2 (by
    rw [show (d.entry k').firstTokenIndex = label.firstTokenIndex from
      congrArg BlockLabel.firstTokenIndex (findEntry_some hfind').1]
    exact hat)
  exact fun hstays' => absurd (hstays' (hr.evicts.mpr hevicts)) (by omega)

theorem Retains.reservationCost (hr : c.Retains t d)
    (hlacks : (d.findBindingAtTokenOffset q t).isNone = (c.findBindingAtTokenOffset q t).isNone)
    (hat : label.firstTokenIndex = t) :
    d.reservationCost q label mayShare ≤ c.reservationCost q label mayShare ∧
      (c.SharesEvenly label →
        c.reservationCost q label mayShare ≤ d.reservationCost q label mayShare) := by
  unfold PrefixCache.reservationCost
  rw [hat]
  cases hc : c.findBindingAtTokenOffset q t with
  | some b =>
    rw [hc] at hlacks
    obtain ⟨b', hd⟩ := Option.isSome_iff_exists.mp (Option.isNone_eq_false_iff.mp hlacks)
    simp [hd]
  | none =>
    rw [hc] at hlacks
    have hd := Option.isNone_iff_eq_none.mp hlacks
    rw [hd, findForReservation_of_none (hat ▸ hd), findForReservation_of_none (hat ▸ hc)]
    cases mayShare with
    | false => simp
    | true =>
      simp only [Option.isSome_none, Bool.false_eq_true, if_false, if_true]
      cases hfind : c.findEntry label true with
      | none =>
        cases hfind' : d.findEntry label true with
        | none => simp
        | some k =>
          obtain ⟨hlabel, hre⟩ := hr.shared_before hfind'
          obtain ⟨k', -, hk'⟩ := exists_findEntry hre hlabel
          simp [hfind] at hk'
      | some k =>
        by_cases hstays : c.Stays k
        · obtain ⟨hfind', hstays'⟩ := hr.findEntry_of_stays hfind hstays
          simp [hfind', hstays, hstays']
        · cases hfind' : d.findEntry label true with
          | none => simp [hstays]
          | some k' =>
            have hnot := fun heven => hr.not_stays heven hfind hstays hat.ge hfind'
            by_cases hstays' : d.Stays k'
            · simpa [hstays, hstays'] using hnot
            · simp [hstays, hstays']

theorem Retains.blockCost (hr : c.Retains (j * c.blockTokenCount) d) (tokenIds : List Nat)
    (allow : Bool) (hlacks : d.lacks q j = c.lacks q j) :
    d.blockCost q tokenIds allow j ≤ c.blockCost q tokenIds allow j ∧
      (c.SharesEvenly (c.reservedLabel tokenIds j) →
        c.blockCost q tokenIds allow j ≤ d.blockCost q tokenIds allow j) := by
  have hlabel : d.reservedLabel tokenIds j = c.reservedLabel tokenIds j := by
    rw [reservedLabel, hr.blockTokenCount]
    rfl
  have hshare : d.mayShareBlock tokenIds allow j = c.mayShareBlock tokenIds allow j := by
    rw [mayShareBlock, maximumReusableTokenCount, hr.blockTokenCount]
    rfl
  rw [PrefixCache.blockCost, PrefixCache.blockCost, hlabel, hshare]
  refine hr.reservationCost ?_ rfl
  simpa only [PrefixCache.lacks, hr.blockTokenCount] using hlacks

/-- The first `j` blocks have taken the bindings they lacked and at most their cost, and exactly
that when shared evenly. -/
structure Charged (c : PrefixCache) (sequenceId : Nat) (tokenIds : List Nat) (allow : Bool)
    (j : Nat) (d : PrefixCache) : Prop where
  retains : c.Retains (j * c.blockTokenCount) d
  spends : ∃ m, c.Spends m ((List.range j).countP (c.lacks sequenceId)) d ∧
    m ≤ ((List.range j).map (c.blockCost sequenceId tokenIds allow)).sum ∧
    ((∀ i < j, c.SharesEvenly (c.reservedLabel tokenIds i)) →
      ((List.range j).map (c.blockCost sequenceId tokenIds allow)).sum ≤ m)

theorem Charged.refl (c : PrefixCache) : c.Charged q tokenIds allow 0 c :=
  ⟨⟨⟨rfl, rfl, rfl, rfl, le_rfl⟩, rfl, fun _ _ _ => ⟨rfl, le_rfl⟩, fun _ _ => ⟨rfl, fun _ => rfl⟩⟩,
    0, ⟨rfl, rfl⟩, le_rfl, fun _ => le_rfl⟩

theorem Charged.of_nextEpoch {epoch : Nat} (hle : c.operationEpoch ≤ epoch)
    (hc : Charged { c with operationEpoch := epoch } q tokenIds allow j d) :
    c.Charged q tokenIds allow j d := by
  obtain ⟨⟨hshape, harena, hkept, hshared⟩, m, ⟨hsupply, hbindings⟩, hcost⟩ := hc
  exact ⟨⟨⟨hshape.blockTokenCount, hshape.physicalBlockCount, hshape.entryCount,
    hshape.bindingCount, hle.trans hshape.epoch_mono⟩, harena, hkept, hshared⟩, m,
    ⟨hsupply, hbindings⟩, hcost⟩

theorem Charged.next {cursor' : ReserveCursor} (hc : c.Charged s.sequenceId tokenIds allow j d)
    (hb : ReservesBlock s d tokenIds allow j cursor cursor' d')
    (hlacks : d.lacks s.sequenceId j = c.lacks s.sequenceId j)
    (hblock : d.blockTokenCount = c.blockTokenCount) :
    c.Charged s.sequenceId tokenIds allow (j + 1) d' := by
  obtain ⟨hr, m, hspends, hle, hge⟩ := hc
  obtain ⟨hcost, hcost'⟩ := hr.blockCost tokenIds allow hlacks
  have hretains := hb.retains c
  have hspends' := hspends.trans hb.spends
  rw [hblock] at hretains
  rw [hlacks] at hspends'
  refine ⟨hretains hr, m + d.blockCost s.sequenceId tokenIds allow j, ?_, ?_, fun heven => ?_⟩
  · rw [range_succ, countP_append, countP_singleton]
    cases hcase : c.lacks s.sequenceId j <;> rwa [hcase] at hspends'
  · rw [sum_range_succ]
    omega
  · have hge := hge fun i hi => heven i (Nat.lt_succ_of_lt hi)
    have hcost' := hcost' (heven j (Nat.lt_succ_self j))
    rw [sum_range_succ]
    omega

/-- What the first `j` rounds of a reservation leave. -/
structure ReservedTo (s : Scope) (c : PrefixCache) (tokenIds : List Nat) (allow : Bool)
    (j : Nat) (r : Reservation) (d : PrefixCache) : Prop where
  reaches : s.Reaches c d
  length : r.physicalBlockIndices.length = j
  reservationEpoch : r.reservationEpoch = s.epoch
  later : ∀ i, j ≤ i → d.findBindingAtTokenOffset s.sequenceId (i * c.blockTokenCount) =
    c.findBindingAtTokenOffset s.sequenceId (i * c.blockTokenCount)
  holds : s.Adds → ∀ i < j, ∃ b, r.physicalBlockIndices[i]? =
      some (d.binding b).physicalBlockIndex ∧
    HoldsBlock c s.sequenceId (c.reservedInstallation tokenIds allow s.epoch i).label d b
  cached : s.Adds → r.cachedPhysicalBlockCount = (List.range j).countP (d.cachedAt s.sequenceId)
  held : s.Adds → ∀ i < j, c.Absent s.sequenceId tokenIds allow i →
    ∃ p b k, r.physicalBlockIndices[i]? = some p ∧
      d.HeldPending s.sequenceId s.epoch (i * c.blockTokenCount) p b k
  charged : c.Charged s.sequenceId tokenIds allow j d

theorem Absent.of_reaches {i : Nat} (ha : c.Absent s.sequenceId tokenIds allow i)
    (hr : s.Reaches c d) (hs : s.Adds) (hunheld : d.UnheldAt s.sequenceId (i * c.blockTokenCount)) :
    d.Absent s.sequenceId tokenIds allow i := by
  have hshape := hr.shape
  constructor
  · rw [hshape.blockTokenCount]
    exact hunheld
  · intro hallow hlt
    unfold maximumReusableTokenCount at hlt
    rw [hshape.blockTokenCount] at hlt ⊢
    exact (ha.unshared hallow hlt).reaches hs.keeps hr

theorem ReservedTo.lacks (hr : ReservedTo s c tokenIds allow j r d) :
    d.lacks s.sequenceId j = c.lacks s.sequenceId j := by
  rw [PrefixCache.lacks, hr.reaches.shape.blockTokenCount, hr.later j le_rfl]
  rfl

theorem ReservedTo.next {cursor' : ReserveCursor}
    (hr : ReservedTo s c tokenIds allow j cursor.reservation d) (h : c.Consistent)
    (hb : ReservesBlock s d tokenIds allow j cursor cursor' d') :
    ReservedTo s c tokenIds allow (j + 1) cursor'.reservation d' := by
  have hshape := hr.reaches.shape
  obtain ⟨p, hlisted, hheld, b, hholds, hp, hcached⟩ := hb.listed
  have hoffsets i (hi : i ≠ j) : d'.findBindingAtTokenOffset s.sequenceId (i * c.blockTokenCount) =
        d.findBindingAtTokenOffset s.sequenceId (i * c.blockTokenCount) := by
    refine hb.offsets _ fun heq => hi ?_
    rw [hshape.blockTokenCount] at heq
    exact Nat.eq_of_mul_eq_mul_right h.blockTokenCount_pos heq
  refine ⟨hr.reaches.trans hb.reaches, by simp [hlisted, hr.length],
    hb.reservationEpoch.trans hr.reservationEpoch, fun i hi => ?_, fun hs i hi => ?_, fun hs => ?_,
    fun hs i hi ha => ?_, ?_⟩
  · exact (hoffsets i (by omega)).trans (hr.later i (Nat.le_of_succ_le hi))
  · rcases Nat.lt_succ_iff_lt_or_eq.mp hi with hi | rfl
    · obtain ⟨b, hp, hholds⟩ := hr.holds hs i hi
      refine ⟨b, ?_, hholds.reaches hb.reaches hs (hr.reaches.consistent h) (hoffsets i hi.ne)⟩
      have hkeeps := hb.reaches.keeps hs (hr.reaches.consistent h)
        (findBindingAtTokenOffset_some hholds.found).1
      rw [hlisted, List.getElem?_append_left (by rw [hr.length]; exact hi), hp,
        Binding.eq_of_core hkeeps.binding Binding.physicalBlockIndex]
    · refine ⟨b, by rw [hlisted, hp, ← hr.length, List.getElem?_concat_length], ?_⟩
      have hsame := hr.later i le_rfl
      rw [show d.reservedInstallation tokenIds allow s.epoch i =
        c.reservedInstallation tokenIds allow s.epoch i by
          simp only [reservedInstallation, reservedLabel, hshape.blockTokenCount]] at hholds
      exact ⟨hholds.found, fun b' hb' => hholds.own b' (hsame.trans hb'),
        fun hnone => hholds.label (hsame.trans hnone)⟩
  · have hself : d'.cachedAt s.sequenceId j =
        d'.isReusable (d'.entry (d'.binding b).entryIndex) := by
      have hfound : d'.findBindingAtTokenOffset s.sequenceId (j * d.blockTokenCount) = some b :=
        hholds.found
      rw [cachedAt, hb.reaches.shape.blockTokenCount, hfound]
      rfl
    rw [range_succ, countP_append, countP_singleton, hcached, hr.cached hs, hself]
    congr 1
    · refine countP_congr fun i hi => ?_
      rw [cachedAt_reaches hb.reaches hs (hr.reaches.consistent h)]
      rw [hshape.blockTokenCount]
      exact hoffsets i (mem_range.mp hi).ne
    · cases d'.isReusable (d'.entry (d'.binding b).entryIndex) <;> rfl
  · rcases Nat.lt_succ_iff_lt_or_eq.mp hi with hi | rfl
    · obtain ⟨p', b, k, hp, hheld'⟩ := hr.held hs i hi ha
      refine ⟨p', b, k, ?_, hheld'.evolves (hr.reaches.consistent h)
        (.mono (fun _ _ ha => ha.spares_own hs) hb.reaches)⟩
      rw [hlisted, List.getElem?_append_left (by rw [hr.length]; exact hi)]
      exact hp
    have hunheld := findBindingAtTokenOffset_eq_none.mp
      ((hr.later i le_rfl).trans (findBindingAtTokenOffset_eq_none.mpr ha.unheld))
    have hnone := (ha.of_reaches hr.reaches hs hunheld).findReserved
    obtain ⟨b, k, hheld⟩ := hheld hnone
    rw [hshape.blockTokenCount] at hheld
    refine ⟨p, b, k, ?_, hheld⟩
    rw [hlisted, ← hr.length]
    simp
  · exact hr.charged.next hb hr.lacks hshape.blockTokenCount

/-- The blocks of a prompt that the sequence does not hold. -/
def neededBlockCount (c : PrefixCache) (sequenceId : Nat) (tokenIds : List Nat) : Nat :=
  (List.range (c.ceilBlockCount (tokenCountOf tokenIds))).countP (c.lacks sequenceId)

/-- What the blocks of a prompt take of the supply. -/
def demand (c : PrefixCache) (sequenceId : Nat) (tokenIds : List Nat)
    (allowCrossSequenceReuse : Bool) : Nat :=
  ((List.range (c.ceilBlockCount (tokenCountOf tokenIds))).map
    (c.blockCost sequenceId tokenIds allowCrossSequenceReuse)).sum

/-- Too few blocks or bindings are left for a prompt. -/
def Lacking (c : PrefixCache) (sequenceId : Nat) (tokenIds : List Nat)
    (allowCrossSequenceReuse : Bool) : Prop :=
  c.supply < c.demand sequenceId tokenIds allowCrossSequenceReuse ∨
    c.freeBindingCount < c.neededBlockCount sequenceId tokenIds

theorem ReservedTo.lacking (hr : ReservedTo s c tokenIds allow j r d)
    (hj : j < c.ceilBlockCount (tokenCountOf tokenIds)) (hlacks : d.lacks s.sequenceId j)
    (hempty : d.supply < d.blockCost s.sequenceId tokenIds allow j ∨ d.freeBindingCount = 0) :
    c.Lacking s.sequenceId tokenIds allow := by
  obtain ⟨hretains, m, ⟨hsupply, hbindings⟩, hle, -⟩ := hr.charged
  have hsub := range_sublist.mpr (Nat.succ_le_of_lt hj)
  refine hempty.imp (fun hempty => ?_) fun hempty => ?_
  · have hcost := (hretains.blockCost tokenIds allow hr.lacks).1
    have hsum := (hsub.map (c.blockCost s.sequenceId tokenIds allow)).sum_le_sum (by simp)
    rw [sum_range_succ] at hsum
    unfold demand
    omega
  · rw [hr.lacks] at hlacks
    have hcount := hsub.countP_le (p := c.lacks s.sequenceId)
    rw [range_succ, countP_append, countP_singleton, if_pos hlacks] at hcount
    unfold neededBlockCount
    omega

theorem reserveBlocks_wp (h : c.Consistent) (hepoch : s.epoch ≤ c.operationEpoch)
    (hinstalls : ∀ i, ReservedBlock c.blockTokenCount tokenIds allow i → s.installs i)
    (hcursor : cursor.At c.blockTokenCount tokenIds 0)
    (hstart : ReservedTo s c tokenIds allow 0 cursor.reservation c) :
    wp (iterate (reserveBlock s.sequenceId tokenIds allow s.epoch)
        (c.ceilBlockCount (tokenCountOf tokenIds)) cursor)
      (fun cursor' c' => ReservedTo s c tokenIds allow
        (c.ceilBlockCount (tokenCountOf tokenIds)) cursor'.reservation c')
      (fun e c' => s.Reaches c c' ∧ e = .capacityExceeded ∧
        c.Lacking s.sequenceId tokenIds allow) c := by
  have hpos := h.blockTokenCount_pos
  refine wp_post (wp_iterate (fun rounds cursor' d =>
      ∃ j, j + rounds = c.ceilBlockCount (tokenCountOf tokenIds) ∧
        ReservedTo s c tokenIds allow j cursor'.reservation d ∧
        (rounds ≠ 0 → cursor'.At c.blockTokenCount tokenIds j)) ?_
      ⟨0, Nat.zero_add _, hstart, fun _ => hcursor⟩) fun _ _ ⟨j, hj, hd, _⟩ => hj ▸ hd
  rintro rounds cursor' d ⟨j, hj, hd, hat⟩
  have hat := hat (Nat.succ_ne_zero rounds)
  have hshape := hd.reaches.shape
  have hjlt := (lt_ceilBlockCount_iff hpos (j := j) (n := tokenCountOf tokenIds)).mp (by omega)
  rw [← hshape.blockTokenCount] at hat hinstalls hjlt
  refine wp_mono (reserveBlock_wp (hd.reaches.consistent h) (hepoch.trans hshape.epoch_mono)
    hinstalls hat hjlt) (fun cursor'' d' hd' => ?_) (fun _ _ hd' => ⟨hd.reaches.trans hd'.1,
      hd'.2.1, hd.lacking (by omega) hd'.2.2.1 hd'.2.2.2⟩)
  refine ⟨j + 1, by omega, hd.next h hd', fun hrounds => ?_⟩
  have hnext := hd'.next
  rw [hshape.blockTokenCount] at hnext
  exact hnext ((lt_ceilBlockCount_iff hpos).mp (by omega)).le

end Reserve

/-- Why a reservation fails: its arguments are bad, or there is not enough for it. -/
def RefusedFor (c : PrefixCache) (sequenceId : Nat) (tokenIds : List Nat) (allow : Bool)
    (e : PrefixCacheError) : Prop :=
  e = .invalidArgument ∧ (tokenIds = [] ∨ sequenceId = 0) ∨
    e = .capacityExceeded ∧ c.Lacking sequenceId tokenIds allow

theorem RefusedFor.not_internal {allow : Bool} {e : PrefixCacheError}
    (h : c.RefusedFor q tokenIds allow e) : e ≠ .internalError := by
  rcases h with ⟨rfl, -⟩ | ⟨rfl, -⟩ <;> decide

theorem reservePromptInternal_wp {allow : Bool} (h : c.Consistent)
    (hepoch : s.epoch = c.operationEpoch + 1) (hrollsBack : s.rollsBack)
    (hinstalls : ∀ i, ReservedBlock c.blockTokenCount tokenIds allow i → s.installs i) :
    wp (reservePromptInternal s.sequenceId tokenIds allow)
      (fun r c' => ReservedTo s.forward c tokenIds allow
        (c.ceilBlockCount (tokenCountOf tokenIds)) r c' ∧
        r.reservedTokenCount = tokenCountOf tokenIds ∧ s.epoch ≤ c'.operationEpoch)
      (fun e c' => s.Withdraws c c' ∧ c.RefusedFor s.sequenceId tokenIds allow e) c := by
  unfold reservePromptInternal
  rw [wp_ite]
  refine ⟨fun hbad => ⟨h.withdraws hepoch, .inl ⟨rfl, hbad.imp_left isEmpty_iff.mp⟩⟩,
    fun _ => ?_⟩
  rw [wp_read, wp_bind, nextOperationEpoch_wp, wp_bind, ← hepoch]
  have hnext : c.Quiet { c with operationEpoch := s.epoch } := hepoch ▸ .nextEpoch
  refine wp_mono (wp_onError_rollback (h.quiet hnext) hrollsBack (fun _ _ hd => hd.1)
    (reserveBlocks_wp (s := s.forward) (h.quiet hnext) le_rfl hinstalls
      ⟨rfl, (Nat.zero_mul _).symm⟩ ⟨.refl _, rfl, rfl, fun _ _ => rfl,
        fun _ i hi => absurd hi (Nat.not_lt_zero i), fun _ => rfl,
        fun _ i hi => absurd hi (Nat.not_lt_zero i), .refl _⟩))
    (fun _ d hd => ?_) (fun _ d hd => ?_)
  · exact ⟨⟨(Scope.Reaches.quiet hnext).trans hd.reaches, hd.length, hd.reservationEpoch, hd.later,
      fun hs i hi => (hd.holds hs i hi).imp fun _ hb => ⟨hb.1, hb.2.found, hb.2.own, hb.2.label⟩,
      hd.cached, fun hs i hi ha => hd.held hs i hi ⟨ha.unheld, ha.unshared⟩,
      hd.charged.of_nextEpoch (hepoch ▸ Nat.le_succ _)⟩, rfl, hd.reaches.shape.epoch_mono⟩
  · obtain ⟨hback, -, -, hfails, hlacking⟩ := hd
    exact ⟨hback.of_quiet hnext, .inr ⟨hfails, hlacking⟩⟩

theorem cancelReservation_wp (h : c.Consistent) (hrollsBack : s.rollsBack) :
    ends (cancelReservation s.sequenceId s.epoch) (s.Reaches c) c := by
  unfold cancelReservation
  rw [ends, wp_ite]
  exact ⟨fun _ => .refl c, fun _ => wp_total (rollbackEpoch_wp h hrollsBack) fun _ _ hd => hd⟩

theorem commitPrompt_wp (h : c.Consistent)
    (hepoch : s.epoch = c.operationEpoch + 1) (hrollsBack : s.rollsBack) (hcommits : s.commits)
    (hinstalls : ∀ i, ReservedBlock c.blockTokenCount tokenIds true i → s.installs i) :
    ends (commitPrompt s.sequenceId tokenIds) (s.Reaches c) c := by
  unfold commitPrompt reservePrompt
  rw [ends, wp_bind]
  refine wp_mono (reservePromptInternal_wp h hepoch hrollsBack hinstalls) (fun r d hd => ?_)
    (fun _ _ hd => hd.1.1)
  have hreach := hd.1.reaches.of_forward
  have hreservation : r.reservationEpoch = s.epoch := hd.1.reservationEpoch
  rw [wp_bind, wp_onError, hreservation]
  refine wp_mono (commitReservation_wp hcommits) (fun _ d' hd' => hreach.trans hd')
    (fun _ d' hd' => hreach.trans (hd'.trans ?_))
  exact wp_finalState (cancelReservation_wp (hd'.consistent (hreach.consistent h)) hrollsBack)

end SparkPipe.PrefixCache
