import SparkPipe.Core.PrefixCache.Reserving

/-!
# Growing, forking and releasing

A growth adds private blocks behind those of a sequence, a fork binds a sequence to the blocks of
another one, and a release gives up what a sequence holds.
-/

open Program

namespace SparkPipe.PrefixCache

variable {c c' : PrefixCache} {b epoch k q t : Nat} {s : Scope} {i : Installation} {n j : Nat}
  {e : Event}

/-- The sequence alone holds the private entry `k`, through binding `b`. -/
structure HeldAlone (c : PrefixCache) (sequenceId b k : Nat) : Prop where
  valid : (c.binding b).valid
  sequenceId : (c.binding b).sequenceId = sequenceId
  entryIndex : (c.binding b).entryIndex = k
  liveOnly : (c.entry k).liveOnly
  committed : (c.entry k).pending = false
  unshared : (c.entry k).referenceCount = 1

theorem HeldAlone.congr (hh : c.HeldAlone q b k)
    (hb : { (c'.binding b).core with tokenCount := 0 } =
      { (c.binding b).core with tokenCount := 0 })
    (hk : { (c'.entry k).core with tokenCount := 0, reusable := false } =
      { (c.entry k).core with tokenCount := 0, reusable := false }) : c'.HeldAlone q b k := by
  simp only [Binding.core, Entry.core, Binding.mk.injEq, Entry.mk.injEq] at hb hk
  constructor <;> simp only [hb, hk]
  exacts [hh.valid, hh.sequenceId, hh.entryIndex, hh.liveOnly, hh.committed, hh.unshared]

theorem HeldAlone.step (hh : c.HeldAlone s.sequenceId b k) (h : c.Consistent)
    (hfresh : s.fresh) (ha : s.forward.Allows c e) (hs : Step c e c') :
    c'.HeldAlone s.sequenceId b k := by
  cases hs with
  | quiet hq =>
    exact hh.congr (hq.binding_eq (fun x => { x.core with tokenCount := 0 }) b)
      (hq.entry_eq (fun e => { e.core with tokenCount := 0, reusable := false }) k)
  | @install _ k' p i hi =>
    have hne : k ≠ k' := hh.entryIndex ▸ h.unbound_of_installs hi hh.valid
    exact hh.congr (by rw [binding_congr hi.bindings]) (by rw [hi.entry_of_ne k hne])
  | @bind _ k' _ _ hb =>
    have hne : k ≠ k' := by
      -- the sequence already holds a binding at the offset of `k`
      rintro rfl
      have hm := h.binding_mirrors b hh.valid
      rw [hh.entryIndex] at hm
      exact ha.2.2.2 hfresh b hh.valid (hh.sequenceId.trans ha.1.symm) hm.firstTokenIndex
    exact hh.congr (by rw [hb.binding_of_valid hh.valid]) (by rw [hb.entry_of_ne k hne])
  | @commit _ k' hc =>
    have hne : k ≠ k' := by
      rintro rfl
      exact absurd hc.pending (by simp [hh.committed])
    exact hh.congr (by rw [binding_congr hc.bindings]) (by rw [hc.entry_of_ne k hne])
  | @grow _ b' k' hg =>
    refine hh.congr ?_ ?_
    · by_cases hbb : b = b'
      · rw [hbb, hg.binding_self]
        rfl
      · rw [hg.binding_of_ne b hbb]
    · by_cases hkk : k = k'
      · subst hkk
        simp [hg.entry_self, hh.liveOnly, Entry.core]
      · rw [hg.entry_of_ne k hkk]
  | unbind | invalidate => exact ha.1.elim
  | reset => exact ha.elim

theorem HeldAlone.reaches (hh : c.HeldAlone s.sequenceId b k) (h : c.Consistent) (hfresh : s.fresh)
    (hr : s.forward.Reaches c c') :
    c'.HeldAlone s.sequenceId b k :=
  (Evolves.invariant (I := fun d => d.Consistent ∧ d.HeldAlone s.sequenceId b k)
    (fun _ _ _ hd ha hs => ⟨hd.1.step hs, hd.2.step hd.1 hfresh ha hs⟩) hr ⟨h, hh⟩).2

section Grow

variable {s : Scope} {tokenCount : Nat} {cursor : GrowCursor}

/-- The short block of the cursor is still the sequence's own. -/
def GrowCursor.Held (cursor : GrowCursor) (c : PrefixCache) (sequenceId : Nat) : Prop :=
  ∀ b k, cursor.short = some (b, k) → c.HeldAlone sequenceId b k

theorem checkHeldBlock_held {cursor' : GrowCursor} (hb : c.findBindingAtTokenOffset q t = some b)
    (hheld : cursor.Held c q) (hcheck : c.checkHeldBlock tokenCount cursor b = .ok cursor') :
    cursor'.Held c q := by
  obtain ⟨hvalid, hq, -⟩ := findBindingAtTokenOffset_some hb
  unfold checkHeldBlock at hcheck
  dsimp only at hcheck
  split_ifs at hcheck with hrange hbusy hshort hshared
  · cases hcheck
    simp only [not_or, Bool.not_eq_true, Bool.not_eq_false', not_not, Option.isSome_eq_false_iff,
      Option.isNone_iff_eq_none] at hshared hbusy
    intro b' k' hsome
    cases hsome
    exact ⟨hvalid, hq, rfl, by simpa using hshared.1, hbusy.2.1, hshared.2.1⟩
  · cases hcheck
    exact hheld

theorem checkHeldBlock_not_internal :
    c.checkHeldBlock tokenCount cursor b ≠ .error .internalError := by
  unfold checkHeldBlock
  dsimp only
  split_ifs <;> nofun

theorem growBlock_wp (h : c.Consistent) (hepoch : s.epoch ≤ c.operationEpoch) (hfresh : s.fresh)
    (hinstalls : ∀ i, i.liveOnly → s.installs i) (hheld : cursor.Held c s.sequenceId) :
    wp (growBlock s.sequenceId tokenCount s.epoch cursor)
      (fun cursor' c' => s.forward.Reaches c c' ∧ cursor'.Held c' s.sequenceId)
      (fun e c' => s.forward.Reaches c c' ∧ e ≠ .internalError) c := by
  unfold growBlock
  rw [wp_read]
  dsimp only
  cases hfind : c.findBindingAtTokenOffset s.sequenceId (cursor.blockIndex * c.blockTokenCount) with
  | some b =>
    dsimp only
    cases hcheck : c.checkHeldBlock tokenCount cursor b with
    | error => exact ⟨.refl c, fun he => checkHeldBlock_not_internal (hcheck.trans (he ▸ rfl))⟩
    | ok => exact ⟨.refl c, checkHeldBlock_held hfind hheld hcheck⟩
  | none =>
    simp only [wp_bind, wp_orFail, wp_pure]
    refine ⟨fun k hk => ?_, fun _ => ⟨.refl c, by simp⟩⟩
    refine wp_mono (installEntry_wp ⟨hepoch, h.blockTokenCount_pos, le_rfl, ⟨_, Nat.mul_comm _ _⟩,
      fun hno => absurd hno (by simp)⟩ (h.mayReplace hk)) (fun _ d hd => ?_)
      (fun _ _ hd => ⟨by rw [hd.1]; exact .refl c, by rw [hd.2.1]; decide⟩)
    obtain ⟨p, hi⟩ := hd
    have hreach : s.forward.Reaches c d := .step (.install hi) ⟨rfl, hinstalls _ rfl⟩
    have hchosen : Chosen s.forward d k := hi.chosen rfl hfind
    refine wp_mono (wp_and (hchosen.acquire_wp (hepoch.trans hi.epoch_mono))
      acquireEntryForSequence_not_internal) (fun _ d' hd' => ?_)
      (fun _ _ hd' => ⟨hreach.trans hd'.1, hd'.2⟩)
    exact ⟨hreach.trans hd'.1, fun b k hshort =>
      (hheld b k hshort).reaches h hfresh (hreach.trans hd'.1)⟩

theorem HeldAlone.grows (hh : c.HeldAlone q b k) (h : c.Consistent) :
    c.Grows b k (growShort b k c) := by
  have hk : (c.entry k).valid = true := hh.entryIndex ▸ (h.binding_mirrors b hh.valid).valid
  refine ⟨⟨rfl, rfl, entries_length_setEntry _ _ _, bindings_length_setBinding _ _ _, le_rfl⟩,
    hh.valid, hh.entryIndex, hh.liveOnly, hh.committed, hh.unshared,
    getD_set_self (lt_entries_length_of_valid hk), fun j hj => getD_set_of_ne hj, rfl, rfl,
    rfl, .refl _⟩

variable (h : c.Consistent) (hfresh : s.fresh) (hinstalls : ∀ i, i.liveOnly → s.installs i)
include h hfresh hinstalls

theorem growLoop_wp (hepoch : s.epoch ≤ c.operationEpoch) (blockCount : Nat) :
    wp (iterate (growBlock s.sequenceId tokenCount s.epoch) blockCount {})
      (fun cursor c' => s.forward.Reaches c c' ∧ cursor.Held c' s.sequenceId)
      (fun e c' => s.forward.Reaches c c' ∧ e ≠ .internalError) c := by
  refine wp_iterate (fun _ (cursor : GrowCursor) d => s.forward.Reaches c d ∧
    cursor.Held d s.sequenceId) (fun _ cursor d hd => ?_) ⟨.refl c, nofun⟩
  exact wp_mono (growBlock_wp (hd.1.consistent h) (hepoch.trans hd.1.shape.epoch_mono) hfresh
    hinstalls hd.2) (fun _ _ hd' => ⟨hd.1.trans hd'.1, hd'.2⟩)
    (fun _ _ hd' => ⟨hd.1.trans hd'.1, hd'.2⟩)

theorem growBlocks_wp (hepoch : s.epoch ≤ c.operationEpoch) (hcommits : s.commits)
    (blockCount : Nat) :
    wp (do
        let cursor ← iterate (growBlock s.sequenceId tokenCount s.epoch) blockCount {}
        commitReservation s.sequenceId s.epoch
        pure cursor)
      (fun cursor c' => s.forward.Reaches c c' ∧ cursor.Held c' s.sequenceId)
      (fun _ c' => s.forward.Reaches c c') c := by
  rw [wp_bind]
  refine wp_mono (growLoop_wp h hfresh hinstalls hepoch blockCount) (fun cursor d hd => ?_)
    (fun _ _ hd => hd.1)
  rw [wp_bind]
  refine wp_mono (commitReservation_wp (s := s.forward) hcommits) (fun _ d' hd' => ?_)
    (fun _ _ hd' => hd.1.trans hd')
  exact ⟨hd.1.trans hd', fun b k hshort =>
    (hd.2 b k hshort).reaches (hd.1.consistent h) hfresh hd'⟩

theorem ensureSequenceTokenCapacity_wp (hepoch : s.epoch = c.operationEpoch + 1)
    (hrollsBack : s.rollsBack) (hcommits : s.commits) :
    wp (ensureSequenceTokenCapacity s.sequenceId tokenCount)
      (fun _ c' => s.forward.Reaches c c') (fun _ c' => s.Reaches c c') c := by
  unfold ensureSequenceTokenCapacity
  rw [wp_ite]
  refine ⟨fun _ => .refl c, fun _ => ?_⟩
  rw [wp_read, wp_bind, nextOperationEpoch_wp, wp_bind, ← hepoch]
  have hnext : c.Quiet { c with operationEpoch := s.epoch } := hepoch ▸ .nextEpoch
  refine wp_mono (wp_onError_rollback (h.quiet hnext) hrollsBack (fun _ _ hd => hd)
    (growBlocks_wp (h.quiet hnext) hfresh hinstalls le_rfl hcommits _)) (fun cursor d hd => ?_)
    (fun _ d hd => (Scope.Reaches.quiet hnext).trans hd.1.1)
  have hreach : s.forward.Reaches c d := (Scope.Reaches.quiet hnext).trans hd.1
  cases hshort : cursor.short with
  | none => exact hreach
  | some short =>
    have hh := hd.2 short.1 short.2 hshort
    exact hreach.trans (.step (.grow (hh.grows (hreach.consistent h))) ⟨hcommits, hh.sequenceId⟩)

end Grow

/-! ### Forking -/

section Bind

variable {s : Scope} {sourceSequenceId tokenCount : Nat}

/-- The source holds a block at the offset, and the target holds its entry now. -/
structure BindsBlock (c : PrefixCache) (source target n epoch t b next : Nat)
    (c' : PrefixCache) : Prop where
  found : c.findBindingAtTokenOffset source t = some b
  tokenCount_pos : 0 < (c.binding b).tokenCount
  next_eq : next = t + (c.binding b).tokenCount
  next_le : next ≤ n
  committed : (c.entry (c.binding b).entryIndex).pending = false
  shared : (c' = c ∧ ∃ b', c.findBindingAtTokenOffset target t = some b' ∧
      (c.binding b').entryIndex = (c.binding b).entryIndex) ∨
    (c.Binds (c.binding b).entryIndex target epoch c' ∧ c.findBindingAtTokenOffset target t = none)

theorem bindBlock_wp {source target n : Nat} (h : c.Consistent)
    (hepoch : epoch ≤ c.operationEpoch) :
    wp (bindBlock source target n epoch t)
      (fun next c' => ∃ b, c.BindsBlock source target n epoch t b next c') (fun _ c' => c' = c)
      c := by
  unfold bindBlock
  simp only [wp_bind, wp_get, wp_orFail, wp_ite, wp_throw, wp_pure]
  refine ⟨fun b hb => ⟨fun _ => trivial, fun hlong => ⟨fun _ => trivial, fun hready =>
    ⟨fun _ => trivial, fun htarget => ?_⟩⟩⟩, fun _ => trivial⟩
  simp only [not_or, not_le, not_lt] at hlong
  obtain ⟨hvalid, -, hoffset⟩ := findBindingAtTokenOffset_some hb
  have hm := h.binding_mirrors b hvalid
  have hcommitted : (c.entry (c.binding b).entryIndex).pending = false := by
    simpa [hm.valid] using hready
  refine wp_mono (wp_outcome (acquireEntryForSequence_wp hm.valid hepoch))
    (fun _ c' hc' => ⟨b, hb, Nat.pos_of_ne_zero hlong.2.1, rfl, hlong.2.2, hcommitted, ?_⟩)
    (fun _ _ hd => hd.1.1)
  cases htar : c.findBindingAtTokenOffset target t with
  | none =>
    refine .inr ⟨?_, rfl⟩
    rcases hc'.1 with ⟨-, hsome⟩ | ⟨hbinds, -⟩
    · -- a binding of the target to the entry would be found at the offset
      obtain ⟨b', hb'⟩ := Option.isSome_iff_exists.mp hsome
      obtain ⟨hvalid', hq', hentry'⟩ := findBinding_some hb'
      have hm' := h.binding_mirrors b' hvalid'
      rw [hentry'] at hm'
      refine absurd ?_ (findBindingAtTokenOffset_none htar hvalid' hq')
      rw [hm'.firstTokenIndex, ← hm.firstTokenIndex, hoffset]
    · exact hbinds
  | some b' =>
    rw [htar] at htarget
    have hsame : (c.binding b').entryIndex = (c.binding b).entryIndex := by simpa using htarget
    obtain ⟨hvalid', hq', -⟩ := findBindingAtTokenOffset_some htar
    refine .inl ⟨?_, b', rfl, hsame⟩
    cases hbound : c.findBinding target (c.binding b).entryIndex with
    | none => exact absurd hsame (findBinding_none hbound hvalid' hq')
    | some =>
      have hacquire := hc'.2.symm.trans (acquireEntryForSequence_of_bound hlong.1 hbound)
      cases hacquire
      rfl

theorem BindsBlock.reaches {next : Nat} (h : c.Consistent)
    (hb : c.BindsBlock sourceSequenceId s.sequenceId tokenCount s.epoch t b next c') :
    s.Reaches c c' := by
  rcases hb.shared with ⟨rfl, -⟩ | ⟨hbinds, hnone⟩
  · exact .refl c'
  · obtain ⟨hvalid, -, hoffset⟩ := findBindingAtTokenOffset_some hb.found
    refine .step (.bind hbinds) ⟨rfl, rfl, fun hp => absurd hp (by simp [hb.committed]), ?_⟩
    intro _ b' hb' hq'
    rw [← (h.binding_mirrors b hvalid).firstTokenIndex, hoffset]
    exact findBindingAtTokenOffset_none hnone hb' hq'

section Rule

variable {source target n : Nat} {I : Nat → PrefixCache → Prop}
  (hready : ∀ {t d}, I t d → d.Consistent ∧ epoch ≤ d.operationEpoch)
  (hstep : ∀ {t d b next d'}, I t d → d.BindsBlock source target n epoch t b next d' → I next d')
include hready hstep

theorem wp_bindBlocks :
    ∀ (rounds t : Nat) {d : PrefixCache}, I t d → t ≤ n → n ≤ t + rounds →
      wp (bindBlocks source target n epoch rounds t) (fun _ d' => I n d')
        (fun _ d' => ∃ t, I t d') d
  | 0, t, _, hd, hle, hrounds => by
      obtain rfl : t = n := by omega
      exact hd
  | rounds + 1, t, d, hd, hle, hrounds => by
      unfold bindBlocks
      refine wp_ite.mpr ⟨fun _ => ?_, fun hend => ?_⟩
      · obtain ⟨hconsistent, hepoch⟩ := hready hd
        rw [wp_bind]
        refine wp_mono (bindBlock_wp hconsistent hepoch) ?_ fun _ _ hd' => ⟨t, hd' ▸ hd⟩
        rintro next d' ⟨b, hb⟩
        have hpos := hb.tokenCount_pos
        have hnext := hb.next_eq
        exact wp_bindBlocks rounds next (hstep hd hb) hb.next_le (by omega)
      · obtain rfl : t = n := by omega
        exact hd

theorem wp_bindCommittedPrefixFromSequence (hepoch : epoch = c.operationEpoch + 1)
    (hstart : source ≠ target → I 0 { c with operationEpoch := epoch }) :
    wp (bindCommittedPrefixFromSequence source target n)
      (fun _ d => source ≠ 0 ∧ target ≠ 0 ∧ n ≠ 0 ∧ I n d)
      (fun _ d' => d' = c ∨ ∃ t d, I t d ∧ d' = finalState (rollbackEpoch target epoch d)) c := by
  subst hepoch
  unfold bindCommittedPrefixFromSequence
  refine wp_ite.mpr ⟨fun _ => .inl rfl, fun hargs => ?_⟩
  simp only [not_or] at hargs
  obtain ⟨hsource, htarget, hne, hn⟩ := hargs
  rw [wp_bind, nextOperationEpoch_wp, wp_onError]
  refine wp_mono (wp_bindBlocks hready hstep n 0 (hstart hne) (Nat.zero_le n) (Nat.zero_add n).ge)
    (fun _ _ hd => ⟨hsource, htarget, hn, hd⟩) ?_
  rintro _ d ⟨t, hd⟩
  exact .inr ⟨t, d, hd, rfl⟩

end Rule

theorem bindCommittedPrefixFromSequence_wp (h : c.Consistent)
    (hepoch : s.epoch = c.operationEpoch + 1) (hrollsBack : s.rollsBack) :
    wp (bindCommittedPrefixFromSequence sourceSequenceId s.sequenceId tokenCount)
      (fun _ c' => s.forward.Reaches c c') (fun _ c' => s.Reaches c c') c := by
  have hnext : c.Quiet { c with operationEpoch := s.epoch } := hepoch ▸ .nextEpoch
  have hready {d} (hd : s.forward.Reaches { c with operationEpoch := s.epoch } d) :=
    hd.consistent (h.quiet hnext)
  refine wp_mono (wp_bindCommittedPrefixFromSequence (fun hd => ⟨hready hd, hd.shape.epoch_mono⟩)
    (fun hd hb => hd.trans (hb.reaches (hready hd))) hepoch fun _ => .refl _)
    (fun _ _ hd => (Scope.Reaches.quiet hnext).trans hd.2.2.2) ?_
  rintro _ _ (rfl | ⟨t, d, hd, rfl⟩)
  · exact .refl _
  · refine (Scope.Reaches.quiet hnext).trans (hd.of_forward.trans ?_)
    exact wp_finalState (wp_total (rollbackEpoch_wp (hready hd) hrollsBack) fun _ _ hd' => hd')

end Bind

/-! ### Releasing a sequence -/

/-- The bindings of the sequence go, and entries that are not offered may go. -/
def Releases (sequenceId : Nat) (c : PrefixCache) : Event → Prop
  | .unbind b => (c.binding b).sequenceId = sequenceId
  | .invalidate k => (c.entry k).reusable = false
  | _ => False

theorem releaseSequence_wp (h : c.Consistent) :
    wp (releaseSequence q) (fun _ c' => Evolves Step (Releases q) c c') (fun _ c' => c' = c) c := by
  unfold releaseSequence
  rw [wp_ite]
  refine ⟨fun _ => rfl, fun _ => ?_⟩
  rw [wp_read, wp_bind]
  refine wp_total (wp_forM (Evolves Step (Releases q) c) (.refl c) fun b _ d hd => ?_)
    fun _ d hd => wp_total (wp_forM (Evolves Step (Releases q) c) hd fun k _ d hd => ?_)
      fun _ _ hd => hd
  · rw [wp_read, wp_ite]
    refine ⟨fun hb => ?_, fun _ => hd⟩
    simp only [Bool.and_eq_true, beq_iff_eq] at hb
    exact wp_post (releaseBinding_wp (h.evolves hd) hb.1)
      fun _ _ hu => hd.trans (.single (.unbind hu) hb.2)
  · rw [wp_read, wp_ite]
    refine ⟨fun hk => ?_, fun _ => hd⟩
    simp only [Bool.and_eq_true, Bool.not_eq_true', beq_iff_eq] at hk
    exact wp_post (invalidateEntry_wp (h.evolves hd) hk.1.1 hk.2)
      fun _ _ hi => hd.trans (.single (.invalidate hi) hk.1.2)

end SparkPipe.PrefixCache
