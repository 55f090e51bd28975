import SparkPipe.Core.PrefixCache.Tables

/-!
# Sequences do not disturb each other

Sequences share the entries of the cache, its bindings and the blocks of the arena, and any
operation may evict entries to make room. What a sequence holds is changed only by operations on
its behalf and by a reset: whatever is done for the others, its block table can be built exactly
if it could before, with the same blocks, and no block of it has been handed out again meanwhile.
A reservation that is cancelled after any work for the others leaves the table of before as well.
-/

open Program

namespace SparkPipe

/-- The operations that may change what a sequence holds. The source of a fork is only read. -/
def CacheOp.concerns (q : Nat) : CacheOp → Bool
  | .lookupPrompt q' _ | .reservePrompt q' _ | .reserveSequencePrompt q' _
  | .commitReservation q' _ | .cancelReservation q' _ | .commitPrompt q' _
  | .ensureSequenceTokenCapacity q' _ | .bindCommittedPrefixFromSequence _ q' _
  | .releaseSequence q' => q' == q
  | .reset => true
  | _ => false

namespace PrefixCache

variable {c c' d : PrefixCache} {b n q epoch : Nat} {e : Event} {op : CacheOp} {s : Scope}
  {indices : List Nat} {w w' : Nat → Nat → Prop}

/-! ### Watched bindings -/

/-- A binding of a group, told by its sequence and its epoch. -/
def Watched (w : Nat → Nat → Prop) (c : PrefixCache) (b : Nat) : Prop :=
  (c.binding b).valid ∧ w (c.binding b).sequenceId (c.binding b).acquireEpoch

/-- The transitions that leave the bindings of a group alone. -/
def Avoids (w : Nat → Nat → Prop) (c : PrefixCache) : Event → Prop
  | .bind _ q epoch => ¬w q epoch
  | .unbind b | .grow b _ => ¬w (c.binding b).sequenceId (c.binding b).acquireEpoch
  | .reset => False
  | _ => True

theorem Avoids.mono (hw : ∀ q epoch, w' q epoch → w q epoch) (ha : c.Avoids w e) :
    c.Avoids w' e := by
  cases e with
  | bind | unbind | grow => exact fun h => ha (hw _ _ h)
  | reset => exact ha
  | _ => trivial

theorem Scope.Allows.avoids (ha : s.Allows c e) (hs : s.sequenceId ≠ q) :
    c.Avoids (fun q' _ => q' = q) e := by
  cases e with
  | bind => exact ha.1.trans_ne hs
  | unbind => exact ha.2.1.trans_ne hs
  | grow => exact ha.2.trans_ne hs
  | reset => exact ha
  | _ => trivial

theorem Scope.Allows.avoids_epoch (ha : s.Allows c e) (hkeeps : ¬s.commits) :
    c.Avoids (fun _ epoch => epoch ≠ s.epoch) e := by
  cases e with
  | bind => exact not_not.mpr ha.2.1
  | unbind => exact not_not.mpr ha.2.2
  | grow => exact absurd ha.1 hkeeps
  | reset => exact ha
  | _ => trivial

theorem avoids_of_allows (hop : op.concerns q = false) (ha : op.allows c d e) :
    d.Avoids (fun q' _ => q' = q) e := by
  cases op with
  | lookupPrompt | reservePrompt | reserveSequencePrompt | commitReservation | cancelReservation
  | commitPrompt | ensureSequenceTokenCapacity | bindCommittedPrefixFromSequence =>
    exact Scope.Allows.avoids ha (beq_eq_false_iff_ne.mp hop)
  | releaseSequence =>
    cases e with
    | unbind => exact Eq.trans_ne ha (beq_eq_false_iff_ne.mp hop)
    | invalidate => trivial
    | _ => exact ha.elim
  | reset => exact absurd hop Bool.true_eq_false_eq_False
  | _ => exact (show e = .quiet from ha) ▸ trivial

/-! ### What is kept -/

/-- A binding is the same, and its block has not been handed out in between. -/
def SameBinding (c c' : PrefixCache) (b : Nat) : Prop :=
  (c'.binding b).core = (c.binding b).core ∧
    c'.arena.generation (c.binding b).physicalBlockIndex =
      c.arena.generation (c.binding b).physicalBlockIndex

/-- The two states have the same bindings of a group. -/
structure Keeps (w : Nat → Nat → Prop) (c c' : PrefixCache) : Prop where
  shape : c.SameShape c'
  same : ∀ b, c.Watched w b ∨ c'.Watched w b → SameBinding c c' b

theorem SameBinding.watched (h : SameBinding c c' b) : c'.Watched w b ↔ c.Watched w b := by
  rw [Watched, Watched, Binding.eq_of_core h.1 Binding.valid,
    Binding.eq_of_core h.1 Binding.sequenceId, Binding.eq_of_core h.1 Binding.acquireEpoch]

theorem Keeps.refl (w : Nat → Nat → Prop) (c : PrefixCache) : Keeps w c c :=
  ⟨Quiet.toSameShape (.refl c), fun _ _ => ⟨rfl, rfl⟩⟩

theorem Keeps.trans (h : Keeps w c c') (h' : Keeps w c' d) : Keeps w c d := by
  refine ⟨h.shape.trans h'.shape, fun b hb => ?_⟩
  have hboth : SameBinding c c' b ∧ SameBinding c' d b := by
    rcases hb with hb | hb
    · have hsame := h.same b (.inl hb)
      exact ⟨hsame, h'.same b (.inl (hsame.watched.mpr hb))⟩
    · have hsame := h'.same b (.inr hb)
      exact ⟨h.same b (.inr (hsame.watched.mp hb)), hsame⟩
  obtain ⟨⟨hcore, hgen⟩, hcore', hgen'⟩ := hboth
  rw [Binding.eq_of_core hcore Binding.physicalBlockIndex] at hgen'
  exact ⟨hcore'.trans hcore, hgen'.trans hgen⟩

theorem same_of_write {b' : Nat} (hother : ∀ b, b ≠ b' → c'.binding b = c.binding b)
    (hgen : ∀ p, c'.arena.generation p = c.arena.generation p) (hold : ¬c.Watched w b')
    (hnew : ¬c'.Watched w b') (hb : c.Watched w b ∨ c'.Watched w b) : SameBinding c c' b := by
  have hne : b ≠ b' := by
    rintro rfl
    exact hb.elim hold hnew
  exact ⟨congrArg _ (hother b hne), hgen _⟩

theorem Keeps.step (h : c.Consistent) (ha : c.Avoids w e) (hs : Step c e c') : Keeps w c c' := by
  refine ⟨hs.shape (by rintro rfl; exact ha), fun b hb => ?_⟩
  have hvalid (heq : c'.bindings = c.bindings) : (c.binding b).valid = true := by
    simp only [Watched, binding_congr heq] at hb
    exact hb.elim And.left And.left
  have hmirrors := h.binding_mirrors b
  cases hs with
  | quiet hq => exact ⟨hq.binding b, hq.arena.generation _⟩
  | install hi =>
    have hv := hvalid hi.bindings
    refine ⟨congrArg _ (binding_congr hi.bindings b), ?_⟩
    rw [hi.arena.generation, if_neg, (hmirrors hv).physicalBlockIndex]
    exact (hmirrors hv).physicalBlockIndex ▸
      h.block_ne_of_installs hi (hmirrors hv).valid (h.unbound_of_installs hi hv)
  | bind hbinds =>
    obtain ⟨pending, hself⟩ := hbinds.binding_self
    refine same_of_write hbinds.binding_of_ne (hbinds.arena.generation_eq rfl) ?_ ?_ hb
    · simp [Watched, hbinds.free]
    · rw [Watched, hself]
      exact fun hw => ha hw.2
  | unbind hu =>
    refine same_of_write hu.binding_of_ne (hu.arena.generation_eq rfl) (fun hw => ha hw.2) ?_ hb
    simp [Watched, hu.binding_self]
  | invalidate hi =>
    have hv := hvalid hi.bindings
    refine ⟨congrArg _ (binding_congr hi.bindings b), ?_⟩
    rw [hi.arena.generation, if_neg]
    exact fun heq => h.entryIndex_ne_of_unreferenced hi.unreferenced hv
      (h.block_injective _ _ (hmirrors hv).valid hi.valid
        ((hmirrors hv).physicalBlockIndex ▸ heq))
  | commit hc => exact ⟨congrArg _ (binding_congr hc.bindings b), hc.arena.generation _⟩
  | grow hg =>
    refine same_of_write hg.binding_of_ne hg.arena.generation (fun hw => ha hw.2) ?_ hb
    rw [Watched, hg.binding_self]
    exact fun hw => ha hw.2
  | reset => exact ha.elim

theorem Keeps.evolves {allowed : PrefixCache → Event → Prop} (h : c.Consistent)
    (hev : Evolves Step allowed c c') (ha : ∀ d e, allowed d e → d.Avoids w e) : Keeps w c c' :=
  (hev.invariant (I := fun d => d.Consistent ∧ Keeps w c d)
    (fun d e _ hd he hs => ⟨hd.1.step hs, hd.2.trans (.step hd.1 (ha d e he) hs)⟩)
    ⟨h, .refl w c⟩).2

theorem Keeps.run (h : c.Consistent) {ops : List CacheOp}
    (hops : ∀ op ∈ ops, op.concerns q = false) (hw : ∀ q' epoch, w q' epoch → q' = q) :
    Keeps w c (c.run ops) :=
  (runAll_invariant_along (P := fun _ op => op.concerns q = false)
    (I := fun d => d.Consistent ∧ Keeps w c d)
    (fun op _ hop hd => ⟨hd.1.evolves (CacheOp.exec_evolves hd.1 op), hd.2.trans (.evolves hd.1
      (CacheOp.exec_evolves hd.1 op) fun _ _ ha => (avoids_of_allows hop ha).mono hw)⟩)
    ops (along_of_forall hops) ⟨h, .refl w c⟩).2

/-! ### The table of a sequence -/

/-- The table is built in both states or in none, with blocks that were not handed out in between.
-/
def SameTable (q : Nat) (c c' : PrefixCache) : Prop :=
  ∀ n indices, (buildPhysicalBlockTable q n c' = .ok indices c' ↔
      buildPhysicalBlockTable q n c = .ok indices c) ∧
    (buildPhysicalBlockTable q n c = .ok indices c → ∀ p ∈ indices,
      c'.arena.isAllocated p ∧ c'.arena.generation p = c.arena.generation p)

section

variable (h : Keeps (fun q' _ => q' = q) c c')
include h

theorem Keeps.findBindingAtTokenOffset (t : Nat) :
    c'.findBindingAtTokenOffset q t = c.findBindingAtTokenOffset q t := by
  refine findIdx?_congr_getD {} h.shape.bindingCount fun b => ?_
  change ((c'.binding b).valid && (c'.binding b).sequenceId == q &&
      (c'.binding b).firstTokenIndex == t) =
    ((c.binding b).valid && (c.binding b).sequenceId == q && (c.binding b).firstTokenIndex == t)
  by_cases hb : c.Watched (fun q' _ => q' = q) b ∨ c'.Watched (fun q' _ => q' = q) b
  · have hcore := (h.same b hb).1
    rw [Binding.eq_of_core hcore Binding.valid, Binding.eq_of_core hcore Binding.sequenceId,
      Binding.eq_of_core hcore Binding.firstTokenIndex]
  · simp only [Watched, not_or, not_and] at hb
    rw [Bool.eq_iff_iff]
    simp only [Bool.and_eq_true, beq_iff_eq]
    exact iff_of_false (fun hf => hb.2 hf.1.1 hf.1.2) fun hf => hb.1 hf.1.1 hf.1.2

theorem Keeps.heldBlock (n i : Nat) : c'.heldBlock q n i = c.heldBlock q n i := by
  rw [PrefixCache.heldBlock, PrefixCache.heldBlock, h.findBindingAtTokenOffset,
    h.shape.blockTokenCount]
  refine Option.bind_congr fun b hb => ?_
  obtain ⟨hvalid, hq, -⟩ := findBindingAtTokenOffset_some hb
  have hcore := (h.same b (.inl ⟨hvalid, hq⟩)).1
  rw [Binding.eq_of_core hcore Binding.tokenCount,
    Binding.eq_of_core hcore Binding.physicalBlockIndex]

theorem Keeps.lists : c'.Lists q n indices ↔ c.Lists q n indices := by
  have hcount : c'.ceilBlockCount n = c.ceilBlockCount n := by
    rw [ceilBlockCount, ceilBlockCount, h.shape.blockTokenCount]
  constructor
  · rintro ⟨hlength, hheld⟩
    exact ⟨hcount ▸ hlength, fun i hi => (hheld i (hcount ▸ hi)).trans (h.heldBlock n i)⟩
  · rintro ⟨hlength, hheld⟩
    exact ⟨hcount ▸ hlength, fun i hi => (hheld i (hcount ▸ hi)).trans (h.heldBlock n i).symm⟩

theorem Keeps.sameTable (hc' : c'.Consistent) : SameTable q c c' := by
  refine fun n indices => ⟨⟨fun hbuild => ?_, fun hbuild => ?_⟩, fun hbuild p hp => ?_⟩ <;>
    obtain ⟨-, hq, hn, hl⟩ := wp_ok buildPhysicalBlockTable_lists hbuild
  · exact (buildPhysicalBlockTable_eq_ok hq hn).mpr (h.lists.mp hl)
  · exact (buildPhysicalBlockTable_eq_ok hq hn).mpr (h.lists.mpr hl)
  · obtain ⟨i, hi⟩ := List.mem_iff_getElem?.mp hp
    obtain ⟨b, hb, rfl⟩ := hl.bound hi
    obtain ⟨hvalid, hbq, -⟩ := findBindingAtTokenOffset_some hb
    obtain ⟨hcore, hgeneration⟩ := h.same b (.inl ⟨hvalid, hbq⟩)
    have hmirrors := hc'.binding_mirrors b ((Binding.eq_of_core hcore Binding.valid).trans hvalid)
    refine ⟨?_, hgeneration⟩
    rw [← Binding.eq_of_core hcore Binding.physicalBlockIndex, hmirrors.physicalBlockIndex]
    exact (hc'.block_owned _ hmirrors.valid).1

end

/-- Whatever is done on behalf of other sequences, the table of a sequence stays what it is. -/
theorem sequences_are_isolated {arenaConfig : KvArenaConfig} {config : PrefixCacheConfig}
    {arena : KvArena} (ha : KvArena.new arenaConfig = .ok arena)
    (hc : PrefixCache.new config arena = .ok c) (ops others : List CacheOp) (q : Nat)
    (hothers : ∀ op ∈ others, op.concerns q = false) :
    SameTable q (c.run ops) ((c.run ops).run others) := by
  have h := (consistent_new ha hc).run ops
  exact Keeps.sameTable (.run h hothers fun _ _ hq => hq) (h.run others)

theorem sequences_are_isolated_small : ∃ arena c, KvArena.new smallArenaConfig = .ok arena ∧
    PrefixCache.new smallConfig arena = .ok c ∧
    let before := c.run [.commitPrompt 1 [1, 2, 3]]
    succeeds (buildPhysicalBlockTable 1 3 before) = true ∧
      SameTable 1 before (before.run [.commitPrompt 2 [1, 2, 4, 5], .releaseSequence 2]) := by
  refine ⟨_, _, rfl, rfl, ?_, ?_⟩
  · decide +kernel
  · exact @sequences_are_isolated _ smallArenaConfig smallConfig _ rfl rfl _ _ 1 (by decide)

/-! ### Reservations that are cancelled -/

theorem Keeps.of_epoch (h : Keeps (fun q' epoch' => q' = q ∧ epoch' ≠ epoch) c c')
    (hc : ∀ b, (c.binding b).valid → (c.binding b).sequenceId = q →
      (c.binding b).acquireEpoch ≠ epoch) (hc' : c'.Cleared q epoch) :
    Keeps (fun q' _ => q' = q) c c' :=
  ⟨h.shape, fun b hb => h.same b (hb.imp (fun hw => ⟨hw.1, hw.2, hc b hw.1 hw.2⟩)
    fun hw => ⟨hw.1, hw.2, hc'.unbound b hw.1 hw.2⟩)⟩

theorem Keeps.reaches (h : c.Consistent) (hr : s.Reaches c c') (hkeeps : ¬s.commits)
    (hepoch : epoch = s.epoch) : Keeps (fun q' epoch' => q' = q ∧ epoch' ≠ epoch) c c' :=
  .evolves h hr fun _ _ ha =>
    (Scope.Allows.avoids_epoch ha hkeeps).mono fun _ _ hw => hepoch ▸ hw.2

/-- A reservation can be cancelled after any work on behalf of other sequences, and its sequence
has the table of before then. -/
theorem cancelled_reservation_leaves_table {arenaConfig : KvArenaConfig}
    {config : PrefixCacheConfig} {arena : KvArena} (ha : KvArena.new arenaConfig = .ok arena)
    (hc : PrefixCache.new config arena = .ok c) (ops : List CacheOp) {tokenIds : List Nat}
    {allow : Bool} {r : Reservation}
    (hreserve : reservePromptInternal q tokenIds allow (c.run ops) = .ok r d)
    (others : List CacheOp) (hothers : ∀ op ∈ others, op.concerns q = false) :
    ∃ c', cancelReservation q r.reservationEpoch (d.run others) = .ok () c' ∧
      SameTable q (c.run ops) c' := by
  have h := (consistent_new ha hc).run ops
  generalize c.run ops = before at h hreserve
  have hq : q ≠ 0 := by
    rintro rfl
    rw [reservePromptInternal, if_pos (.inr rfl)] at hreserve
    cases hreserve
  have hd := (wp_ok (CacheOp.reserve_wp h) hreserve).1
  have hepoch : r.reservationEpoch = before.operationEpoch + 1 := hd.reservationEpoch
  have hreach := hd.reaches.of_forward
  have hcons := hreach.consistent h
  have hcancel := wp_and (rollbackEpoch_wp (s := CacheOp.cancelScope q r.reservationEpoch)
    (hcons.run others) trivial) (rollbackEpoch_clears (hcons.run others))
  cases hrun : rollbackEpoch q r.reservationEpoch (d.run others) with
  | error => exact (wp_error hcancel hrun).1.elim
  | ok _ c' =>
    obtain ⟨hback, -, hclear⟩ := wp_ok hcancel hrun
    refine ⟨c', ?_, ?_⟩
    · rw [cancelReservation, if_neg (not_or.mpr ⟨hq, hepoch ▸ Nat.succ_ne_zero _⟩)]
      exact hrun
    · have hkeeps := ((Keeps.reaches h hreach id hd.reservationEpoch).trans
        (.run hcons hothers fun _ _ hw => hw.1)).trans (.reaches (hcons.run others) hback id rfl)
      exact (hkeeps.of_epoch (fun b hb _ => hepoch ▸ h.precedes.binding b hb) hclear).sameTable
        (hback.consistent (hcons.run others))

theorem cancelled_reservation_leaves_table_small : ∃ arena c,
    KvArena.new smallArenaConfig = .ok arena ∧ PrefixCache.new smallConfig arena = .ok c ∧
    let before := c.run [.commitPrompt 1 [1, 2]]
    ∃ r d, reservePromptInternal 1 [1, 2, 3, 4] true before = .ok r d ∧
      ∃ c', cancelReservation 1 r.reservationEpoch (d.run [.commitPrompt 2 [1, 2, 3, 4]]) =
          .ok () c' ∧ SameTable 1 before c' := by
  refine ⟨_, _, rfl, rfl, ?_⟩
  refine (exists_ok_of_succeeds ?ok).imp fun r hr => ⟨_, hr, ?_⟩
  case ok => decide +kernel
  exact @cancelled_reservation_leaves_table _ _ _ smallArenaConfig smallConfig _ rfl rfl
    [.commitPrompt 1 [1, 2]] _ _ _ hr _ (by decide)

/-! ### Sequences that are released -/

theorem releaseSequence_unbinds (h : c.Consistent) (hq : q ≠ 0) : wp (releaseSequence q)
    (fun _ d => ∀ b, (d.binding b).valid → (d.binding b).sequenceId ≠ q)
    (fun _ _ => False) c := by
  unfold releaseSequence
  rw [if_neg hq, wp_read, wp_bind]
  refine wp_post (@wp_forM_settles _ _ _ _ _ _ _ _ (fun b d => (d.binding b).valid = true →
    (d.binding b).sequenceId ≠ q) h (fun b hb hv => ?_) fun b d hd => ?_) fun _ d hd => ?_
  · exact absurd (List.mem_range.mpr (lt_bindings_length_of_valid hv)) hb
  · rw [wp_read, wp_ite]
    refine ⟨fun hcond => ?_, fun hcond => ⟨hd, fun hv hb => ?_, fun _ _ hb' => hb'⟩⟩
    · simp only [Bool.and_eq_true, beq_iff_eq] at hcond
      refine wp_post (releaseBinding_wp hd hcond.1) fun _ d' hu => ?_
      refine ⟨hd.step (.unbind hu), ?_, fun b' hne => by rw [hu.binding_of_ne b' hne]; exact id⟩
      simp [hu.binding_self]
    · simp [hv, hb] at hcond
  · -- the second loop drops entries only
    refine wp_post (wp_forM (fun d' => d'.Consistent ∧ d'.bindings = d.bindings) ⟨hd.1, rfl⟩
      fun k _ d' hd' => ?_) fun _ d' hd' b => ?_
    · rw [wp_read, wp_ite]
      refine ⟨fun hk => ?_, fun _ => hd'⟩
      simp only [Bool.and_eq_true, Bool.not_eq_true', beq_iff_eq] at hk
      exact wp_post (invalidateEntry_wp hd'.1 hk.1.1 hk.2) fun _ _ hi =>
        ⟨hd'.1.step (.invalidate hi), hi.bindings.trans hd'.2⟩
    · rw [binding_congr hd'.2]
      exact hd.2 b

/-- The release of a sequence takes everything that it holds, and nothing from another one. -/
theorem release_is_exact {arenaConfig : KvArenaConfig} {config : PrefixCacheConfig}
    {arena : KvArena} (ha : KvArena.new arenaConfig = .ok arena)
    (hc : PrefixCache.new config arena = .ok c) (ops : List CacheOp) (hq : q ≠ 0) :
    ∃ d, releaseSequence q (c.run ops) = .ok () d ∧
      (∀ b, (d.binding b).valid = true → (d.binding b).sequenceId ≠ q) ∧
      ∀ other, other ≠ q → SameTable other (c.run ops) d := by
  have h := (consistent_new ha hc).run ops
  obtain ⟨_, d, hrelease, hunbound⟩ := exists_ok_of_wp (releaseSequence_unbinds h hq) fun _ _ => id
  refine ⟨d, hrelease, hunbound, fun other hother => ?_⟩
  have hd : (c.run ops).run [.releaseSequence q] = d := congrArg finalState hrelease
  rw [← hd]
  exact Keeps.sameTable (.run h (by simpa [CacheOp.concerns] using hother.symm) fun _ _ hw => hw)
    (h.run _)

theorem release_is_exact_small : ∃ arena c, KvArena.new smallArenaConfig = .ok arena ∧
    PrefixCache.new smallConfig arena = .ok c ∧
    let before := c.run [.commitPrompt 1 [1, 2, 3], .commitPrompt 2 [1, 2, 4]]
    ∃ d, releaseSequence 2 before = .ok () d ∧ SameTable 1 before d := by
  refine ⟨_, _, rfl, rfl, ?_⟩
  obtain ⟨d, hrelease, -, hother⟩ := @release_is_exact _ 2 smallArenaConfig smallConfig _ rfl rfl
    [.commitPrompt 1 [1, 2, 3], .commitPrompt 2 [1, 2, 4]] (by decide)
  exact ⟨d, hrelease, hother 1 (by decide)⟩

end PrefixCache

end SparkPipe
