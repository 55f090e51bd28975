import SparkPipe.Core.PrefixCache.Pending
import SparkPipe.Core.PrefixCache.Supply

/-!
# What the cache operations may do

From a consistent cache every operation, successful or not, is a sequence of elementary
transitions. The operations that work in an operation epoch touch only the bindings their
sequence acquired in that epoch and the pending entries of that epoch.
-/

open Program

namespace SparkPipe

variable {α : Type}

theorem Entry.eq_of_content {e e' : Entry} (h : e'.content = e.content)
    (f : Entry → α) (hf : ∀ e : Entry, f e.content = f e := by intro; rfl) : f e' = f e := by
  rw [← hf e', ← hf e, h]

theorem Binding.eq_of_core {b b' : Binding} (h : b'.core = b.core)
    (f : Binding → α) (hf : ∀ b : Binding, f b.core = f b := by intro; rfl) : f b' = f b := by
  rw [← hf b', ← hf b, h]

namespace PrefixCache

variable {c c' : PrefixCache} {b epoch k q t : Nat} {label : BlockLabel} {s : Scope}
  {E : PrefixCacheError → PrefixCache → Prop} {pending : Bool} {i : Installation} {n j : Nat}
  {e : Event}

/-! ### Searching the tables -/

theorem findBinding_some (h : c.findBinding q k = some b) :
    (c.binding b).valid ∧ (c.binding b).sequenceId = q ∧ (c.binding b).entryIndex = k := by
  have hb := (findIdx?_some_getD {} h).2
  simp only [Bool.and_eq_true, beq_iff_eq] at hb
  exact ⟨hb.1.1, hb.1.2, hb.2⟩

theorem findBinding_none (h : c.findBinding q k = none) (hb : (c.binding b).valid)
    (hq : (c.binding b).sequenceId = q) :
    (c.binding b).entryIndex ≠ k := by
  have hnone := findIdx?_none_getD {} h rfl b
  change ((c.binding b).valid && (c.binding b).sequenceId == q &&
    (c.binding b).entryIndex == k) = false at hnone
  simpa [hb, hq] using hnone

theorem findBindingAtTokenOffset_some (h : c.findBindingAtTokenOffset q t = some b) :
    (c.binding b).valid ∧ (c.binding b).sequenceId = q ∧
      (c.binding b).firstTokenIndex = t := by
  have hb := (findIdx?_some_getD {} h).2
  simp only [Bool.and_eq_true, beq_iff_eq] at hb
  exact ⟨hb.1.1, hb.1.2, hb.2⟩

theorem findBindingAtTokenOffset_none (h : c.findBindingAtTokenOffset q t = none)
    (hb : (c.binding b).valid) (hq : (c.binding b).sequenceId = q) :
    (c.binding b).firstTokenIndex ≠ t := by
  have hnone := findIdx?_none_getD {} h rfl b
  change ((c.binding b).valid && (c.binding b).sequenceId == q &&
    (c.binding b).firstTokenIndex == t) = false at hnone
  simpa [hb, hq] using hnone

theorem findBindingAtTokenOffset_le {b' : Nat} (h : c.findBindingAtTokenOffset q t = some b)
    (hb : (c.binding b').valid) (hq : (c.binding b').sequenceId = q)
    (ht : (c.binding b').firstTokenIndex = t) : b ≤ b' := by
  refine findIdx?_le_getD {} h ?_
  change ((c.binding b').valid && (c.binding b').sequenceId == q &&
    (c.binding b').firstTokenIndex == t) = true
  simp [hb, hq, ht]

theorem findBindingAtTokenOffset_congr (h : c'.bindings = c.bindings) (q t : Nat) :
    c'.findBindingAtTokenOffset q t = c.findBindingAtTokenOffset q t := by
  unfold findBindingAtTokenOffset
  rw [h]

theorem findBindingAtTokenOffset_eq_none :
    c.findBindingAtTokenOffset q t = none ↔ c.UnheldAt q t := by
  refine ⟨fun h b hb hq => findBindingAtTokenOffset_none h hb hq, fun h => ?_⟩
  cases hfind : c.findBindingAtTokenOffset q t with
  | none => rfl
  | some b =>
    obtain ⟨hb, hq, ht⟩ := findBindingAtTokenOffset_some hfind
    exact absurd ht (h b hb hq)

theorem Quiet.findBindingAtTokenOffset (h : c.Quiet c') (sequenceId firstTokenIndex : Nat) :
    c'.findBindingAtTokenOffset sequenceId firstTokenIndex =
      c.findBindingAtTokenOffset sequenceId firstTokenIndex := by
  refine findIdx?_congr_getD {} h.bindingCount fun b => ?_
  change ((c'.binding b).valid && (c'.binding b).sequenceId == sequenceId &&
    (c'.binding b).firstTokenIndex == firstTokenIndex) = _
  rw [h.binding_eq Binding.valid b, h.binding_eq Binding.sequenceId b,
    h.binding_eq Binding.firstTokenIndex b]
  rfl

theorem Binds.findBindingAtTokenOffset {q' : Nat} (hb : c.Binds k q' epoch c')
    (hne : q ≠ q' ∨ (c.entry k).firstTokenIndex ≠ t) :
    c'.findBindingAtTokenOffset q t = c.findBindingAtTokenOffset q t := by
  refine findIdx?_congr_getD {} hb.bindingCount fun b => ?_
  change ((c'.binding b).valid && (c'.binding b).sequenceId == q &&
      (c'.binding b).firstTokenIndex == t) =
    ((c.binding b).valid && (c.binding b).sequenceId == q && (c.binding b).firstTokenIndex == t)
  by_cases hbb : b = c.freeBindingHead
  · obtain ⟨pending, hself⟩ := hb.binding_self
    rw [hbb, hself, hb.free]
    simp only [bindingTo, Bool.true_and, Bool.false_and, Bool.and_eq_false_imp, beq_iff_eq,
      beq_eq_false_iff_ne]
    exact fun hq => hne.resolve_left (not_not.mpr hq.symm)
  · rw [hb.binding_of_ne b hbb]

theorem Binds.findBindingAtTokenOffset_self (hb : c.Binds k q epoch c')
    (hunbound : c.UnboundAt q k) :
    c'.findBindingAtTokenOffset q (c.entry k).firstTokenIndex = some c.freeBindingHead := by
  obtain ⟨pending, hself⟩ := hb.binding_self
  cases hfind : c'.findBindingAtTokenOffset q (c.entry k).firstTokenIndex with
  | none =>
    exact absurd (by rw [hself]; rfl) (findBindingAtTokenOffset_none hfind (by rw [hself]; rfl)
        (by rw [hself]; rfl))
  | some b =>
    obtain ⟨hvalid, hq, ht⟩ := findBindingAtTokenOffset_some hfind
    by_contra hne
    have hbb : b ≠ c.freeBindingHead := fun h => hne (by rw [h])
    rw [hb.binding_of_ne b hbb] at hvalid hq ht
    exact hunbound b hvalid hq ht

theorem isReusable_congr {e e' : Entry} (hb : c'.blockTokenCount = c.blockTokenCount)
    (h : e'.content = e.content) : c'.isReusable e' = c.isReusable e := by
  rw [isReusable, isReusable, hb, Entry.eq_of_content h Entry.valid,
    Entry.eq_of_content h Entry.reusable, Entry.eq_of_content h Entry.pending,
    Entry.eq_of_content h Entry.tokenCount]

theorem findEntry_some (h : c.findEntry label true = some k) :
    (c.entry k).label = label ∧ c.isReusable (c.entry k) = true := by
  have hk := (findIdx?_some_getD {} h).2
  simp only [Bool.and_eq_true, beq_iff_eq, Bool.not_true, Bool.false_or] at hk
  exact ⟨hk.1.2, hk.2⟩

theorem exists_findEntry (hk : c.isReusable (c.entry k)) (hlabel : (c.entry k).label = label) :
    ∃ k' ≤ k, c.findEntry label true = some k' := by
  have hvalid : (c.entry k).valid = true := by
    simp only [isReusable, Bool.and_eq_true] at hk
    exact hk.1.1.1
  have hfound : ((c.entry k).valid && (c.entry k).label == label &&
      (!true || c.isReusable (c.entry k))) = true := by
    simp [hvalid, hlabel, hk]
  cases hfind : c.findEntry label true with
  | none =>
    have hnone := findIdx?_none_getD {} hfind rfl k
    exact absurd (hfound.symm.trans hnone) (by decide)
  | some k' => exact ⟨k', findIdx?_le_getD ({} : Entry) hfind hfound, rfl⟩

theorem isReusable_iff {e : Entry} :
    c.isReusable e ↔ e.valid ∧ e.reusable ∧ e.pending = false ∧
      e.tokenCount = c.blockTokenCount := by
  simp [isReusable, and_assoc]

/-! ### Quiet changes -/

theorem Quiet.refl (c : PrefixCache) : c.Quiet c :=
  ⟨⟨rfl, rfl, rfl, rfl, le_rfl⟩, fun _ => rfl, fun _ => rfl, .refl _, rfl, rfl⟩

theorem Quiet.withArena {arena : KvArena} (h : c.arena.SameOwnership arena) :
    c.Quiet { c with arena } :=
  { refl c with arena := h }

theorem Quiet.setEntry (k : Nat) (e : Entry) (h : e.core = (c.entry k).core) (tick : Nat) :
    c.Quiet { c.setEntry k e with tick } :=
  { refl c with
    entryCount := entries_length_setEntry _ _ _
    entry := fun j => by
      change ((c.setEntry k e).entry j).core = _
      rw [entry_setEntry]
      split_ifs with hkj
      · rw [h, hkj.1]
      · rfl }

theorem Quiet.touchEntry (k : Nat) : c.Quiet (c.touchEntry k) :=
  .setEntry k { c.entry k with lastUsedTick := c.tick + 1 } rfl _

theorem Quiet.nextEpoch : c.Quiet { c with operationEpoch := c.operationEpoch + 1 } :=
  { refl c with epoch_mono := Nat.le_succ _ }

theorem Quiet.setBinding_pending (b : Nat) :
    c.Quiet (c.setBinding b { c.binding b with pending := true }) :=
  { refl c with
    bindingCount := bindings_length_setBinding _ _ _
    binding := fun j => by
      rw [binding_setBinding]
      split_ifs with h
      · rw [h.1]
        rfl
      · rfl }

theorem Quiet.clearPending (p : Binding → Bool) : c.Quiet { c with
      bindings := c.bindings.map fun b => if p b then { b with pending := false } else b } :=
  { refl c with
    bindingCount := List.length_map _
    binding := fun j => by
      change (List.getD _ j {} : Binding).core = (c.bindings.getD j {}).core
      have hdefault : (if p {} then { ({} : Binding) with pending := false } else {}) = {} := by
        split_ifs <;> rfl
      have hmap := List.getD_map (l := c.bindings) (d := {}) (n := j) fun b =>
        if p b then { b with pending := false } else b
      rw [hdefault] at hmap
      rw [hmap]
      split_ifs <;> rfl }

/-! ### Acquiring and releasing -/

/-- The sequence was bound to entry `k`, or is bound to it now. -/
def Acquired (q k epoch : Nat) (c c' : PrefixCache) : Prop :=
  (c.Quiet c' ∧ (c.findBinding q k).isSome) ∨ (c.Binds k q epoch c' ∧ c.findBinding q k = none)

theorem acquireEntryForSequence_wp (hk : (c.entry k).valid)
    (hepoch : epoch ≤ c.operationEpoch) :
    wp (acquireEntryForSequence q k epoch pending)
      (fun _ c' => c.Acquired q k epoch c')
      (fun e c' => c' = c ∧ (c.Consistent → e = .capacityExceeded ∧ c.findBinding q k = none ∧
        c.findFreeBinding = none)) c := by
  unfold acquireEntryForSequence Acquired
  rw [wp_read, wp_ite]
  refine ⟨fun hle => absurd (lt_entries_length_of_valid hk) (not_lt.mpr hle), fun _ => ?_⟩
  cases c.findBinding q k with
  | some b =>
    cases pending with
    | true => exact .inl ⟨.setBinding_pending b, rfl⟩
    | false => exact .inl ⟨.refl c, rfl⟩
  | none =>
    simp only [wp_bind, wp_orFail, wp_onArena, wp_ite, wp_modify]
    refine ⟨fun b hfree => ?_, fun hnone => ⟨trivial, fun _ => ⟨trivial, trivial, hnone⟩⟩⟩
    unfold findFreeBinding at hfree
    split_ifs at hfree with hhead hrange
    cases hfree
    simp only [not_or, not_le, Bool.not_eq_true] at hrange
    refine wp_mono (KvArena.retainBlock_wp _ _) (fun _ arena ha => ⟨fun hne => ?_, fun _ => ?_⟩)
      (fun _ arena ha => ⟨by rw [ha.1], fun h => ?_⟩)
    · exact absurd rfl hne
    · refine .inr ⟨⟨⟨rfl, rfl, entries_length_setEntry _ _ _,
        bindings_length_setBinding _ _ _, le_rfl⟩, hk, hepoch, hrange.1, hrange.2,
        getD_set_self (lt_entries_length_of_valid hk), fun j hj => getD_set_of_ne hj,
        ⟨pending, rfl⟩, rfl, rfl, ha.2⟩, trivial⟩
    · exact absurd (h.block_owned k hk).1 (by simp [ha.2.1])

theorem acquireEntryForSequence_not_internal :
    wp (acquireEntryForSequence q k epoch pending) (fun _ _ => True)
      (fun e _ => e ≠ .internalError) c := by
  unfold acquireEntryForSequence
  rw [wp_read, wp_ite]
  refine ⟨fun _ => by simp, fun _ => ?_⟩
  cases c.findBinding q k with
  | some =>
    cases pending with
    | true | false => trivial
  | none =>
    simp only [wp_bind, wp_orFail, wp_onArena, wp_ite, wp_modify]
    refine ⟨fun b hfree => ?_, fun _ => by simp⟩
    unfold findFreeBinding at hfree
    split_ifs at hfree
    cases hfree
    exact wp_mono (KvArena.retainBlock_wp _ _) (fun _ _ _ => ⟨absurd rfl, fun _ => trivial⟩)
      (fun _ _ ha => by simp [ha.2.2, PrefixCacheError.ofArena])

theorem acquireEntryForSequence_of_bound (hk : k < c.entries.length)
    (hb : c.findBinding q k = some b) : acquireEntryForSequence q k epoch false c = .ok () c := by
  rw [acquireEntryForSequence, get_bind, if_neg (not_le.mpr hk), hb]
  rfl

theorem releaseBinding_wp (h : c.Consistent) (hb : (c.binding b).valid) :
    wp (releaseBinding b) (fun _ c' => c.Unbinds b c') (fun _ _ => False) c := by
  have hlt := lt_bindings_length_of_valid hb
  have hm := h.binding_mirrors b hb
  have hklt := lt_entries_length_of_valid hm.valid
  have hrefs := h.referenceCount_ne_zero hb
  obtain ⟨halloc, harefs⟩ := h.block_owned _ hm.valid
  unfold releaseBinding
  simp only [wp_bind, wp_get, wp_ite, wp_throw, wp_onArena, wp_modify]
  refine ⟨fun hle => absurd hlt (not_lt.mpr hle), fun _ => ⟨fun hinvalid => ?_, fun _ =>
    ⟨fun hbad => ?_, fun _ => ?_⟩⟩⟩
  · simp [hb] at hinvalid
  · exact hbad.elim (fun hle => absurd hklt (not_lt.mpr hle)) hrefs
  refine wp_mono (KvArena.releaseBlockReference_wp _ _) (fun _ arena ha => ?_)
    (fun _ arena ha => ?_)
  · refine ⟨⟨rfl, rfl, entries_length_setEntry _ _ _, bindings_length_setBinding _ _ _,
      le_rfl⟩, hb, getD_set_self hklt, fun j hj => getD_set_of_ne hj, rfl, rfl, rfl, ha.2.2⟩
  · rw [hm.physicalBlockIndex] at ha
    rcases ha.2 with hfree | hzero
    · simp [halloc] at hfree
    · exact hrefs (harefs ▸ hzero)

theorem Consistent.physicalBlockIndex_ne (h : c.Consistent) (hk : (c.entry k).valid) :
    (c.entry k).physicalBlockIndex ≠ noPhysicalBlock := by
  have := KvArena.lt_physicalBlockCount_of_isAllocated (h.block_owned k hk).1
  have := h.blockCount_le
  omega

theorem invalidateEntry_wp (h : c.Consistent) (hk : (c.entry k).valid)
    (hzero : (c.entry k).referenceCount = 0) :
    wp (invalidateEntry k) (fun _ c' => c.Invalidates k c') (fun _ _ => False) c := by
  have hlt := lt_entries_length_of_valid hk
  obtain ⟨halloc, harefs⟩ := h.block_owned k hk
  have hblock := h.physicalBlockIndex_ne hk
  unfold invalidateEntry
  simp only [wp_bind, wp_get, wp_ite, wp_throw, wp_pure, wp_onArena, wp_modify]
  refine ⟨fun hle => absurd hlt (not_lt.mpr hle), fun _ => ⟨fun hinvalid => ?_, fun _ =>
    ⟨fun hne => hne hzero, fun _ => ⟨fun _ => ?_, fun hno => absurd hblock hno⟩⟩⟩⟩
  · simp [hk] at hinvalid
  · refine wp_post (KvArena.freeBlock_wp halloc (harefs.trans hzero)) fun _ arena ha => ?_
    refine ⟨⟨rfl, rfl, entries_length_setEntry _ _ _, rfl, le_rfl⟩, hk, hzero,
      getD_set_self hlt, fun j hj => getD_set_of_ne hj, rfl, rfl, rfl, ha⟩

theorem shape_of_evolves {allowed : PrefixCache → Event → Prop} (hreset : ∀ d, ¬allowed d .reset)
    (h : Evolves Step allowed c c') : c.SameShape c' := by
  induction h with
  | refl => exact ⟨rfl, rfl, rfl, rfl, le_rfl⟩
  | tail _ hlast ih =>
    obtain ⟨e, ha, hs⟩ := hlast
    exact ih.trans (hs.shape (by rintro rfl; exact hreset _ ha))

/-! ### Operations that work in an epoch -/

/-- A binding stays, and so does what it holds. -/
structure KeepsBinding (c c' : PrefixCache) (b : Nat) : Prop where
  binding : (c'.binding b).core = (c.binding b).core
  entry : (c'.entry (c.binding b).entryIndex).content = (c.entry (c.binding b).entryIndex).content

/-- The sequence and the epoch of an operation, and what it may do there. -/
structure Scope where
  sequenceId : Nat
  epoch : Nat
  installs : Installation → Prop := fun _ => False
  commits : Prop := False
  rollsBack : Prop := False
  fresh : Prop := True

/-- The scope before anything is rolled back. -/
def Scope.forward (s : Scope) : Scope := { s with rollsBack := False }

/-- The transitions an operation with scope `s` may make. -/
def Scope.Allows (s : Scope) (c : PrefixCache) : Event → Prop
  | .quiet => True
  | .install _ i => i.operationEpoch = s.epoch ∧ s.installs i
  | .bind k q epoch => q = s.sequenceId ∧ epoch = s.epoch ∧
      ((c.entry k).pending → (c.entry k).reservationEpoch = s.epoch) ∧
      (s.fresh → c.UnboundAt q k)
  | .unbind b => s.rollsBack ∧ (c.binding b).sequenceId = s.sequenceId ∧
      (c.binding b).acquireEpoch = s.epoch
  | .invalidate k => s.rollsBack ∧ (c.entry k).pending ∧
      (c.entry k).reservationEpoch = s.epoch
  | .commit k => s.commits ∧ (c.entry k).reservationEpoch = s.epoch
  | .grow b _ => s.commits ∧ (c.binding b).sequenceId = s.sequenceId
  | .reset => False

/-- What an operation with scope `s` can reach. -/
def Scope.Reaches (s : Scope) : PrefixCache → PrefixCache → Prop := Evolves Step s.Allows

namespace Scope

variable {s : Scope} {e : Event}

theorem Reaches.quiet (h : c.Quiet c') : s.Reaches c c' :=
  .single (.quiet h) trivial

theorem Reaches.refl (c : PrefixCache) : s.Reaches c c := Evolves.refl c

theorem Reaches.step (h : Step c e c') (ha : s.Allows c e) : s.Reaches c c' :=
  .single h ha

theorem Reaches.trans {c'' : PrefixCache} (h : s.Reaches c c') (h' : s.Reaches c' c'') :
    s.Reaches c c'' := Evolves.trans h h'

theorem Reaches.of_forward (h : s.forward.Reaches c c') : s.Reaches c c' :=
  .mono (fun _ e he => match e, he with
    | .quiet, he | .install _ _, he | .bind _ _ _, he | .commit _, he | .grow _ _, he => he
    | .unbind _, he | .invalidate _, he => he.1.elim
    | .reset, he => he) h

theorem Reaches.consistent (h : s.Reaches c c') (hc : c.Consistent) : c'.Consistent :=
  hc.evolves h

theorem Reaches.shape (h : s.Reaches c c') : c.SameShape c' :=
  shape_of_evolves (fun _ hreset => hreset) h

/-- An operation that only adds: what it has bound stays bound. -/
structure Adds (s : Scope) : Prop where
  fresh : s.fresh
  keeps : ¬s.commits
  forward : ¬s.rollsBack

theorem Reaches.keeps (hr : s.Reaches c c') (hs : s.Adds) (h : c.Consistent)
    (hb : (c.binding b).valid) : KeepsBinding c c' b := by
  refine (hr.invariant (I := fun d : PrefixCache => d.Consistent ∧ KeepsBinding c d b)
    (fun d e d' hd ha hstep => ⟨hd.1.step hstep, ?_⟩) ⟨h, rfl, rfl⟩).2
  obtain ⟨hd, hbinding, hentry⟩ := hd
  have hvalid : (d.binding b).valid = true :=
    (Binding.eq_of_core hbinding Binding.valid).trans hb
  cases hstep with
  | quiet hq =>
    exact ⟨(hq.binding b).trans hbinding, (hq.entry_eq Entry.content _).trans hentry⟩
  | install hi =>
    have hne := hd.unbound_of_installs hi hvalid
    rw [Binding.eq_of_core hbinding Binding.entryIndex] at hne
    exact ⟨by rw [binding_congr hi.bindings, hbinding], by rw [hi.entry_of_ne _ hne, hentry]⟩
  | bind hb =>
    exact ⟨by rw [hb.binding_of_valid hvalid, hbinding], (hb.entry_eq Entry.content _).trans hentry⟩
  | unbind | invalidate => exact (hs.forward ha.1).elim
  | commit | grow => exact (hs.keeps ha.1).elim
  | reset => exact ha.elim

theorem Allows.spares_own (ha : s.Allows c e) (hs : s.Adds) : Spares s.sequenceId s.epoch c e :=
  match e, ha with
  | .quiet, _ | .install _ _, _ | .invalidate _, _ | .grow _ _, _ => trivial
  | .bind _ _ _, ha => ⟨ha.2.2.2 hs.fresh, .inl ha.1⟩
  | .unbind _, ha => (hs.forward ha.1).elim
  | .commit _, ha => (hs.keeps ha.1).elim
  | .reset, ha => ha

theorem Allows.spares (ha : s.Allows c e) (hfresh : s.fresh) (hne : s.epoch ≠ epoch) :
    Spares q epoch c e :=
  match e, ha with
  | .quiet, _ | .install _ _, _ | .invalidate _, _ | .grow _ _, _ => trivial
  | .bind _ _ _, ha => ⟨ha.2.2.2 hfresh, .inr fun hp => (ha.2.2.1 hp).trans_ne hne⟩
  | .unbind _, ha => .inr (ha.2.2.trans_ne hne)
  | .commit _, ha => ha.2.trans_ne hne
  | .reset, ha => ha

end Scope

/-- The transitions of the rollback of an epoch. -/
def RollsBack (q epoch : Nat) (c : PrefixCache) : Event → Prop
  | .unbind b => (c.binding b).sequenceId = q ∧ (c.binding b).acquireEpoch = epoch
  | .invalidate k => (c.entry k).pending ∧ (c.entry k).reservationEpoch = epoch
  | _ => False

/-- The sequence holds nothing of the epoch, and no pending entry of it is left unheld. -/
structure Cleared (c : PrefixCache) (q epoch : Nat) : Prop where
  unbound : ∀ b, (c.binding b).valid → (c.binding b).sequenceId = q →
    (c.binding b).acquireEpoch ≠ epoch
  dropped : ∀ k, (c.entry k).valid → (c.entry k).pending →
    (c.entry k).reservationEpoch = epoch → (c.entry k).referenceCount ≠ 0

theorem releaseEpoch_clears (h : c.Consistent) :
    wp (forM (List.range c.bindings.length) fun bindingIndex => (do
        let b := (← get).binding bindingIndex
        if b.valid && b.sequenceId == q && b.acquireEpoch == epoch then
          releaseBinding bindingIndex : CacheM Unit))
      (fun _ d => Evolves Step (RollsBack q epoch) c d ∧
        ∀ b, (d.binding b).valid → (d.binding b).sequenceId = q →
          (d.binding b).acquireEpoch ≠ epoch)
      (fun _ _ => False) c := by
  refine wp_forM_settles (.refl c) (fun b hb hv => ?_) fun b d hd => ?_
  · exact absurd (List.mem_range.mpr (lt_bindings_length_of_valid hv)) hb
  rw [wp_read, wp_ite]
  refine ⟨fun hcond => ?_, fun hcond => ⟨hd, fun hv hq he => ?_, fun _ _ hb' => hb'⟩⟩
  · simp only [Bool.and_eq_true, beq_iff_eq] at hcond
    refine wp_post (releaseBinding_wp (h.evolves hd) hcond.1.1) fun _ d' hu => ?_
    refine ⟨hd.trans (.single (.unbind hu) ⟨hcond.1.2, hcond.2⟩), ?_, fun b' hne => ?_⟩
    · rw [hu.binding_self]
      exact fun hv => absurd hv Bool.false_ne_true
    · rw [hu.binding_of_ne b' hne]
      exact id
  · simp [hv, hq, he] at hcond

theorem invalidateEpoch_clears (h : c.Consistent) :
    wp (forM (List.range c.entries.length) fun entryIndex => (do
        let e := (← get).entry entryIndex
        if e.valid && e.pending && e.reservationEpoch == epoch && e.referenceCount == 0 then
          invalidateEntry entryIndex : CacheM Unit))
      (fun _ d => (Evolves Step (RollsBack q epoch) c d ∧ d.bindings = c.bindings) ∧
        ∀ k, (d.entry k).valid → (d.entry k).pending →
          (d.entry k).reservationEpoch = epoch → (d.entry k).referenceCount ≠ 0)
      (fun _ _ => False) c := by
  refine wp_forM_settles ⟨.refl c, rfl⟩ (fun k hk hv => ?_) fun k d hd => ?_
  · exact absurd (List.mem_range.mpr (lt_entries_length_of_valid hv)) hk
  rw [wp_read, wp_ite]
  refine ⟨fun hcond => ?_, fun hcond => ⟨hd, fun hv hp he hz => ?_, fun _ _ hk' => hk'⟩⟩
  · simp only [Bool.and_eq_true, beq_iff_eq] at hcond
    refine wp_post (invalidateEntry_wp (h.evolves hd.1) hcond.1.1.1 hcond.2) fun _ d' hi => ?_
    refine ⟨⟨hd.1.trans (.single (.invalidate hi) ⟨hcond.1.1.2, hcond.1.2⟩),
      hi.bindings.trans hd.2⟩, ?_, fun k' hne => ?_⟩
    · rw [hi.entry_self]
      exact fun hv => absurd hv Bool.false_ne_true
    · rw [hi.entry_of_ne k' hne]
      exact id
  · simp [hv, hp, he, hz] at hcond

theorem rollbackEpoch_clears (h : c.Consistent) : wp (rollbackEpoch q epoch)
      (fun _ c' => Evolves Step (RollsBack q epoch) c c' ∧ c'.Cleared q epoch)
      (fun _ _ => False) c := by
  unfold rollbackEpoch
  rw [wp_read, wp_bind]
  refine wp_post (releaseEpoch_clears h) fun _ d hd => ?_
  rw [← (shape_of_evolves (by exact fun _ h => h) hd.1).entryCount]
  refine wp_post (invalidateEpoch_clears (q := q) (h.evolves hd.1)) fun _ d' hd' => ?_
  refine ⟨hd.1.trans hd'.1.1, fun b => ?_, hd'.2⟩
  rw [binding_congr hd'.1.2 b]
  exact hd.2 b

theorem rollbackEpoch_wp (h : c.Consistent) (hrollsBack : s.rollsBack) :
    wp (rollbackEpoch s.sequenceId s.epoch) (fun _ c' => s.Reaches c c') (fun _ _ => False) c := by
  refine wp_post (rollbackEpoch_clears h) fun _ c' hc => hc.1.mono fun d e he => ?_
  cases e with
  | unbind | invalidate => exact ⟨hrollsBack, he⟩
  | _ => exact he.elim

theorem Consistent.cleared (h : c.Consistent) (hepoch : epoch = c.operationEpoch + 1) :
    c.Cleared q epoch where
  unbound b hb _ := by
    have := h.binding_epoch_le b hb
    omega
  dropped k hk _ he := by
    have := (h.entry_wellFormed k hk).epoch_le
    omega

/-- A failed operation stayed in its scope and left nothing of its epoch. -/
def Scope.Withdraws (s : Scope) (c c' : PrefixCache) : Prop :=
  s.Reaches c c' ∧ c'.Cleared s.sequenceId s.epoch

theorem Consistent.withdraws (h : c.Consistent) (hepoch : s.epoch = c.operationEpoch + 1) :
    s.Withdraws c c :=
  ⟨.refl c, h.cleared hepoch⟩

theorem Scope.Withdraws.of_quiet {c'' : PrefixCache} (hq : c.Quiet c') (h : s.Withdraws c' c'') :
    s.Withdraws c c'' :=
  ⟨(Reaches.quiet hq).trans h.1, h.2⟩

theorem wp_onError_rollback {α : Type} {m : CacheM α} {Q : α → PrefixCache → Prop}
    (h : c.Consistent) (hrollsBack : s.rollsBack)
    (hE : ∀ e d, E e d → s.forward.Reaches c d) (hm : wp m Q E c') :
    wp (onError m (rollbackEpoch s.sequenceId s.epoch)) Q
      (fun e d => s.Withdraws c d ∧ ∃ d, E e d) c' := by
  rw [wp_onError]
  refine wp_mono hm (fun _ _ hq => hq) fun e d hfail => ⟨?_, d, hfail⟩
  have hd := hE e d hfail
  have hback := wp_and (rollbackEpoch_wp (hd.consistent h) hrollsBack)
    (rollbackEpoch_clears (hd.consistent h))
  exact wp_finalState (wp_mono hback
    (fun _ _ hd' => ⟨hd.of_forward.trans hd'.1, hd'.2.2⟩) fun _ _ hf => hf.1.elim)

theorem nextOperationEpoch_wp {Q : Nat → PrefixCache → Prop} : wp nextOperationEpoch Q E c ↔
      Q (c.operationEpoch + 1) { c with operationEpoch := c.operationEpoch + 1 } := Iff.rfl

/-! ### Committing -/

theorem commitOne_wp (hk : (c.entry k).valid) (hpending : (c.entry k).pending)
    (hepoch : (c.entry k).reservationEpoch = s.epoch) :
    wp (do
        onArena (KvArena.markBlockResident (c.entry k).physicalBlockIndex)
        modify fun d => d.setEntry k (d.commitEntry (c.entry k) s.epoch))
      (fun _ c' => c.Commits k c') (fun _ c' => s.Reaches c c') c := by
  simp only [wp_bind, wp_onArena, wp_modify]
  refine wp_mono (KvArena.markBlockResident_wp _ _) (fun _ arena ha => ?_)
    (fun _ arena ha => .quiet (.withArena ha))
  refine ⟨⟨rfl, rfl, entries_length_setEntry _ _ _, rfl, le_rfl⟩, hk, hpending, ?_,
    fun j hj => getD_set_of_ne hj, rfl, rfl, rfl, ha⟩
  rw [hepoch]
  exact getD_set_self (lt_entries_length_of_valid hk)

theorem commitReservation_wp (hcommits : s.commits) :
    ends (commitReservation s.sequenceId s.epoch) (s.Reaches c) c := by
  unfold commitReservation
  rw [ends, wp_ite]
  refine ⟨fun _ => .refl c, fun _ => ?_⟩
  rw [wp_read, wp_bind]
  refine wp_post (wp_forM (s.Reaches c) (.refl c) fun k _ d hd => ?_) fun _ d hd => ?_
  · rw [wp_read, wp_ite]
    refine ⟨fun hk => ?_, fun _ => hd⟩
    simp only [Bool.and_eq_true, beq_iff_eq] at hk
    exact wp_mono (commitOne_wp hk.1.1 hk.1.2 hk.2)
      (fun _ _ hc => hd.trans (.step (.commit hc) ⟨hcommits, hk.2⟩)) (fun _ _ hr => hd.trans hr)
  · exact hd.trans (.quiet (.clearPending _))

end PrefixCache

end SparkPipe
