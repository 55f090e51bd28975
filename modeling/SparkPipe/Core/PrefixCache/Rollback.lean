import SparkPipe.Core.PrefixCache.Housing

/-!
# What a failed call leaves behind

A reservation, a lookup and a growth work under an epoch of their own. What they add carries
that epoch, so when they fail the rollback of the epoch finds it: the bindings and the
references of before are left, and the only loss are unreferenced entries that were evicted.
-/

open Program

namespace SparkPipe.PrefixCache

variable {c c' d d' : PrefixCache} {s : Scope} {q epoch : Nat}

/-- What an operation that commits nothing leaves alone. -/
structure Intact (sequenceId epoch : Nat) (c d : PrefixCache) : Prop where
  binding : ∀ b, (c.binding b).valid → (d.binding b).core = (c.binding b).core
  bound : ∀ b, (d.binding b).valid → (c.binding b).valid = false →
    (d.binding b).sequenceId = sequenceId ∧ (d.binding b).acquireEpoch = epoch
  entry : ∀ k, (d.entry k).valid → (d.entry k).reservationEpoch ≠ epoch →
    (d.entry k).content = (c.entry k).content
  installed : ∀ k, (d.entry k).valid → (d.entry k).reservationEpoch = epoch →
    (d.entry k).pending ∧ ∀ b, (c.binding b).valid → (c.binding b).entryIndex ≠ k

/-- The epoch of an operation that starts is new. -/
structure Precedes (c : PrefixCache) (epoch : Nat) : Prop where
  binding : ∀ b, (c.binding b).valid → (c.binding b).acquireEpoch ≠ epoch
  entry : ∀ k, (c.entry k).valid → (c.entry k).reservationEpoch ≠ epoch

theorem Consistent.precedes (h : c.Consistent) : c.Precedes (c.operationEpoch + 1) where
  binding b hb := by
    have := h.binding_epoch_le b hb
    omega
  entry k hk := by
    have := (h.entry_wellFormed k hk).epoch_le
    omega

namespace Intact

variable {k : Nat}

theorem refl (h : c.Precedes epoch) : Intact q epoch c c where
  binding _ _ := rfl
  bound _ hb hb' := absurd hb (by simp [hb'])
  entry _ _ _ := rfl
  installed k hk he := absurd he (h.entry k hk)

section

variable (hi : Intact q epoch c d)
include hi

theorem binding_eq {α : Type} {b : Nat} (hb : (c.binding b).valid)
    (f : Binding → α) (hf : ∀ b : Binding, f b.core = f b := by intro; rfl) :
    f (d.binding b) = f (c.binding b) := by
  rw [← hf (d.binding b), ← hf (c.binding b), hi.binding b hb]

theorem keep (hbinding : ∀ b, (c.binding b).valid → (d'.binding b).core = (d.binding b).core)
    (hbound : ∀ b, (d'.binding b).valid → (d'.binding b).core = (d.binding b).core ∨
      ((d'.binding b).sequenceId = q ∧ (d'.binding b).acquireEpoch = epoch))
    (hentry : ∀ k, (d'.entry k).valid → (d'.entry k).content = (d.entry k).content) :
    Intact q epoch c d' where
  binding b hb := (hbinding b hb).trans (hi.binding b hb)
  bound b hb hb' := by
    rcases hbound b hb with hcore | hnew
    · have hold := hi.bound b ((congrArg Binding.valid hcore).symm.trans hb) hb'
      exact ⟨(congrArg (·.sequenceId) hcore).trans hold.1,
        (congrArg (·.acquireEpoch) hcore).trans hold.2⟩
    · exact hnew
  entry k hk he := by
    have hcontent := hentry k hk
    refine hcontent.trans (hi.entry k ((congrArg (·.valid) hcontent).symm.trans hk) fun h => ?_)
    exact he ((congrArg (·.reservationEpoch) hcontent).trans h)
  installed k hk he := by
    have hcontent := hentry k hk
    obtain ⟨hpending, hunbound⟩ := hi.installed k ((congrArg (·.valid) hcontent).symm.trans hk)
      ((congrArg (·.reservationEpoch) hcontent).symm.trans he)
    exact ⟨(congrArg (·.pending) hcontent).trans hpending, hunbound⟩

theorem installs {p : Nat} {i : Installation} (h : d.Consistent)
    (hepoch : i.operationEpoch = epoch) (hinst : d.Installs k i p d') : Intact q epoch c d' where
  binding b hb := by
    rw [binding_congr hinst.bindings]
    exact hi.binding b hb
  bound b := by
    rw [binding_congr hinst.bindings]
    exact hi.bound b
  entry j hj he := by
    obtain ⟨tick, hself⟩ := hinst.entry_self
    by_cases hjk : j = k
    · subst hjk
      rw [hself] at he
      exact absurd hepoch he
    · rw [hinst.entry_of_ne j hjk] at hj he ⊢
      exact hi.entry j hj he
  installed j hj he := by
    obtain ⟨tick, hself⟩ := hinst.entry_self
    by_cases hjk : j = k
    · subst hjk
      refine ⟨by rw [hself]; rfl, fun b hb => ?_⟩
      -- the victim is free or unreferenced, so no binding of before leads to it
      rw [← hi.binding_eq hb Binding.entryIndex]
      exact h.unbound_of_installs hinst ((hi.binding_eq hb Binding.valid).trans hb)
    · rw [hinst.entry_of_ne j hjk] at hj he ⊢
      exact hi.installed j hj he

theorem binds (hb : d.Binds k q epoch d') : Intact q epoch c d' := by
  refine hi.keep (fun b hbv => ?_) (fun b _ => ?_) (fun j _ => hb.entry_eq Entry.content j)
  · have hne : b ≠ d.freeBindingHead := by
      rintro rfl
      exact absurd ((hi.binding_eq hbv Binding.valid).trans hbv) (by simp [hb.free])
    rw [hb.binding_of_ne b hne]
  · by_cases hbb : b = d.freeBindingHead
    · obtain ⟨pending, hself⟩ := hb.binding_self
      rw [hbb, hself]
      exact .inr ⟨rfl, rfl⟩
    · exact .inl (by rw [hb.binding_of_ne b hbb])

theorem unbinds {b : Nat} (hold : c.Precedes epoch)
    (hepoch : (d.binding b).acquireEpoch = epoch) (hu : d.Unbinds b d') : Intact q epoch c d' := by
  refine hi.keep (fun b' hb' => ?_) (fun b' hb' => .inl ?_) (fun j _ => hu.entry_eq Entry.content j)
  · have hne : b' ≠ b := by
      rintro rfl
      exact hold.binding b' hb' ((hi.binding_eq hb' Binding.acquireEpoch).symm.trans hepoch)
    rw [hu.binding_of_ne b' hne]
  · by_cases hbb : b' = b
    · subst hbb
      rw [hu.binding_self] at hb'
      exact absurd hb' Bool.false_ne_true
    · rw [hu.binding_of_ne b' hbb]

theorem invalidates (hinv : d.Invalidates k d') : Intact q epoch c d' := by
  refine hi.keep (fun b _ => ?_) (fun b _ => .inl ?_) fun j hj => ?_
  · rw [binding_congr hinv.bindings]
  · rw [binding_congr hinv.bindings]
  · by_cases hjk : j = k
    · subst hjk
      rw [hinv.entry_self] at hj
      exact absurd hj Bool.false_ne_true
    · rw [hinv.entry_of_ne j hjk]

end

theorem step {e : Event} (hi : Intact s.sequenceId s.epoch c d) (hold : c.Precedes s.epoch)
    (hkeeps : ¬s.commits) (h : d.Consistent) (ha : s.Allows d e) (hs : Step d e d') :
    Intact s.sequenceId s.epoch c d' := by
  cases hs with
  | quiet hq =>
    exact hi.keep (fun b _ => hq.binding b) (fun b _ => .inl (hq.binding b))
      fun k _ => hq.entry_eq Entry.content k
  | install hinst => exact hi.installs h ha.1 hinst
  | bind hb =>
    obtain ⟨rfl, rfl, -⟩ := ha
    exact hi.binds hb
  | unbind hu => exact hi.unbinds hold ha.2.2 hu
  | invalidate hinv => exact hi.invalidates hinv
  | commit | grow => exact absurd ha.1 hkeeps
  | reset => exact ha.elim

theorem reaches (hi : Intact s.sequenceId s.epoch c d) (hold : c.Precedes s.epoch)
    (hkeeps : ¬s.commits)
    (h : d.Consistent) (hr : s.Reaches d d') : Intact s.sequenceId s.epoch c d' :=
  (hr.invariant (I := fun d => d.Consistent ∧ Intact s.sequenceId s.epoch c d)
    (fun _ _ _ hd ha hs => ⟨hd.1.step hs, hd.2.step hold hkeeps hd.1 ha hs⟩) ⟨h, hi⟩).2

end Intact

/-- A free entry is blank. -/
def Blank (c : PrefixCache) : Prop := ∀ k, (c.entry k).valid = false →
  (c.entry k).referenceCount = 0 ∧ (c.entry k).reservationEpoch = 0

namespace Blank

theorem write (h : c.Blank) (k : Nat) (hself : (c'.entry k).valid = false →
      (c'.entry k).referenceCount = 0 ∧ (c'.entry k).reservationEpoch = 0)
    (hother : ∀ j, j ≠ k → c'.entry j = c.entry j) : c'.Blank := by
  intro j hj
  by_cases hjk : j = k
  · subst hjk
    exact hself hj
  · rw [hother j hjk] at hj ⊢
    exact h j hj

theorem write_valid (h : c.Blank) {k : Nat} (hself : (c'.entry k).valid)
    (hother : ∀ j, j ≠ k → c'.entry j = c.entry j) : c'.Blank :=
  h.write k (fun hk => absurd hself (by simp [hk])) hother

theorem of_free {n : Nat} (hentries : c.entries = freeEntries n) : c.Blank := by
  intro k _
  rw [entry, hentries, freeEntries]
  by_cases hk : k < n
  · simp [hk]
  · simp [hk]

theorem step {e : Event} (h : c.Blank) (hc : c.Consistent) (hs : Step c e c') : c'.Blank := by
  cases hs with
  | quiet hq =>
    intro k hk
    rw [hq.entry_eq Entry.valid] at hk
    rw [hq.entry_eq Entry.referenceCount, hq.entry_eq Entry.reservationEpoch]
    exact h k hk
  | install hi =>
    obtain ⟨tick, hself⟩ := hi.entry_self
    exact h.write_valid (by rw [hself]; rfl) hi.entry_of_ne
  | bind hb => exact h.write_valid (by rw [hb.entry_self]; exact hb.valid) hb.entry_of_ne
  | unbind hu =>
    exact h.write_valid (by rw [hu.entry_self]; exact (hc.binding_mirrors _ hu.valid).valid)
      hu.entry_of_ne
  | @invalidate _ k hi =>
    exact h.write k (fun _ => by rw [hi.entry_self]; exact ⟨rfl, rfl⟩) hi.entry_of_ne
  | commit hcommit =>
    refine h.write_valid ?_ hcommit.entry_of_ne
    rw [hcommit.entry_self, commitEntry, apply_ite Entry.valid, ite_self, hcommit.valid]
  | grow hg =>
    refine h.write_valid ?_ hg.entry_of_ne
    rw [hg.entry_self]
    exact hg.entryIndex ▸ (hc.binding_mirrors _ hg.valid).valid
  | reset hr => exact of_free hr.entries

end Blank

theorem Blank.reaches (hblank : c.Blank) (h : c.Consistent) (hr : s.Reaches c c') : c'.Blank :=
  (hr.invariant (I := fun d : PrefixCache => d.Consistent ∧ d.Blank)
    (fun _ _ _ hd _ hs => ⟨hd.1.step hs, hd.2.step hd.1 hs⟩) ⟨h, hblank⟩).2

theorem blank_run {config : PrefixCacheConfig} {arena : KvArena} (h : c.Consistent)
    (hc : new config arena = .ok c) (ops : List CacheOp) : (c.run ops).Blank :=
  h.run_invariant (.of_free (tables_of_new hc).1) (fun _ _ _ hd hblank hs => hblank.step hd hs) ops

/-- After a failed call the bindings and references are those of before, nothing carries its epoch,
and as many entries may be installed over. -/
structure Restored (c c' : PrefixCache) : Prop where
  binding_valid : ∀ b, (c'.binding b).valid = (c.binding b).valid
  binding : ∀ b, (c.binding b).valid → (c'.binding b).sequenceId = (c.binding b).sequenceId ∧
      (c'.binding b).firstTokenIndex = (c.binding b).firstTokenIndex ∧
      (c'.binding b).entryIndex = (c.binding b).entryIndex ∧
      (c'.binding b).tokenCount = (c.binding b).tokenCount
  references : ∀ k, 0 < (c.entry k).referenceCount →
    (c'.entry k).referenceCount = (c.entry k).referenceCount
  epoch : ∀ k, (c'.entry k).reservationEpoch ≠ c.operationEpoch + 1
  available : c.entries.countP Entry.isAvailable ≤ c'.entries.countP Entry.isAvailable
  lost : ∀ k, (c'.entry k).content = (c.entry k).content ∨ (c.entry k).referenceCount = 0

theorem Consistent.exists_binding {k : Nat} (h : c.Consistent) (hk : (c.entry k).valid)
    (href : (c.entry k).referenceCount ≠ 0) :
    ∃ b, (c.binding b).valid ∧ (c.binding b).entryIndex = k := by
  rw [h.references k hk, countP_eq_card_filter_range _ {}, ← Nat.pos_iff_ne_zero,
    Finset.card_pos] at href
  obtain ⟨b, hb⟩ := href
  have hbinds := (Finset.mem_filter.mp hb).2
  simp only [Binding.bindsEntry, Bool.and_eq_true, beq_iff_eq] at hbinds
  exact ⟨b, hbinds⟩

namespace Intact

variable (hi : Intact q (c.operationEpoch + 1) c c')
  (hclear : c'.Cleared q (c.operationEpoch + 1)) {k : Nat}

include hi hclear

theorem valid_eq (b : Nat) : (c'.binding b).valid = (c.binding b).valid := by
  cases hb : (c.binding b).valid with
  | true => exact (hi.binding_eq hb Binding.valid).trans hb
  | false =>
    by_contra hne
    rw [Bool.not_eq_false] at hne
    obtain ⟨hq, hepoch⟩ := hi.bound b hne hb
    exact hclear.unbound b hne hq hepoch

theorem bindsEntry_eq (k b : Nat) :
    Binding.bindsEntry k (c'.binding b) = Binding.bindsEntry k (c.binding b) := by
  cases hb : (c.binding b).valid with
  | true => exact hi.binding_eq hb (Binding.bindsEntry k)
  | false => rw [Binding.bindsEntry, Binding.bindsEntry, hi.valid_eq hclear b, hb]; rfl

theorem not_installed (h' : c'.Consistent) (hk : (c'.entry k).valid) :
    (c'.entry k).reservationEpoch ≠ c.operationEpoch + 1 := by
  intro hepoch
  obtain ⟨hpending, hunbound⟩ := hi.installed k hk hepoch
  obtain ⟨b, hb, hbk⟩ := h'.exists_binding hk (hclear.dropped k hk hpending hepoch)
  rw [hi.valid_eq hclear b] at hb
  exact hunbound b hb ((hi.binding_eq hb Binding.entryIndex).symm.trans hbk)

theorem referenceCount_eq (h : c.Consistent) (h' : c'.Consistent) (hshape : c.SameShape c')
    (hk : (c.entry k).valid) (hk' : (c'.entry k).valid) :
    (c'.entry k).referenceCount = (c.entry k).referenceCount := by
  rw [h.references k hk, h'.references k hk']
  exact countP_congr_getD _ {} hshape.bindingCount fun b => hi.bindsEntry_eq hclear k b

theorem isAvailable_of (h : c.Consistent) (h' : c'.Consistent) (hshape : c.SameShape c')
    (hk : (c.entry k).isAvailable) : (c'.entry k).isAvailable = true := by
  cases hv : (c'.entry k).valid with
  | false => simp [Entry.isAvailable, hv]
  | true =>
    have hcontent := hi.entry k hv (hi.not_installed hclear h' hv)
    have hvalid : (c.entry k).valid = true := (congrArg (·.valid) hcontent).symm.trans hv
    have hpending : (c'.entry k).pending = (c.entry k).pending := congrArg (·.pending) hcontent
    have href := hi.referenceCount_eq hclear h h' hshape hvalid hv
    rw [Entry.isAvailable, hv, hpending, href]
    rwa [Entry.isAvailable, hvalid] at hk

theorem restored (h : c.Consistent) (h' : c'.Consistent) (hblank : c.Blank) (hblank' : c'.Blank)
    (hshape : c.SameShape c') : Restored c c' := by
  have hheld : ∀ k, (c.entry k).referenceCount ≠ 0 →
      (c.entry k).valid = true ∧ (c'.entry k).valid = true := fun k hk => by
    have hvalid : (c.entry k).valid = true := by
      by_contra hfree
      exact hk (hblank k (by simpa using hfree)).1
    obtain ⟨b, hb, rfl⟩ := h.exists_binding hvalid hk
    have hb' := (hi.binding_eq hb Binding.valid).trans hb
    exact ⟨hvalid, hi.binding_eq hb Binding.entryIndex ▸ (h'.binding_mirrors b hb').valid⟩
  constructor
  case binding_valid => exact hi.valid_eq hclear
  case binding =>
    intro b hb
    exact ⟨hi.binding_eq hb Binding.sequenceId, hi.binding_eq hb Binding.firstTokenIndex,
      hi.binding_eq hb Binding.entryIndex, hi.binding_eq hb Binding.tokenCount⟩
  case references =>
    intro k hk
    obtain ⟨hvalid, hvalid'⟩ := hheld k hk.ne'
    exact hi.referenceCount_eq hclear h h' hshape hvalid hvalid'
  case epoch =>
    intro k
    cases hk : (c'.entry k).valid with
    | true => exact hi.not_installed hclear h' hk
    | false => rw [(hblank' k hk).2]; exact (Nat.succ_ne_zero _).symm
  case available =>
    rw [countP_eq_card_filter_range _ {}, countP_eq_card_filter_range _ {}, hshape.entryCount]
    refine Finset.card_le_card fun k hk => ?_
    rw [Finset.mem_filter] at hk ⊢
    exact ⟨hk.1, hi.isAvailable_of hclear h h' hshape hk.2⟩
  case lost =>
    intro k
    by_cases hk : (c.entry k).referenceCount = 0
    · exact .inr hk
    · obtain ⟨-, hvalid'⟩ := hheld k hk
      exact .inl (hi.entry k hvalid' (hi.not_installed hclear h' hvalid'))

end Intact

theorem Scope.Withdraws.restored (hw : s.Withdraws c c') (h : c.Consistent) (hblank : c.Blank)
    (hepoch : s.epoch = c.operationEpoch + 1) (hkeeps : ¬s.commits) : Restored c c' := by
  have hold : c.Precedes s.epoch := hepoch ▸ h.precedes
  have hi := (Intact.refl hold).reaches hold hkeeps h hw.1
  have hclear := hw.2
  rw [hepoch] at hi hclear
  exact hi.restored hclear h (hw.1.consistent h) hblank (hblank.reaches h hw.1) hw.1.shape

theorem ensureSequenceTokenCapacity_withdraws {n : Nat} (h : c.Consistent) (hhoused : c.Housed)
    (hepoch : s.epoch = c.operationEpoch + 1) (hrollsBack : s.rollsBack) (hfresh : s.fresh)
    (hinstalls : ∀ i, i.liveOnly → s.installs i) :
    wp (ensureSequenceTokenCapacity s.sequenceId n) (fun _ _ => True)
      (fun e c' => s.Withdraws c c' ∧ e ≠ .internalError) c := by
  unfold ensureSequenceTokenCapacity
  rw [wp_ite]
  refine ⟨fun _ => ⟨h.withdraws hepoch, nofun⟩, fun hzero => ?_⟩
  rw [not_or] at hzero
  rw [wp_read, wp_bind, nextOperationEpoch_wp, wp_bind, ← hepoch]
  have hnext : c.Quiet { c with operationEpoch := s.epoch } := hepoch ▸ Quiet.nextEpoch
  have hnext' := h.quiet hnext
  refine wp_mono (wp_onError_rollback (Q := fun _ _ => True)
    (E := fun e d => s.forward.Reaches _ d ∧ e ≠ .internalError) hnext' hrollsBack
    (fun _ _ hd => hd.1) ?_) (fun cursor d _ => ?_)
    (fun _ d hd => ⟨hd.1.of_quiet hnext, hd.2.elim fun _ hfail => hfail.2⟩)
  · rw [wp_bind]
    have hgrows := @growLoop_wp _ _ n hnext' hfresh hinstalls le_rfl (c.ceilBlockCount n)
    refine wp_post hgrows fun cursor d hd => ?_
    rw [wp_bind]
    exact wp_total (commitReservation_succeeds (hd.1.consistent hnext')
      ((hhoused.step (.quiet hnext)).evolves hd.1) hzero.1 (by omega)) fun _ _ _ => trivial
  · cases cursor.short with
    | none | some => trivial

/-- A call of the cache that fails, with the state it leaves. -/
inductive FailsTo (c c' : PrefixCache) : Prop
  | reservePrompt {q : Nat} {tokenIds : List Nat} {e : PrefixCacheError}
      (h : PrefixCache.reservePrompt q tokenIds c = .error e c')
  | reserveSequencePrompt {q : Nat} {tokenIds : List Nat} {e : PrefixCacheError}
      (h : PrefixCache.reserveSequencePrompt q tokenIds c = .error e c')
  | lookupPrompt {q : Nat} {tokenIds : List Nat} {e : PrefixCacheError}
      (h : PrefixCache.lookupPrompt q tokenIds c = .error e c')
  | ensureSequenceTokenCapacity {q n : Nat} {e : PrefixCacheError}
      (h : PrefixCache.ensureSequenceTokenCapacity q n c = .error e c')

/-- In every state a cache reaches, a reservation, a lookup or a growth that fails leaves the
bindings and the references of before. -/
theorem failed_call_restores {arenaConfig : KvArenaConfig} {config : PrefixCacheConfig}
    {arena : KvArena} (ha : KvArena.new arenaConfig = .ok arena)
    (hc : PrefixCache.new config arena = .ok c) (ops : List CacheOp)
    (hfails : FailsTo (c.run ops) c') : Restored (c.run ops) c' := by
  have h := (consistent_new ha hc).run ops
  have hblank := blank_run (consistent_new ha hc) hc ops
  have hhoused := housed_run ha hc ops
  generalize c.run ops = d at h hblank hhoused hfails
  cases hfails with
  | reservePrompt hfail | reserveSequencePrompt hfail =>
    exact (wp_error (CacheOp.reserve_wp h) hfail).1.restored h hblank rfl id
  | @lookupPrompt q tokenIds e hfail =>
    exact (wp_error (lookupPrompt_wp (s := CacheOp.lookupScope d q tokenIds) h id rfl trivial)
      hfail).1.restored h hblank rfl id
  | @ensureSequenceTokenCapacity q n e hfail =>
    exact (wp_error (ensureSequenceTokenCapacity_withdraws (s :=
      { CacheOp.nextScope d q with installs := fun _ => True }) h hhoused rfl trivial trivial
      fun _ _ => trivial) hfail).1.restored h hblank rfl id

theorem failed_call_restores_small : ∃ arena c, KvArena.new smallArenaConfig = .ok arena ∧
    PrefixCache.new smallConfig arena = .ok c ∧
    Restored (c.run [.commitPrompt 1 [1, 2, 3]])
      (finalState (reservePrompt 2 [1, 2, 3, 4, 5, 6, 7, 8, 9, 1, 2, 3, 4, 5, 6, 7]
        (c.run [.commitPrompt 1 [1, 2, 3]]))) := by
  refine ⟨_, _, rfl, rfl, ?_⟩
  refine @failed_call_restores _ _ smallArenaConfig smallConfig _ rfl rfl
    [.commitPrompt 1 [1, 2, 3]]
    (.reservePrompt (eq_error_of_errorOf (e := .capacityExceeded) ?_))
  decide +kernel

/-! ### The free lists -/

theorem commitPrompt_not_internal {tokenIds : List Nat} (h : c.Consistent) (hhoused : c.Housed) :
    wp (commitPrompt q tokenIds) (fun _ _ => True) (fun e _ => e ≠ .internalError) c := by
  unfold commitPrompt reservePrompt
  rw [wp_bind]
  rcases eq_or_ne q 0 with hq | hq
  · rw [reservePromptInternal, if_pos (.inr hq), wp_throw]
    nofun
  refine wp_mono (CacheOp.reserve_wp h) (fun r d hd => ?_) (fun _ _ hd => hd.2.not_internal)
  have hreach := hd.1.reaches
  rw [wp_bind, wp_onError]
  exact wp_total (commitReservation_succeeds (hreach.consistent h) (hhoused.evolves hreach) hq
    (hd.1.reservationEpoch ▸ Nat.succ_ne_zero _)) fun _ _ _ => trivial

/-- In every state a cache reaches, each free list visits every cell that is not valid once and
no other cell, and so what installs or binds never finds another head than the cell it takes. -/
theorem free_lists_are_exact {arenaConfig : KvArenaConfig} {config : PrefixCacheConfig}
    {arena : KvArena} (ha : KvArena.new arenaConfig = .ok arena)
    (hc : PrefixCache.new config arena = .ok c) (ops : List CacheOp) :
    let d := c.run ops
    d.ListsFreeEntries ∧ d.ListsFreeBindings ∧
      (∀ q tokenIds n d', reservePrompt q tokenIds d ≠ .error .internalError d' ∧
        reserveSequencePrompt q tokenIds d ≠ .error .internalError d' ∧
        commitPrompt q tokenIds d ≠ .error .internalError d' ∧
        ensureSequenceTokenCapacity q n d ≠ .error .internalError d') ∧
      ∀ q k epoch pending d₀ d',
        acquireEntryForSequence q k epoch pending d₀ ≠ .error .internalError d' := by
  have h := (consistent_new ha hc).run ops
  have hhoused := housed_run ha hc ops
  generalize c.run ops = d at h hhoused
  refine ⟨h.free_entries, h.free_bindings, fun q tokenIds n d' => ⟨fun he => ?_, fun he => ?_,
    fun he => wp_error (commitPrompt_not_internal h hhoused) he rfl, fun he => ?_⟩,
    fun _ _ _ _ _ _ he => wp_error acquireEntryForSequence_not_internal he rfl⟩
  · exact (wp_error (CacheOp.reserve_wp h) he).2.not_internal rfl
  · exact (wp_error (CacheOp.reserve_wp h) he).2.not_internal rfl
  · exact (wp_error (ensureSequenceTokenCapacity_withdraws (s :=
      { CacheOp.nextScope d q with installs := fun _ => True }) h hhoused rfl trivial trivial
      fun _ _ => trivial) he).2 rfl

theorem free_lists_are_exact_small : ∃ arena c, KvArena.new smallArenaConfig = .ok arena ∧
    PrefixCache.new smallConfig arena = .ok c ∧
    (c.run [.commitPrompt 1 [1, 2, 3], .releaseSequence 1]).ListsFreeEntries := by
  refine ⟨_, _, rfl, rfl, ?_⟩
  exact (@free_lists_are_exact _ smallArenaConfig smallConfig _ rfl rfl _).1

end SparkPipe.PrefixCache
