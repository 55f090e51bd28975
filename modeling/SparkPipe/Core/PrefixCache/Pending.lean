import SparkPipe.Core.PrefixCache.Consistent

/-!
# Blocks that a reservation holds alone

A block that a reservation installs is pending until the reservation is settled, and only
the sequence that reserved it is bound to it. No transition on behalf of another
reservation or another sequence changes that.
-/

open Program

namespace SparkPipe.PrefixCache

variable {c c' : PrefixCache}

/-- The sequence holds no binding at token offset `t`. -/
def UnheldAt (c : PrefixCache) (q t : Nat) : Prop :=
  ∀ b, (c.binding b).valid → (c.binding b).sequenceId = q → (c.binding b).firstTokenIndex ≠ t

/-- The sequence holds no binding at the offset of entry `k`. -/
def UnboundAt (c : PrefixCache) (q k : Nat) : Prop := c.UnheldAt q (c.entry k).firstTokenIndex

/-- Binding `b` at offset `t` alone holds the pending entry `k` over block `p`. -/
structure HeldPending (c : PrefixCache) (q epoch t p b k : Nat) : Prop where
  valid : (c.binding b).valid
  sequenceId : (c.binding b).sequenceId = q
  firstTokenIndex : (c.binding b).firstTokenIndex = t
  acquireEpoch : (c.binding b).acquireEpoch = epoch
  entryIndex : (c.binding b).entryIndex = k
  pending : (c.entry k).pending
  reservationEpoch : (c.entry k).reservationEpoch = epoch
  physicalBlockIndex : (c.entry k).physicalBlockIndex = p
  alone : ∀ b', (c.binding b').valid → (c.binding b').entryIndex = k ∨
      ((c.binding b').sequenceId = q ∧ (c.binding b').firstTokenIndex = t) → b' = b

/-- The transitions that leave the pending blocks of the sequence and the epoch alone. -/
def Spares (q epoch : Nat) (c : PrefixCache) : Event → Prop
  | .bind k q' _ => c.UnboundAt q' k ∧
      (q' = q ∨ ((c.entry k).pending → (c.entry k).reservationEpoch ≠ epoch))
  | .unbind b => (c.binding b).sequenceId ≠ q ∨ (c.binding b).acquireEpoch ≠ epoch
  | .commit k => (c.entry k).reservationEpoch ≠ epoch
  | .reset => False
  | _ => True

namespace HeldPending

variable {q epoch t p b k : Nat}

section

variable (hh : c.HeldPending q epoch t p b k)
include hh

theorem congr (hself : (c'.binding b).core = (c.binding b).core)
    (hpending : (c'.entry k).pending = (c.entry k).pending)
    (hreservation : (c'.entry k).reservationEpoch = (c.entry k).reservationEpoch)
    (hblock : (c'.entry k).physicalBlockIndex = (c.entry k).physicalBlockIndex)
    (hothers : ∀ b', b' ≠ b → (c'.binding b').valid →
      ((c.binding b').valid ∧ (c'.binding b').entryIndex = (c.binding b').entryIndex ∧
        (c'.binding b').sequenceId = (c.binding b').sequenceId ∧
        (c'.binding b').firstTokenIndex = (c.binding b').firstTokenIndex) ∨
      ((c'.binding b').entryIndex ≠ k ∧
        ((c'.binding b').sequenceId = q → (c'.binding b').firstTokenIndex ≠ t))) :
    c'.HeldPending q epoch t p b k where
  valid := (congrArg Binding.valid hself).trans hh.valid
  sequenceId := (congrArg Binding.sequenceId hself).trans hh.sequenceId
  firstTokenIndex := (congrArg Binding.firstTokenIndex hself).trans hh.firstTokenIndex
  acquireEpoch := (congrArg Binding.acquireEpoch hself).trans hh.acquireEpoch
  entryIndex := (congrArg Binding.entryIndex hself).trans hh.entryIndex
  pending := hpending.trans hh.pending
  reservationEpoch := hreservation.trans hh.reservationEpoch
  physicalBlockIndex := hblock.trans hh.physicalBlockIndex
  alone b' hb' hcase := by
    by_contra hne
    rcases hothers b' hne hb' with ⟨hvalid, hentry, hq, ht⟩ | ⟨hentry, hq⟩
    · rw [hentry, hq, ht] at hcase
      exact hne (hh.alone b' hvalid hcase)
    · exact hcase.elim hentry fun hcase => hq hcase.1 hcase.2

theorem congr_bindings (hbindings : c'.bindings = c.bindings)
    (hentry : c'.entry k = c.entry k) : c'.HeldPending q epoch t p b k :=
  hh.congr (congrArg _ (binding_congr hbindings b)) (by rw [hentry]) (by rw [hentry])
    (by rw [hentry]) fun b' _ hb' => by
      rw [binding_congr hbindings] at hb' ⊢
      exact .inl ⟨hb', rfl, rfl, rfl⟩

theorem ne_of_installs (h : c.Consistent) {k' p' : Nat}
    {i : Installation} (hi : c.Installs k' i p' c') : k ≠ k' :=
  hh.entryIndex ▸ h.unbound_of_installs hi hh.valid

theorem step {e : Event} (h : c.Consistent)
    (ha : Spares q epoch c e) (hs : Step c e c') : c'.HeldPending q epoch t p b k := by
  cases hs with
  | quiet hq =>
    refine hh.congr (hq.binding b) (hq.entry_eq Entry.pending k)
      (hq.entry_eq Entry.reservationEpoch k) (hq.entry_eq Entry.physicalBlockIndex k)
      fun b' _ hb' => .inl ⟨?_, hq.binding_eq Binding.entryIndex b',
        hq.binding_eq Binding.sequenceId b', hq.binding_eq Binding.firstTokenIndex b'⟩
    rwa [hq.binding_eq Binding.valid b'] at hb'
  | install hi => exact hh.congr_bindings hi.bindings (hi.entry_of_ne k (hh.ne_of_installs h hi))
  | @bind _ k' _ _ hb =>
    obtain ⟨hunheld, hcase⟩ := ha
    have hm := h.binding_mirrors b hh.valid
    rw [hh.entryIndex] at hm
    have hne : k ≠ k' := by
      rintro rfl
      rcases hcase with rfl | hepoch
      · exact hunheld b hh.valid hh.sequenceId hm.firstTokenIndex
      · exact hepoch hh.pending hh.reservationEpoch
    have hslot : b ≠ c.freeBindingHead := by
      rintro rfl
      exact absurd hh.valid (by simp [hb.free])
    have hentry := hb.entry_of_ne k hne
    refine hh.congr (congrArg _ (hb.binding_of_ne b hslot)) (by rw [hentry]) (by rw [hentry])
      (by rw [hentry]) fun b' _ hb' => ?_
    by_cases hb'slot : b' = c.freeBindingHead
    · -- the new binding is to another entry, at an offset its sequence did not hold
      obtain ⟨pending, hself⟩ := hb.binding_self
      rw [hb'slot, hself]
      refine .inr ⟨hne.symm, fun hq' ht => ?_⟩
      exact hunheld b hh.valid (hh.sequenceId.trans hq'.symm) (hh.firstTokenIndex.trans ht.symm)
    · rw [hb.binding_of_ne b' hb'slot] at hb' ⊢
      exact .inl ⟨hb', rfl, rfl, rfl⟩
  | @unbind _ b₀ hu =>
    have hne : b ≠ b₀ := by
      rintro rfl
      exact ha.elim (fun hq => hq hh.sequenceId) fun he => he hh.acquireEpoch
    refine hh.congr (congrArg _ (hu.binding_of_ne b hne)) (hu.entry_eq Entry.pending k)
      (hu.entry_eq Entry.reservationEpoch k) (hu.entry_eq Entry.physicalBlockIndex k)
      fun b' _ hb' => ?_
    have hb'ne : b' ≠ b₀ := by
      rintro rfl
      rw [hu.binding_self] at hb'
      exact absurd hb' (by simp)
    rw [hu.binding_of_ne b' hb'ne] at hb' ⊢
    exact .inl ⟨hb', rfl, rfl, rfl⟩
  | @invalidate _ k' hi =>
    have hne : k ≠ k' := by
      rintro rfl
      exact h.referenceCount_ne_zero hh.valid (hh.entryIndex ▸ hi.unreferenced)
    exact hh.congr_bindings hi.bindings (hi.entry_of_ne k hne)
  | @commit _ k' hc =>
    have hne : k ≠ k' := by
      rintro rfl
      exact ha hh.reservationEpoch
    exact hh.congr_bindings hc.bindings (hc.entry_of_ne k hne)
  | @grow _ b₀ k' hg =>
    have hne : k ≠ k' := by
      rintro rfl
      exact absurd hh.pending (by simp [hg.committed])
    have hentry := hg.entry_of_ne k hne
    have hbne : b ≠ b₀ := by
      rintro rfl
      exact hne (hh.entryIndex.symm.trans hg.entryIndex)
    refine hh.congr (congrArg _ (hg.binding_of_ne b hbne)) (by rw [hentry]) (by rw [hentry])
      (by rw [hentry]) fun b' _ hb' => ?_
    by_cases hb' : b' = b₀
    · rw [hb', hg.binding_self]
      exact .inl ⟨hg.valid, rfl, rfl, rfl⟩
    · rename_i hvalid
      rw [hg.binding_of_ne b' hb'] at hvalid ⊢
      exact .inl ⟨hvalid, rfl, rfl, rfl⟩
  | reset => exact ha.elim

theorem evolves (h : c.Consistent)
    (he : Evolves Step (Spares q epoch) c c') : c'.HeldPending q epoch t p b k :=
  (Evolves.invariant (I := fun d => d.Consistent ∧ d.HeldPending q epoch t p b k)
    (fun _ _ _ hd ha hs => ⟨hd.1.step hs, hd.2.step hd.1 ha hs⟩) he ⟨h, hh⟩).2

end

end HeldPending

end SparkPipe.PrefixCache
