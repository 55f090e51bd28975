import SparkPipe.Core.PrefixCache.Run

/-!
# Reserving what a probe did not find

A prompt is probed first and reserved afterwards. The probe stops at the first block that is
not found, while the reservation looks every block up. When everything that the reservation
would find belongs to the prefix that the probe found, the blocks after that prefix are
installed anew and held by the sequence alone.
-/

open Program

namespace SparkPipe.PrefixCache

variable {c c' : PrefixCache} {b epoch j k p q : Nat} {tokenIds : List Nat}

/-! ### What stays held -/

/-- Whatever is held for an epoch up to `n` stays held. -/
structure KeepsUpTo (n : Nat) (c c' : PrefixCache) : Prop where
  shape : c.SameShape c'
  spares : ∀ q epoch, epoch ≤ n → Evolves Step (Spares q epoch) c c'

namespace KeepsUpTo

variable {n : Nat}

theorem refl (n : Nat) (c : PrefixCache) : KeepsUpTo n c c :=
  ⟨⟨rfl, rfl, rfl, rfl, le_rfl⟩, fun _ _ _ => .refl c⟩

theorem trans {c'' : PrefixCache} (h : KeepsUpTo n c c') (h' : KeepsUpTo n c' c'') :
    KeepsUpTo n c c'' :=
  ⟨h.shape.trans h'.shape, fun q epoch hle => (h.spares q epoch hle).trans (h'.spares q epoch hle)⟩

theorem mono {m : Nat} (h : KeepsUpTo n c c') (hle : m ≤ n) : KeepsUpTo m c c' :=
  ⟨h.shape, fun q epoch hm => h.spares q epoch (hm.trans hle)⟩

theorem of_quiet (h : c.Quiet c') : KeepsUpTo n c c' :=
  ⟨h.toSameShape, fun _ _ _ => .single (.quiet h) trivial⟩

theorem of_reaches {s : Scope} (h : s.Reaches c c') (hfresh : s.fresh) (hlt : n < s.epoch) :
    KeepsUpTo n c c' :=
  ⟨h.shape, fun _ _ hle => .mono
    (fun _ _ ha => ha.spares hfresh (Nat.ne_of_gt (hle.trans_lt hlt))) h⟩

theorem consistent (h : KeepsUpTo n c c') (hc : c.Consistent) : c'.Consistent :=
  hc.evolves (h.spares 0 0 n.zero_le)

theorem held {t : Nat} (h : KeepsUpTo n c c') (hc : c.Consistent) (hle : epoch ≤ n)
    (hh : c.HeldPending q epoch t p b k) : c'.HeldPending q epoch t p b k :=
  hh.evolves hc (h.spares q epoch hle)

end KeepsUpTo

theorem HeldPending.of_releases {q' t : Nat} (h : Evolves Step (Releases q') c c')
    (hc : c.Consistent) (hne : q' ≠ q) (hh : c.HeldPending q epoch t p b k) :
    c'.HeldPending q epoch t p b k :=
  hh.evolves hc (.mono (fun _ e he => match e, he with
    | .unbind _, he => .inl (he.trans_ne hne)
    | .invalidate _, _ => trivial) h)

/-! ### Probe and reservation -/

/-- Block `j` of the prompt belongs to the prefix that a probe finds. -/
def InProbedPrefix (c : PrefixCache) (q : Nat) (tokenIds : List Nat) (j : Nat) : Prop :=
  j < c.reusableBlockCount tokenIds ∧
    ∀ i ≤ j, (c.matchForSequence q (promptLabel c.blockTokenCount tokenIds i)).isSome

/-- Whatever a reservation of the prompt finds lies in the prefix that a probe finds. -/
structure ProbeCovers (c : PrefixCache) (q : Nat) (tokenIds : List Nat) : Prop where
  held : ∀ b < c.bindings.length, (c.binding b).valid → (c.binding b).sequenceId = q →
    c.InProbedPrefix q tokenIds ((c.binding b).firstTokenIndex / c.blockTokenCount)
  shared : ∀ j < c.reusableBlockCount tokenIds,
    (c.findEntry (promptLabel c.blockTokenCount tokenIds j) true).isSome →
    c.InProbedPrefix q tokenIds j

instance (c : PrefixCache) (q : Nat) (tokenIds : List Nat) (j : Nat) :
    Decidable (c.InProbedPrefix q tokenIds j) := inferInstanceAs (Decidable (_ ∧ _))

instance (c : PrefixCache) (q : Nat) (tokenIds : List Nat) :
    Decidable (c.ProbeCovers q tokenIds) :=
  decidable_of_iff (_ ∧ _) ⟨fun h => ⟨h.1, h.2⟩, fun h => ⟨h.held, h.shared⟩⟩

theorem not_inProbedPrefix {m : Nat}
    (hm : c.MatchesPrompt (c.matchForSequence q) tokenIds m) (hj : m ≤ j) :
    ¬c.InProbedPrefix q tokenIds j := by
  rintro ⟨hlt, hall⟩
  have hfound := hall m hj
  simp [hm.stops (hj.trans_lt hlt)] at hfound

theorem ProbeCovers.absent {m n : Nat} (hcover : c.ProbeCovers q tokenIds)
    (hpos : 0 < c.blockTokenCount) (hlength : tokenIds.length < 2 ^ 32)
    (hm : c.MatchesPrompt (c.matchForSequence q) tokenIds m) (hj : m ≤ j) :
    c.Absent q (tokenIds.take n) true j where
  unheld b hb hq ht := by
    have hin := hcover.held b (lt_bindings_length_of_valid hb) hb hq
    rw [ht, Nat.mul_div_cancel _ hpos] at hin
    exact not_inProbedPrefix hm hj hin
  unshared _ hlt k hre hlabel := by
    have hend := (lt_maximumReusableTokenCount_iff hpos).mp hlt
    have hcount : tokenCountOf (tokenIds.take n) ≤ min n (tokenCountOf tokenIds) := by
      unfold tokenCountOf
      rw [Nat.mod_eq_of_lt hlength, List.length_take]
      exact Nat.mod_le _ _
    rw [promptLabel_take (hend.le.trans (hcount.trans (min_le_left _ _)))] at hlabel
    have hbound : j < c.reusableBlockCount tokenIds :=
      (lt_reusableBlockCount_iff hpos).mpr ((lt_maximumReusableTokenCount_iff hpos).mpr
        (hend.trans_le (hcount.trans (min_le_right _ _))))
    refine not_inProbedPrefix hm hj (hcover.shared j hbound ?_)
    rw [Option.isSome_iff_ne_none]
    intro hnone
    have hfalse := findIdx?_none_getD {} hnone rfl k
    change ((c.entry k).valid && (c.entry k).label == _ && (!true || c.isReusable (c.entry k))) =
      false at hfalse
    simp [(isReusable_iff.mp hre).1, hlabel, hre] at hfalse

theorem Quiet.inProbedPrefix (hq : c.Quiet c') :
    c'.InProbedPrefix q tokenIds j ↔ c.InProbedPrefix q tokenIds j := by
  unfold InProbedPrefix reusableBlockCount maximumReusableTokenCount
  simp only [hq.matchForSequence, hq.blockTokenCount]

theorem ProbeCovers.quiet (hcover : c.ProbeCovers q tokenIds) (hq : c.Quiet c') :
    c'.ProbeCovers q tokenIds where
  held b hlt hb hseq := by
    rw [hq.binding_eq Binding.valid] at hb
    rw [hq.binding_eq Binding.sequenceId] at hseq
    rw [hq.binding_eq Binding.firstTokenIndex, hq.blockTokenCount, hq.inProbedPrefix]
    exact hcover.held b (hq.bindingCount ▸ hlt) hb hseq
  shared j hlt hfind := by
    unfold reusableBlockCount maximumReusableTokenCount at hlt
    rw [hq.findEntry] at hfind
    rw [hq.blockTokenCount] at hlt hfind
    rw [hq.inProbedPrefix]
    exact hcover.shared j hlt hfind

/-! ### Blocks owned by one sequence -/

/-- Block `p` is of a pending entry that only the sequence holds. -/
def PendingOwned (c : PrefixCache) (q p : Nat) : Prop :=
  ∃ k, (c.entry k).valid ∧ (c.entry k).physicalBlockIndex = p ∧ (c.entry k).pending ∧
    ∀ b, (c.binding b).valid → (c.binding b).entryIndex = k → (c.binding b).sequenceId = q

theorem HeldPending.pendingOwned {t : Nat} (hh : c.HeldPending q epoch t p b k) (h : c.Consistent) :
    c.PendingOwned q p := by
  refine ⟨k, hh.entryIndex ▸ (h.binding_mirrors b hh.valid).valid, hh.physicalBlockIndex,
    hh.pending, fun b' hb' hk => ?_⟩
  rw [hh.alone b' hb' (.inl hk)]
  exact hh.sequenceId

theorem HeldPending.eq_of_lists {n p' : Nat} {table : List Nat}
    (hh : c.HeldPending q epoch (j * c.blockTokenCount) p b k) (h : c.Consistent)
    (hl : c.Lists q n table) (hp' : table[j]? = some p') : p' = p := by
  obtain ⟨b', hfind, rfl⟩ := hl.bound hp'
  obtain ⟨hb', hq, ht⟩ := findBindingAtTokenOffset_some hfind
  rw [hh.alone b' hb' (.inr ⟨hq, ht⟩), (h.binding_mirrors b hh.valid).physicalBlockIndex,
    hh.entryIndex, hh.physicalBlockIndex]

end SparkPipe.PrefixCache
