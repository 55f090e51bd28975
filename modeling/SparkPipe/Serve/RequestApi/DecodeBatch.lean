import SparkPipe.Serve.RequestApi.Selection

/-!
# The members of a decode batch

The scan of the slot table keeps its members by bounded sorted insertion, with the leader in front
of the order. Whatever the order of the table is, what it keeps are the first ones of the slots
that passed the checks, by priority and then by submission.
-/

open Program

namespace Program

open List

theorem foldlM_check {ε σ β γ : Type} {check : γ → EStateM ε σ Bool} {P : γ → Prop}
    (hcheck : ∀ x s, wp (check x) (fun found _ => found → P x) (fun _ _ => False) s)
    (f : β → γ → β) : ∀ (l passed : List γ) (b : β) (s : σ), ∃ (more : List γ) (s' : σ),
      more.Sublist l ∧ (∀ x ∈ more, P x) ∧
      l.filterAuxM check passed s = .ok (more.reverse ++ passed) s' ∧
      (l.foldlM (fun b x => do if ← check x then return f b x else return b) b :
        EStateM ε σ β) s = .ok (more.foldl f b) s'
  | [], _, _, s => ⟨[], s, .refl _, nofun, rfl, rfl⟩
  | x :: l, passed, b, s => by
      obtain ⟨found, t, hx, hP⟩ := exists_ok_of_wp (hcheck x s) fun _ _ => id
      rw [List.filterAuxM, foldlM_cons, bind_of_ok hx, bind_assoc, bind_of_ok hx]
      cases found with
      | false =>
        obtain ⟨more, s', hsub, hmore, hruns⟩ := foldlM_check hcheck f l passed b t
        exact ⟨more, s', hsub.cons x, hmore, hruns⟩
      | true =>
        obtain ⟨more, s', hsub, hmore, hfilter, hfold⟩ :=
          foldlM_check hcheck f l (x :: passed) (f b x) t
        refine ⟨x :: more, s', hsub.cons_cons x, forall_mem_cons.mpr ⟨hP rfl, hmore⟩, ?_,
          hfold⟩
        rw [reverse_cons, append_assoc]
        exact hfilter

theorem insertIdx_append {α : Type} {a : α} {l l' : List α} :
    (l ++ l').insertIdx l.length a = l ++ a :: l' := by
  induction l with
  | nil => rfl
  | cons b l ih => exact congrArg (b :: ·) ih

end Program

namespace SparkPipe.RequestApi

open List

variable {E : Seams} (settings : RequestApiSettings) (slots : List Slot)

/-- The order of slots in a batch. -/
def Before (i j : Nat) : Prop :=
  (slots.getD j {}).hasHigherSchedulingPriorityThan (slots.getD i {}) = false

variable {slots} {i j k : Nat} (leader x : Nat)

theorem Before.trans (h : Before slots i j) (h' : Before slots j k) : Before slots i k := by
  simp only [Before, Slot.hasHigherSchedulingPriorityThan] at h h' ⊢
  split_ifs at h h' ⊢ <;> simp at * <;> omega

theorem Before.of_higher
    (h : (slots.getD i {}).hasHigherSchedulingPriorityThan (slots.getD j {})) :
    Before slots i j := by
  simp only [Before, Slot.hasHigherSchedulingPriorityThan] at h ⊢
  split_ifs at h ⊢ <;> simp at * <;> omega

theorem insertIdx_insertionIndex {x} {front back : List Nat}
    (hsorted : (front ++ back).Pairwise (Before slots)) (hback : ∀ j ∈ back, Before slots x j) :
    ∃ front' back', front' ++ back' = front ++ back ∧
      (front' ++ x :: back').Pairwise (Before slots) ∧
      (leader :: (front ++ back)).insertIdx (insertionIndex slots (slots.getD x {})
        (leader :: (front ++ back)) (front.length + 1)) x = leader :: (front' ++ x :: back') := by
  induction front using List.reverseRecOn generalizing back with
  | nil => exact ⟨[], back, rfl, pairwise_cons.mpr ⟨hback, hsorted⟩, rfl⟩
  | append_singleton front i ih =>
    have hi : (leader :: (front ++ [i] ++ back)).getD (front.length + 1) 0 = i := by simp
    rw [length_append, length_singleton, insertionIndex, hi]
    split_ifs with hgoes
    · rw [append_assoc] at hsorted ⊢
      exact ih hsorted (forall_mem_cons.mpr ⟨.of_higher hgoes.2, hback⟩)
    have hix : Before slots i x := by simpa [Before] using hgoes
    refine ⟨front ++ [i], back, rfl, ?_, ?_⟩
    · obtain ⟨hfront, hrest, hcross⟩ := pairwise_append.mp hsorted
      refine pairwise_append.mpr ⟨hfront, pairwise_cons.mpr ⟨hback, hrest⟩,
        fun j hj k hk => ?_⟩
      rcases mem_cons.mp hk with rfl | hk
      · rcases mem_append.mp hj with hj | hj
        · exact ((pairwise_append.mp hfront).2.2 j hj i (by simp)).trans hix
        · rwa [mem_singleton.mp hj]
      · exact hcross j hj k hk
    · have hlength : front.length + 1 = (front ++ [i]).length := by simp
      rw [hlength, insertIdx_succ_cons, insertIdx_append]

variable (slots)

/-- The members are the first ones of the eligible slots, as many as there is room for. -/
structure AreFirst (count : Nat) (eligible members : List Nat) : Prop where
  length : members.length = min count eligible.length
  sorted : members.Pairwise (Before slots)
  first : ∃ rest, (members ++ rest).Perm eligible ∧ ∀ i ∈ members, ∀ j ∈ rest, Before slots i j

variable {slots} {selectedCapacity : Nat} {eligible members : List Nat}

theorem AreFirst.insert (h : AreFirst slots (selectedCapacity - 1) eligible members) :
    ∃ members', insertBatchMemberByPriority slots (leader :: members) selectedCapacity x =
        leader :: members' ∧ AreFirst slots (selectedCapacity - 1) (x :: eligible) members' := by
  obtain ⟨hlength, hsorted, rest, hperm, hrest⟩ := h
  have hsize := hperm.length_eq
  rw [length_append] at hsize
  have hinsert {front : List Nat} (hfront : front.Pairwise (Before slots)) : ∃ members',
      (leader :: front).insertIdx (insertionIndex slots (slots.getD x {}) (leader :: front)
        (leader :: front).length) x = leader :: members' ∧
      members'.Pairwise (Before slots) ∧ members'.Perm (x :: front) := by
    rw [← front.append_nil] at hfront
    obtain ⟨front', back', hsplit, hsorted', heq⟩ := insertIdx_insertionIndex leader hfront nofun
    rw [append_nil] at hsplit heq
    exact ⟨_, heq, hsorted', hsplit ▸ perm_middle⟩
  unfold insertBatchMemberByPriority
  dsimp only
  by_cases hone : selectedCapacity ≤ 1
  · obtain rfl : members = [] := length_eq_zero_iff.mp (by omega)
    rw [if_pos hone]
    exact ⟨[], rfl, by simp; omega, .nil, x :: rest, hperm.cons x, nofun⟩
  rw [if_neg hone]
  by_cases hfull : selectedCapacity ≤ (leader :: members).length
  · rw [if_pos hfull]
    rw [length_cons] at hfull
    rcases eq_nil_or_concat' members with rfl | ⟨front, last, rfl⟩
    · exact absurd hfull hone
    rw [length_append, length_singleton] at hlength hfull
    obtain rfl : selectedCapacity = front.length + 2 := by omega
    have hlast : (leader :: (front ++ [last])).getD (front.length + 2 - 1) 0 = last := by simp
    have hkept : (leader :: (front ++ [last])).take (front.length + 2 - 1) = leader :: front := by
      simp
    rw [hlast, hkept]
    obtain ⟨hfront, -, hbefore⟩ := pairwise_append.mp hsorted
    have hlast := hrest last (by simp)
    split_ifs with hx
    · -- the slot goes behind the last member
      refine ⟨_, rfl, by simp; omega, hsorted, x :: rest, perm_middle.trans (hperm.cons x), ?_⟩
      intro i hi
      refine forall_mem_cons.mpr ⟨?_, hrest i hi⟩
      rcases mem_append.mp hi with hi | hi
      · exact (hbefore i hi last (by simp)).trans hx
      · rwa [mem_singleton.mp hi]
    · -- the last member makes room for the slot
      have hx : Before slots x last := .of_higher (by simpa using hx)
      obtain ⟨members', heq, hsorted', hperm'⟩ := hinsert hfront
      refine ⟨members', heq, by rw [hperm'.length_eq]; simp; omega, hsorted', last :: rest, ?_,
        fun i hi => forall_mem_cons.mpr ?_⟩
      · rw [← append_cons] at hperm
        exact (hperm'.append_right _).trans (hperm.cons x)
      · rcases mem_cons.mp (hperm'.mem_iff.mp hi) with rfl | hi
        · exact ⟨hx, fun j hj => hx.trans (hlast j hj)⟩
        · exact ⟨hbefore i hi last (by simp), hrest i (by simp [hi])⟩
  · obtain ⟨members', heq, hsorted', hperm'⟩ := hinsert hsorted
    rw [length_cons] at hfull
    obtain rfl : rest = [] := length_eq_zero_iff.mp (by omega)
    rw [append_nil] at hperm
    rw [if_neg (by simpa using hfull)]
    refine ⟨members', heq, by rw [hperm'.length_eq]; simp; omega, hsorted', [], ?_, by simp⟩
    rw [append_nil]
    exact hperm'.trans (hperm.cons x)

theorem AreFirst.foldl (passed : List Nat)
    (h : AreFirst slots (selectedCapacity - 1) eligible members) :
    ∃ members', passed.foldl (insertBatchMemberByPriority slots · selectedCapacity ·)
        (leader :: members) = leader :: members' ∧
      AreFirst slots (selectedCapacity - 1) (passed.reverse ++ eligible) members' := by
  induction passed generalizing eligible members with
  | nil => exact ⟨members, rfl, h⟩
  | cons x passed ih =>
    obtain ⟨members', heq, hfirst⟩ := h.insert leader x
    rw [foldl_cons, heq, reverse_cons, append_assoc]
    exact ih hfirst

variable (slots)

/-- The checks that a slot has to pass to join the leader of a decode batch. -/
def decodeMemberIsEligible (leaderSlotIndex : Nat) (requireResidentKv : Bool) (slotIndex : Nat) :
    RuntimeM E Bool := do
  let leader := slots.getD leaderSlotIndex {}
  let slot := slots.getD slotIndex {}
  let runtime ← get
  if slotIndex = leaderSlotIndex ∨ slot.isSchedulableDecode = false ∨
      runtime.slotCanSpeculate settings slot ≠ runtime.slotCanSpeculate settings leader then
    return false
  else memberBlocksAreResident settings leader slot requireResidentKv

theorem decodeMemberIsEligible_wp (leader : Nat) (requireResidentKv : Bool) (x : Nat)
    (runtime : Runtime E) :
    wp (decodeMemberIsEligible settings slots leader requireResidentKv x)
      (fun found _ => found → x ≠ leader) (fun _ _ => False) runtime := by
  unfold decodeMemberIsEligible
  rw [wp_read, wp_ite]
  refine ⟨fun _ hfound => absurd hfound Bool.false_ne_true, fun hx => ?_⟩
  have hne : x ≠ leader := fun h => hx (.inl h)
  unfold memberBlocksAreResident decodeBlocksAreResident
  simp only [wp_bind, wp_ite, wp_pure, wp_attempt]
  refine ⟨fun _ => ⟨fun _ _ => hne, fun _ => ?_⟩, fun _ _ => hne⟩
  refine wp_intro (fun _ _ _ => ⟨fun _ _ => hne, fun _ => ?_⟩) fun _ _ _ _ => hne
  exact wp_intro (fun _ _ _ _ => hne) fun _ _ _ _ => hne

/-- A decode batch is its leader, followed by the first ones of the slots that pass the checks, in
the order of priority and submission, as many as there is room for. -/
theorem collectDecodeBatchMembers_best (leaderSlotIndex : Nat) (requireResidentKv : Bool)
    (selectedCapacity : Nat) (runtime : Runtime E) :
    ∃ eligible members after, (List.range slots.length).filterM
        (decodeMemberIsEligible settings slots leaderSlotIndex requireResidentKv) runtime =
        .ok eligible after ∧
      collectDecodeBatchMembers settings slots leaderSlotIndex requireResidentKv selectedCapacity
        runtime = .ok (leaderSlotIndex :: members) after ∧
      AreFirst slots (selectedCapacity - 1) eligible members ∧
      (leaderSlotIndex :: members).Nodup := by
  have hbody : collectDecodeBatchMembers (E := E) settings slots leaderSlotIndex requireResidentKv
      selectedCapacity = (List.range slots.length).foldlM (fun selected x => do
        if ← decodeMemberIsEligible settings slots leaderSlotIndex requireResidentKv x then
          return insertBatchMemberByPriority slots selected selectedCapacity x
        else return selected) [leaderSlotIndex] := by
    unfold collectDecodeBatchMembers decodeMemberIsEligible
    refine congrArg (List.foldlM · [leaderSlotIndex] (List.range slots.length)) ?_
    funext selected x
    simp only [bind_assoc]
    refine bind_congr fun runtime => ?_
    split_ifs <;> rfl
  obtain ⟨eligible, after, hsub, hne, hfilter, hfold⟩ := foldlM_check
    (decodeMemberIsEligible_wp settings slots leaderSlotIndex requireResidentKv)
    (insertBatchMemberByPriority slots · selectedCapacity ·) (List.range slots.length) []
    [leaderSlotIndex] runtime
  have hnone : AreFirst slots (selectedCapacity - 1) [] [] := ⟨by simp, .nil, [], .nil, nofun⟩
  obtain ⟨members, hmembers, hlength, hsorted, rest, hperm, hrest⟩ :=
    hnone.foldl leaderSlotIndex eligible
  rw [append_nil] at hlength hperm
  have hperm := hperm.trans eligible.reverse_perm
  refine ⟨eligible, members, after, ?_, ?_, ⟨?_, hsorted, rest, hperm, hrest⟩, ?_⟩
  · rw [List.filterM, bind_of_ok hfilter, append_nil, reverse_reverse]
    rfl
  · rw [hbody, hfold, hmembers]
  · rwa [length_reverse] at hlength
  · have hnodup := hperm.nodup_iff.mpr (hsub.nodup nodup_range)
    refine nodup_cons.mpr ⟨fun hmem => ?_, hnodup.of_append_left⟩
    exact hne _ (hperm.mem_iff.mp (mem_append_left _ hmem)) rfl

end SparkPipe.RequestApi
