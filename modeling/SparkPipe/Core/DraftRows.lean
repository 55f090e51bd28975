import Mathlib.Algebra.BigOperators.Fin
import Mathlib.Algebra.Order.BigOperators.Group.Finset
import SparkPipe.Core.RowAllocator
import SparkPipe.Program.Table

/-!
# The rows of a wave are worth the most

The value of a slot's next draft row never rises with the rows it has, so granting row by row
is as good as any assignment: at the value of the first row that is left, no slot has a row too
many or too few.
-/

open Finset Program

namespace SparkPipe.RowAllocator

/-! ### The value of rows -/

theorem sum_range_add_le {v : Nat → Nat} {price b o : Nat} (hbelow : ∀ d < b, price ≤ v d)
    (habove : ∀ d, b ≤ d → d < o → v d ≤ price) :
    ∑ d ∈ range o, v d + b * price ≤ ∑ d ∈ range b, v d + o * price := by
  rcases le_total b o with hle | hle
  · induction o, hle using Nat.le_induction with
    | base => exact le_rfl
    | succ o hle ih =>
      have hlast := habove o hle (Nat.lt_succ_self o)
      have hrest := ih fun d hd hdo => habove d hd (hdo.trans (Nat.lt_succ_self o))
      rw [sum_range_succ, Nat.succ_mul]
      omega
  · induction b, hle using Nat.le_induction with
    | base => exact le_rfl
    | succ b hle ih =>
      have hlast := hbelow b (Nat.lt_succ_self b)
      have hrest := ih (fun d hd => hbelow d (hd.trans (Nat.lt_succ_self b))) fun d _ _ => by omega
      rw [sum_range_succ, Nat.succ_mul]
      omega

theorem draftRowValue_antitone (cost : Nat) (slot : SlotInput) :
    Antitone (draftRowValue cost slot) := by
  refine antitone_nat_of_succ_le fun d => ?_
  have halpha : alphaMilli slot.commitEmaMilli ≤ milli := by
    unfold alphaMilli
    split_ifs
    · exact Nat.zero_le _
    · exact (min_le_right _ _).trans (by decide)
  rw [draftRowValue, List.range_succ, List.foldl_append]
  refine (Nat.mod_le _ _).trans (Nat.div_le_of_le_mul ?_)
  rw [Nat.mul_comm]
  exact Nat.mul_le_mul_right _ halpha

/-! ### The rounds -/

/-- A slot with its index. -/
abbrev Indexed := SlotInput × Nat

variable (cost : Nat) (slots : List SlotInput) (budgets : List Nat) {l : List Indexed}

/-- The rows granted to a slot. -/
abbrev rows (x : Indexed) : Nat := budgets.getD x.2 0

/-- The value of the next row of a slot, or zero if there is none to be granted. -/
def offered (x : Indexed) : Nat :=
  if x.1.probe = 0 ∧ rows budgets x < x.1.maximumDraftDepth then
    draftRowValue cost x.1 (rows budgets x)
  else 0

/-- A row of value `v` of slot `j` goes before every other row. -/
def Preferred (f : Indexed → Nat) (l : List Indexed) (v j : Nat) : Prop :=
  0 < v ∧ ∀ x ∈ l, f x ≤ v ∧ (x.2 < j → f x < v)

/-- The first of the highest values above zero. -/
structure IsBest (f : Indexed → Nat) (l : List Indexed) (best : Option Nat × Nat) : Prop where
  le : ∀ x ∈ l, f x ≤ best.2
  none : best.1 = none → best.2 = 0
  found : ∀ j, best.1 = some j → ∃ y ∈ l, y.2 = j ∧ f y = best.2 ∧ Preferred f l (f y) y.2

theorem Preferred.mono {f g : Indexed → Nat} {v j : Nat}
    (h : Preferred f l v j) (hle : ∀ {x}, x ∈ l → g x ≤ f x) : Preferred g l v j :=
  ⟨h.1, fun x hx => ⟨(hle hx).trans (h.2 x hx).1, fun hi => (hle hx).trans_lt ((h.2 x hx).2 hi)⟩⟩

theorem foldl_isBest {f : Indexed → Nat} (hl : l.Pairwise fun x y => x.2 < y.2) :
    IsBest f l (l.foldl (fun best x => if best.2 < f x then (some x.2, f x) else best)
      (none, 0)) := by
  induction l using List.reverseRecOn with
  | nil => exact ⟨nofun, fun _ => rfl, nofun⟩
  | append_singleton l t ih =>
    obtain ⟨hl, -, ht⟩ := List.pairwise_append.mp hl
    obtain ⟨hle, hnone, hfound⟩ := ih hl
    have hall {p : Indexed → Prop} hl ht : ∀ x ∈ l ++ [t], p x :=
      List.forall_mem_append.mpr ⟨hl, List.forall_mem_singleton.mpr ht⟩
    rw [List.foldl_append, List.foldl_cons]
    split_ifs with hless
    · refine ⟨hall (fun x hx => (hle x hx).trans hless.le) le_rfl, nofun, ?_⟩
      rintro _ ⟨⟩
      exact ⟨t, by simp, rfl, rfl, Nat.zero_lt_of_lt hless, hall
        (fun x hx => ⟨(hle x hx).trans hless.le, fun _ => (hle x hx).trans_lt hless⟩)
        ⟨le_rfl, fun h => absurd h (lt_irrefl _)⟩⟩
    · refine ⟨hall hle (not_lt.mp hless), hnone, fun j hj => ?_⟩
      obtain ⟨y, hy, rfl, hvalue, hpos, hfirst⟩ := hfound j hj
      exact ⟨y, List.mem_append_left _ hy, rfl, hvalue, hpos, hall hfirst
        ⟨hvalue ▸ not_lt.mp hless, fun h => absurd h (ht y hy t (.head _)).not_gt⟩⟩

theorem bestDraftRow_isBest :
    IsBest (offered cost budgets) slots.zipIdx (bestDraftRow cost slots budgets) := by
  have hbest : bestDraftRow cost slots budgets = slots.zipIdx.foldl (fun best x =>
      if best.2 < offered cost budgets x then (some x.2, offered cost budgets x) else best)
      (none, 0) := by
    unfold bestDraftRow
    congr 1
    funext best x
    have hzero : alphaMilli x.1.commitEmaMilli = 0 →
        draftRowValue cost x.1 (rows budgets x) = 0 := fun h =>
      Nat.eq_zero_of_le_zero ((draftRowValue_antitone cost x.1 (Nat.zero_le _)).trans
        (by simp [draftRowValue, h]))
    unfold offered
    grind
  rw [hbest]
  refine foldl_isBest ?_
  have := List.pairwise_lt_range' (s := 0) (n := slots.length)
  rw [← List.zipIdx_map_snd] at this
  exact List.pairwise_map.mp this

/-- Rows were granted in the order of their values, and none without value. -/
structure Granted : Prop where
  length : budgets.length = slots.length
  le : ∀ x ∈ slots.zipIdx, rows budgets x ≤ x.1.maximumDraftDepth
  ordered : ∀ y ∈ slots.zipIdx, y.1.probe = 0 → 0 < rows budgets y →
    Preferred (offered cost budgets) slots.zipIdx (draftRowValue cost y.1 (rows budgets y - 1)) y.2

variable {cost slots budgets}

theorem slot_unique {x y : Indexed} (hx : x ∈ slots.zipIdx) (hy : y ∈ slots.zipIdx)
    (h : x.2 = y.2) : x = y := by
  rw [List.mem_zipIdx_iff_getElem?] at hx hy
  exact Prod.ext (Option.some.inj (hx.symm.trans (h ▸ hy))) h

theorem of_offered_pos {x : Indexed} (h : 0 < offered cost budgets x) :
    x.1.probe = 0 ∧ rows budgets x < x.1.maximumDraftDepth ∧
      offered cost budgets x = draftRowValue cost x.1 (rows budgets x) := by
  unfold offered at h ⊢
  split_ifs at h ⊢ with hx
  · exact ⟨hx.1, hx.2, rfl⟩
  · exact absurd h (lt_irrefl 0)

theorem Granted.grant {y : Indexed} (h : Granted cost slots budgets) (hy : y ∈ slots.zipIdx)
    (hbest : Preferred (offered cost budgets) slots.zipIdx (offered cost budgets y) y.2) :
    Granted cost slots (budgets.set y.2 (rows budgets y + 1)) := by
  obtain ⟨-, hroom, hvalue⟩ := of_offered_pos hbest.1
  have hlt : y.2 < budgets.length := by simpa [h.length] using List.snd_lt_of_mem_zipIdx hy
  generalize hset : budgets.set y.2 (rows budgets y + 1) = budgets'
  have hrows {x} (hx : x ∈ slots.zipIdx) : rows budgets' x = rows budgets x ∨
      x = y ∧ rows budgets' x = rows budgets x + 1 := by
    rw [← hset]
    by_cases hxy : x.2 = y.2
    · obtain rfl := slot_unique hx hy hxy
      exact .inr ⟨rfl, getD_set_self hlt⟩
    · exact .inl (getD_set_of_ne hxy)
  have hoffered {x} (hx : x ∈ slots.zipIdx) : offered cost budgets' x ≤ offered cost budgets x := by
    have hle : rows budgets x ≤ rows budgets' x := by
      rcases hrows hx with heq | ⟨-, heq⟩ <;> omega
    have hvalue := draftRowValue_antitone cost x.1 hle
    unfold offered
    grind
  refine ⟨by rw [← hset, List.length_set, h.length], fun x hx => ?_, fun z hz hprobe hsome => ?_⟩
  · rcases hrows hx with heq | ⟨rfl, heq⟩
    · exact heq ▸ h.le x hx
    · exact heq ▸ hroom
  · rcases hrows hz with heq | ⟨rfl, heq⟩
    · rw [heq] at hsome ⊢
      exact (h.ordered z hz hprobe hsome).mono @hoffered
    · rw [heq, Nat.add_sub_cancel, ← hvalue]
      exact hbest.mono @hoffered

theorem sum_set_add_one {l : List Nat} {j : Nat} (hj : j < l.length) :
    (l.set j (l.getD j 0 + 1)).sum = l.sum + 1 := by
  induction l generalizing j with
  | nil => simp at hj
  | cons a l ih =>
    cases j with
    | zero => simp; omega
    | succ j =>
      have hrest := ih (Nat.lt_of_succ_lt_succ hj)
      simp at hrest ⊢
      omega

theorem Granted.greedyGrant (h : Granted cost slots budgets) (remaining : Nat) :
    ∃ budgets', greedyGrant cost slots remaining budgets = budgets' ∧ Granted cost slots budgets' ∧
      (∀ x ∈ slots.zipIdx, x.1.probe ≠ 0 → rows budgets' x = rows budgets x) ∧
      budgets'.sum ≤ budgets.sum + remaining ∧
      (budgets'.sum = budgets.sum + remaining ∨ (bestDraftRow cost slots budgets').2 = 0) := by
  induction remaining generalizing budgets with
  | zero => exact ⟨budgets, rfl, h, fun _ _ _ => rfl, le_rfl, .inl rfl⟩
  | succ remaining ih =>
    have hbest := bestDraftRow_isBest cost slots budgets
    rw [RowAllocator.greedyGrant]
    cases hslot : (bestDraftRow cost slots budgets).1 with
    | none =>
      exact ⟨budgets, rfl, h, fun _ _ _ => rfl, Nat.le_add_right _ _, .inr (hbest.none hslot)⟩
    | some j =>
      obtain ⟨y, hy, rfl, -, hfirst⟩ := hbest.found j hslot
      obtain ⟨budgets', heq, hgranted, hprobes, hsum, hend⟩ := ih (h.grant hy hfirst)
      have hlt : y.2 < budgets.length := by simpa [h.length] using List.snd_lt_of_mem_zipIdx hy
      rw [sum_set_add_one hlt] at hsum hend
      refine ⟨budgets', heq, hgranted, fun x hx hx' => ?_, by omega, hend.imp_left (by omega)⟩
      refine (hprobes x hx hx').trans (getD_set_of_ne fun hxy => hx' ?_)
      rw [slot_unique hx hy hxy]
      exact (of_offered_pos hfirst.1).1

/-! ### The best assignment -/

variable (cost slots budgets) in
/-- The value of all rows of an assignment. -/
def totalValue : Nat :=
  (slots.zipIdx.map fun x => ∑ d ∈ range (rows budgets x), draftRowValue cost x.1 d).sum

variable (slots budgets) in
/-- Another assignment within the depths, with the same rows for probing slots. -/
structure Rivals (capacity : Nat) (other : List Nat) : Prop where
  length : other.length = slots.length
  sum_le : other.sum ≤ capacity
  rows : ∀ x ∈ slots.zipIdx, if x.1.probe = 0 then rows other x ≤ x.1.maximumDraftDepth
    else rows other x = rows budgets x

theorem sum_zipIdx (h : budgets.length = slots.length) :
    (slots.zipIdx.map fun x => rows budgets x).sum = budgets.sum := by
  refine congrArg _ (List.ext_getElem (by simp [h]) fun i hi hi' => ?_)
  simp [hi']

theorem Granted.totalValue_le (h : Granted cost slots budgets) {other : List Nat} {capacity : Nat}
    (hend : budgets.sum = capacity ∨ (bestDraftRow cost slots budgets).2 = 0)
    (hother : Rivals slots budgets capacity other) :
    totalValue cost slots other ≤ totalValue cost slots budgets := by
  have hbest := bestDraftRow_isBest cost slots budgets
  set price := (bestDraftRow cost slots budgets).2 with hprice
  -- at the price of the next row, a slot's rows are worth the most
  have hterm : ∀ x ∈ slots.zipIdx, ∑ d ∈ range (rows other x), draftRowValue cost x.1 d +
      rows budgets x * price ≤ ∑ d ∈ range (rows budgets x), draftRowValue cost x.1 d +
        rows other x * price := by
    intro x hx
    have hx' := hother.rows x hx
    split_ifs at hx' with hprobe
    · refine sum_range_add_le (fun d hd => ?_) fun d hd hdo => ?_
      · obtain ⟨-, hlast⟩ := h.ordered x hx hprobe (Nat.zero_lt_of_lt hd)
        refine le_trans ?_ (draftRowValue_antitone cost x.1 (Nat.le_sub_one_of_lt hd))
        cases hslot : (bestDraftRow cost slots budgets).1 with
        | none => rw [hprice, hbest.none hslot]; exact Nat.zero_le _
        | some j =>
          obtain ⟨y, hy, -, hvalue, -⟩ := hbest.found j hslot
          exact (hprice.trans hvalue.symm).trans_le (hlast y hy).1
      · refine (draftRowValue_antitone cost x.1 hd).trans ?_
        have hle := hbest.le x hx
        rwa [offered, if_pos ⟨hprobe, by omega⟩] at hle
    · rw [hx']
  have hall := List.sum_le_sum hterm
  rw [List.sum_map_add, List.sum_map_add, List.sum_map_mul_right, List.sum_map_mul_right,
    sum_zipIdx hother.length, sum_zipIdx h.length] at hall
  refine Nat.le_of_add_le_add_right (hall.trans (Nat.add_le_add_left ?_ _))
  rcases hend with hfull | hnothing
  · exact Nat.mul_le_mul_right price (hfull ▸ hother.sum_le)
  · rw [hnothing, Nat.mul_zero, Nat.mul_zero]

/-! ### The probes -/

/-- The rows of the slots that probe. -/
def probeGrants (slots : List SlotInput) (budgets : List Nat) : List Nat :=
  List.zipWith (fun slot rows => if slot.probe = 0 then 0 else rows) slots budgets

theorem grantProbes_spec (slots : List SlotInput) (remaining : Nat) :
    ∃ grants rest, grantProbes slots remaining = (grants, rest) ∧
      grants.length = slots.length ∧ grants.sum + rest = remaining ∧
      ∀ x ∈ slots.zipIdx, rows grants x = if x.1.probe = 0 then 0
        else min (min probeRows x.1.maximumDraftDepth) (remaining - (grants.take x.2).sum) := by
  induction slots generalizing remaining with
  | nil => exact ⟨[], remaining, rfl, rfl, by simp, nofun⟩
  | cons slot slots ih =>
    rw [grantProbes]
    generalize hgrant : ite (remaining = 0 ∨ slot.probe = 0 ∨ slot.maximumDraftDepth = 0) 0
      (min (min probeRows slot.maximumDraftDepth) remaining) = grant
    have hle : grant ≤ remaining := by grind
    have hfirst : grant = if slot.probe = 0 then 0
        else min (min probeRows slot.maximumDraftDepth) remaining := by
      grind
    obtain ⟨grants, rest, heq, hlength, hsum, hspec⟩ := ih (remaining - grant)
    refine ⟨grant :: grants, rest, by rw [heq], by simp [hlength], by simp; omega, ?_⟩
    rw [List.zipIdx_cons', List.forall_mem_cons, List.forall_mem_map]
    refine ⟨by simpa using hfirst, fun x hx => ?_⟩
    simpa [Nat.sub_sub] using hspec x hx

/-! ### The assignment -/

/-- Slots that probe come first, and the others make the most of the rest. -/
structure IsExact (cost capacity : Nat) (slots : List SlotInput) (budgets : List Nat) : Prop
    extends Granted cost slots budgets where
  probed : ∀ x ∈ slots.zipIdx, x.1.probe ≠ 0 → rows budgets x =
    min (min probeRows x.1.maximumDraftDepth)
      (capacity - ((probeGrants slots budgets).take x.2).sum)
  optimal : ∀ other, Rivals slots budgets capacity other →
    totalValue cost slots other ≤ totalValue cost slots budgets

theorem probeGrants_eq {grants : List Nat} (hlength : grants.length = slots.length)
    (hbudgets : budgets.length = slots.length) (h : ∀ x ∈ slots.zipIdx,
      rows grants x = if x.1.probe = 0 then 0 else rows budgets x) :
    probeGrants slots budgets = grants := by
  refine List.ext_getElem (by simp [probeGrants, hlength, hbudgets]) fun i hi hi' => ?_
  have := h (slots[i], i) (by simp [List.mem_zipIdx_iff_getElem?])
  simp [probeGrants]
  grind

theorem assign_exact (slots : List SlotInput) {cap : Nat} (cost : Nat) (hcap : 0 < cap) :
    ∃ budgets, assign slots cap cost = (budgets, min slots.length cap + budgets.sum) ∧
      min slots.length cap + budgets.sum ≤ cap ∧
      IsExact (if cost = 0 then milli else cost) (cap - min slots.length cap) slots budgets := by
  rw [assign, if_neg hcap.ne']
  generalize (if cost = 0 then milli else cost) = cost
  obtain ⟨grants, rest, heq, hlength, hsum, hspec⟩ :=
    grantProbes_spec slots (cap - min slots.length cap)
  have hgranted : Granted cost slots grants := by
    refine ⟨hlength, fun x hx => ?_, fun y hy hprobe hpos => ?_⟩
    · grind
    · rw [hspec y hy, if_pos hprobe] at hpos
      exact absurd hpos (lt_irrefl 0)
  obtain ⟨budgets, hgreedy, hgranted, hprobes, hle, hend⟩ := hgranted.greedyGrant rest
  rw [hsum] at hend
  refine ⟨budgets, by simp only [heq, hgreedy], by omega, hgranted, fun x hx hprobe => ?_,
    fun _ => hgranted.totalValue_le hend⟩
  rw [probeGrants_eq hlength hgranted.length fun x hx => by grind, hprobes x hx hprobe,
    hspec x hx, if_neg hprobe]

/-- The second slot probes, and the other two take turns from a tie on. -/
theorem assign_exact_probing :
    let slots := [⟨2000, 4, 0⟩, ⟨1500, 2, 1⟩, ⟨2000, 4, 0⟩]
    assign slots 8 0 = ([2, 2, 1], 8) ∧ IsExact milli 5 slots [2, 2, 1] := by
  intro slots
  obtain ⟨budgets, heq, -, hexact⟩ := @assign_exact slots 8 0 (by decide)
  have hassign : assign slots 8 0 = ([2, 2, 1], 8) := by decide +kernel
  obtain rfl : budgets = [2, 2, 1] := congrArg Prod.fst (heq.symm.trans hassign)
  exact ⟨hassign, hexact⟩

end SparkPipe.RowAllocator
