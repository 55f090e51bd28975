import Mathlib.Algebra.GroupWithZero.Nat
import Mathlib.Data.List.GetD
import Mathlib.Data.Finset.Card

/-!
# Tables and intrusive free lists

Storage that is allocated once and addressed by index is a list read with a default value
and written in place. Its unused cells may be chained through one of their own fields; the
chain starts at a head word and ends at a sentinel.

## Main definitions

* `Linked`: following the links from a head visits the given list of cells.
* `FreeList`: the chain visits every free cell once and no other cell.

## Main results

* `getD_set`: reading a table after a write.
* `countP_set_add`: how a write changes the number of cells with a property.
* `FreeList.push`, `FreeList.pop`, `FreeList.initial`: the operations of a free list.
-/

namespace Program

open List

section Table

variable {α : Type} {i : Nat}

theorem getD_set (l : List α) (i j : Nat) (v d : α) :
    (l.set i v).getD j d = if i = j ∧ i < l.length then v else l.getD j d := by
  by_cases hij : i = j
  · subst hij
    by_cases hi : i < l.length
    · simp [hi]
    · simp [hi]
  · simp [hij]

variable {l : List α} {p : α → Bool} {l' : List α}

theorem getD_set_self {v d : α} (h : i < l.length) : (l.set i v).getD i d = v := by
  rw [getD_set, if_pos ⟨rfl, h⟩]

theorem getD_set_of_ne {j : Nat} {v d : α} (h : j ≠ i) : (l.set i v).getD j d = l.getD j d := by
  rw [getD_set, if_neg fun hij => h hij.1.symm]

theorem forall_getElem?_concat {P : Nat → α → Prop} {v : α} (hl : ∀ i w, l[i]? = some w → P i w)
    (hv : P l.length v) (i : Nat) (w : α) (hw : (l ++ [v])[i]? = some w) : P i w := by
  rcases lt_trichotomy i l.length with hi | rfl | hi
  · rw [getElem?_append_left hi] at hw
    exact hl i w hw
  · rw [getElem?_concat_length] at hw
    cases hw
    exact hv
  · rw [getElem?_eq_none (by rw [length_append, length_singleton]; omega)] at hw
    cases hw

theorem findIdx?_some_getD (d : α) (h : l.findIdx? p = some i) :
    i < l.length ∧ p (l.getD i d) = true := by
  obtain ⟨hlt, hp, -⟩ := findIdx?_eq_some_iff_getElem.mp h
  rw [getD_eq_getElem _ _ hlt]
  exact ⟨hlt, hp⟩

theorem findIdx?_le_getD {j : Nat} (d : α) (h : l.findIdx? p = some i)
    (hj : p (l.getD j d)) : i ≤ j := by
  by_contra hlt
  obtain ⟨hi, -, hfirst⟩ := findIdx?_eq_some_iff_getElem.mp h
  rw [getD_eq_getElem _ _ ((not_le.mp hlt).trans hi)] at hj
  exact hfirst j (not_le.mp hlt) hj

theorem findIdx?_none_getD (d : α) (h : l.findIdx? p = none)
    (hd : p d = false) (i : Nat) : p (l.getD i d) = false := by
  by_cases hlt : i < l.length
  · rw [getD_eq_getElem _ _ hlt]
    exact findIdx?_eq_none_iff.mp h _ (getElem_mem hlt)
  · rw [getD_eq_default _ _ (not_lt.mp hlt), hd]

theorem findIdx?_congr_getD {p p' : α → Bool} (d : α) (hlength : l'.length = l.length)
    (h : ∀ i, p' (l'.getD i d) = p (l.getD i d)) :
    l'.findIdx? p' = l.findIdx? p := by
  induction l generalizing l' with
  | nil => rw [length_eq_zero_iff.mp hlength, findIdx?_nil, findIdx?_nil]
  | cons a l ih =>
    cases l' with
    | nil => simp at hlength
    | cons a' =>
      have hhead : p' a' = p a := by simpa using h 0
      rw [findIdx?_cons, findIdx?_cons, hhead,
        ih (by simpa using hlength) fun i => by simpa using h (i + 1)]

theorem countP_set_add (p : α → Bool) (v d : α) (h : i < l.length) :
    (l.set i v).countP p + (if p (l.getD i d) then 1 else 0) =
      l.countP p + (if p v then 1 else 0) := by
  have hset := countP_set (p := p) (a := v) h
  rw [getD_eq_getElem _ _ h]
  have hpos : p l[i] = true → 0 < l.countP p := fun hp =>
    countP_pos_iff.mpr ⟨l[i], getElem_mem h, hp⟩
  rw [hset]
  by_cases hp : p l[i] = true
  · have := hpos hp
    rw [if_pos hp]
    omega
  · rw [if_neg hp]
    omega

theorem map_set_getD {β : Type} (f : α → β) {a d : α} (h : f a = f (l.getD i d)) :
    (l.set i a).map f = l.map f := by
  by_cases hi : i < l.length
  · rw [getD_eq_getElem _ _ hi] at h
    rw [map_set, h, ← getElem_map f, set_getElem_self]
    rwa [length_map]
  · rw [set_eq_of_length_le (not_lt.mp hi)]

theorem countP_eq_card_filter_range (p : α → Bool) (d : α) (l : List α) :
    l.countP p = ((Finset.range l.length).filter fun i => p (l.getD i d)).card := by
  induction l using reverseRecOn with
  | nil => simp
  | append_singleton l a ih =>
    rw [countP_append, length_append, length_singleton,
      Finset.range_add_one, Finset.filter_insert, ih]
    have hold : ((Finset.range l.length).filter fun i => p ((l ++ [a]).getD i d)) =
        (Finset.range l.length).filter fun i => p (l.getD i d) := by
      refine Finset.filter_congr fun i hi => ?_
      have hi := Finset.mem_range.mp hi
      rw [getD_append _ _ _ _ hi]
    have hnew : (l ++ [a]).getD l.length d = a := by simp
    rw [hold]
    by_cases ha : p a
    · simp [ha]
    · simp [ha]

theorem countP_add_countP_le {p q : α → Bool} (h : ∀ a, p a → q a = false) (l : List α) :
    l.countP p + l.countP q ≤ l.length := by
  induction l with
  | nil => simp
  | cons a =>
    cases hp : p a <;> cases hq : q a <;> simp_all <;> omega

theorem countP_congr_getD (p : α → Bool) (d : α) (hlength : l'.length = l.length)
    (h : ∀ i, p (l'.getD i d) = p (l.getD i d)) :
    l'.countP p = l.countP p := by
  rw [countP_eq_card_filter_range p d l, countP_eq_card_filter_range p d l', hlength]
  simp only [h]

end Table

/-- Following `next` from `head` visits exactly the given cells and ends at `stop`. -/
def Linked (next : Nat → Nat) (stop : Nat) : Nat → List Nat → Prop
  | head, [] => head = stop
  | head, i :: rest => head = i ∧ i ≠ stop ∧ Linked next stop (next i) rest

theorem Linked.congr {next next' : Nat → Nat} {stop : Nat} :
    ∀ {head : Nat} {l : List Nat}, Linked next stop head l →
      (∀ i ∈ l, next' i = next i) → Linked next' stop head l
  | _, [], h, _ => h
  | _, i :: rest, ⟨hi, hstop, hrest⟩, hnext => by
      refine ⟨hi, hstop, ?_⟩
      rw [hnext i mem_cons_self]
      exact hrest.congr fun j hj => hnext j (mem_cons_of_mem i hj)

/-- The chain from `head` visits every cell that is free once, and no other cell. -/
def FreeList (next : Nat → Nat) (stop head : Nat) (free : Nat → Prop) : Prop :=
  ∃ l : List Nat, Linked next stop head l ∧ l.Nodup ∧ ∀ i, i ∈ l ↔ free i

namespace FreeList

variable {next next' : Nat → Nat} {stop head i : Nat} {free free' : Nat → Prop}

theorem congr (h : FreeList next stop head free) (hnext : ∀ i, free i → next' i = next i)
    (hfree : ∀ i, free' i ↔ free i) : FreeList next' stop head free' := by
  obtain ⟨l, hl, hnodup, hmem⟩ := h
  refine ⟨l, hl.congr fun i hi => hnext i ((hmem i).mp hi), hnodup, fun i => ?_⟩
  rw [hmem, hfree]

theorem head_free (h : FreeList next stop head free) (hhead : head ≠ stop) : free head := by
  obtain ⟨l, hl, -, hmem⟩ := h
  cases l with
  | nil => exact absurd hl hhead
  | cons =>
    obtain ⟨rfl, -, -⟩ := hl
    exact (hmem head).mp mem_cons_self

theorem not_free_of_head_eq (h : FreeList next stop stop free) (j : Nat) : ¬free j := by
  obtain ⟨l, hl, -, hmem⟩ := h
  cases l with
  | nil => exact fun hj => not_mem_nil ((hmem j).mpr hj)
  | cons => exact absurd hl.1.symm hl.2.1

theorem pop (h : FreeList next stop head free) (hhead : head ≠ stop)
    (hnext : ∀ i, free i → i ≠ head → next' i = next i)
    (hfree : ∀ i, free' i ↔ free i ∧ i ≠ head) :
    FreeList next' stop (next head) free' := by
  obtain ⟨l, hl, hnodup, hmem⟩ := h
  cases l with
  | nil => exact absurd hl hhead
  | cons j rest =>
    obtain ⟨rfl, -, hrest⟩ := hl
    have hnotin : head ∉ rest := (nodup_cons.mp hnodup).1
    refine ⟨rest, hrest.congr fun i hi => ?_, (nodup_cons.mp hnodup).2, fun i => ?_⟩
    · refine hnext i ((hmem i).mp (mem_cons_of_mem head hi)) ?_
      rintro rfl
      exact hnotin hi
    · rw [hfree, ← hmem, mem_cons]
      constructor
      · intro hi
        exact ⟨.inr hi, by rintro rfl; exact hnotin hi⟩
      · rintro ⟨rfl | hi, hne⟩
        · exact absurd rfl hne
        · exact hi

theorem push (h : FreeList next stop head free) (hi : ¬free i) (hstop : i ≠ stop)
    (hlink : next' i = head) (hnext : ∀ j, free j → next' j = next j)
    (hfree : ∀ j, free' j ↔ j = i ∨ free j) : FreeList next' stop i free' := by
  obtain ⟨l, hl, hnodup, hmem⟩ := h
  refine ⟨i :: l, ⟨rfl, hstop, ?_⟩, ?_, fun j => ?_⟩
  · rw [hlink]
    exact hl.congr fun j hj => hnext j ((hmem j).mp hj)
  · exact nodup_cons.mpr ⟨fun hmemi => hi ((hmem i).mp hmemi), hnodup⟩
  · rw [hfree, mem_cons, hmem]

theorem push_cell {n : Nat} {used used' : Nat → Bool}
    (h : FreeList next stop head fun j => j < n ∧ used j = false) (hi : i < n)
    (hn : n ≤ stop) (hused : used i) (hunused : used' i = false) (hlink : next' i = head)
    (hother : ∀ j, j ≠ i → next' j = next j ∧ used' j = used j) :
    FreeList next' stop i fun j => j < n ∧ used' j = false := by
  refine h.push (fun hfree => by simp [hused] at hfree) (by omega) hlink (fun j hj => ?_)
    fun j => ?_
  · refine (hother j ?_).1
    rintro rfl
    simp [hused] at hj
  · by_cases hj : j = i
    · simp [hj, hunused, hi]
    · simp [hj, (hother j hj).2]

theorem initial {n : Nat} (hn : 0 < n) (hstop : n ≤ stop)
    (hnext : ∀ i < n, next i = if i + 1 < n then i + 1 else stop) :
    FreeList next stop 0 (· < n) := by
  have hlinked : ∀ k i, i + k = n → 0 < k → Linked next stop i (range' i k) := by
    intro k
    induction k with
    | zero => intro i _ hk; omega
    | succ k ih =>
      intro i hik _
      refine ⟨rfl, by omega, ?_⟩
      rw [hnext i (by omega)]
      cases k with
      | zero => rw [if_neg (by omega)]; exact rfl
      | succ =>
        rw [if_pos (by omega)]
        exact ih (i + 1) (by omega) (by omega)
  refine ⟨range' 0 n, hlinked n 0 (by omega) hn, nodup_range', fun i => ?_⟩
  simp [mem_range']

end FreeList

end Program
