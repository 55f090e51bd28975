import Mathlib.Algebra.Order.Ring.Nat

/-!
# Open addressing with marks for deleted cells

The cells of a table are vacant, deleted, or hold a key. A key is looked for along its own order of
the cells, up to the first vacant one; a deleted cell is passed. A new key is put into the first cell
of its order that holds nothing, so that a deleted cell is used again. Nothing is assumed about the
orders: linear probing is one of them.

## Main definitions

* `Cell`: what a cell shows.
* `Cell.search`, `Cell.place`: the two walks along an order.
* `Cell.Findable`: keys are distinct, and no key lies behind a vacant cell of its order.

## Main results

* `Cell.Findable.search_eq_some_iff`, `Cell.Findable.search_eq_none_iff`: what is found.
* `Cell.place_eq_some`, `Cell.place_eq_none_iff`: where a key is put.
* `Cell.Findable.write`, `Cell.Findable.delete`: the writes keep the table.
-/

namespace Program

/-- What a cell of a table shows. -/
inductive Cell (K : Type)
  | vacant
  | deleted
  | held (key : K)
  deriving DecidableEq

namespace Cell

variable {K : Type} {look : Nat → Cell K} {k k' : K} {i j : Nat} {cells : List Nat}

/-- Whether something is held. -/
def isHeld : Cell K → Bool
  | .held _ => true
  | _ => false

/-- Look for a key up to the first vacant cell. -/
def search [DecidableEq K] (look : Nat → Cell K) (k : K) : List Nat → Option Nat
  | [] => none
  | i :: rest =>
    match look i with
    | .vacant => none
    | .deleted => search look k rest
    | .held k' => if k' = k then some i else search look k rest

/-- The first deleted cell before the first vacant one, or else the vacant one. -/
def place (look : Nat → Cell K) : Option Nat → List Nat → Option Nat
  | first, [] => first
  | first, i :: rest =>
    match look i with
    | .vacant => some (first.getD i)
    | .deleted => place look (some (first.getD i)) rest
    | .held _ => place look first rest

section Search

variable [DecidableEq K]

theorem of_search_eq_some (h : search look k cells = some i) : look i = .held k := by
  induction cells with
  | nil => cases h
  | cons j rest ih =>
    rw [search] at h
    split at h
    · cases h
    · exact ih h
    · rename_i k' hlook
      split_ifs at h with hk
      · cases h
        rw [hlook, hk]
      · exact ih h

theorem search_of_reach {before after : List Nat} (hpassed : ∀ j ∈ before, look j ≠ .vacant)
    (hunique : ∀ j, look j = .held k → j = i) (hlook : look i = .held k) :
    search look k (before ++ i :: after) = some i := by
  induction before with
  | nil => simp only [List.nil_append, search, hlook, if_true]
  | cons j _ ih =>
    have ih := ih fun j' hj' => hpassed j' (List.mem_cons_of_mem j hj')
    rw [List.cons_append, search]
    cases hj : look j with
    | vacant => exact absurd hj (hpassed j List.mem_cons_self)
    | deleted => exact ih
    | held k' =>
      by_cases hk : k' = k
      · simp only [if_pos hk, hunique j (hk ▸ hj)]
      · simp only [if_neg hk, ih]

end Search

/-! ### The cell for a new key -/

theorem place_some (first : Nat) (cells : List Nat) :
    place look (some first) cells = some first := by
  induction cells with
  | nil => rfl
  | cons _ _ ih =>
    rw [place]
    split
    · rfl
    · exact ih
    · exact ih

theorem place_eq_some (h : place look none cells = some i) :
    (look i).isHeld = false ∧ ∃ before after, cells = before ++ i :: after ∧
      ∀ j ∈ before, look j ≠ .vacant := by
  induction cells with
  | nil => cases h
  | cons j rest ih =>
    rw [place] at h
    split at h
    · rename_i hlook
      cases h
      exact ⟨by rw [Option.getD_none, hlook]; rfl, [], rest, rfl, by simp⟩
    · rename_i hlook
      rw [place_some] at h
      cases h
      exact ⟨by rw [Option.getD_none, hlook]; rfl, [], rest, rfl, by simp⟩
    · rename_i k' hlook
      obtain ⟨hfree, before, after, rfl, hpassed⟩ := ih h
      refine ⟨hfree, j :: before, after, rfl, fun j' hj' => ?_⟩
      rcases List.mem_cons.mp hj' with rfl | hj'
      · simp [hlook]
      · exact hpassed j' hj'

theorem place_eq_none_iff : place look none cells = none ↔ ∀ j ∈ cells, (look j).isHeld = true := by
  induction cells with
  | nil => simp [place]
  | cons j rest ih =>
    rw [place]
    split
    · rename_i hlook
      simp [hlook, isHeld]
    · rename_i hlook
      simp [hlook, isHeld, place_some]
    · rename_i k' hlook
      simp [hlook, isHeld, ih]

/-! ### Tables in which every key is found -/

/-- Keys are distinct, and no key lies behind a vacant cell of its order. -/
structure Findable (look : Nat → Cell K) (order : K → List Nat) : Prop where
  distinct : ∀ {k i j}, look i = .held k → look j = .held k → i = j
  reach : ∀ {k i}, look i = .held k → ∃ before after, order k = before ++ i :: after ∧
    ∀ j ∈ before, look j ≠ .vacant

variable {order : K → List Nat}

theorem findable_of_vacant (h : ∀ i, look i = .vacant) : Findable look order where
  distinct hi := by simp [h] at hi
  reach hi := by simp [h] at hi

section

variable (h : Findable look order)
include h

theorem Findable.search_eq_some_iff [DecidableEq K] :
    search look k (order k) = some i ↔ look i = .held k := by
  refine ⟨of_search_eq_some, fun hlook => ?_⟩
  obtain ⟨before, after, horder, hpassed⟩ := h.reach hlook
  rw [horder]
  exact search_of_reach hpassed (fun j hj => h.distinct hj hlook) hlook

theorem Findable.search_eq_none_iff [DecidableEq K] :
    search look k (order k) = none ↔ ∀ i, look i ≠ .held k := by
  rw [Option.eq_none_iff_forall_ne_some]
  exact forall_congr' fun i => h.search_eq_some_iff.not

theorem Findable.shrink {look' : Nat → Cell K} (hheld : ∀ i k, look' i = .held k → look i = .held k)
    (hvacant : ∀ i, look' i = .vacant → look i = .vacant) : Findable look' order where
  distinct hi hj := h.distinct (hheld _ _ hi) (hheld _ _ hj)
  reach hi := by
    obtain ⟨before, after, horder, hpassed⟩ := h.reach (hheld _ _ hi)
    exact ⟨before, after, horder, fun j hj hlook => hpassed j hj (hvacant j hlook)⟩

theorem Findable.delete (i : Nat) : Findable (Function.update look i .deleted) order := by
  refine h.shrink (fun j k hj => ?_) fun j hj => ?_
  · by_cases hij : j = i
    · simp [hij] at hj
    · rwa [Function.update_of_ne hij] at hj
  · by_cases hij : j = i
    · simp [hij] at hj
    · rwa [Function.update_of_ne hij] at hj

theorem Findable.write {before after : List Nat}
    (horder : order k = before ++ i :: after) (hpassed : ∀ j ∈ before, look j ≠ .vacant)
    (hnew : ∀ j, look j ≠ .held k) : Findable (Function.update look i (.held k)) order := by
  have hne {j : Nat} {k' : K} (hj : Function.update look i (.held k) j = .held k') :
      j = i ∧ k' = k ∨ j ≠ i ∧ look j = .held k' := by
    by_cases hij : j = i
    · subst hij
      rw [Function.update_self] at hj
      exact .inl ⟨rfl, (held.inj hj).symm⟩
    · rw [Function.update_of_ne hij] at hj
      exact .inr ⟨hij, hj⟩
  have hkeep j (hj : look j ≠ .vacant) : Function.update look i (.held k) j ≠ .vacant := by
    by_cases hij : j = i
    · subst hij
      simp
    · rwa [Function.update_of_ne hij]
  refine ⟨fun hi hj => ?_, fun hi => ?_⟩
  · rcases hne hi with ⟨hi, hk⟩ | ⟨-, hi⟩ <;> rcases hne hj with ⟨hj, hk'⟩ | ⟨-, hj⟩
    · exact hi.trans hj.symm
    · exact absurd (hk ▸ hj) (hnew _)
    · exact absurd (hk' ▸ hi) (hnew _)
    · exact h.distinct hi hj
  · rcases hne hi with ⟨rfl, rfl⟩ | ⟨-, hi⟩
    · exact ⟨before, after, horder, fun j hj => hkeep j (hpassed j hj)⟩
    · obtain ⟨before', after', horder', hpassed'⟩ := h.reach hi
      exact ⟨before', after', horder', fun j hj => hkeep j (hpassed' j hj)⟩

end

end Cell

end Program
