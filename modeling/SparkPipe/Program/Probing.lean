import Mathlib.Data.List.Perm.Basic
import SparkPipe.Program.Table

/-!
# Open addressing with linear probing

A table of fixed size holds entries with distinct keys; an entry whose key is the vacant one marks
an empty cell. An entry is looked for from the home cell of its key onwards, around the end of the
table, up to the first empty cell. Erasing an entry moves later entries back into the hole as long
as their way from home passes it, so that no mark is left behind.

The rules here hold for every table in which each entry can be reached from its home
(`Reachable`), also for a full one.

## Main definitions

* `Slots`: how the entries of a table name their keys, and where the keys are at home.
* `probe`, `find`, `erase`: the algorithms.
* `Reachable`: no entry is hidden behind an empty cell, and keys are distinct.

## Main results

* `Reachable.probe_of_key`, `Reachable.exists_probe`: what a probe answers.
* `Reachable.insert`, `Reachable.rewrite`, `Reachable.erase`: the operations keep the table.
* `erase_perm`: erasing moves the remaining entries around and loses none.
-/

namespace Program

open List Function

theorem sum_map_update (f : Nat → Nat) (v : Nat) {i : Nat} : ∀ {n : Nat}, i < n →
    ((range n).map (update f i v)).sum + f i = ((range n).map f).sum + v
  | n + 1, hi => by
    rw [range_succ, map_append, map_append, sum_append, sum_append]
    rcases Nat.lt_succ_iff_lt_or_eq.mp hi with hi | rfl
    · have hrest := sum_map_update f v hi
      have hlast : update f i v n = f n := update_of_ne hi.ne' v f
      simp only [map_cons, map_nil, sum_singleton, hlast]
      omega
    · have hrest : (range i).map (update f i v) = (range i).map f :=
        map_congr_left fun j hj => update_of_ne (mem_range.mp hj).ne v f
      simp only [hrest, map_cons, map_nil, sum_singleton, update_self]
      omega

/-- The keys of the entries of a table. -/
structure Slots (E K : Type) where
  keyOf : E → K
  vacant : E
  home : Nat → K → Nat
  home_lt : ∀ n k, 0 < n → home n k < n

/-- The cell after another one in a table of `n` cells. -/
def nextCell (n i : Nat) : Nat := (i + 1) % n

/-- How far a cell lies behind another one, going around. -/
def cellDistance (n start i : Nat) : Nat := (i + n - start) % n

namespace Slots

variable {E K : Type} [DecidableEq K] (S : Slots E K)

def entry (t : List E) (i : Nat) : E := t.getD i S.vacant

def key (t : List E) (i : Nat) : K := S.keyOf (S.entry t i)

def isVacant (t : List E) (i : Nat) : Bool := S.key t i = S.keyOf S.vacant

def homeOf (t : List E) (i : Nat) : Nat := S.home t.length (S.key t i)

/-- Look for a key from a cell on: its cell, or the empty cell where it would be put. -/
def probeFrom (t : List E) (k : K) : Nat → Nat → Option (Nat × Bool)
  | 0, _ => none
  | rounds + 1, i =>
    if S.isVacant t i then some (i, false)
    else if S.key t i = k then some (i, true)
    else probeFrom t k rounds (nextCell t.length i)

def probe (t : List E) (k : K) : Option (Nat × Bool) :=
  S.probeFrom t k t.length (S.home t.length k)

def find (t : List E) (k : K) : Option Nat :=
  match S.probe t k with
  | some (i, true) => some i
  | _ => none

/-- How far the entries are away from home, all together. -/
def displacement (t : List E) : Nat :=
  ((range t.length).map fun i =>
    if S.isVacant t i then 0 else cellDistance t.length (S.homeOf t i) i).sum

/-- Close the hole that an erased entry left, if the rounds are enough for it. -/
def closeHole : Nat → Nat → Nat → List E → Option (List E)
  | 0, _, _, _ => none
  | rounds + 1, hole, scan, t =>
    if scan = hole ∨ S.isVacant t scan = true then some t
    else if cellDistance t.length (S.homeOf t scan) scan ≤
        cellDistance t.length (S.homeOf t scan) hole then
      closeHole rounds hole (nextCell t.length scan) t
    else
      closeHole rounds scan (nextCell t.length scan)
        ((t.set hole (S.entry t scan)).set scan S.vacant)

/-- Every move takes an entry nearer to its home, which bounds the rounds. -/
def eraseRounds (t : List E) : Nat := (S.displacement t + 1) * t.length

def erase (t : List E) (i : Nat) : List E :=
  (S.closeHole (S.eraseRounds (t.set i S.vacant)) i (nextCell t.length i) (t.set i S.vacant)).getD t

end Slots

namespace Slots

variable {E K : Type} [DecidableEq K] (S : Slots E K)

/-- The entry under a key. -/
def lookup (t : List E) (k : K) : Option E := (S.find t k).map (S.entry t)

def size (t : List E) : Nat := t.countP fun e => S.keyOf e ≠ S.keyOf S.vacant

end Slots

/-! ### Going around -/

section Around

variable {n start i j : Nat}

theorem cellDistance_eq (hs : start < n) (hi : i < n) :
    cellDistance n start i = if start ≤ i then i - start else i + n - start := by
  unfold cellDistance
  split_ifs
  · rw [show i + n - start = (i - start) + n by omega, Nat.add_mod_right,
      Nat.mod_eq_of_lt (by omega)]
  · exact Nat.mod_eq_of_lt (by omega)

theorem nextCell_eq (hi : i < n) : nextCell n i = if i + 1 = n then 0 else i + 1 := by
  unfold nextCell
  split_ifs with h
  · rw [h, Nat.mod_self]
  · exact Nat.mod_eq_of_lt (by omega)

theorem nextCell_lt (hi : i < n) : nextCell n i < n := Nat.mod_lt _ (by omega)

theorem cellDistance_lt {s : Nat} (hn : 0 < n) : cellDistance n s i < n := Nat.mod_lt _ hn

theorem cellDistance_self (hi : i < n) : cellDistance n i i = 0 := by
  rw [cellDistance_eq hi hi]
  simp

theorem cellDistance_inj (hs : start < n) (hi : i < n) (hj : j < n)
    (h : cellDistance n start i = cellDistance n start j) : i = j := by
  rw [cellDistance_eq hs hi, cellDistance_eq hs hj] at h
  split_ifs at h <;> omega

theorem cellDistance_nextCell (hs : start < n) (hi : i < n) : cellDistance n start i + 1 =
      if nextCell n i = start then n else cellDistance n start (nextCell n i) := by
  rw [cellDistance_eq hs hi, cellDistance_eq hs (nextCell_lt hi), nextCell_eq hi]
  split_ifs <;> omega

theorem cellDistance_nextCell_left (hi : i < n) (hj : j < n) (hne : i ≠ j) :
    cellDistance n (nextCell n i) j + 1 = cellDistance n i j := by
  rw [cellDistance_eq (nextCell_lt hi) hj, cellDistance_eq hi hj, nextCell_eq hi]
  split_ifs <;> omega

theorem cellDistance_add (hs : start < n) (hi : i < n) (hj : j < n)
    (h : cellDistance n start i + cellDistance n i j < n) :
    cellDistance n start j = cellDistance n start i + cellDistance n i j := by
  rw [cellDistance_eq hs hi, cellDistance_eq hi hj] at h ⊢
  rw [cellDistance_eq hs hj]
  split_ifs at h ⊢ <;> omega

theorem cellDistance_sub (hs : start < n) (hi : i < n) (hj : j < n)
    (h : cellDistance n start i ≤ cellDistance n start j) :
    cellDistance n i j = cellDistance n start j - cellDistance n start i := by
  rw [cellDistance_eq hs hi, cellDistance_eq hs hj] at h ⊢
  rw [cellDistance_eq hi hj]
  split_ifs at h ⊢ <;> omega

end Around

namespace Slots

variable {E K : Type} {S : Slots E K} {t : List E} {k : K} {i j : Nat} {e : E}
  {ahead hole scan : Nat}

theorem homeOf_lt (h : 0 < t.length) : S.homeOf t i < t.length := S.home_lt _ _ h

theorem entry_mem (h : i < t.length) : S.entry t i ∈ t := by
  rw [entry, getD_eq_getElem _ _ h]
  exact getElem_mem h

theorem exists_entry_of_mem (h : e ∈ t) : ∃ i < t.length, S.entry t i = e := by
  obtain ⟨i, hi, rfl⟩ := getElem_of_mem h
  exact ⟨i, hi, getD_eq_getElem _ _ hi⟩

theorem entry_set (hi : i < t.length) : S.entry (t.set i e) j = if i = j then e else S.entry t j :=
  (getD_set ..).trans (if_congr (and_iff_left hi) rfl rfl)

theorem entry_set_self (hi : i < t.length) : S.entry (t.set i e) i = e := by
  rw [entry_set hi, if_pos rfl]

theorem key_set (hi : i < t.length) :
    S.key (t.set i e) j = if i = j then S.keyOf e else S.key t j := by
  rw [key, entry_set hi, apply_ite S.keyOf]
  rfl

theorem key_move (hhole : hole < t.length) (hscan : scan < t.length) (a : Nat) :
    S.key ((t.set hole (S.entry t scan)).set scan S.vacant) a =
      if scan = a then S.keyOf S.vacant else if hole = a then S.key t scan else S.key t a := by
  rw [key_set (by rwa [length_set]), key_set hhole]
  rfl

theorem mem_set_iff {a : E} (hi : i < t.length) :
    a ∈ t.set i e ↔ a = e ∨ ∃ j < t.length, j ≠ i ∧ S.entry t j = a := by
  constructor
  · intro hmem
    obtain ⟨j, hj, rfl⟩ := exists_entry_of_mem (S := S) hmem
    rw [length_set] at hj
    rw [entry_set hi]
    split_ifs with hij
    · exact .inl rfl
    · exact .inr ⟨j, hj, Ne.symm hij, rfl⟩
  · rintro (rfl | ⟨j, hj, hji, rfl⟩)
    · exact mem_set hi a
    · have hentry : S.entry (t.set i e) j = S.entry t j := by
        rw [entry_set hi, if_neg (Ne.symm hji)]
      rw [← hentry]
      exact entry_mem (by rwa [length_set])

variable [DecidableEq K] {t' : List E}

theorem isVacant_iff : S.isVacant t i ↔ S.key t i = S.keyOf S.vacant := by
  simp [isVacant]

theorem not_isVacant_iff : S.isVacant t i = false ↔ S.key t i ≠ S.keyOf S.vacant := by
  simp [isVacant]

theorem isVacant_set (hi : i < t.length) : S.isVacant (t.set i e) j =
      if i = j then decide (S.keyOf e = S.keyOf S.vacant) else S.isVacant t j := by
  rw [isVacant, key_set hi]
  split_ifs <;> rfl

/-! ### Probing -/

theorem probeFrom_congr (hlength : t'.length = t.length)
    (hkey : ∀ i, S.key t' i = S.key t i) (rounds i : Nat) :
    S.probeFrom t' k rounds i = S.probeFrom t k rounds i := by
  induction rounds generalizing i with
  | zero => rfl
  | succ _ ih => rw [probeFrom, probeFrom, isVacant, isVacant, hkey, hlength, ih]

theorem probe_congr (hlength : t'.length = t.length)
    (hkey : ∀ i, S.key t' i = S.key t i) : S.probe t' k = S.probe t k := by
  rw [probe, probe, hlength, probeFrom_congr hlength hkey]

theorem probe_set (hkey : S.keyOf e = S.key t i) : S.probe (t.set i e) k = S.probe t k := by
  by_cases hi : i < t.length
  · refine probe_congr length_set fun j => ?_
    rw [key_set hi]
    by_cases hij : i = j
    · rw [if_pos hij, hkey, hij]
    · rw [if_neg hij]
  · rw [set_eq_of_length_le (not_lt.mp hi)]

/-- What a probe says about the cells. -/
def Answers (S : Slots E K) (t : List E) (k : K) : Option (Nat × Bool) → Prop
  | some (i, true) => i < t.length ∧ S.key t i = k ∧ S.isVacant t i = false
  | some (i, false) => i < t.length ∧ S.isVacant t i ∧
      ∀ j < t.length, cellDistance t.length (S.home t.length k) j <
        cellDistance t.length (S.home t.length k) i → S.isVacant t j = false ∧ S.key t j ≠ k
  | none => ∀ j < t.length, S.isVacant t j = false ∧ S.key t j ≠ k

theorem probeFrom_answers : ∀ (rounds i : Nat), i < t.length →
    rounds + cellDistance t.length (S.home t.length k) i = t.length →
    (∀ j < t.length, cellDistance t.length (S.home t.length k) j <
      cellDistance t.length (S.home t.length k) i → S.isVacant t j = false ∧ S.key t j ≠ k) →
    S.Answers t k (S.probeFrom t k rounds i)
  | 0, i, hi, hrounds, _ => by
      have hlt := cellDistance_lt (s := S.home t.length k) (i := i) (Nat.zero_lt_of_lt hi)
      omega
  | rounds + 1, i, hi, hrounds, hpassed => by
      have hpos := Nat.zero_lt_of_lt hi
      have hhome := S.home_lt _ k hpos
      unfold probeFrom
      by_cases hvacant : S.isVacant t i
      · rw [if_pos hvacant]
        exact ⟨hi, hvacant, hpassed⟩
      have hoccupied : S.isVacant t i = false := by simpa using hvacant
      rw [if_neg hvacant]
      by_cases hkey : S.key t i = k
      · rw [if_pos hkey]
        exact ⟨hi, hkey, hoccupied⟩
      rw [if_neg hkey]
      -- the cells up to the next one are the ones passed and this one
      have hupto : ∀ j < t.length, cellDistance t.length (S.home t.length k) j <
          cellDistance t.length (S.home t.length k) i + 1 →
            S.isVacant t j = false ∧ S.key t j ≠ k := by
        intro j hj hlt
        rcases Nat.lt_succ_iff_lt_or_eq.mp hlt with hlt | heq
        · exact hpassed j hj hlt
        · rw [cellDistance_inj hhome hj hi heq]
          exact ⟨hoccupied, hkey⟩
      have hnext := cellDistance_nextCell hhome hi
      rw [hnext] at hupto
      split_ifs at hnext hupto with hlast
      · obtain rfl : rounds = 0 := by omega
        exact fun j hj => hupto j hj (cellDistance_lt hpos)
      · exact probeFrom_answers rounds (nextCell t.length i) (nextCell_lt hi) (by omega) hupto

theorem probe_answers (k : K) : S.Answers t k (S.probe t k) := by
  rcases Nat.eq_zero_or_pos t.length with hzero | hpos
  · rw [probe, hzero]
    exact fun j hj => absurd hj (hzero ▸ Nat.not_lt_zero j)
  · have hhome := S.home_lt _ k hpos
    refine probeFrom_answers t.length (S.home t.length k) hhome ?_ ?_
    · rw [cellDistance_self hhome, Nat.add_zero]
    · rw [cellDistance_self hhome]
      exact fun _ _ h => absurd h (Nat.not_lt_zero _)

theorem answers_of_probe {r : Option (Nat × Bool)} (h : S.probe t k = r) : S.Answers t k r :=
  h ▸ probe_answers k

theorem answers_of_find (h : S.find t k = some i) : S.Answers t k (some (i, true)) := by
  unfold find at h
  split at h
  · rename_i hprobe
    cases h
    exact answers_of_probe hprobe
  · cases h

/-! ### Tables in which every entry is found -/

/-- The keys of the entries are distinct, and no entry lies behind an empty cell of its way. -/
structure Reachable (S : Slots E K) (t : List E) : Prop where
  distinct : ∀ i j, i < t.length → j < t.length → S.isVacant t i = false →
    S.key t i = S.key t j → i = j
  reach : ∀ i j, i < t.length → j < t.length → S.isVacant t i = false →
    cellDistance t.length (S.homeOf t i) j < cellDistance t.length (S.homeOf t i) i →
    S.isVacant t j = false

theorem Reachable.probe_of_key (h : S.Reachable t) (hi : i < t.length) (hkey : S.key t i = k)
    (hoccupied : S.isVacant t i = false) : S.probe t k = some (i, true) := by
  match hprobe : S.probe t k with
  | none => exact absurd hkey (answers_of_probe hprobe i hi).2
  | some (j, true) =>
    obtain ⟨hj, hkeyj, hoccupiedj⟩ := answers_of_probe hprobe
    rw [h.distinct j i hj hi hoccupiedj (hkeyj.trans hkey.symm)]
  | some (j, false) =>
    obtain ⟨hj, hvacant, hpassed⟩ := answers_of_probe hprobe
    have hhome : S.homeOf t i = S.home t.length k := by rw [homeOf, hkey]
    by_cases hlt : cellDistance t.length (S.home t.length k) i <
        cellDistance t.length (S.home t.length k) j
    · exact absurd hkey (hpassed i hi hlt).2
    · rcases Nat.lt_or_eq_of_le (not_lt.mp hlt) with hlt' | heq
      · have hreach := h.reach i j hi hj hoccupied (by rw [hhome]; exact hlt')
        rw [hvacant] at hreach
        cases hreach
      · rw [cellDistance_inj (S.home_lt _ k (Nat.zero_lt_of_lt hi)) hj hi heq, hoccupied] at hvacant
        cases hvacant

theorem Reachable.find_eq_some_iff (h : S.Reachable t) (hk : k ≠ S.keyOf S.vacant) :
    S.find t k = some i ↔ i < t.length ∧ S.key t i = k := by
  refine ⟨fun hfind => (answers_of_find hfind).imp id And.left, fun ⟨hi, hkey⟩ => ?_⟩
  have hoccupied : S.isVacant t i = false := not_isVacant_iff.mpr (hkey ▸ hk)
  rw [find, h.probe_of_key hi hkey hoccupied]

theorem Reachable.find_eq_none_iff (h : S.Reachable t) (hk : k ≠ S.keyOf S.vacant) :
    S.find t k = none ↔ ∀ i < t.length, S.key t i ≠ k := by
  constructor
  · intro hnone i hi hkey
    rw [(h.find_eq_some_iff hk).mpr ⟨hi, hkey⟩] at hnone
    cases hnone
  · intro hall
    cases hfind : S.find t k with
    | none => rfl
    | some i =>
      obtain ⟨hi, hkey⟩ := (h.find_eq_some_iff hk).mp hfind
      exact absurd hkey (hall i hi)

theorem find_vacant : S.find t (S.keyOf S.vacant) = none := by
  cases hfind : S.find t (S.keyOf S.vacant) with
  | none => rfl
  | some =>
    obtain ⟨-, hkey, hocc⟩ := answers_of_find hfind
    exact absurd hkey (not_isVacant_iff.mp hocc)

theorem lookup_vacant : S.lookup t (S.keyOf S.vacant) = none := by
  rw [lookup, find_vacant]
  rfl

theorem Reachable.exists_probe (h : S.Reachable t) (hk : k ≠ S.keyOf S.vacant)
    (hnone : S.find t k = none) (hroom : ∃ j < t.length, S.isVacant t j) :
    ∃ i, S.probe t k = some (i, false) := by
  obtain ⟨j, hj, hvacant⟩ := hroom
  match hprobe : S.probe t k with
  | none =>
    rw [(answers_of_probe hprobe j hj).1] at hvacant
    cases hvacant
  | some (i, true) =>
    obtain ⟨hi, hkey, -⟩ := answers_of_probe hprobe
    exact absurd hkey ((h.find_eq_none_iff hk).mp hnone i hi)
  | some (i, false) => exact ⟨i, rfl⟩

/-! ### Writing -/

theorem Reachable.rewrite (h : S.Reachable t) (hi : i < t.length) (hkey : S.keyOf e = S.key t i) :
    S.Reachable (t.set i e) := by
  have hkeys : ∀ j, S.key (t.set i e) j = S.key t j := by
    intro j
    rw [key_set hi]
    split_ifs with hij
    · rw [hkey, hij]
    · rfl
  have hvacant : ∀ j, S.isVacant (t.set i e) j = S.isVacant t j := fun j => by
    rw [isVacant, hkeys, isVacant]
  refine ⟨fun a b ha hb hocc heq => ?_, fun a b ha hb hocc hlt => ?_⟩
  · rw [length_set] at ha hb
    rw [hkeys, hkeys] at heq
    exact h.distinct a b ha hb (by rwa [hvacant] at hocc) heq
  · rw [length_set] at ha hb
    rw [homeOf, hkeys, length_set] at hlt
    rw [hvacant] at hocc ⊢
    exact h.reach a b ha hb hocc hlt

theorem Reachable.insert (h : S.Reachable t)
    (hprobe : S.probe t (S.keyOf e) = some (i, false)) : S.Reachable (t.set i e) := by
  obtain ⟨hi, hempty, hpassed⟩ := answers_of_probe hprobe
  -- an entry under the new key would have been met on the way
  have hfresh : ∀ j < t.length, S.isVacant t j = false → S.key t j ≠ S.keyOf e := by
    intro j hj hocc hkey
    have hfound := h.probe_of_key hj hkey hocc
    rw [hprobe] at hfound
    cases hfound
  refine ⟨fun a b ha hb hocc heq => ?_, fun a b ha hb hocc hlt => ?_⟩
  · rw [length_set] at ha hb
    rw [key_set hi, key_set hi] at heq
    rw [isVacant_set hi] at hocc
    split_ifs at heq hocc with hia hib hib
    · exact hia ▸ hib ▸ rfl
    · exact absurd heq.symm (hfresh b hb (not_isVacant_iff.mpr (heq ▸ of_decide_eq_false hocc)))
    · exact absurd heq (hfresh a ha hocc)
    · exact h.distinct a b ha hb hocc heq
  · rw [length_set] at ha hb
    rw [homeOf, length_set, key_set hi] at hlt
    rw [isVacant_set hi] at hocc ⊢
    by_cases hib : i = b
    · rw [if_pos hib]
      by_cases hia : i = a
      · rw [if_pos hia] at hocc
        exact hocc
      · -- the cell was on the way of another entry, which had reached over it
        rw [if_neg hia] at hlt hocc
        have hreach := h.reach a b ha hb hocc hlt
        rw [← hib, hempty] at hreach
        cases hreach
    · rw [if_neg hib]
      by_cases hia : i = a
      · rw [if_pos hia, ← hia] at hlt
        exact (hpassed b hb hlt).1
      · rw [if_neg hia] at hlt hocc
        exact h.reach a b ha hb hocc hlt

/-! ### Erasing -/

/-- A table in the middle of closing a hole: entries are reached over it. -/
structure Hollow (S : Slots E K) (t : List E) (hole ahead : Nat) : Prop where
  hole_lt : hole < t.length
  hole_vacant : S.entry t hole = S.vacant
  distinct : ∀ i j, i < t.length → j < t.length → S.isVacant t i = false →
    S.key t i = S.key t j → i = j
  reach : ∀ i j, i < t.length → j < t.length → S.isVacant t i = false → j ≠ hole →
    cellDistance t.length (S.homeOf t i) j < cellDistance t.length (S.homeOf t i) i →
    S.isVacant t j = false
  passed : ∀ i < t.length, 0 < cellDistance t.length hole i → cellDistance t.length hole i < ahead →
    S.isVacant t i = false ∧ cellDistance t.length (S.homeOf t i) i ≤
      cellDistance t.length (S.homeOf t i) hole

theorem Reachable.hollow (h : S.Reachable t) (hi : i < t.length) :
    S.Hollow (t.set i S.vacant) i 1 := by
  have hocc : ∀ {a}, S.isVacant (t.set i S.vacant) a = false → i ≠ a ∧ S.isVacant t a = false := by
    intro a ha
    rw [isVacant_set hi] at ha
    split_ifs at ha with hia
    · simp at ha
    · exact ⟨hia, ha⟩
  refine ⟨by rwa [length_set], ?_, fun a b ha hb hva heq => ?_,
    fun a b ha hb hva hbi hlt => ?_, fun a ha hpos hlt => ?_⟩
  · rw [entry_set hi, if_pos rfl]
  · rw [length_set] at ha hb
    obtain ⟨hia, hva'⟩ := hocc hva
    rw [key_set hi, key_set hi, if_neg hia] at heq
    split_ifs at heq
    · exact absurd heq (not_isVacant_iff.mp hva')
    · exact h.distinct a b ha hb hva' heq
  · rw [length_set] at ha hb
    obtain ⟨hia, hva'⟩ := hocc hva
    rw [homeOf, length_set, key_set hi, if_neg hia] at hlt
    rw [isVacant_set hi, if_neg (Ne.symm hbi)]
    exact h.reach a b ha hb hva' hlt
  · omega

theorem Hollow.reachable (h : S.Hollow t hole ahead) (hscan : scan < t.length)
    (hahead : scan ≠ hole → cellDistance t.length hole scan = ahead)
    (haround : scan = hole → t.length ≤ ahead)
    (hend : scan = hole ∨ S.isVacant t scan) : S.Reachable t := by
  refine ⟨h.distinct, fun a b ha hb hocc hlt => ?_⟩
  by_cases hb' : b = hole
  · -- the hole is on the way of `a`, which therefore lies behind the scan
    subst hb'
    have hpos := Nat.zero_lt_of_lt ha
    have hhome := homeOf_lt (S := S) (i := a) hpos
    have hbeyond := cellDistance_sub hhome hb ha hlt.le
    have hnotpassed : ¬cellDistance t.length b a < ahead := fun hless =>
      absurd (h.passed a ha (by omega) hless).2 (not_le.mpr hlt)
    have hlast := cellDistance_lt (s := b) (i := a) hpos
    have hne : scan ≠ b := fun heq => hnotpassed (hlast.trans_le (haround heq))
    have hvacant := hend.resolve_left hne
    have hascan : a ≠ scan := by
      rintro rfl
      rw [hvacant] at hocc
      cases hocc
    have hfar : ahead < cellDistance t.length b a := by
      refine lt_of_le_of_ne (not_lt.mp hnotpassed) fun heq => ?_
      exact hascan (cellDistance_inj hb ha hscan (heq.symm.trans (hahead hne).symm))
    have hway := cellDistance_add hhome hb hscan (by
      have := cellDistance_lt (s := S.homeOf t a) (i := a) hpos
      omega)
    have hreach := h.reach a scan ha hscan hocc hne (by have := hahead hne; omega)
    rw [hvacant] at hreach
    cases hreach
  · exact h.reach a b ha hb hocc hb' hlt

theorem Hollow.skip (h : S.Hollow t hole ahead) (hscan : scan < t.length)
    (hahead : cellDistance t.length hole scan = ahead) (hocc : S.isVacant t scan = false)
    (hkeep : cellDistance t.length (S.homeOf t scan) scan ≤
      cellDistance t.length (S.homeOf t scan) hole) : S.Hollow t hole (ahead + 1) := by
  refine ⟨h.hole_lt, h.hole_vacant, h.distinct, h.reach, fun a ha hpos hlt => ?_⟩
  rcases Nat.lt_succ_iff_lt_or_eq.mp hlt with hlt | heq
  · exact h.passed a ha hpos hlt
  · rw [cellDistance_inj h.hole_lt ha hscan (heq.trans hahead.symm)]
    exact ⟨hocc, hkeep⟩

theorem Hollow.move (h : S.Hollow t hole ahead) (hscan : scan < t.length)
    (hocc : S.isVacant t scan = false) (hmove : cellDistance t.length (S.homeOf t scan) hole <
      cellDistance t.length (S.homeOf t scan) scan) :
    S.Hollow ((t.set hole (S.entry t scan)).set scan S.vacant) scan 1 := by
  set t' := (t.set hole (S.entry t scan)).set scan S.vacant with ht'
  have hlength : t'.length = t.length := by rw [length_set, length_set]
  have hkey := key_move (S := S) h.hole_lt hscan
  -- the cell whose entry in the old table is the entry of a cell in the new one
  have hsource : ∀ {a}, S.isVacant t' a = false → scan ≠ a ∧
      S.key t' a = S.key t (if hole = a then scan else a) ∧
      S.isVacant t (if hole = a then scan else a) = false := by
    intro a hva
    rw [not_isVacant_iff] at hva
    have hsa : scan ≠ a := by
      rintro rfl
      exact hva (by rw [hkey, if_pos rfl])
    have hka : S.key t' a = S.key t (if hole = a then scan else a) := by
      rw [hkey, if_neg hsa]
      split_ifs <;> rfl
    exact ⟨hsa, hka, not_isVacant_iff.mpr (hka ▸ hva)⟩
  refine ⟨by rwa [hlength], entry_set_self (by rwa [length_set]), fun a b ha hb hva heq => ?_,
    fun a b ha hb hva hbs hlt => ?_, fun a _ hpos hlt => by omega⟩
  · rw [hlength] at ha hb
    obtain ⟨hsa, hka, hoa⟩ := hsource hva
    have hvb : S.isVacant t' b = false := by
      rw [not_isVacant_iff, ← heq]
      exact not_isVacant_iff.mp hva
    obtain ⟨hsb, hkb, -⟩ := hsource hvb
    have hsame := h.distinct _ _ (by split_ifs <;> assumption) (by split_ifs <;> assumption) hoa
      (hka.symm.trans (heq.trans hkb))
    split_ifs at hsame with hha hhb hhb
    · exact hha.symm.trans hhb
    · exact absurd hsame hsb
    · exact absurd hsame.symm hsa
    · exact hsame
  · rw [hlength] at ha hb
    obtain ⟨hsa, hka, hoa⟩ := hsource hva
    have hhome : S.homeOf t' a = S.homeOf t (if hole = a then scan else a) := by
      rw [homeOf, hka, hlength]
      rfl
    rw [hhome, hlength] at hlt
    rw [not_isVacant_iff, hkey, if_neg (Ne.symm hbs)]
    split_ifs with hhb
    · exact not_isVacant_iff.mp hocc
    · refine not_isVacant_iff.mp ?_
      by_cases hha : hole = a
      · rw [if_pos hha, ← hha] at hlt
        exact h.reach scan b hscan hb hocc (Ne.symm hhb) (hlt.trans hmove)
      · rw [if_neg hha] at hlt hoa
        exact h.reach a b ha hb hoa (Ne.symm hhb) hlt

theorem Hollow.close : ∀ {rounds hole ahead scan : Nat} {t r : List E}, S.Hollow t hole ahead →
    scan < t.length → (scan ≠ hole → cellDistance t.length hole scan = ahead) →
    (scan = hole → t.length ≤ ahead) → S.closeHole rounds hole scan t = some r → S.Reachable r
  | rounds + 1, hole, ahead, scan, t, r, h, hscan, hahead, haround, hr => by
      unfold closeHole at hr
      split_ifs at hr with hend hkeep
      · cases hr
        exact h.reachable hscan hahead haround hend
      · rw [not_or, Bool.not_eq_true] at hend
        have hahead := hahead hend.1
        have hnext := cellDistance_nextCell h.hole_lt hscan
        refine close (h.skip hscan hahead hend.2 hkeep) (nextCell_lt hscan) (fun hne => ?_)
          (fun heq => ?_) hr
        · rw [if_neg hne, hahead] at hnext
          exact hnext.symm
        · rw [if_pos heq, hahead] at hnext
          exact hnext.ge
      · rw [not_or, Bool.not_eq_true] at hend
        have hnext := cellDistance_nextCell hscan hscan
        rw [cellDistance_self hscan] at hnext
        refine close (h.move hscan hend.2 (not_le.mp hkeep)) ?_ (fun hne => ?_) (fun heq => ?_) hr
        all_goals rw [length_set, length_set]
        · exact nextCell_lt hscan
        · rw [if_neg hne] at hnext
          exact hnext.symm
        · rw [if_pos heq] at hnext
          exact hnext.ge

/-! ### Ending -/

theorem displacement_move (hhole : hole < t.length) (hscan : scan < t.length)
    (hocc : S.isVacant t scan = false)
    (hmove : cellDistance t.length (S.homeOf t scan) hole <
      cellDistance t.length (S.homeOf t scan) scan) :
    S.displacement ((t.set hole (S.entry t scan)).set scan S.vacant) < S.displacement t := by
  have hne : hole ≠ scan := by
    rintro rfl
    exact lt_irrefl _ hmove
  set f := fun i => if S.isVacant t i then 0 else cellDistance t.length (S.homeOf t i) i with hf
  set v := cellDistance t.length (S.homeOf t scan) hole with hv
  have hcells : S.displacement ((t.set hole (S.entry t scan)).set scan S.vacant) =
      ((range t.length).map (update (update f hole v) scan 0)).sum := by
    rw [displacement, length_set, length_set]
    refine congrArg sum (map_congr_left fun a _ => ?_)
    rw [update_apply, update_apply, isVacant, homeOf,
      key_move hhole hscan, length_set, length_set]
    by_cases hs : a = scan
    · simp [hs]
    by_cases hh : a = hole
    · simp [hh, hne, Ne.symm hne, not_isVacant_iff.mp hocc, hv, homeOf]
    · simp [hs, hh, Ne.symm hs, Ne.symm hh, hf, isVacant, homeOf]
  have hfilled := sum_map_update f v hhole
  have hleft := sum_map_update (update f hole v) 0 hscan
  have hold : f scan = cellDistance t.length (S.homeOf t scan) scan := by simp [hf, hocc]
  rw [update_of_ne hne.symm, hold] at hleft
  change _ < ((range t.length).map f).sum
  omega

theorem closeHole_isSome : ∀ {rounds hole scan : Nat} {t : List E}, hole < t.length →
    scan < t.length → S.displacement t * t.length + cellDistance t.length scan hole < rounds →
    (S.closeHole rounds hole scan t).isSome
  | rounds + 1, hole, scan, t, hhole, hscan, hrounds => by
      unfold closeHole
      split_ifs with hend hkeep
      · rfl
      · have hnext := cellDistance_nextCell_left hscan hhole fun h => hend (.inl h)
        exact closeHole_isSome hhole (nextCell_lt hscan) (by omega)
      rw [not_or, Bool.not_eq_true] at hend
      have hless := displacement_move hhole hscan hend.2 (not_le.mp hkeep)
      have hmul := Nat.mul_le_mul_right t.length hless
      rw [Nat.succ_mul] at hmul
      have hlt := cellDistance_lt (s := nextCell t.length scan) (i := scan)
        (Nat.zero_lt_of_lt hscan)
      refine closeHole_isSome ?_ ?_ ?_
      all_goals rw [length_set, length_set]
      · exact hscan
      · exact nextCell_lt hscan
      · omega

theorem closeHole_erase (hi : i < t.length) :
    S.closeHole (S.eraseRounds (t.set i S.vacant)) i (nextCell t.length i) (t.set i S.vacant) =
      some (S.erase t i) := by
  have hlt := cellDistance_lt (s := nextCell t.length i) (i := i) (Nat.zero_lt_of_lt hi)
  have hsome : (S.closeHole (S.eraseRounds (t.set i S.vacant)) i (nextCell t.length i)
      (t.set i S.vacant)).isSome := by
    refine closeHole_isSome (by rwa [length_set]) ?_ ?_
    · rw [length_set]
      exact nextCell_lt hi
    · rw [eraseRounds, length_set, Nat.succ_mul]
      omega
  obtain ⟨r, hr⟩ := Option.isSome_iff_exists.mp hsome
  rw [erase, hr]
  rfl

theorem Reachable.erase (h : S.Reachable t) (hi : i < t.length) : S.Reachable (S.erase t i) := by
  have hnext := cellDistance_nextCell hi hi
  rw [cellDistance_self hi] at hnext
  refine (h.hollow hi).close ?_ (fun hne => ?_) (fun heq => ?_) (closeHole_erase hi)
  all_goals rw [length_set]
  · exact nextCell_lt hi
  · rw [if_neg hne] at hnext
    exact hnext.symm
  · rw [if_pos heq] at hnext
    exact hnext.ge

/-! ### What the table holds -/

theorem closeHole_perm : ∀ {rounds hole scan : Nat} {t r : List E}, hole < t.length →
    scan < t.length → S.entry t hole = S.vacant → S.closeHole rounds hole scan t = some r → r.Perm t
  | rounds + 1, hole, scan, t, r, hhole, hscan, hvacant, hr => by
      unfold closeHole at hr
      split_ifs at hr with hend hkeep
      · cases hr
        exact .refl t
      · exact closeHole_perm hhole (nextCell_lt hscan) hvacant hr
      have hswap : ((t.set hole (S.entry t scan)).set scan S.vacant).Perm t := by
        have h := set_set_perm hhole hscan
        rw [← hvacant, entry, entry, getD_eq_getElem _ _ hhole, getD_eq_getElem _ _ hscan]
        exact h
      refine (closeHole_perm ?_ ?_ ?_ hr).trans hswap
      · rwa [length_set, length_set]
      · rw [length_set, length_set]
        exact nextCell_lt hscan
      · exact entry_set_self (by rwa [length_set])

theorem erase_perm (hi : i < t.length) : (S.erase t i).Perm (t.set i S.vacant) := by
  refine closeHole_perm ?_ ?_ (entry_set_self hi) (closeHole_erase hi)
  · rwa [length_set]
  · rw [length_set]
    exact nextCell_lt hi

theorem length_erase (hi : i < t.length) : (S.erase t i).length = t.length := by
  rw [(erase_perm hi).length_eq, length_set]

theorem Reachable.lookup_eq_some_iff (h : S.Reachable t) (hk : k ≠ S.keyOf S.vacant) :
    S.lookup t k = some e ↔ e ∈ t ∧ S.keyOf e = k := by
  unfold lookup
  rw [Option.map_eq_some_iff]
  constructor
  · rintro ⟨i, hfind, rfl⟩
    obtain ⟨hi, hkey⟩ := (h.find_eq_some_iff hk).mp hfind
    exact ⟨entry_mem hi, hkey⟩
  · rintro ⟨hmem, hkey⟩
    obtain ⟨i, hi, rfl⟩ := exists_entry_of_mem (S := S) hmem
    exact ⟨i, (h.find_eq_some_iff hk).mpr ⟨hi, hkey⟩, rfl⟩

theorem Reachable.lookup_eq_some_of_cell (h : S.Reachable t) (hi : i < t.length)
    (hk : S.key t i ≠ S.keyOf S.vacant) : S.lookup t (S.key t i) = some (S.entry t i) :=
  (h.lookup_eq_some_iff hk).mpr ⟨entry_mem hi, rfl⟩

theorem lookup_of_find (h : S.find t k = some i) : S.lookup t k = some (S.entry t i) := by
  rw [lookup, h]
  rfl

theorem lookup_eq_none_iff : S.lookup t k = none ↔ S.find t k = none := Option.map_eq_none_iff

theorem Reachable.lookup_written (h : S.Reachable t) (h' : S.Reachable t')
    (hperm : t'.Perm (t.set i e)) (hi : i < t.length) (hk : k ≠ S.keyOf S.vacant) :
    S.lookup t' k =
      if S.keyOf e = k then some e else if S.key t i = k then none else S.lookup t k := by
  have hmem a : a ∈ t' ↔ a = e ∨ ∃ j < t.length, j ≠ i ∧ S.entry t j = a :=
    hperm.mem_iff.trans (mem_set_iff hi)
  split_ifs with he hold
  · exact (h'.lookup_eq_some_iff hk).mpr ⟨(hmem e).mpr (.inl rfl), he⟩
  · refine Option.eq_none_iff_forall_ne_some.mpr fun a ha => ?_
    obtain ⟨ha, hkey⟩ := (h'.lookup_eq_some_iff hk).mp ha
    obtain rfl | ⟨j, hj, hji, rfl⟩ := (hmem a).mp ha
    · exact he hkey
    · exact hji (h.distinct j i hj hi (not_isVacant_iff.mpr (ne_of_eq_of_ne hkey hk))
        (hkey.trans hold.symm))
  refine Option.ext fun a => ?_
  rw [h'.lookup_eq_some_iff hk, h.lookup_eq_some_iff hk, hmem]
  refine and_congr_left fun hkey => ⟨?_, fun ha => ?_⟩
  · rintro (rfl | ⟨j, hj, -, rfl⟩)
    · exact absurd hkey he
    · exact entry_mem hj
  · obtain ⟨j, hj, rfl⟩ := exists_entry_of_mem (S := S) ha
    refine .inr ⟨j, hj, ?_, rfl⟩
    rintro rfl
    exact hold hkey

theorem Reachable.lookup_update (h : S.Reachable t) (h' : S.Reachable t')
    (hperm : t'.Perm (t.set i e)) (hi : i < t.length) (hk : k ≠ S.keyOf S.vacant)
    (hone : S.key t i = k ∨ S.keyOf e = k)
    (hold : S.key t i = k ∨ S.key t i = S.keyOf S.vacant)
    (hnew : S.keyOf e = k ∨ S.keyOf e = S.keyOf S.vacant) :
    S.lookup t' = update (S.lookup t) k (if S.keyOf e = k then some e else none) := by
  funext k'
  by_cases hk' : k' = S.keyOf S.vacant
  · rw [hk', update_of_ne (Ne.symm hk), lookup_vacant, lookup_vacant]
  rw [h.lookup_written h' hperm hi hk']
  by_cases heq : k' = k
  · grind
  · grind

theorem exists_isVacant (h : S.size t < t.length) : ∃ j < t.length, S.isVacant t j = true := by
  by_contra hnone
  have hall : ∀ e ∈ t, decide (S.keyOf e ≠ S.keyOf S.vacant) = true := by
    intro e he
    obtain ⟨j, hj, rfl⟩ := exists_entry_of_mem (S := S) he
    by_contra hkey
    exact hnone ⟨j, hj, isVacant_iff.mpr (not_not.mp fun hne => hkey (decide_eq_true hne))⟩
  rw [size, countP_eq_length.mpr hall] at h
  omega

theorem find_of_probe (h : S.probe t k = some (i, false)) : S.find t k = none := by
  rw [find, h]

theorem find_of_probe_true (h : S.probe t k = some (i, true)) : S.find t k = some i := by
  rw [find, h]

theorem probe_lt (h : S.probe t k = some (i, false)) : i < t.length ∧ S.isVacant t i = true :=
  (answers_of_probe h).imp id And.left

theorem size_set (hi : i < t.length) : S.size (t.set i e) + (if S.isVacant t i then 0 else 1) =
      S.size t + (if S.keyOf e = S.keyOf S.vacant then 0 else 1) := by
  have h := countP_set_add (fun e => decide (S.keyOf e ≠ S.keyOf S.vacant)) e S.vacant hi
  simp only [decide_eq_true_eq, ite_not] at h
  simp only [isVacant, decide_eq_true_eq]
  exact h

theorem size_erase (hi : i < t.length) (hocc : S.isVacant t i = false) :
    S.size (S.erase t i) + 1 = S.size t := by
  have hset := size_set (S := S) (e := S.vacant) hi
  rw [size, (erase_perm hi).countP_eq]
  simp only [hocc, Bool.false_eq_true, if_false, if_true] at hset
  exact hset

/-! ### What the operations change -/

theorem Reachable.rewritten (h : S.Reachable t) (hfind : S.find t k = some i)
    (hkey : S.keyOf e = k) : S.Reachable (t.set i e) ∧ S.size (t.set i e) = S.size t ∧
      S.lookup (t.set i e) = update (S.lookup t) k (some e) := by
  obtain ⟨hi, hkeyi, hocc⟩ := answers_of_find hfind
  have hk : k ≠ S.keyOf S.vacant := hkeyi ▸ not_isVacant_iff.mp hocc
  have hset := h.rewrite hi (hkey.trans hkeyi.symm)
  have hsize := size_set (S := S) (e := e) hi
  rw [hocc, hkey, if_neg hk] at hsize
  refine ⟨hset, by simpa using hsize, ?_⟩
  rw [h.lookup_update hset (.refl _) hi hk (.inl hkeyi) (.inl hkeyi) (.inl hkey), if_pos hkey]

theorem Reachable.inserted (h : S.Reachable t) (hprobe : S.probe t k = some (i, false))
    (hk : k ≠ S.keyOf S.vacant) (hkey : S.keyOf e = k) :
    S.Reachable (t.set i e) ∧ S.size (t.set i e) = S.size t + 1 ∧
      S.lookup (t.set i e) = update (S.lookup t) k (some e) := by
  obtain ⟨hi, hvacant⟩ := probe_lt hprobe
  have hset := h.insert (hkey ▸ hprobe)
  have hsize := size_set (S := S) (e := e) hi
  rw [hvacant, hkey, if_neg hk] at hsize
  refine ⟨hset, by simpa using hsize, ?_⟩
  rw [h.lookup_update hset (.refl _) hi hk (.inr hkey) (.inr (isVacant_iff.mp hvacant))
    (.inl hkey), if_pos hkey]

theorem Reachable.erased (h : S.Reachable t) (hfind : S.find t k = some i) :
    S.Reachable (S.erase t i) ∧ S.size (S.erase t i) + 1 = S.size t ∧
      S.lookup (S.erase t i) = update (S.lookup t) k none := by
  obtain ⟨hi, hkeyi, hocc⟩ := answers_of_find hfind
  have hk : k ≠ S.keyOf S.vacant := hkeyi ▸ not_isVacant_iff.mp hocc
  have herased := h.erase hi
  refine ⟨herased, size_erase hi hocc, ?_⟩
  rw [h.lookup_update herased (erase_perm hi) hi hk (.inl hkeyi) (.inl hkeyi) (.inr rfl),
    if_neg (Ne.symm hk)]

/-! ### Tables that are at most half full -/

/-- The table of a map: every entry is found, and at most half of the cells are used. -/
structure HalfFull (S : Slots E K) (t : List E) : Prop where
  reachable : S.Reachable t
  room : S.size t * 2 ≤ t.length

namespace HalfFull

theorem probe_ne_none (h : S.HalfFull t) (hpos : 0 < t.length) (hk : k ≠ S.keyOf S.vacant) :
    S.probe t k ≠ none := by
  intro hnone
  have hroom := h.room
  obtain ⟨i, hprobe⟩ := h.reachable.exists_probe hk (by rw [find, hnone])
    (exists_isVacant (by omega))
  rw [hnone] at hprobe
  cases hprobe

theorem exists_probe (h : S.HalfFull t) (hpos : 0 < t.length) (hk : k ≠ S.keyOf S.vacant)
    (hnone : S.lookup t k = none) : ∃ i, S.probe t k = some (i, false) := by
  have hroom := h.room
  exact h.reachable.exists_probe hk (lookup_eq_none_iff.mp hnone) (exists_isVacant (by omega))

theorem rewrite (h : S.HalfFull t) (hfind : S.find t k = some i) (hkey : S.keyOf e = k) :
    S.HalfFull (t.set i e) ∧ S.size (t.set i e) = S.size t ∧
      S.lookup (t.set i e) = update (S.lookup t) k (some e) := by
  obtain ⟨hset, hsize, hlookup⟩ := h.reachable.rewritten hfind hkey
  exact ⟨⟨hset, by rw [hsize, length_set]; exact h.room⟩, hsize, hlookup⟩

theorem insert (h : S.HalfFull t) (hprobe : S.probe t k = some (i, false))
    (hk : k ≠ S.keyOf S.vacant) (hkey : S.keyOf e = k) (hroom : (S.size t + 1) * 2 ≤ t.length) :
    S.HalfFull (t.set i e) ∧ S.size (t.set i e) = S.size t + 1 ∧
      S.lookup (t.set i e) = update (S.lookup t) k (some e) := by
  obtain ⟨hset, hsize, hlookup⟩ := h.reachable.inserted hprobe hk hkey
  exact ⟨⟨hset, by rw [hsize, length_set]; exact hroom⟩, hsize, hlookup⟩

theorem erase (h : S.HalfFull t) (hfind : S.find t k = some i) :
    S.HalfFull (S.erase t i) ∧ S.size (S.erase t i) + 1 = S.size t ∧
      S.lookup (S.erase t i) = update (S.lookup t) k none := by
  obtain ⟨herased, hsize, hlookup⟩ := h.reachable.erased hfind
  have hroom := h.room
  refine ⟨⟨herased, ?_⟩, hsize, hlookup⟩
  rw [length_erase (answers_of_find hfind).1]
  omega

theorem initial (n : Nat) :
    S.HalfFull (replicate n S.vacant) ∧ S.size (replicate n S.vacant) = 0 ∧
      ∀ k, S.lookup (replicate n S.vacant) k = none := by
  have hentry i : S.entry (replicate n S.vacant) i = S.vacant := by
    rw [entry, getD_eq_getElem?_getD, getElem?_replicate]
    split <;> rfl
  have hvacant i : S.isVacant (replicate n S.vacant) i = true := by
    rw [isVacant_iff, key, hentry]
  have hreachable : S.Reachable (replicate n S.vacant) := by
    constructor <;>
    · intro i j _ _ hocc
      rw [hvacant] at hocc
      cases hocc
  have hsize : S.size (replicate n S.vacant) = 0 := by
    rw [size]
    simp
  refine ⟨⟨hreachable, by omega⟩, hsize, fun k => ?_⟩
  cases hlookup : S.lookup (replicate n S.vacant) k with
  | none => rfl
  | some =>
    by_cases hk : k = S.keyOf S.vacant
    · rw [hk, lookup_vacant] at hlookup
      cases hlookup
    · obtain ⟨hmem, hkey⟩ := (hreachable.lookup_eq_some_iff hk).mp hlookup
      exact absurd (hkey ▸ congrArg S.keyOf (eq_of_mem_replicate hmem)) hk

end HalfFull

end Slots

end Program
