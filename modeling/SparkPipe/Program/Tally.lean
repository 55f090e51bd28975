import Mathlib.Data.Set.Card
import SparkPipe.Program.Probing

/-!
# Counting what has a property

A counter that a program keeps next to a table is right when it is the number of values that have
a property. Here that number is stated for a predicate on any type, so that a counter can be
followed through changes of a map without knowing how the map is stored.

## Main definitions

* `Tally p n`: exactly `n` values satisfy `p`.

## Main results

* `Tally.gain`, `Tally.lose`: one value more, one value less.
* `Tally.update_gain`, `Tally.update_lose`, `Tally.update_same`: a map is changed at one argument.
* `tally_getD`, `Slots.tally_lookup`: the counts of a list and of an open-addressed table.
-/

namespace Program

variable {α β : Type}

/-- Exactly `n` values have the property. -/
def Tally (p : α → Prop) (n : Nat) : Prop := Set.encard {a | p a} = n

namespace Tally

variable {p q : α → Prop} {n m : Nat} {a b : α}

theorem congr (h : Tally p n) (hpq : ∀ a, q a ↔ p a) : Tally q n := by
  rw [Set.ext fun a => hpq a]
  exact h

theorem eq (h : Tally p n) (h' : Tally p m) : n = m :=
  ENat.natCast_inj.mp ((Eq.symm h).trans h')

theorem none (h : ∀ a, ¬p a) : Tally p 0 := by
  rw [Set.eq_empty_of_forall_notMem fun a ha => h a ha]
  exact Set.encard_empty

theorem pos (h : Tally p n) (ha : p a) : 0 < n := by
  have hne : Set.encard {a | p a} ≠ 0 := Set.encard_ne_zero_of_mem ha
  rw [h] at hne
  exact Nat.pos_of_ne_zero fun hn => hne (by rw [hn]; rfl)

theorem exists_of_pos (h : Tally p n) (hn : 0 < n) : ∃ a, p a := by
  have hne : Set.encard {a | p a} ≠ 0 := by
    rw [h]
    exact fun h0 => (Nat.pos_iff_ne_zero.mp hn) (ENat.natCast_inj.mp h0)
  exact Set.encard_ne_zero.mp hne

theorem unique (h : Tally p 1) (ha : p a) (hb : p b) : a = b := by
  obtain ⟨c, hc⟩ := Set.encard_eq_one.mp h
  have ha' : a ∈ ({c} : Set α) := hc ▸ ha
  have hb' : b ∈ ({c} : Set α) := hc ▸ hb
  exact ha'.trans hb'.symm

theorem gain (h : Tally p n) (ha : ¬p a) (hq : ∀ b, q b ↔ b = a ∨ p b) : Tally q (n + 1) := by
  have hset : {b | q b} = insert a {b | p b} := Set.ext hq
  rw [Tally, hset, Set.encard_insert_of_notMem (show a ∉ {b | p b} from ha), h]
  rfl

theorem lose (h : Tally p n) (ha : p a) (hq : ∀ b, q b ↔ p b ∧ b ≠ a) : Tally q (n - 1) := by
  have hset : {b | q b} = {b | p b} \ {a} := Set.ext hq
  have hcount := Set.encard_sdiff_singleton_add_one (show a ∈ {b | p b} from ha)
  have hpos := h.pos ha
  rw [h, ← hset, ← Nat.sub_add_cancel hpos, Nat.cast_add] at hcount
  exact (WithTop.add_right_inj (ENat.one_ne_top)).mp hcount

theorem le_of_injective (h : Tally p m) {f : Fin n → α} (hf : Function.Injective f)
    (hp : ∀ i, p (f i)) : n ≤ m := by
  have hsub : Set.range f ⊆ {a | p a} := by
    rintro _ ⟨i, rfl⟩
    exact hp i
  have hle := Set.encard_le_encard hsub
  rw [h, ← Set.image_univ, hf.encard_image, Set.encard_univ, ENat.card_eq_coe_fintype_card,
    Fintype.card_fin] at hle
  exact_mod_cast hle

theorem le (h : Tally p n) (h' : Tally q m) (hsub : ∀ a, p a → q a) : n ≤ m := by
  have hle := Set.encard_le_encard (show {a | p a} ⊆ {a | q a} from hsub)
  rw [h, h'] at hle
  exact_mod_cast hle

theorem lt (n : Nat) : Tally (· < n) n := by
  rw [Tally, show {a | a < n} = (Finset.range n : Set Nat) by ext; simp,
    Set.encard_coe_eq_coe_finsetCard, Finset.card_range]

section Update

variable [DecidableEq α] {f : α → β} {P : β → Prop} {v : β}

theorem update_gain (h : Tally (fun b => P (f b)) n) (hold : ¬P (f a)) (hnew : P v) :
    Tally (fun b => P (Function.update f a v b)) (n + 1) := by
  refine h.gain hold fun b => ?_
  by_cases hb : b = a
  · simp [hb, hnew]
  · simp [hb]

theorem update_lose (h : Tally (fun b => P (f b)) n) (hold : P (f a)) (hnew : ¬P v) :
    Tally (fun b => P (Function.update f a v b)) (n - 1) := by
  refine h.lose hold fun b => ?_
  by_cases hb : b = a
  · simp [hb, hnew]
  · simp [hb]

theorem update_same (h : Tally (fun b => P (f b)) n) (hsame : P v ↔ P (f a)) :
    Tally (fun b => P (Function.update f a v b)) n := by
  refine h.congr fun b => ?_
  by_cases hb : b = a
  · simp [hb, hsame]
  · simp [hb]

end Update

end Tally

theorem tally_getD {p : α → Bool} {d : α} (hd : p d = false) (l : List α) :
    Tally (fun i => p (l.getD i d)) (l.countP p) := by
  rw [Tally, countP_eq_card_filter_range p d l, ← Set.encard_coe_eq_coe_finsetCard]
  congr 1
  ext i
  simp only [Set.mem_ofPred_eq, Finset.coe_filter, Finset.mem_range]
  constructor
  · intro hi
    refine ⟨?_, hi⟩
    by_contra hlt
    rw [List.getD_eq_default _ _ (not_lt.mp hlt), hd] at hi
    cases hi
  · exact And.right

namespace Slots

variable {E K : Type} [DecidableEq K] {S : Slots E K} {t : List E}

theorem tally_lookup (h : S.Reachable t) (p : E → Prop) [DecidablePred p] :
    Tally (fun k => ∃ e, S.lookup t k = some e ∧ p e)
      (t.countP fun e => decide (S.keyOf e ≠ S.keyOf S.vacant ∧ p e)) := by
  rw [Tally, countP_eq_card_filter_range _ S.vacant t]
  set cells := (Finset.range t.length).filter fun i =>
    (decide (S.keyOf (t.getD i S.vacant) ≠ S.keyOf S.vacant ∧ p (t.getD i S.vacant)) : Bool)
    with hcells
  have hmem : ∀ i, i ∈ cells ↔ i < t.length ∧ S.key t i ≠ S.keyOf S.vacant ∧ p (S.entry t i) := by
    intro i
    rw [Finset.mem_filter, Finset.mem_range, decide_eq_true_eq]
    rfl
  have hinj : Set.InjOn (S.key t) cells := by
    intro i hi j hj hij
    obtain ⟨hi, hocc, -⟩ := (hmem i).mp hi
    exact h.distinct i j hi ((hmem j).mp hj).1 (not_isVacant_iff.mpr hocc) hij
  rw [← Set.encard_coe_eq_coe_finsetCard, ← hinj.encard_image]
  congr 1
  ext k
  constructor
  · rintro ⟨e, hlookup, hp⟩
    have hk : k ≠ S.keyOf S.vacant := by
      rintro rfl
      rw [lookup_vacant] at hlookup
      cases hlookup
    obtain ⟨hmeme, hkey⟩ := (h.lookup_eq_some_iff hk).mp hlookup
    obtain ⟨i, hi, rfl⟩ := exists_entry_of_mem (S := S) hmeme
    exact ⟨i, (hmem i).mpr ⟨hi, ne_of_eq_of_ne hkey hk, hp⟩, hkey⟩
  · rintro ⟨i, hi, rfl⟩
    obtain ⟨hi, hocc, hp⟩ := (hmem i).mp hi
    exact ⟨S.entry t i, h.lookup_eq_some_of_cell hi hocc, hp⟩

theorem tally_size (h : S.Reachable t) : Tally (fun k => S.lookup t k ≠ none) (S.size t) := by
  have htally := tally_lookup h fun _ => True
  simp only [and_true] at htally
  exact htally.congr fun k => Option.ne_none_iff_exists'

end Slots

end Program
