import Mathlib.Data.Nat.Bitwise
import Mathlib.Data.Nat.ModEq
import SparkPipe.Sched.WorkControl.KvState

/-!
# Identities of blocks

A private key is derived from one word, the sequence id combined with a multiple of the block
index. The mixing of that word loses nothing, but the combination does: two blocks of different
sequences have the same private key exactly when their words are equal.
-/

namespace SparkPipe

namespace WorkControl

variable {x y : Nat}

/-! ### Mixing -/

theorem xor_shiftRight_inj {k : Nat} (hk : 0 < k) (hx : x < 2 ^ 64) (hy : y < 2 ^ 64)
    (h : x ^^^ (x >>> k) = y ^^^ (y >>> k)) : x = y := by
  have hbits : ∀ d i, 64 ≤ i + d → x.testBit i = y.testBit i := by
    intro d
    induction d with
    | zero =>
      intro i hi
      have hpow : 2 ^ 64 ≤ 2 ^ i := Nat.pow_le_pow_right (by omega) hi
      rw [Nat.testBit_lt_two_pow (hx.trans_le hpow), Nat.testBit_lt_two_pow (hy.trans_le hpow)]
    | succ d ih =>
      intro i hi
      have hbit := congrArg (Nat.testBit · i) h
      simp only [Nat.testBit_xor, Nat.testBit_shiftRight] at hbit
      rwa [ih (k + i) (by omega), Bool.xor_left_inj] at hbit
  exact Nat.eq_of_testBit_eq fun i => hbits 64 i (by omega)

theorem xor_shiftRight_lt {k : Nat} (hx : x < 2 ^ 64) : x ^^^ (x >>> k) < 2 ^ 64 :=
  Nat.xor_lt_two_pow hx ((Nat.shiftRight_le x k).trans_lt hx)

theorem mul_mod_inj {m : Nat} (hm : m.Coprime (2 ^ 64)) (hx : x < 2 ^ 64) (hy : y < 2 ^ 64)
    (h : x * m % 2 ^ 64 = y * m % 2 ^ 64) : x = y := by
  have hcancel : x ≡ y [MOD 2 ^ 64] := Nat.ModEq.cancel_right_of_coprime hm.symm h
  exact hcancel.eq_of_lt_of_lt hx hy

theorem kvMix_inj (hx : x < 2 ^ 64) (hy : y < 2 ^ 64) (h : kvMix x = kvMix y) : x = y := by
  have hword z : z % 2 ^ 64 < 2 ^ 64 := Nat.mod_lt _ (by decide)
  have h₁ := xor_shiftRight_inj (by decide) (hword _) (hword _) h
  have h₂ := mul_mod_inj (by decide) (xor_shiftRight_lt (hword _)) (xor_shiftRight_lt (hword _)) h₁
  have h₃ := xor_shiftRight_inj (by decide) (hword _) (hword _) h₂
  have h₄ := mul_mod_inj (by decide) (xor_shiftRight_lt hx) (xor_shiftRight_lt hy) h₃
  exact xor_shiftRight_inj (by decide) hx hy h₄

/-! ### Keys -/

theorem privateKey_ne (sequenceId logicalBlockIndex : Nat) :
    privateKey sequenceId logicalBlockIndex ≠ {} := by
  intro h
  have hbit := congrArg (fun key : KvKey => key.high.testBit 0) h
  simp [privateKey] at hbit

/-- The multiple of a block index that is combined with a sequence id. -/
def indexWord (logicalBlockIndex : Nat) : Nat := logicalBlockIndex * 0x9e3779b97f4a7c15 % 2 ^ 64

theorem privateKey_eq_iff {s₁ s₂ i₁ i₂ : Nat} (hs₁ : s₁ < 2 ^ 64) (hs₂ : s₂ < 2 ^ 64) :
    privateKey s₁ i₁ = privateKey s₂ i₂ ↔ s₁ ^^^ s₂ = indexWord i₁ ^^^ indexWord i₂ := by
  have hindex i : indexWord i < 2 ^ 64 := Nat.mod_lt _ (by decide)
  have hwords : s₁ ^^^ s₂ = indexWord i₁ ^^^ indexWord i₂ ↔
      s₁ ^^^ indexWord i₁ = s₂ ^^^ indexWord i₂ := by
    have hzero (a b : Nat) : a = b ↔ a ^^^ b = 0 := Nat.xor_eq_zero_iff.symm
    rw [hzero (s₁ ^^^ s₂), hzero (s₁ ^^^ indexWord i₁), Nat.xor_assoc, Nat.xor_assoc,
      Nat.xor_left_comm s₂]
  rw [hwords]
  constructor
  · intro h
    exact kvMix_inj (Nat.xor_lt_two_pow hs₁ (hindex i₁)) (Nat.xor_lt_two_pow hs₂ (hindex i₂))
      (congrArg KvKey.low h)
  · intro h
    have hword : Nat.xor s₁ (i₁ * 0x9e3779b97f4a7c15 % 2 ^ 64) =
        Nat.xor s₂ (i₂ * 0x9e3779b97f4a7c15 % 2 ^ 64) := h
    simp only [privateKey, hword]

theorem privateKey_ne_contentKey (sequenceId logicalBlockIndex digestLow digestHigh : Nat) :
    privateKey sequenceId logicalBlockIndex ≠ contentKey digestLow digestHigh := by
  intro h
  have hbit := congrArg (fun key : KvKey => key.high.testBit 0) h
  simp only [privateKey, contentKey] at hbit
  simp at hbit

theorem contentKey_ne (digestLow digestHigh : Nat) : contentKey digestLow digestHigh ≠ {} := by
  intro h
  have hbit := congrArg (fun key : KvKey => key.high.testBit 1) h
  simp only [contentKey] at hbit
  rw [show Nat.land (Nat.lor digestHigh 2) (2 ^ 64 - 2) =
      (digestHigh ||| 2) &&& (2 ^ 64 - 2) from rfl,
    Nat.testBit_and, Nat.testBit_or, show Nat.testBit 2 1 = true from rfl, Bool.or_true] at hbit
  cases hbit

theorem kvSelectKey_ne (laneKeys : Option (List KvKey))
    (sequenceId logicalBlockIndex blockEndToken committedFrontier : Nat) :
    kvSelectKey laneKeys sequenceId logicalBlockIndex blockEndToken committedFrontier ≠ {} := by
  cases laneKeys with
  | none => exact privateKey_ne _ _
  | some =>
    simp only [kvSelectKey]
    split_ifs
    · exact contentKey_ne _ _
    · exact privateKey_ne _ _

end WorkControl

open WorkControl

/-- Distinct blocks have distinct identities exactly when the ids do not differ by the difference of
the indices. -/
theorem block_identities_are_distinct {s₁ s₂ i₁ i₂ : Nat} (hs₁ : s₁ < 2 ^ 64) (hs₂ : s₂ < 2 ^ 64) :
    ((s₁, i₁) ≠ (s₂, i₂) → privateKey s₁ i₁ ≠ privateKey s₂ i₂) ∧
      (∀ d₁ d₂, privateKey s₁ i₁ ≠ contentKey d₁ d₂ ∧ contentKey d₁ d₂ ≠ {}) ∧
      privateKey s₁ i₁ ≠ {} ↔
    ((s₁, i₁) ≠ (s₂, i₂) → s₁ ^^^ s₂ ≠ indexWord i₁ ^^^ indexWord i₂) := by
  have hkeys : (∀ d₁ d₂, privateKey s₁ i₁ ≠ contentKey d₁ d₂ ∧ contentKey d₁ d₂ ≠ {}) ∧
      privateKey s₁ i₁ ≠ {} :=
    ⟨fun d₁ d₂ => ⟨privateKey_ne_contentKey _ _ d₁ d₂, contentKey_ne d₁ d₂⟩, privateKey_ne _ _⟩
  rw [and_iff_left hkeys, Ne, Ne, privateKey_eq_iff hs₁ hs₂]

/-- Two sequences share the identity of a block. -/
theorem block_identities_collide :
    (1, 0) ≠ (0x9e3779b97f4a7c14, 1) ∧ privateKey 1 0 = privateKey 0x9e3779b97f4a7c14 1 := by
  decide +kernel

theorem block_identities_are_distinct_small : privateKey 1 0 ≠ privateKey 2 0 :=
  ((@block_identities_are_distinct 1 2 0 0 (by decide) (by decide)).mpr fun _ => by decide).1
    (by decide)

end SparkPipe
