import CommandScript.Number.Basic
import Mathlib.Algebra.Order.Field.Rat
import Mathlib.Tactic.FieldSimp
import Mathlib.Tactic.Linarith
import Mathlib.Tactic.NormNum
import Mathlib.Tactic.Ring

namespace CommandScript

theorem two_pow_le_of_bitLength {n : Nat} (nonzero : n ≠ 0) : 2 ^ (bitLength n - 1) ≤ n := by
  rw [bitLength, if_neg nonzero]
  exact Nat.log2_self_le nonzero

theorem div_le_roundQuotient (num den : Nat) : num / den ≤ roundQuotient num den := by
  unfold roundQuotient
  dsimp only
  repeat' split
  all_goals omega

/-- A quotient is rounded to less than an even number exactly if it is more than a half below it. -/
theorem roundQuotient_lt_iff {num den k : Nat} (positive : 0 < den) (even : k % 2 = 0) :
    roundQuotient num den < k ↔ 2 * num + den < 2 * (k * den) := by
  have whole := Nat.div_add_mod num den
  have small := Nat.mod_lt num positive
  have above := div_le_roundQuotient num den
  have below := roundQuotient_le num den
  rw [Nat.mul_comm] at whole
  rcases Nat.lt_trichotomy (num / den + 1) k with less | same | more
  · have step := Nat.mul_le_mul_right den (Nat.succ_le_of_lt less)
    rw [Nat.succ_eq_add_one, Nat.add_mul, Nat.add_mul, Nat.one_mul] at step
    omega
  · -- The neighbour below is odd, so that a half goes up.
    subst same
    rw [Nat.add_mul, Nat.one_mul]
    unfold roundQuotient
    dsimp only
    repeat' split
    all_goals omega
  · have step := Nat.mul_le_mul_right den (Nat.le_of_lt_succ more)
    omega

/-- Rounding to a multiple of a quotient's unit is off by no more than half a unit. -/
theorem two_mul_roundQuotient_mul_le (num : Nat) {den : Nat} (positive : 0 < den) :
    2 * (roundQuotient num den * den) ≤ 2 * num + den := by
  have whole := Nat.div_add_mod num den
  have small := Nat.mod_lt num positive
  have next := Nat.add_mul (num / den) 1 den
  rw [Nat.mul_comm] at whole
  unfold roundQuotient
  dsimp only
  repeat' split
  all_goals omega

theorem roundQuotient_mul (k : Nat) {den : Nat} (positive : 0 < den) :
    roundQuotient (k * den) den = k := by
  unfold roundQuotient
  rw [Nat.mul_div_cancel k positive, Nat.mul_mod_left]
  exact if_pos positive

namespace Magnitude

variable {num den : Nat}

theorem one_eq : one = 2 ^ unitPlaces := by
  unfold one
  generalize unitPlaces = places
  rfl

theorem bound_eq : bound = 2 ^ boundPlaces := by
  unfold bound
  generalize boundPlaces = places
  rfl

/-- The places of the bound without those of a magnitude and of half a unit in the last of them. -/
theorem exists_boundPlaces : ∃ places, boundPlaces = places + 54 := ⟨2044, rfl⟩

/-- Halfway between the largest magnitude and the bound, in units. -/
def halfway : Nat := 2 ^ boundPlaces - 2 ^ (boundPlaces - 54)

theorem rounded_le_two_pow (num den : Nat) :
    roundQuotient num (den * 2 ^ excess num den) * 2 ^ excess num den ≤
      2 ^ (53 + excess num den) := by
  rw [Nat.pow_add]
  exact Nat.mul_le_mul_right _ (rounded_le num den)

/-- Rounding does not go below the first binary digit of a quotient of 53 or more of them. -/
theorem two_pow_le_rounded (long : 53 ≤ bitLength (num / den)) :
    2 ^ (bitLength (num / den) - 1) ≤
      roundQuotient num (den * 2 ^ excess num den) * 2 ^ excess num den := by
  have nonzero : num / den ≠ 0 := by
    intro zero
    rw [zero] at long
    exact absurd long (by decide)
  have digits : 52 + excess num den = bitLength (num / den) - 1 := by
    unfold excess
    omega
  have first : 2 ^ 52 ≤ num / (den * 2 ^ excess num den) := by
    rw [← Nat.div_div_eq_div_mul, Nat.le_div_iff_mul_le (Nat.two_pow_pos _), ← Nat.pow_add, digits]
    exact two_pow_le_of_bitLength nonzero
  rw [← digits, Nat.pow_add]
  exact Nat.mul_le_mul_right _ (Nat.le_trans first (div_le_roundQuotient _ _))

/-- Quotients from half of the last place below a power of two on are rounded up to it. -/
theorem rounded_lt_iff (places : Nat) (positive : 0 < den) :
    roundQuotient num (den * 2 ^ excess num den) * 2 ^ excess num den < 2 ^ (places + 54) ↔
      num + 2 ^ places * den < 2 ^ (places + 54) * den := by
  rcases Nat.lt_trichotomy (bitLength (num / den)) (places + 54) with less | same | more
  · -- A place is left even if all places are rounded up.
    have last : 2 ^ (places + 54) * den = 2 * (2 ^ (places + 53) * den) := by
      rw [Nat.pow_succ', Nat.mul_assoc]
    have half : 2 ^ places * den ≤ 2 ^ (places + 53) * den :=
      Nat.mul_le_mul_right den (Nat.pow_le_pow_right (by decide) (by omega))
    have quotient : num / den < 2 ^ (places + 53) :=
      Nat.lt_of_lt_of_le (lt_two_pow_bitLength _) (Nat.pow_le_pow_right (by decide) (by omega))
    have product := (Nat.div_lt_iff_lt_mul positive).mp quotient
    refine iff_of_true (Nat.lt_of_le_of_lt (rounded_le_two_pow num den) ?_) (by omega)
    refine Nat.pow_lt_pow_right (by decide) ?_
    unfold excess
    omega
  · -- The last place decides.
    have shift : excess num den = places + 1 := by
      unfold excess
      omega
    have split : 2 ^ (places + 54) = 2 ^ 53 * 2 ^ (places + 1) := by
      rw [← Nat.pow_add, Nat.add_comm 53, Nat.add_assoc]
    have unit : den * 2 ^ (places + 1) = 2 * (2 ^ places * den) := by
      rw [Nat.pow_succ', Nat.mul_comm den, Nat.mul_assoc]
    rw [shift, split, Nat.mul_lt_mul_right (Nat.two_pow_pos _),
      roundQuotient_lt_iff (Nat.mul_pos positive (Nat.two_pow_pos _)) (by decide), Nat.mul_assoc,
      Nat.mul_comm (2 ^ (places + 1)), unit]
    omega
  · have beyond : 2 ^ (places + 54) ≤ 2 ^ (bitLength (num / den) - 1) :=
      Nat.pow_le_pow_right (by decide) (by omega)
    have nonzero : num / den ≠ 0 := by
      intro zero
      rw [zero] at more
      exact absurd more (Nat.not_lt_zero _)
    have product := (Nat.le_div_iff_mul_le positive).mp
      (Nat.le_trans beyond (two_pow_le_of_bitLength nonzero))
    refine iff_of_false (Nat.not_lt.mpr ?_) (by omega)
    exact Nat.le_trans beyond (two_pow_le_rounded (by omega))

/-- There is a magnitude to round to exactly if the quotient lies below the halfway point. -/
theorem nearest?_isSome_iff (positive : 0 < den) :
    (nearest? num den).isSome = true ↔ num < halfway * den := by
  have found : (nearest? num den).isSome = true ↔
      roundQuotient num (den * 2 ^ excess num den) * 2 ^ excess num den < bound := by
    unfold nearest?
    dsimp only [Nat.pow_eq]
    split
    · next fits => exact iff_of_true rfl fits
    · next beyond => exact iff_of_false nofun beyond
  obtain ⟨places, same⟩ := exists_boundPlaces
  have small : 2 ^ places * den ≤ 2 ^ (places + 54) * den :=
    Nat.mul_le_mul_right den (Nat.pow_le_pow_right (by decide) (Nat.le_add_right _ _))
  rw [found, bound_eq, halfway, same, Nat.add_sub_cancel, rounded_lt_iff places positive,
    Nat.sub_mul]
  omega

theorem nearest?_of_exact (m : Magnitude) (positive : 0 < den) (exact : num = m.units * den) :
    nearest? num den = some m := by
  have shift : excess num den = bitLength m.units - 53 := by
    rw [exact, excess, Nat.mul_div_cancel _ positive]
  have rounded : roundQuotient num (den * 2 ^ excess num den) * 2 ^ excess num den = m.units := by
    rw [shift]
    obtain ⟨places, whole⟩ := m.fits.2
    have divisor := Nat.mul_pos positive (Nat.two_pow_pos (bitLength m.units - 53))
    rw [Nat.pow_eq] at whole
    generalize 2 ^ (bitLength m.units - 53) = scale at whole divisor ⊢
    have product : num = places * (den * scale) := by
      rw [exact, whole, Nat.mul_comm den, ← Nat.mul_assoc, Nat.mul_comm places]
    rw [product, roundQuotient_mul places divisor, whole, Nat.mul_comm]
  unfold nearest?
  simp only [Nat.pow_eq, rounded]
  rw [dif_pos m.fits.1]

theorem one_pos : (0 : ℚ) < one := by
  rw [one_eq, Nat.cast_pow]
  positivity

theorem one_natPos : 0 < one := Nat.cast_pos.mp one_pos

theorem halfway_eq : (halfway : ℚ) = (2 ^ 1024 - 2 ^ 970) * one := by
  have bound : boundPlaces = 1024 + unitPlaces := rfl
  have half : boundPlaces - 54 = 970 + unitPlaces := rfl
  have less : 2 ^ (970 + unitPlaces) ≤ 2 ^ (1024 + unitPlaces) :=
    Nat.pow_le_pow_right (by decide) (Nat.add_le_add_right (by decide) _)
  rw [halfway, half, bound, Nat.cast_sub less, one_eq]
  push_cast
  rw [pow_add, pow_add, sub_mul]

theorem nearest?_isSome_iff_lt (positive : 0 < den) :
    (nearest? num den).isSome = true ↔ (num / den / one : ℚ) < 2 ^ 1024 - 2 ^ 970 := by
  have positive' : (0 : ℚ) < den := Nat.cast_pos.mpr positive
  rw [nearest?_isSome_iff positive, div_lt_iff₀ one_pos, ← halfway_eq, div_lt_iff₀ positive',
    ← Nat.cast_mul, Nat.cast_lt]

/-- Below a power of two, a number with 53 binary digits leaves a whole last place free. -/
theorem add_two_pow_le (places : Nat) {units : Nat} (below : units < 2 ^ (places + 54))
    (digits : 2 ^ (bitLength units - 53) ∣ units) :
    units + 2 ^ (places + 1) ≤ 2 ^ (places + 54) := by
  rcases Nat.lt_or_eq_of_le (bitLength_le_of_lt below) with less | same
  · have short : units < 2 ^ (places + 53) :=
      Nat.lt_of_lt_of_le (lt_two_pow_bitLength units) (Nat.pow_le_pow_right (by decide) (by omega))
    have least : 2 ^ (places + 1) ≤ 2 ^ (places + 53) := Nat.pow_le_pow_right (by decide) (by omega)
    have last : 2 ^ (places + 54) = 2 * 2 ^ (places + 53) := Nat.pow_succ'
    omega
  · have place : bitLength units - 53 = places + 1 := by omega
    rw [place] at digits
    have free : 2 ^ (places + 1) ∣ 2 ^ (places + 54) - units :=
      Nat.dvd_sub (Nat.pow_dvd_pow 2 (by omega)) digits
    have least := Nat.le_of_dvd (Nat.sub_pos_of_lt below) free
    omega

/-- The largest magnitude is half a place below the halfway point. -/
theorem add_half_le_halfway (m : Magnitude) : m.units + 2 ^ (boundPlaces - 54) ≤ halfway := by
  have below := m.fits.1
  obtain ⟨places, same⟩ := exists_boundPlaces
  rw [bound_eq, same] at below
  have room := add_two_pow_le places below m.fits.2
  have unit : 2 ^ (places + 1) = 2 * 2 ^ places := Nat.pow_succ'
  rw [halfway, same, Nat.add_sub_cancel]
  omega

end Magnitude

end CommandScript
