/-! Magnitudes of binary floating-point numbers with 53 significant bits, counted in the smallest
positive one, and the rounding of a quotient to the nearest magnitude. -/

namespace CommandScript

/-- The number of binary digits, none for zero. -/
def bitLength (n : Nat) : Nat :=
  if n = 0 then 0 else n.log2 + 1

theorem lt_two_pow_bitLength (n : Nat) : n < Nat.pow 2 (bitLength n) := by
  unfold bitLength
  split
  · simp_all
  · exact Nat.lt_log2_self

theorem bitLength_le_of_lt {n k : Nat} (bound : n < Nat.pow 2 k) : bitLength n ≤ k := by
  unfold bitLength
  split
  · exact Nat.zero_le k
  · next nonzero => exact (Nat.log2_lt nonzero).mpr bound

/-- Divides to the nearest natural number, a half going to the even neighbour. -/
def roundQuotient (num den : Nat) : Nat :=
  let floor := num / den
  let twice := 2 * (num % den)
  if twice < den then floor
  else if den < twice then floor + 1
  else if floor % 2 = 0 then floor else floor + 1

theorem roundQuotient_le (num den : Nat) : roundQuotient num den ≤ num / den + 1 := by
  unfold roundQuotient
  dsimp only
  repeat' split
  all_goals omega

namespace Magnitude

def unitPlaces : Nat := 1074

/-- One, counted in units. -/
def one : Nat := Nat.pow 2 unitPlaces

/-- The binary places between the unit and the first power of two beyond every magnitude. -/
def boundPlaces : Nat := 2098

/-- The first power of two beyond the largest magnitude, counted in units. -/
def bound : Nat := Nat.pow 2 boundPlaces

/-- Holds of a count of units with at most 53 significant bits below the bound. -/
def Fits (units : Nat) : Prop :=
  units < bound ∧ Nat.pow 2 (bitLength units - 53) ∣ units

end Magnitude

/-- A finite magnitude: a multiple of the unit `2 ^ -1074` with at most 53 significant bits. -/
structure Magnitude where
  units : Nat
  fits : Magnitude.Fits units
deriving DecidableEq

namespace Magnitude

theorem significant_of_le {r k : Nat} (small : r ≤ Nat.pow 2 53) :
    Nat.pow 2 (bitLength (r * Nat.pow 2 k) - 53) ∣ r * Nat.pow 2 k := by
  simp only [Nat.pow_eq] at *
  rcases Nat.lt_or_eq_of_le small with below | top
  · have short : r * 2 ^ k < 2 ^ (53 + k) := by
      rw [Nat.pow_add]
      exact Nat.mul_lt_mul_of_pos_right below (Nat.two_pow_pos k)
    have length := bitLength_le_of_lt short
    exact Nat.dvd_trans (Nat.pow_dvd_pow 2 (by omega)) (Nat.dvd_mul_left _ _)
  · subst top
    rw [← Nat.pow_add]
    have length := bitLength_le_of_lt (Nat.pow_lt_pow_succ (a := 2) (n := 53 + k) (by decide))
    exact Nat.pow_dvd_pow 2 (by omega)

def excess (num den : Nat) : Nat :=
  bitLength (num / den) - 53

theorem rounded_le (num den : Nat) :
    roundQuotient num (den * Nat.pow 2 (excess num den)) ≤ Nat.pow 2 53 := by
  simp only [Nat.pow_eq]
  refine Nat.le_trans (roundQuotient_le _ _) ?_
  rw [← Nat.div_div_eq_div_mul]
  have whole : num / den < 2 ^ 53 * 2 ^ excess num den := by
    rw [← Nat.pow_add]
    refine Nat.lt_of_lt_of_le (lt_two_pow_bitLength _) (Nat.pow_le_pow_right (by decide) ?_)
    unfold excess
    omega
  exact (Nat.div_lt_iff_lt_mul (Nat.two_pow_pos _)).mpr whole

/-- The magnitude nearest to a quotient of units, a half going to the even neighbour; none
beyond the largest magnitude. -/
def nearest? (num den : Nat) : Option Magnitude :=
  let scale := Nat.pow 2 (excess num den)
  let units := roundQuotient num (den * scale) * scale
  if small : units < bound then some ⟨units, small, significant_of_le (rounded_le num den)⟩
  else none

theorem bound_pos : 0 < bound := by
  unfold bound
  generalize boundPlaces = places
  exact Nat.two_pow_pos places

def zero : Magnitude := ⟨0, bound_pos, Nat.dvd_zero _⟩

def pattern (m : Magnitude) : Nat :=
  let scale := bitLength m.units - 53
  m.units / Nat.pow 2 scale + scale * Nat.pow 2 52

end Magnitude

end CommandScript
