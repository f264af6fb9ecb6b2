import CommandScript.Proofs.Number.Results

/-! Integers among the numbers. An integer is printed with all its digits, however many these are,
and the text is read as the same number again, down to its bits. Only the sign of zero is lost. -/

namespace CommandScript

open Lexeme

/-! The interchange format. -/

namespace Magnitude

variable {significand places : Nat}

theorem eq_of_units {m m' : Magnitude} (same : m.units = m'.units) : m = m' := by
  obtain ⟨units, fits⟩ := m
  obtain ⟨units', fits'⟩ := m'
  cases same
  rfl

theorem fits_of_le (digits : significand ≤ 2 ^ 53) (below : significand * 2 ^ places < bound) :
    Fits (significand * 2 ^ places) :=
  ⟨below, significant_of_le digits⟩

/-- The significand is spelled without its first digit if it has all 53 of them, which adds one to
the exponent field. -/
theorem pattern_eq {m : Magnitude} (units : m.units = significand * 2 ^ places)
    (digits : significand < 2 ^ 53) (normal : places = 0 ∨ 2 ^ 52 ≤ significand) :
    m.pattern = significand + places * 2 ^ 52 := by
  -- Places other than the first go with all 53 digits, so that the length tells the place.
  have scale : bitLength m.units - 53 = places := by
    have below : m.units < 2 ^ (53 + places) := by
      rw [units, Nat.pow_add]
      exact Nat.mul_lt_mul_of_pos_right digits (Nat.two_pow_pos places)
    have most := bitLength_le_of_lt below
    rcases normal with none | first
    · omega
    · have above : 2 ^ (52 + places) ≤ m.units := by
        rw [units, Nat.pow_add]
        exact Nat.mul_le_mul_right _ first
      have least := (Nat.pow_lt_pow_iff_right Nat.one_lt_two).mp
        (Nat.lt_of_le_of_lt above (lt_two_pow_bitLength m.units))
      omega
  rw [pattern]
  dsimp only [Nat.pow_eq]
  rw [scale, units, Nat.mul_div_cancel _ (Nat.two_pow_pos places)]

end Magnitude

namespace Number

theorem pattern_of_scaled {significand places : Nat} {negative : Bool} {n : Number}
    (digits : significand < 2 ^ 53) (normal : places = 0 ∨ 2 ^ 52 ≤ significand)
    (range : 53 + places ≤ Magnitude.boundPlaces)
    (decoded : Quantity.ofRounded negative (Magnitude.nearest? (significand * 2 ^ places) 1) =
      .finite n) :
    n.pattern = significand + places * 2 ^ 52 + if negative then 2 ^ 63 else 0 := by
  have below : significand * 2 ^ places < Magnitude.bound := by
    rw [Magnitude.bound_eq]
    refine Nat.lt_of_lt_of_le ?_ (Nat.pow_le_pow_right Nat.ofNat_pos range)
    rw [Nat.pow_add]
    exact Nat.mul_lt_mul_of_pos_right digits (Nat.two_pow_pos places)
  let m : Magnitude := ⟨_, Magnitude.fits_of_le digits.le below⟩
  rw [m.nearest?_of_exact Nat.one_pos (Nat.mul_one _).symm] at decoded
  cases decoded
  rw [pattern, m.pattern_eq rfl digits normal]
  rfl

theorem pattern_of_ofPattern {bits : Nat} {n : Number} (width : bits < 2 ^ 64)
    (decoded : Quantity.ofPattern bits = .finite n) : n.pattern = bits := by
  unfold Quantity.ofPattern at decoded
  dsimp only [Nat.pow_eq] at decoded
  have fraction : bits % 2 ^ 52 < 2 ^ 52 := Nat.mod_lt _ (Nat.two_pow_pos 52)
  have exponent : bits / 2 ^ 52 % 2 ^ 11 < 2 ^ 11 := Nat.mod_lt _ (Nat.two_pow_pos 11)
  have bound : Magnitude.boundPlaces = 2098 := rfl
  split at decoded
  · split at decoded <;> cases decoded
  · split at decoded
    · next subnormal =>
        -- The first place has no implied digit.
        rw [← Nat.mul_one (bits % 2 ^ 52), ← Nat.pow_zero 2] at decoded
        rw [pattern_of_scaled (by omega) (.inl rfl) (by omega) decoded]
        simp only [beq_iff_eq]
        split <;> omega
    · next normal =>
        rw [pattern_of_scaled (by omega) (.inr (by omega)) (by omega) decoded]
        simp only [beq_iff_eq]
        split <;> omega

/-! Printing and reading. -/

variable {n : Number} {k : Int}

theorem whole_of_value (exact : n.value = k * Magnitude.one) : n.toRat = k := by
  rw [toRat, exact, Int.cast_mul, Int.cast_natCast, mul_div_cancel_right₀ _ Magnitude.one_pos.ne']

theorem value_of_whole (whole : n.toRat = k) : n.value = k * Magnitude.one := by
  rw [toRat, div_eq_iff Magnitude.one_pos.ne'] at whole
  exact_mod_cast whole

theorem units_of_whole (whole : n.toRat = k) :
    n.magnitude.units = k.natAbs * Magnitude.one := by
  rw [← natAbs_value, value_of_whole whole, Int.natAbs_mul, Int.natAbs_natCast]

/-- The canonical spelling of an integer has a minus sign if it is negative. -/
theorem toList_toString (k : Int) :
    (toString k).toList = signed (decide (k < 0)) (Nat.toDigits 10 k.natAbs) := by
  have repr : toString k = if 0 ≤ k then k.toNat.repr else "-" ++ (-k).toNat.repr := Int.repr_eq_if
  rw [repr]
  split
  · next nonneg =>
      have size : k.toNat = k.natAbs := by omega
      rw [decide_eq_false (not_lt.mpr nonneg), Nat.toList_repr, size]
      rfl
  · next negative =>
      have size : (-k).toNat = k.natAbs := by omega
      rw [decide_eq_true (not_le.mp negative), String.toList_append, Nat.toList_repr, size]
      rfl

theorem negative_of_whole (whole : n.toRat = k) (nonzero : k ≠ 0) :
    n.negative = decide (k < 0) := by
  have sign := negative_iff (n := n) (by rw [whole]; exact_mod_cast nonzero)
  rw [whole, Int.cast_lt_zero] at sign
  rw [Bool.eq_iff_iff, sign, decide_eq_true_iff]

/-- Without the sign of zero, a number has the sign of the integer that it is. -/
theorem sign_of_whole (whole : n.toRat = k) :
    (n.negative && k.natAbs != 0) = decide (k < 0) := by
  rcases eq_or_ne k 0 with rfl | nonzero
  · rw [Int.natAbs_zero, bne_self_eq_false, Bool.and_false]
    rfl
  · rw [bne_iff_ne.mpr (Int.natAbs_ne_zero.mpr nonzero), Bool.and_true,
      negative_of_whole whole nonzero]

theorem printsAsInteger_iff (whole : n.toRat = k) :
    n.printsAsInteger = true ↔ |k| < integerBound := by
  rw [printsAsInteger, units_of_whole whole, Nat.mul_mod_left, beq_self_eq_true, Bool.true_and,
    decide_eq_true_iff, Nat.mul_lt_mul_right Magnitude.one_natPos, Int.abs_eq_natAbs, Nat.cast_lt]

/-- Below the bound an integer is printed in its canonical spelling. -/
theorem print_of_small (whole : n.toRat = k) (small : |k| < integerBound) :
    n.print = toString k := by
  apply String.toList_inj.mp
  rw [print, if_pos ((printsAsInteger_iff whole).mpr small), String.toList_ofList, toList_toString,
    printInteger, units_of_whole whole, Nat.mul_div_cancel _ Magnitude.one_natPos,
    sign_of_whole whole]

theorem millionths_of_whole (whole : n.toRat = k) : n.millionths = k.natAbs * 1000000 := by
  rw [millionths, units_of_whole whole, Nat.mul_right_comm,
    roundQuotient_mul _ Magnitude.one_natPos]

theorem ne_zero_of_large (large : ¬ |k| < integerBound) : k ≠ 0 := by
  rintro rfl
  exact large (by decide)

theorem print_of_large (whole : n.toRat = k) (large : ¬ |k| < integerBound) :
    n.print = toString k ++ ".000000" := by
  have zeros : padded 6 0 = ['0', '0', '0', '0', '0', '0'] := rfl
  have decimals : n.printDecimals =
      signed n.negative (Nat.toDigits 10 (n.millionths / 1000000) ++
        '.' :: padded 6 (n.millionths % 1000000)) := rfl
  apply String.toList_inj.mp
  rw [print, if_neg ((printsAsInteger_iff whole).not.mpr large), String.toList_ofList,
    String.toList_append, toList_toString, decimals, millionths_of_whole whole,
    Nat.mul_div_cancel _ Nat.ofNat_pos, Nat.mul_mod_left, zeros,
    negative_of_whole whole (ne_zero_of_large large), signed, signed]
  split <;> rfl

theorem exists_exact_decimal (whole : n.toRat = k) :
    ∃ d : Decimal, n.print = String.ofList d.text ∧
      d.magnitude = n.magnitude.units / Magnitude.one ∧ d.negative = decide (k < 0) := by
  have size : (n.magnitude.units / Magnitude.one : ℚ) = k.natAbs := by
    rw [units_of_whole whole, Nat.cast_mul, mul_div_cancel_right₀ _ Magnitude.one_pos.ne']
  have quotient : n.magnitude.units / Magnitude.one = k.natAbs := by
    rw [units_of_whole whole, Nat.mul_div_cancel _ Magnitude.one_natPos]
  rw [size, print]
  split
  · refine ⟨n.integerDecimal, congrArg String.ofList n.printInteger_eq, ?_, ?_⟩
    · rw [Decimal.magnitude_of_integer rfl, integerDecimal, positional_toDigits, quotient]
    · have negative : n.integerDecimal.negative =
          (n.negative && n.magnitude.units / Magnitude.one != 0) := rfl
      rw [negative, quotient, sign_of_whole whole]
  · next large =>
      have nonzero := ne_zero_of_large ((printsAsInteger_iff whole).not.mp large)
      refine ⟨n.roundedDecimal, congrArg String.ofList n.printDecimals_eq, ?_, ?_⟩
      · rw [magnitude_roundedDecimal_eq, millionths_of_whole whole, Nat.cast_mul, Nat.cast_ofNat,
          mul_div_cancel_right₀ _ (by norm_num)]
      · exact negative_of_whole whole nonzero

/-- What is printed for an integer is read as the same number, and as the positive zero for zero. -/
theorem read?_print_of_whole (whole : n.toRat = k) :
    read? n.print = some (if k = 0 then zero else n) := by
  obtain ⟨d, printed, exact, sign⟩ := exists_exact_decimal whole
  rw [printed, Decimal.read?_of_exact exact, sign]
  split
  · next none =>
      subst none
      have units : n.magnitude.units = Magnitude.zero.units := by
        rw [units_of_whole whole, Int.natAbs_zero, Nat.zero_mul]
        rfl
      rw [Magnitude.eq_of_units units]
      rfl
  · next nonzero => rw [← negative_of_whole whole nonzero]

/-- An integer is printed exactly: in its canonical spelling below the bound, and with six zeros
behind a point from there on. The text is read as the same number, so that its bits are the same,
and only a negative zero becomes the positive one. -/
theorem integers_survive_printing {n : Number} {k : Int} (whole : n.toRat = k) :
    n.print = (if |k| < 92 * 10 ^ 17 then toString k else toString k ++ ".000000") ∧
    read? n.print = some (if k = 0 then zero else n) ∧
    ∀ bits < 2 ^ 64, Quantity.ofPattern bits = .finite n →
      (read? n.print).map pattern = some (if k = 0 then 0 else bits) := by
  have bound : ((integerBound : Nat) : Int) = 92 * 10 ^ 17 := rfl
  refine ⟨?_, read?_print_of_whole whole, fun bits width decoded => ?_⟩
  · split
    · next small => exact print_of_small whole (bound ▸ small)
    · next large => exact print_of_large whole (bound ▸ large)
  · rw [read?_print_of_whole whole, Option.map_some]
    split
    · rfl
    · rw [pattern_of_ofPattern width decoded]

/-- The first power of two that is printed with decimals, with a minus sign. -/
def belowIntegers : Number :=
  ⟨true, 1 * 2 ^ 1137, Magnitude.fits_of_le (by decide) (by decide +kernel)⟩

def largest : Number :=
  ⟨false, (2 ^ 53 - 1) * 2 ^ 2045, Magnitude.fits_of_le (by decide) (by decide +kernel)⟩

theorem far_integers_survive_printing :
    (zero.neg.print = "0" ∧ read? zero.neg.print = some zero) ∧
    (belowIntegers.print = "-9223372036854775808.000000" ∧
      read? belowIntegers.print = some belowIntegers ∧
      (read? belowIntegers.print).map pattern = some 0xc3e0000000000000) ∧
    largest.print = toString (2 ^ 1024 - 2 ^ 971 : Int) ++ ".000000" ∧
    read? largest.print = some largest ∧
    (read? largest.print).map pattern = some 0x7fefffffffffffff := by
  have negativeZero : zero.neg.toRat = (0 : Int) := whole_of_value (by decide +kernel)
  have below : belowIntegers.toRat = (-9223372036854775808 : Int) :=
    whole_of_value (by decide +kernel)
  have most : largest.toRat = (2 ^ 1024 - 2 ^ 971 : Int) := whole_of_value (by decide +kernel)
  obtain ⟨zeroText, zeroRead, _⟩ := integers_survive_printing negativeZero
  obtain ⟨belowText, belowRead, belowBits⟩ := integers_survive_printing below
  obtain ⟨mostText, mostRead, mostBits⟩ := integers_survive_printing most
  have far : ¬ |(2 ^ 1024 - 2 ^ 971 : Int)| < 92 * 10 ^ 17 := by decide +kernel
  have nonzero : (2 ^ 1024 - 2 ^ 971 : Int) ≠ 0 := by decide +kernel
  rw [if_neg far] at mostText
  rw [if_neg nonzero] at mostRead
  refine ⟨⟨zeroText, zeroRead⟩, ⟨belowText, belowRead, ?_⟩, mostText, mostRead, ?_⟩
  · exact belowBits 0xc3e0000000000000 (by decide) (by decide +kernel)
  · have bits := mostBits 0x7fefffffffffffff (by decide) (by decide +kernel)
    rwa [if_neg nonzero] at bits

end Number

end CommandScript
