import CommandScript.Number.Decimal
import CommandScript.Proofs.Number.Rounding
import CommandScript.Proofs.Runner.ExitValues
import Mathlib.Data.Nat.Digits.Lemmas

/-! Decimals written out in digits. A decimal is read as a number exactly if rounding finds a number
for it. The literals of number tokens are such decimals; those without a fraction are always in
range, but a fraction is kept as it is written, however many digits stand in front of its point. -/

namespace CommandScript

/-- A decimal: digits, and a point with further digits behind it if there are any of these. A minus
sign stands in front of a negative one. -/
structure Decimal where
  negative : Bool
  whole : List Char
  parts : List Char
  isDigits_whole : Lexeme.IsDigits whole
  isDigit_parts : ∀ d ∈ parts, d.isDigit = true

namespace Decimal

open Lexeme

/-- A point in front of digits; without digits there is none. -/
def pointed : List Char → List Char
  | [] => []
  | d :: rest => '.' :: d :: rest

def text (d : Decimal) : List Char :=
  Number.signed d.negative (d.whole ++ pointed d.parts)

def magnitude (d : Decimal) : ℚ :=
  positional 10 d.whole + positional 10 d.parts / 10 ^ d.parts.length

def value (d : Decimal) : ℚ :=
  if d.negative then -d.magnitude else d.magnitude

theorem positional_append (base : Nat) (front back : List Char) :
    positional base (front ++ back) =
      positional base front * base ^ back.length + positional base back := by
  simp only [positional, List.reverse_append, List.map_append, Nat.ofDigits_append,
    List.length_map, List.length_reverse]
  rw [Nat.add_comm, Nat.mul_comm]

theorem positional_zeros (base count : Nat) : positional base (List.replicate count '0') = 0 := by
  induction count with
  | zero => rfl
  | succ count ih =>
      rw [List.replicate_succ', positional_append, ih, Nat.zero_mul]
      rfl

theorem isDigits_digits (d : Decimal) : IsDigits (d.whole ++ d.parts) := by
  refine ⟨List.append_ne_nil_of_left_ne_nil d.isDigits_whole.nonempty _, ?_⟩
  exact List.forall_mem_append.mpr ⟨d.isDigits_whole.all, d.isDigit_parts⟩

/-- The digits without the point, as many places too high as stand behind it. -/
theorem magnitude_eq (d : Decimal) :
    d.magnitude = Nat.ofDigitChars 10 (d.whole ++ d.parts) 0 / 10 ^ d.parts.length := by
  rw [← digitsValue_of_isDigits d.isDigits_digits, digitsValue_eq_positional, positional_append,
    magnitude]
  push_cast
  rw [add_div, mul_div_cancel_right₀ _ (by positivity)]

theorem magnitude_of_integer {d : Decimal} (alone : d.parts = []) :
    d.magnitude = positional 10 d.whole := by
  have none : positional 10 [] = 0 := rfl
  rw [magnitude, alone, none, Nat.cast_zero, zero_div, add_zero]

theorem abs_value (d : Decimal) : |d.value| = d.magnitude := by
  have nonneg : 0 ≤ d.magnitude :=
    add_nonneg (Nat.cast_nonneg _) (div_nonneg (Nat.cast_nonneg _) (by positivity))
  rw [value]
  split
  · rw [abs_neg, abs_of_nonneg nonneg]
  · exact abs_of_nonneg nonneg

/-! Reading. -/

theorem longestRun_whole (d : Decimal) : LongestRun Char.isDigit d.whole (pointed d.parts) := by
  refine ⟨d.isDigits_whole.all, fun c first => ?_⟩
  cases parts : d.parts with
  | nil =>
      rw [parts] at first
      cases first
  | cons digit rest =>
      rw [parts] at first
      cases first
      rfl

theorem splitSign_text (d : Decimal) :
    Text.splitSign d.text = (d.negative, d.whole ++ pointed d.parts) := by
  obtain ⟨digit, rest, chars, isDigit⟩ := d.isDigits_whole.exists_cons
  rw [text, Number.signed, chars]
  split
  · next negative => rw [negative]; rfl
  · next positive =>
      rw [Bool.not_eq_true] at positive
      rw [positive, Text.splitSign]
      · exact fun _ same => absurd (List.cons.inj same).1 (ne_of_isDigit isDigit rfl)
      · exact fun _ same => absurd (List.cons.inj same).1 (ne_of_isDigit isDigit rfl)

theorem read?_text (d : Decimal) :
    Numeral.read? d.text = some ⟨d.negative, d.whole ++ d.parts, -d.parts.length⟩ := by
  have digits : ∀ {rest : List Char}, d.whole ++ rest ≠ [] :=
    List.append_ne_nil_of_left_ne_nil d.isDigits_whole.nonempty _
  have run := d.longestRun_whole
  unfold Numeral.read?
  rw [splitSign_text]
  simp only [run.takeWhile_append, run.dropWhile_append]
  cases parts : d.parts with
  | nil =>
      simp only [pointed]
      exact if_neg digits
  | cons digit rest =>
      have all : ∀ c ∈ digit :: rest, c.isDigit = true := parts ▸ d.isDigit_parts
      simp only [pointed, List.takeWhile_eq_self_iff.mpr all, List.dropWhile_eq_nil_iff.mpr all,
        if_neg digits]

theorem trim_text (d : Decimal) : Text.trim d.text = d.text := by
  have digits : ∀ c ∈ d.whole, Text.isBlank c = false := fun c member =>
    Text.isBlank_of_isDigit (d.isDigits_whole.all c member)
  have point : ∀ c ∈ pointed d.parts, Text.isBlank c = false := by
    cases parts : d.parts with
    | nil => exact nofun
    | cons digit rest =>
        refine List.forall_mem_cons.mpr ⟨rfl, fun c member => ?_⟩
        exact Text.isBlank_of_isDigit (d.isDigit_parts c (parts ▸ member))
  have body := List.forall_mem_append.mpr ⟨digits, point⟩
  have visible : d.text ≠ [] ∧ ∀ c ∈ d.text, Text.isBlank c = false := by
    rw [text, Number.signed]
    split
    · exact ⟨List.cons_ne_nil _ _, List.forall_mem_cons.mpr ⟨rfl, body⟩⟩
    · exact ⟨List.append_ne_nil_of_left_ne_nil d.isDigits_whole.nonempty _, body⟩
  have trimmed := @Text.trim_eq [] d.text [] (List.forall_mem_nil _) visible.1 visible.2
  rwa [List.nil_append, List.append_nil] at trimmed

end Decimal

/-- The digits of a numeral that reach behind its point are rounded in one go. The shortcut for
small exponents does not apply to them. -/
theorem Numeral.magnitude?_eq (negative : Bool) {digits : List Char} {places : Nat}
    (reach : places ≤ digits.length) :
    magnitude? ⟨negative, digits, -places⟩ =
      Magnitude.nearest? (Nat.ofDigitChars 10 digits 0 * Magnitude.one) (10 ^ places) := by
  unfold magnitude?
  dsimp only
  split
  · next zero =>
      have units : 0 = Magnitude.zero.units * 10 ^ places := (Nat.zero_mul _).symm
      rw [zero, Nat.zero_mul, Magnitude.zero.nearest?_of_exact (Nat.pow_pos Nat.ofNat_pos) units]
  · cases places with
    | zero =>
        have exponent : -((0 : Nat) : Int) = .ofNat 0 := rfl
        rw [exponent]
        dsimp only [Nat.pow_eq]
        rw [if_neg (Nat.not_lt_zero _), Nat.pow_zero, Nat.mul_one]
    | succ places =>
        have exponent : -((places + 1 : Nat) : Int) = .negSucc places := rfl
        have near : ¬ digits.length + largestExponent < places + 1 := by omega
        rw [exponent]
        dsimp only [Nat.pow_eq]
        rw [if_neg near]

namespace Decimal

open Lexeme

theorem number_read?_text (d : Decimal) :
    Number.read? (String.ofList d.text) =
      (Magnitude.nearest? (Nat.ofDigitChars 10 (d.whole ++ d.parts) 0 * Magnitude.one)
        (10 ^ d.parts.length)).map fun magnitude => ⟨d.negative, magnitude⟩ := by
  have reach : d.parts.length ≤ (d.whole ++ d.parts).length := by
    rw [List.length_append]
    exact Nat.le_add_left _ _
  rw [Number.read?, String.toList_ofList, trim_text, read?_text, Option.bind_some,
    Numeral.magnitude?_eq d.negative reach]

/-- A decimal is read as a number exactly if its value is in the range of rounding. -/
theorem isSome_read?_iff (d : Decimal) :
    (Number.read? (String.ofList d.text)).isSome = true ↔ |d.value| < 2 ^ 1024 - 2 ^ 970 := by
  rw [number_read?_text, Option.isSome_map,
    Magnitude.nearest?_isSome_iff_lt (Nat.pow_pos Nat.ofNat_pos), abs_value, magnitude_eq,
    Nat.cast_mul, div_right_comm, mul_div_cancel_right₀ _ Magnitude.one_pos.ne', Nat.cast_pow,
    Nat.cast_ofNat]

/-- A decimal with the value of a magnitude is read as a number with this magnitude. -/
theorem read?_of_exact {d : Decimal} {m : Magnitude}
    (exact : d.magnitude = m.units / Magnitude.one) :
    Number.read? (String.ofList d.text) = some ⟨d.negative, m⟩ := by
  have places : (0 : ℚ) < 10 ^ d.parts.length := by positivity
  have units : Nat.ofDigitChars 10 (d.whole ++ d.parts) 0 * Magnitude.one =
      m.units * 10 ^ d.parts.length := by
    rw [magnitude_eq, div_eq_div_iff places.ne' Magnitude.one_pos.ne'] at exact
    exact_mod_cast exact
  rw [number_read?_text, m.nearest?_of_exact (Nat.pow_pos Nat.ofNat_pos) units, Option.map_some]

/-- A run of digits is a decimal, whatever digits stand behind its point. -/
theorem exists_of_isRun {run parts : List Char} (isRun : IsRun run)
    (digits : ∀ d ∈ parts, d.isDigit = true) :
    ∃ d : Decimal, d.text = run ++ pointed parts ∧ (parts = [] → d.value = signedValue run) := by
  cases isRun with
  | plain isDigits =>
      refine ⟨⟨false, run, parts, isDigits, digits⟩, rfl, fun alone => ?_⟩
      rw [signedValue_of_isDigits isDigits, digitsValue_eq_positional]
      exact magnitude_of_integer alone
  | @negative front isDigits =>
      refine ⟨⟨true, front, parts, isDigits, digits⟩, rfl, fun alone => ?_⟩
      rw [signedValue_of_writes (.negative isDigits), Int.cast_neg]
      exact congrArg Neg.neg (magnitude_of_integer alone)

/-- The literal of a number is a decimal, which has 64 bits if it is an integer. -/
theorem exists_of_isNumeral {text : List Char} (numeral : IsNumeral text) :
    ∃ d : Decimal, d.text = text ∧ ('.' ∉ text → |d.value| ≤ 2 ^ 63) := by
  cases numeral with
  | @integer n fits =>
      obtain ⟨isRun, value⟩ := isRun_toString n
      obtain ⟨d, spelled, same⟩ := exists_of_isRun isRun (List.forall_mem_nil _)
      rw [pointed, List.append_nil] at spelled
      refine ⟨d, spelled, fun _ => ?_⟩
      have range : |n| ≤ 2 ^ 63 := by
        obtain ⟨least, greatest⟩ := inRange_iff.mp fits
        exact abs_le.mpr ⟨least, by omega⟩
      rw [same rfl, value]
      exact_mod_cast range
  | @fraction run digits whole parts =>
      obtain ⟨digit, rest, rfl, _⟩ := parts.exists_cons
      obtain ⟨d, spelled, _⟩ := exists_of_isRun whole parts.all
      exact ⟨d, spelled, fun unpointed => absurd (List.mem_append_right run (.head _)) unpointed⟩

/-- A power of ten, written out with a fraction behind it. -/
def powerOfTen (zeros : Nat) : Decimal where
  negative := false
  whole := '1' :: List.replicate zeros '0'
  parts := ['0']
  isDigits_whole := by
    refine ⟨List.cons_ne_nil _ _, List.forall_mem_cons.mpr ⟨rfl, fun d member => ?_⟩⟩
    rw [List.eq_of_mem_replicate member]
    rfl
  isDigit_parts := List.all_eq_true.mp rfl

theorem isNumeral_powerOfTen (zeros : Nat) : IsNumeral (powerOfTen zeros).text :=
  .fraction (.plain (powerOfTen zeros).isDigits_whole)
    ⟨List.cons_ne_nil _ _, (powerOfTen zeros).isDigit_parts⟩

theorem magnitude_powerOfTen (zeros : Nat) : (powerOfTen zeros).magnitude = 10 ^ zeros := by
  have whole : positional 10 (powerOfTen zeros).whole = 10 ^ zeros := by
    have split := positional_append 10 ['1'] (List.replicate zeros '0')
    rw [List.length_replicate, positional_zeros] at split
    exact split.trans (Nat.one_mul _)
  have fraction : positional 10 (powerOfTen zeros).parts = 0 := rfl
  rw [magnitude, whole, fraction, Nat.cast_zero, zero_div, add_zero, Nat.cast_pow, Nat.cast_ofNat]

end Decimal

namespace Cursor

open Lexeme

theorem exists_next_of_mem_tokens {c : Cursor} {token : Token} (member : token ∈ c.tokens.1) :
    ∃ place : Cursor, token = place.next.1 := by
  induction c using tokens.induct with
  | case1 c ended =>
      rw [tokens, dif_pos ended] at member
      exact ⟨c, List.mem_singleton.mp member⟩
  | case2 c more following final read ih =>
      rw [tokens, dif_neg more] at member
      rcases List.mem_cons.mp member with first | later
      · exact ⟨c, first⟩
      · exact ih later

/-- The literal of a number token is a decimal, and it is read as a number exactly if its value is
below the halfway point between the largest number and the next power of two. A literal without a
fraction always is. -/
theorem number_tokens_are_numbers_iff {text : String} {token : Token}
    (member : token ∈ (start text).tokens.1) (number : token.kind = .number) :
    (∃ d : Decimal, d.text = token.literal.toList ∧
      ((Number.read? token.literal).isSome = true ↔ |d.value| < 2 ^ 1024 - 2 ^ 970)) ∧
    ('.' ∉ token.literal.toList → (Number.read? token.literal).isSome = true) := by
  obtain ⟨place, rfl⟩ := exists_next_of_mem_tokens member
  obtain ⟨d, spelled, small⟩ := Decimal.exists_of_isNumeral (isNumeral_of_kind_next number)
  have read := d.isSome_read?_iff
  rw [spelled, String.ofList_toList] at read
  refine ⟨⟨d, spelled, read⟩, fun unpointed => read.mpr ?_⟩
  have place : (2 : ℚ) ^ 63 < 2 ^ 970 := pow_lt_pow_right₀ one_lt_two (by decide)
  have twice : (2 : ℚ) ^ 970 + 2 ^ 970 ≤ 2 ^ 1024 := by
    rw [← two_mul, ← pow_succ']
    exact pow_le_pow_right₀ one_le_two (by decide)
  refine lt_of_le_of_lt (small unpointed) (lt_sub_iff_add_lt.mpr ?_)
  exact lt_of_lt_of_le (add_lt_add_left place _) twice

theorem literals_of_expression_are_numbers :
    (∃ d : Decimal, d.text = "-007.50".toList ∧
      ((Number.read? "-007.50").isSome = true ↔ |d.value| < 2 ^ 1024 - 2 ^ 970)) ∧
    (Number.read? "127").isSome = true := by
  have fraction : (⟨.number, "-007.50", 1⟩ : Token) ∈ (start "expr 0x7f % -007.50").tokens.1 := by
    decide +kernel
  have integer : (⟨.number, "127", 1⟩ : Token) ∈ (start "expr 0x7f % -007.50").tokens.1 := by
    decide +kernel
  exact ⟨(number_tokens_are_numbers_iff fraction rfl).1,
    (number_tokens_are_numbers_iff integer rfl).2 (by decide)⟩

/-- So many zeros that no number is left. -/
def hugeDecimal : String := String.ofList (Decimal.powerOfTen 309).text

theorem hugeDecimal_is_no_number :
    (start hugeDecimal).tokens.1 = [⟨.number, hugeDecimal, 1⟩, ⟨.finish, "", 1⟩] ∧
    Number.read? hugeDecimal = none ∧
    ¬ ∀ (text : String) (token : Token), token ∈ (start text).tokens.1 → token.kind = .number →
      (Number.read? token.literal).isSome = true := by
  have numeral : IsNumeral hugeDecimal.toList := by
    rw [hugeDecimal, String.toList_ofList]
    exact Decimal.isNumeral_powerOfTen 309
  have tokens := tokens_of_isNumeral numeral
  have unread : Number.read? hugeDecimal = none := by
    have power : 2 ^ 1024 ≤ 10 ^ 309 := by decide +kernel
    have power' : (2 ^ 1024 : ℚ) ≤ 10 ^ 309 := by exact_mod_cast power
    have beyond : ¬ |(Decimal.powerOfTen 309).value| < 2 ^ 1024 - 2 ^ 970 := by
      rw [Decimal.abs_value, Decimal.magnitude_powerOfTen, not_lt]
      exact le_trans (sub_le_self _ (by positivity)) power'
    exact Option.not_isSome_iff_eq_none.mp (mt (Decimal.isSome_read?_iff _).mp beyond)
  refine ⟨tokens, unread, fun all => ?_⟩
  have read := all hugeDecimal ⟨.number, hugeDecimal, 1⟩ (tokens ▸ List.mem_cons_self) rfl
  rw [unread] at read
  cases read

end Cursor

end CommandScript
