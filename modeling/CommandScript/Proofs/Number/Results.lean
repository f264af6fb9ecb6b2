import CommandScript.Proofs.Frames
import CommandScript.Proofs.Number.Decimals
import CommandScript.Proofs.Steps.Builtins
import Mathlib.Algebra.Order.Field.Basic

/-! The results of arithmetic as texts. A number is printed as a decimal in range, so that it is
read as a number again. A result is a number exactly if the exact result is below the halfway point
between the largest number and the next power of two. Beyond it the result is printed as an
infinity, which is no number to the next command. -/

namespace CommandScript

open Lexeme

/-! Printing. -/

namespace Magnitude

/-- The halfway point is half a place away, so that rounding to decimals does not get there. -/
theorem add_one_lt (m : Magnitude) : (m.units / one + 1 : ℚ) < 2 ^ 1024 - 2 ^ 970 := by
  have half : ((2 ^ (boundPlaces - 54) : Nat) : ℚ) = 2 ^ 970 * one := by
    have places : boundPlaces - 54 = 970 + unitPlaces := rfl
    rw [places, one_eq]
    push_cast
    exact pow_add 2 970 unitPlaces
  have room : ((m.units + 2 ^ (boundPlaces - 54) : Nat) : ℚ) ≤ halfway :=
    Nat.cast_le.mpr m.add_half_le_halfway
  rw [Nat.cast_add, half, halfway_eq] at room
  rw [← div_le_iff₀ one_pos, add_div, mul_div_cancel_right₀ _ one_pos.ne'] at room
  exact lt_of_lt_of_le (add_lt_add_right (one_lt_pow₀ one_lt_two (by decide)) _) room

end Magnitude

theorem positional_toDigits (n : Nat) : positional 10 (Nat.toDigits 10 n) = n := by
  rw [← digitsValue_eq_positional, digitsValue_toDigits]

namespace Number

theorem positional_padded (width n : Nat) : positional 10 (padded width n) = n := by
  rw [padded, Decimal.positional_append, Decimal.positional_zeros, positional_toDigits,
    Nat.zero_mul, Nat.zero_add]

theorem isDigit_padded (width n : Nat) : ∀ d ∈ padded width n, d.isDigit = true := by
  refine List.forall_mem_append.mpr ⟨fun d member => ?_, (isDigits_toDigits n).all⟩
  rw [List.eq_of_mem_replicate member]
  rfl

theorem length_padded {width n : Nat} (positive : 0 < width) (small : n < 10 ^ width) :
    (padded width n).length = width := by
  have short := Nat.toDigits_length 10 n width positive small
  rw [padded, List.length_append, List.length_replicate]
  omega

def integerDecimal (n : Number) : Decimal where
  negative := n.negative && n.magnitude.units / Magnitude.one != 0
  whole := Nat.toDigits 10 (n.magnitude.units / Magnitude.one)
  parts := []
  isDigits_whole := isDigits_toDigits _
  isDigit_parts := List.forall_mem_nil _

theorem printInteger_eq (n : Number) : n.printInteger = n.integerDecimal.text := by
  have digits := List.append_nil (Nat.toDigits 10 (n.magnitude.units / Magnitude.one))
  exact congrArg (signed _) digits.symm

theorem magnitude_integerDecimal (n : Number) :
    n.integerDecimal.magnitude ≤ n.magnitude.units / Magnitude.one := by
  rw [Decimal.magnitude_of_integer rfl, integerDecimal, positional_toDigits]
  rw [le_div_iff₀ Magnitude.one_pos]
  exact_mod_cast Nat.div_mul_le_self _ _

def millionths (n : Number) : Nat :=
  roundQuotient (n.magnitude.units * 1000000) Magnitude.one

/-- The digits of a number with six decimals. -/
def roundedDecimal (n : Number) : Decimal where
  negative := n.negative
  whole := Nat.toDigits 10 (n.millionths / 1000000)
  parts := padded 6 (n.millionths % 1000000)
  isDigits_whole := isDigits_toDigits _
  isDigit_parts := isDigit_padded _ _

theorem length_decimals (n : Number) : n.roundedDecimal.parts.length = 6 :=
  length_padded (by decide) (Nat.mod_lt _ (by decide))

theorem printDecimals_eq (n : Number) : n.printDecimals = n.roundedDecimal.text := by
  obtain ⟨d, rest, decimals⟩ := List.exists_cons_of_length_eq_add_one n.length_decimals
  have pointed : Decimal.pointed n.roundedDecimal.parts = '.' :: n.roundedDecimal.parts := by
    rw [decimals, Decimal.pointed]
  rw [Decimal.text, pointed]
  rfl

theorem magnitude_roundedDecimal_eq (n : Number) :
    n.roundedDecimal.magnitude = n.millionths / 1000000 := by
  have parts : (n.millionths : ℚ) =
      ((1000000 * (n.millionths / 1000000) + n.millionths % 1000000 : Nat) : ℚ) := by
    rw [Nat.div_add_mod]
  rw [Decimal.magnitude, length_decimals, roundedDecimal, positional_toDigits, positional_padded,
    parts]
  push_cast
  ring

theorem magnitude_roundedDecimal (n : Number) :
    n.roundedDecimal.magnitude ≤ n.magnitude.units / Magnitude.one + 1 := by
  have off := two_mul_roundQuotient_mul_le (n.magnitude.units * 1000000) Magnitude.one_natPos
  have off' : (2 * (n.millionths * Magnitude.one) : ℚ) ≤
      2 * (n.magnitude.units * 1000000) + Magnitude.one := by exact_mod_cast off
  rw [magnitude_roundedDecimal_eq, div_add_one Magnitude.one_pos.ne',
    div_le_div_iff₀ (by positivity) Magnitude.one_pos]
  linarith [Magnitude.one_pos]

theorem exists_decimal (n : Number) :
    ∃ d : Decimal, n.print = String.ofList d.text ∧ |d.value| < 2 ^ 1024 - 2 ^ 970 := by
  have room := n.magnitude.add_one_lt
  rw [print]
  split
  · refine ⟨n.integerDecimal, congrArg String.ofList n.printInteger_eq, ?_⟩
    rw [Decimal.abs_value]
    exact lt_of_le_of_lt n.magnitude_integerDecimal (lt_trans (lt_add_one _) room)
  · refine ⟨n.roundedDecimal, congrArg String.ofList n.printDecimals_eq, ?_⟩
    rw [Decimal.abs_value]
    exact lt_of_le_of_lt n.magnitude_roundedDecimal room

theorem isSome_read?_print (n : Number) : (read? n.print).isSome = true := by
  obtain ⟨d, printed, small⟩ := n.exists_decimal
  rw [printed]
  exact d.isSome_read?_iff.mpr small

/-! Operations. -/

/-- A number counted in ones. -/
def toRat (n : Number) : ℚ :=
  n.value / Magnitude.one

theorem natAbs_value (n : Number) : n.value.natAbs = n.magnitude.units := by
  unfold value
  split
  · rw [Int.natAbs_neg, Int.natAbs_natCast]
  · exact Int.natAbs_natCast _

theorem value_neg (n : Number) : n.neg.value = -n.value := by
  unfold value neg
  cases n.negative <;> simp

theorem abs_div_one (units : Int) :
    |(units / Magnitude.one : ℚ)| = units.natAbs / Magnitude.one := by
  rw [abs_div, abs_of_pos Magnitude.one_pos, Nat.cast_natAbs, Int.cast_abs]

theorem abs_toRat (n : Number) : |n.toRat| = n.magnitude.units / Magnitude.one := by
  rw [toRat, abs_div_one, natAbs_value]

theorem div_one_neg_iff {units : Int} : (units / Magnitude.one : ℚ) < 0 ↔ units < 0 := by
  rw [div_lt_iff₀ Magnitude.one_pos, zero_mul, Int.cast_lt_zero]

theorem negative_iff {n : Number} (nonzero : n.toRat ≠ 0) : n.negative = true ↔ n.toRat < 0 := by
  have units : n.magnitude.units ≠ 0 := by
    intro none
    apply nonzero
    rw [← abs_eq_zero, abs_toRat, none, Nat.cast_zero, zero_div]
  rw [toRat, div_one_neg_iff, value]
  cases n.negative with
  | true =>
      rw [if_pos rfl]
      exact iff_of_true rfl (by omega)
  | false =>
      rw [if_neg Bool.false_ne_true]
      exact iff_of_false Bool.false_ne_true (by omega)

end Number

namespace Quantity

/-- Holds of the rounding of an exact result: its sign, and its size as a quotient of units. -/
inductive IsRounded : Quantity → ℚ → Prop
  | of {negative : Bool} {num den : Nat} {x : ℚ} (positive : 0 < den)
      (size : |x| = num / den / Magnitude.one) (sign : x ≠ 0 → (negative = true ↔ x < 0)) :
      IsRounded (ofRounded negative (Magnitude.nearest? num den)) x

/-- Holds of what an exact result is rounded to: a number below the halfway point, an infinity
from there on. -/
inductive Rounds : Quantity → ℚ → Prop
  | finite {n x} (below : |x| < 2 ^ 1024 - 2 ^ 970) : Rounds (.finite n) x
  | infinite {negative x} (beyond : 2 ^ 1024 - 2 ^ 970 ≤ |x|) : Rounds (.infinite negative) x

theorem IsRounded.rounds {q : Quantity} {x : ℚ} (rounded : q.IsRounded x) : q.Rounds x := by
  obtain @⟨negative, num, den, _, positive, size, _⟩ := rounded
  have found := @Magnitude.nearest?_isSome_iff_lt num den positive
  rw [← size] at found
  cases nearest : Magnitude.nearest? num den with
  | some magnitude =>
      rw [nearest] at found
      exact .finite (found.mp rfl)
  | none =>
      rw [nearest] at found
      exact .infinite (not_lt.mp (mt found.mpr Bool.false_ne_true))

/-- An exact result that is the value of a number is not changed by rounding. -/
theorem IsRounded.exact {q : Quantity} {r : Number} (rounded : q.IsRounded r.toRat) :
    ∃ n, q = .finite n ∧ n.toRat = r.toRat := by
  generalize same : r.toRat = x at rounded
  obtain @⟨negative, num, den, _, positive, size, sign⟩ := rounded
  have units : num = r.magnitude.units * den := by
    rw [← same, Number.abs_toRat, div_left_inj' Magnitude.one_pos.ne',
      eq_div_iff (Nat.cast_ne_zero.mpr positive.ne')] at size
    exact_mod_cast size.symm
  refine ⟨⟨negative, r.magnitude⟩, ?_, ?_⟩
  · rw [r.magnitude.nearest?_of_exact positive units, ofRounded]
  · rcases eq_or_ne x 0 with zero | nonzero
    · rw [zero, ← abs_eq_zero, Number.abs_toRat]
      rw [← Number.abs_toRat r, same, zero, abs_zero]
    · have own : negative = r.negative := by
        rw [Bool.eq_iff_iff, sign nonzero, Number.negative_iff (same ▸ nonzero), same]
      rw [own, same]

theorem Rounds.isSome_read?_print_iff {q : Quantity} {x : ℚ} (rounds : q.Rounds x) :
    (Number.read? q.print).isSome = true ↔ |x| < 2 ^ 1024 - 2 ^ 970 := by
  cases rounds with
  | @finite n _ below => exact iff_of_true n.isSome_read?_print below
  | @infinite negative _ beyond =>
      have unread : (Number.read? (Quantity.infinite negative).print).isSome = false := by
        cases negative <;> decide +kernel
      rw [unread]
      exact iff_of_false nofun (not_lt.mpr beyond)

end Quantity

namespace Number

variable {a b : Number}

theorem add_isRounded : (a.add b).IsRounded (a.toRat + b.toRat) := by
  have sum : a.toRat + b.toRat = (a.value + b.value : Int) / Magnitude.one := by
    rw [toRat, toRat, ← add_div, Int.cast_add]
  rw [add, sum]
  refine .of Nat.one_pos ?_ fun nonzero => ?_
  · rw [abs_div_one, Nat.cast_one, div_one]
  · have other : a.value + b.value ≠ 0 := by
      rintro zero
      rw [zero, Int.cast_zero, zero_div] at nonzero
      exact nonzero rfl
    rw [if_neg other, decide_eq_true_iff, div_one_neg_iff]

theorem sub_isRounded : (a.sub b).IsRounded (a.toRat - b.toRat) := by
  have negated : b.neg.toRat = -b.toRat := by
    rw [toRat, value_neg, Int.cast_neg, neg_div, toRat]
  rw [sub_eq_add_neg, ← negated]
  exact add_isRounded

/-- A product of numbers other than zero is negative if their signs differ. -/
theorem negative_bne_iff (nonzero : a.toRat * b.toRat ≠ 0) :
    (a.negative != b.negative) = true ↔ a.toRat * b.toRat < 0 := by
  obtain ⟨left, right⟩ := mul_ne_zero_iff.mp nonzero
  rw [bne_iff_ne, Ne, Bool.eq_iff_iff, negative_iff left, negative_iff right, mul_neg_iff]
  rcases left.lt_or_gt with below | above
  · simp [below, below.not_gt, right.symm.le_iff_lt]
  · simp [above, above.not_gt]

theorem mul_isRounded : (a.mul b).IsRounded (a.toRat * b.toRat) := by
  rw [mul]
  refine .of Magnitude.one_natPos ?_ negative_bne_iff
  rw [abs_mul, abs_toRat, abs_toRat, div_mul_div_comm, Nat.cast_mul, div_div]

theorem div_isRounded (nonzero : b.isZero = false) : (a.div b).IsRounded (a.toRat / b.toRat) := by
  have units : b.magnitude.units ≠ 0 := ne_of_beq_false nonzero
  rw [div]
  refine .of (Nat.pos_of_ne_zero units) ?_ fun nonzero => ?_
  · rw [abs_div, abs_toRat, abs_toRat, div_div_div_cancel_right₀ Magnitude.one_pos.ne',
      Nat.cast_mul, div_right_comm, mul_div_cancel_right₀ _ Magnitude.one_pos.ne']
  · obtain ⟨left, right⟩ := div_ne_zero_iff.mp nonzero
    rw [negative_bne_iff (mul_ne_zero left right), mul_neg_iff, div_neg_iff]

theorem rem_isRounded : (a.rem b).IsRounded ((a.value.tmod b.value : Int) / Magnitude.one) := by
  rw [rem]
  refine .of Nat.one_pos ?_ fun nonzero => ?_
  · rw [abs_div_one, Int.natAbs_tmod, natAbs_value, natAbs_value, Nat.cast_one, div_one]
  · have other : a.value.tmod b.value ≠ 0 := by
      rintro zero
      rw [zero, Int.cast_zero, zero_div] at nonzero
      exact nonzero rfl
    have size := Int.tmod_nonneg b.value (Int.natCast_nonneg a.magnitude.units)
    rw [div_one_neg_iff]
    rw [value] at other ⊢
    generalize a.negative = negative at other ⊢
    cases negative with
    | true =>
        rw [if_pos rfl, Int.neg_tmod] at other ⊢
        exact iff_of_true rfl (by omega)
    | false => exact iff_of_false Bool.false_ne_true (not_lt.mpr size)

theorem abs_rem_lt : |((a.value.tmod b.value : Int) / Magnitude.one : ℚ)| < 2 ^ 1024 - 2 ^ 970 := by
  have less : a.magnitude.units % b.magnitude.units ≤ a.magnitude.units := Nat.mod_le _ _
  rw [abs_div_one, Int.natAbs_tmod, natAbs_value, natAbs_value]
  refine lt_of_le_of_lt ?_ (lt_trans (lt_add_one _) a.magnitude.add_one_lt)
  exact div_le_div_of_nonneg_right (Nat.cast_le.mpr less) Magnitude.one_pos.le

end Number

namespace Machine

/-- What an arithmetic operator gives before rounding. -/
def NumberOperator.exact? (op : NumberOperator) (a b : Number) : Option ℚ :=
  match op with
  | .add => some (a.toRat + b.toRat)
  | .sub => some (a.toRat - b.toRat)
  | .mul => some (a.toRat * b.toRat)
  | .div => some (a.toRat / b.toRat)
  | .rem => some ((a.value.tmod b.value : Int) / Magnitude.one)
  | _ => none

/-- Where no division by zero fails, an arithmetic operator prints the rounding of what it gives. -/
theorem NumberOperator.apply_of_exact? {op : NumberOperator} {a b : Number} {x : ℚ}
    (arithmetic : op.exact? a b = some x) (defined : op.apply a b ≠ .error .divisionByZero) :
    ∃ q : Quantity, op.apply a b = .ok q.print ∧ q.IsRounded x := by
  cases op with
  | add =>
      cases arithmetic
      exact ⟨_, rfl, Number.add_isRounded⟩
  | sub =>
      cases arithmetic
      exact ⟨_, rfl, Number.sub_isRounded⟩
  | mul =>
      cases arithmetic
      exact ⟨_, rfl, Number.mul_isRounded⟩
  | div =>
      cases arithmetic
      simp only [apply] at defined ⊢
      split
      · next zero => exact absurd (if_pos zero) defined
      · next nonzero =>
          exact ⟨_, rfl, Number.div_isRounded (Bool.eq_false_of_not_eq_true nonzero)⟩
  | rem =>
      cases arithmetic
      simp only [apply] at defined ⊢
      split
      · next zero => exact absurd (if_pos zero) defined
      · exact ⟨_, rfl, Number.rem_isRounded⟩
  | _ => cases arithmetic

theorem applyOperator_of_read? {lhs op rhs : String} {operator : NumberOperator} {a b : Number}
    (spelled : NumberOperator.ofText? op = some operator) (left : Number.read? lhs = some a)
    (right : Number.read? rhs = some b) : applyOperator lhs op rhs = operator.apply a b := by
  have other : TextOperator.ofText? op = none := by
    unfold NumberOperator.ofText? at spelled
    split at spelled
    case h_12 => cases spelled
    all_goals rfl
  simp only [applyOperator, other, spelled, readNumber, left, right]
  rfl

/-- Applying an arithmetic operator to two numbers prints the rounded result. -/
theorem applyOperator_rounds {lhs op rhs r : String} {operator : NumberOperator} {a b : Number}
    {x : ℚ} (spelled : NumberOperator.ofText? op = some operator)
    (left : Number.read? lhs = some a) (right : Number.read? rhs = some b)
    (arithmetic : operator.exact? a b = some x) (applied : applyOperator lhs op rhs = .ok r) :
    ∃ q : Quantity, q.Rounds x ∧ r = q.print := by
  rw [applyOperator_of_read? spelled left right] at applied
  obtain ⟨q, printed, rounded⟩ := NumberOperator.apply_of_exact? arithmetic (applied ▸ nofun)
  rw [applied] at printed
  exact ⟨q, rounded.rounds, Except.ok.inj printed⟩

theorem callBuiltin_expression_iff {fuel : Nat} {lhs op rhs r : String} {s s' : State} :
    callBuiltin fuel .expression [lhs, op, rhs] s = some (.ok r, s') ↔
      applyOperator lhs op rhs = .ok r ∧ s' = s := by
  have called : callBuiltin fuel .expression [lhs, op, rhs] s =
    Eval.ofExcept (applyOperator lhs op rhs) s := rfl
  rw [called]
  cases applyOperator lhs op rhs with
  | error cause => exact iff_of_false nofun fun ended => nomatch ended.1
  | ok value =>
      constructor
      · rintro ⟨⟩
        exact ⟨rfl, rfl⟩
      · rintro ⟨⟨⟩, rfl⟩
        rfl

/-- The operator that a builtin applies to the number of a variable. -/
def adjusting? : Builtin → Option NumberOperator
  | .increment => some .add
  | .decrement => some .sub
  | _ => none

/-- The number by which a variable is changed, one if none is given. -/
def stepNumber : List String → Except Failure Number
  | [] => unitStep
  | step :: _ => readNumber step

theorem adjust_of_ok {current step : Number} (operation : Number → Number → Quantity)
    {name : String} {s : State} (read : currentNumber (s.valueOf? name) = .ok current) :
    adjust operation name (.ok step) s =
      some (.ok (operation current step).print,
        s.setVariable name (operation current step).print) := by
  unfold adjust
  simp only [Eval.bind_apply, Eval.getState, read]
  rfl

theorem adjust_eq_ok {operation : Number → Number → Quantity} {name value : String}
    {given : Except Failure Number} {s s' : State}
    (adjusted : adjust operation name given s = some (.ok value, s')) :
    ∃ current step, currentNumber (s.valueOf? name) = .ok current ∧ given = .ok step ∧
      value = (operation current step).print ∧ s' = s.setVariable name value := by
  cases read : currentNumber (s.valueOf? name) with
  | error cause =>
      simp only [adjust, Eval.bind_apply, Eval.getState, read, Eval.ofExcept] at adjusted
      cases adjusted
  | ok current =>
      cases given with
      | error cause =>
          simp only [adjust, Eval.bind_apply, Eval.getState, read, Eval.ofExcept] at adjusted
          cases adjusted
      | ok step =>
          rw [adjust_of_ok operation read, Option.some_inj, Prod.mk_inj] at adjusted
          obtain ⟨printed, rfl⟩ := adjusted
          exact ⟨current, step, rfl, rfl, (Except.ok.inj printed).symm, Except.ok.inj printed ▸ rfl⟩

/-- With how many arguments ever, a builtin that changes a number and answers has changed it by the
step. -/
theorem adjust_of_callBuiltin {fuel : Nat} {builtin : Builtin} {operator : NumberOperator}
    {name value : String} {rest : List String} {s s' : State}
    (adjusts : adjusting? builtin = some operator)
    (called : callBuiltin fuel builtin (name :: rest) s = some (.ok value, s')) :
    (operator = .add ∧ adjust Number.add name (stepNumber rest) s = some (.ok value, s')) ∨
    (operator = .sub ∧ adjust Number.sub name (stepNumber rest) s = some (.ok value, s')) := by
  cases builtin with
  | increment =>
      cases adjusts
      refine .inl ⟨rfl, ?_⟩
      rcases rest with _ | ⟨step, _ | ⟨_, _⟩⟩
      · exact called
      · exact called
      · cases called
  | decrement =>
      cases adjusts
      refine .inr ⟨rfl, ?_⟩
      rcases rest with _ | ⟨step, _ | ⟨_, _⟩⟩
      · exact called
      · exact called
      · cases called
  | _ => cases adjusts

/-- A builtin that changes the number of a variable assigns it the rounded result. -/
theorem callBuiltin_adjusting {fuel : Nat} {builtin : Builtin} {operator : NumberOperator}
    {name value : String} {rest : List String} {s s' : State}
    (adjusts : adjusting? builtin = some operator)
    (called : callBuiltin fuel builtin (name :: rest) s = some (.ok value, s')) :
    s' = s.setVariable name value ∧ ∃ current step x q,
      currentNumber (s.valueOf? name) = .ok current ∧ stepNumber rest = .ok step ∧
      operator.exact? current step = some x ∧ Quantity.Rounds q x ∧ value = q.print := by
  rcases adjust_of_callBuiltin adjusts called with ⟨rfl, adjusted⟩ | ⟨rfl, adjusted⟩
  · obtain ⟨current, step, read, given, printed, assigned⟩ := adjust_eq_ok adjusted
    exact ⟨assigned, current, step, _, _, read, given, rfl, Number.add_isRounded.rounds, printed⟩
  · obtain ⟨current, step, read, given, printed, assigned⟩ := adjust_eq_ok adjusted
    exact ⟨assigned, current, step, _, _, read, given, rfl, Number.sub_isRounded.rounds, printed⟩

theorem readNumber_of_isSome {text : String} (read : (Number.read? text).isSome = true) :
    ∃ n, readNumber text = .ok n := by
  obtain ⟨n, read⟩ := Option.isSome_iff_exists.mp read
  unfold readNumber
  rw [read]
  exact ⟨n, rfl⟩

theorem currentNumber_of_isSome {text : String} (read : (Number.read? text).isSome = true) :
    ∃ n, currentNumber (some text) = .ok n := by
  unfold currentNumber
  split
  · exact ⟨_, rfl⟩
  · exact ⟨_, rfl⟩
  · next given =>
      cases given
      exact readNumber_of_isSome read

/-- The next command finds a number where the result was rounded to one; an infinity it refuses. -/
theorem increment_of_rounds {q : Quantity} {x : ℚ} (rounds : q.Rounds x) {name : String}
    {t : State} (holds : t.valueOf? name = some q.print) (fuel : Nat) :
    (|x| < 2 ^ 1024 - 2 ^ 970 → ∃ value,
      callBuiltin fuel .increment [name] t = some (.ok value, t.setVariable name value)) ∧
    (2 ^ 1024 - 2 ^ 970 ≤ |x| →
      callBuiltin fuel .increment [name] t =
        some (.error (.failed (.notANumber q.print)), t)) := by
  have called : callBuiltin fuel .increment [name] t = adjust Number.add name unitStep t := rfl
  obtain ⟨one, given⟩ := @readNumber_of_isSome "1" (by decide +kernel)
  rw [called, unitStep, given]
  refine ⟨fun below => ?_, fun beyond => ?_⟩
  · obtain ⟨current, read⟩ := currentNumber_of_isSome (rounds.isSome_read?_print_iff.mpr below)
    rw [← holds] at read
    exact ⟨_, adjust_of_ok Number.add read⟩
  · have unread : Number.read? q.print = none :=
      Option.not_isSome_iff_eq_none.mp (mt rounds.isSome_read?_print_iff.mp (not_lt.mpr beyond))
    have full : q.print ≠ "" := by
      cases rounds with
      | finite below => exact absurd below (not_lt.mpr beyond)
      | @infinite negative => cases negative <;> decide
    have refused : currentNumber (t.valueOf? name) = .error (.notANumber q.print) := by
      rw [holds]
      unfold currentNumber readNumber
      split
      · next given => cases given
      · next given => exact absurd (Option.some.inj given) full
      · next given =>
          cases given
          rw [unread]
    simp only [adjust, Eval.bind_apply, Eval.getState, refused, Eval.ofExcept]
    rfl

/-- The result of an arithmetic operator on two numbers is a number again exactly if the exact
result is below the halfway point between the largest number and the next power of two. The same
holds of what is assigned to a variable by a step up or down, so that exactly then a later step
succeeds. A remainder is always a number. -/
theorem arithmetic_results_are_numbers_iff (fuel : Nat) (s : State) :
    (∀ lhs op rhs operator a b x r s', NumberOperator.ofText? op = some operator →
      Number.read? lhs = some a → Number.read? rhs = some b → operator.exact? a b = some x →
      callBuiltin fuel .expression [lhs, op, rhs] s = some (.ok r, s') →
      ((Number.read? r).isSome = true ↔ |x| < 2 ^ 1024 - 2 ^ 970) ∧
      (operator = .rem → (Number.read? r).isSome = true)) ∧
    (∀ builtin operator name rest value s', adjusting? builtin = some operator →
      callBuiltin fuel builtin (name :: rest) s = some (.ok value, s') →
      s'.valueOf? name = some value ∧ ∃ current step x,
        currentNumber (s.valueOf? name) = .ok current ∧ stepNumber rest = .ok step ∧
        operator.exact? current step = some x ∧
        ((Number.read? value).isSome = true ↔ |x| < 2 ^ 1024 - 2 ^ 970) ∧
        ∀ (t : State) (later : Nat), t.valueOf? name = some value →
          (|x| < 2 ^ 1024 - 2 ^ 970 → ∃ next,
            callBuiltin later .increment [name] t = some (.ok next, t.setVariable name next)) ∧
          (2 ^ 1024 - 2 ^ 970 ≤ |x| →
            callBuiltin later .increment [name] t =
              some (.error (.failed (.notANumber value)), t))) := by
  refine ⟨?_, ?_⟩
  · intro lhs op rhs operator a b x r s' spelled left right arithmetic called
    have applied := (callBuiltin_expression_iff.mp called).1
    obtain ⟨q, rounds, rfl⟩ := applyOperator_rounds spelled left right arithmetic applied
    refine ⟨rounds.isSome_read?_print_iff, fun remainder => rounds.isSome_read?_print_iff.mpr ?_⟩
    subst remainder
    cases arithmetic
    exact Number.abs_rem_lt
  · intro builtin operator name rest value s' adjusts called
    obtain ⟨rfl, current, step, x, q, read, given, exact, rounds, rfl⟩ :=
      callBuiltin_adjusting adjusts called
    refine ⟨Scopes.get?_set_self _ _ _, current, step, x, read, given, exact,
      rounds.isSome_read?_print_iff, fun t later holds => ?_⟩
    exact increment_of_rounds rounds holds later

/-- A machine with a number between blanks in a variable. -/
def countingMachine : State :=
  ({ program := [], builtins := Builtin.standard } : State).setVariable "n" " 2.5 "

theorem small_results_are_numbers :
    (∃ a b x, Number.read? "1e-5" = some a ∧ Number.read? "-7" = some b ∧
      NumberOperator.exact? .mul a b = some x ∧
      callBuiltin 0 .expression ["1e-5", "*", "-7"] countingMachine =
        some (.ok "-0.000070", countingMachine) ∧
      ((Number.read? "-0.000070").isSome = true ↔ |x| < 2 ^ 1024 - 2 ^ 970)) ∧
    (∃ s' current step x,
      callBuiltin 0 .decrement ["n", "3e2"] countingMachine = some (.ok "-297.500000", s') ∧
      s'.valueOf? "n" = some "-297.500000" ∧
      currentNumber (countingMachine.valueOf? "n") = .ok current ∧
      stepNumber ["3e2"] = .ok step ∧ NumberOperator.exact? .sub current step = some x ∧
      ((Number.read? "-297.500000").isSome = true ↔ |x| < 2 ^ 1024 - 2 ^ 970)) := by
  obtain ⟨a, left⟩ := Option.isSome_iff_exists.mp
    (by decide +kernel : (Number.read? "1e-5").isSome = true)
  obtain ⟨b, right⟩ := Option.isSome_iff_exists.mp
    (by decide +kernel : (Number.read? "-7").isSome = true)
  have called : callBuiltin 0 .expression ["1e-5", "*", "-7"] countingMachine =
      some (.ok "-0.000070", countingMachine) :=
    callBuiltin_expression_iff.mpr ⟨by decide +kernel, rfl⟩
  have ends : ((callBuiltin 0 .decrement ["n", "3e2"] countingMachine).map fun ended =>
      ended.1.toOption) = some (some "-297.500000") := by decide +kernel
  obtain ⟨s', called'⟩ := exists_ok_of_toOption ends
  obtain ⟨product, difference⟩ := arithmetic_results_are_numbers_iff 0 countingMachine
  obtain ⟨holds, current, step, x, read, given, exact, number, _⟩ :=
    difference _ _ _ _ _ _ rfl called'
  refine ⟨⟨a, b, _, left, right, rfl, called,
      (product _ _ _ _ _ _ _ _ _ rfl left right rfl called).1⟩,
    s', current, step, x, called', holds, read, given, exact, number⟩

/-- Ten times a number near the end of the range is printed as an infinity. -/
theorem overflow_is_no_number :
    (∀ s, callBuiltin 0 .expression ["1e308", "*", "10"] s = some (.ok "inf", s)) ∧
    Number.read? "inf" = none ∧
    ¬ ∀ fuel s lhs op rhs r s', (Number.read? lhs).isSome = true →
      (Number.read? rhs).isSome = true → op ∈ ["+", "-", "*", "/", "%"] →
      callBuiltin fuel .expression [lhs, op, rhs] s = some (.ok r, s') →
      (Number.read? r).isSome = true := by
  have called : ∀ s, callBuiltin 0 .expression ["1e308", "*", "10"] s = some (.ok "inf", s) :=
    fun s => callBuiltin_expression_iff.mpr ⟨by decide +kernel, rfl⟩
  have unread : Number.read? "inf" = none := by decide +kernel
  refine ⟨called, unread, fun again => ?_⟩
  have read := again 0 countingMachine "1e308" "*" "10" "inf" countingMachine (by decide +kernel)
    (by decide +kernel) (by decide) (called countingMachine)
  rw [unread] at read
  cases read

end Machine

end CommandScript
