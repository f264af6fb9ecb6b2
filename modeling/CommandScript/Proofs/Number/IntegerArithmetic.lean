import CommandScript.Proofs.Number.WholeNumbers
import CommandScript.Proofs.Runner.Loading

/-! Arithmetic on integers of up to 53 bits. They are numbers, so that an exact result among them is
not rounded, and its canonical spelling is what an expression gives. Reading the operands and
printing the result add nothing to that. -/

namespace CommandScript

open Lexeme

namespace Number

variable {k : Int}

def ofInteger (k : Int) (small : |k| ≤ 2 ^ 53) : Number where
  negative := decide (k < 0)
  magnitude := ⟨k.natAbs * 2 ^ Magnitude.unitPlaces, by
    have digits : k.natAbs ≤ 2 ^ 53 := by
      rw [Int.abs_eq_natAbs] at small
      exact_mod_cast small
    refine Magnitude.fits_of_le digits ?_
    rw [Magnitude.bound_eq]
    refine Nat.lt_of_le_of_lt (Nat.mul_le_mul_right _ digits) ?_
    rw [← Nat.pow_add]
    exact Nat.pow_lt_pow_right Nat.one_lt_two (by decide)⟩

theorem toRat_ofInteger (small : |k| ≤ 2 ^ 53) : (ofInteger k small).toRat = k := by
  refine whole_of_value ?_
  rw [value, ofInteger, Magnitude.one_eq]
  simp only [decide_eq_true_eq]
  push_cast
  split
  · next negative => rw [abs_of_neg negative]; ring
  · next nonneg => rw [abs_of_nonneg (not_lt.mp nonneg)]

theorem lt_integerBound (small : |k| ≤ 2 ^ 53) : |k| < integerBound :=
  lt_of_le_of_lt small (by decide)

theorem exists_read?_toString (small : |k| ≤ 2 ^ 53) :
    ∃ n, read? (toString k) = some n ∧ n.toRat = k := by
  have whole := toRat_ofInteger small
  rw [← print_of_small whole (lt_integerBound small), read?_print_of_whole whole]
  refine ⟨_, rfl, ?_⟩
  split
  · next none =>
      rw [none]
      exact whole_of_value (zero_mul (Magnitude.one : Int)).symm
  · exact whole

theorem compare_of_whole {m n : Number} {j : Int} (left : m.toRat = j) (right : n.toRat = k) :
    m.compare n = Ord.compare j k := by
  have positive : (0 : Int) < Magnitude.one := Nat.cast_pos.mpr Magnitude.one_natPos
  rw [compare, value_of_whole left, value_of_whole right, ← cmp_eq_compare, ← cmp_eq_compare,
    cmp_mul_pos_right positive]

end Number

namespace Machine

/-- What an operator is to give between two integers, as far as that is an integer of up to 53 bits
or a truth value. A remainder has the sign of the first integer. -/
inductive IntegerResult (a b : Int) : String → String → Prop
  | sum (small : |a + b| ≤ 2 ^ 53) : IntegerResult a b "+" (toString (a + b))
  | difference (small : |a - b| ≤ 2 ^ 53) : IntegerResult a b "-" (toString (a - b))
  | product (small : |a * b| ≤ 2 ^ 53) : IntegerResult a b "*" (toString (a * b))
  | quotient (nonzero : b ≠ 0) (divides : b ∣ a) : IntegerResult a b "/" (toString (a / b))
  | remainder (nonzero : b ≠ 0) : IntegerResult a b "%" (toString (a.tmod b))
  | less : IntegerResult a b "<" (if a < b then "1" else "0")
  | atMost : IntegerResult a b "<=" (if a ≤ b then "1" else "0")
  | greater : IntegerResult a b ">" (if b < a then "1" else "0")
  | atLeast : IntegerResult a b ">=" (if b ≤ a then "1" else "0")
  | equal : IntegerResult a b "==" (if a = b then "1" else "0")
  | unequal : IntegerResult a b "!=" (if a ≠ b then "1" else "0")

section Operators

variable {x y : Number} {a b k : Int}

theorem NumberOperator.apply_ne_error {op : NumberOperator} {failure : Failure}
    (defined : y.isZero = false ∨ op ≠ .div ∧ op ≠ .rem) : op.apply x y ≠ .error failure := by
  intro failed
  cases op with
  | div | rem =>
      rcases defined with nonzero | ⟨_, _⟩
      · simp only [apply, nonzero] at failed
        cases failed
      · contradiction
  | _ => cases failed

/-- A result that is an integer of up to 53 bits is printed in its canonical spelling. -/
theorem NumberOperator.apply_of_integer {op : NumberOperator}
    (exact : op.exact? x y = some (k : ℚ)) (small : |k| ≤ 2 ^ 53)
    (defined : y.isZero = false ∨ op ≠ .div ∧ op ≠ .rem) : op.apply x y = .ok (toString k) := by
  obtain ⟨q, applied, rounded⟩ := apply_of_exact? exact (apply_ne_error defined)
  rw [← Number.toRat_ofInteger small] at rounded
  obtain ⟨n, rfl, same⟩ := rounded.exact
  have whole := same.trans (Number.toRat_ofInteger small)
  rw [applied, Quantity.print, Number.print_of_small whole (Number.lt_integerBound small)]

theorem rem_exact_of_whole (left : x.toRat = a) (right : y.toRat = b) :
    NumberOperator.rem.exact? x y = some ((a.tmod b : Int) : ℚ) := by
  have positive : (0 : Int) < Magnitude.one := Nat.cast_pos.mpr Magnitude.one_natPos
  rw [ NumberOperator.exact?, Number.value_of_whole left, Number.value_of_whole right, mul_comm a,
    mul_comm b, Int.mul_tmod_mul_of_pos _ _ positive, Int.cast_mul, Int.cast_natCast,
    mul_div_cancel_left₀ _ Magnitude.one_pos.ne']

theorem abs_tmod_le (a b : Int) : |a.tmod b| ≤ |a| := by
  rw [Int.abs_eq_natAbs, Int.abs_eq_natAbs, Int.natAbs_tmod]
  exact_mod_cast Nat.mod_le _ _

theorem truthText_of_iff {verdict : Bool} {p : Prop} [Decidable p] (decides : verdict = true ↔ p) :
    truthText verdict = if p then "1" else "0" :=
  if_congr decides rfl rfl

/-- On integers of up to 53 bits the operators do what they do on all integers. -/
theorem IntegerResult.exists_operator {op result : String} (left : x.toRat = a)
    (right : y.toRat = b) (small : |a| ≤ 2 ^ 53) (h : IntegerResult a b op result) :
    ∃ operator, NumberOperator.ofText? op = some operator ∧ operator.apply x y = .ok result := by
  have order : x.compare y = Ord.compare a b := Number.compare_of_whole left right
  have divisor : b ≠ 0 → y.isZero = false := by
    intro nonzero
    rw [Number.isZero, Number.units_of_whole right, beq_eq_false_iff_ne]
    exact Nat.mul_ne_zero (Int.natAbs_ne_zero.mpr nonzero) Magnitude.one_natPos.ne'
  cases h with
  | sum small =>
      refine ⟨.add, rfl, NumberOperator.apply_of_integer ?_ small (.inr (by decide))⟩
      rw [ NumberOperator.exact?, left, right, Int.cast_add]
  | difference small =>
      refine ⟨.sub, rfl, NumberOperator.apply_of_integer ?_ small (.inr (by decide))⟩
      rw [ NumberOperator.exact?, left, right, Int.cast_sub]
  | product small =>
      refine ⟨.mul, rfl, NumberOperator.apply_of_integer ?_ small (.inr (by decide))⟩
      rw [ NumberOperator.exact?, left, right, Int.cast_mul]
  | quotient nonzero divides =>
      -- Like a remainder it needs no bound of its own: it is not larger than the dividend.
      have less := le_trans (Int.abs_ediv_le_abs a b) small
      refine ⟨.div, rfl, NumberOperator.apply_of_integer ?_ less (.inl (divisor nonzero))⟩
      rw [ NumberOperator.exact?, left, right, Int.cast_div divides (Int.cast_ne_zero.mpr nonzero)]
  | remainder nonzero =>
      have less := le_trans (abs_tmod_le a b) small
      have exact := rem_exact_of_whole left right
      exact ⟨.rem, rfl, NumberOperator.apply_of_integer exact less (.inl (divisor nonzero))⟩
  | less =>
      refine ⟨.less, rfl, ?_⟩
      rw [NumberOperator.apply, order,
        truthText_of_iff (Ordering.isLT_iff_eq_lt.trans compare_lt_iff_lt)]
  | atMost =>
      refine ⟨.atMost, rfl, ?_⟩
      rw [NumberOperator.apply, order, truthText_of_iff Int.isLE_compare]
  | greater =>
      refine ⟨.greater, rfl, ?_⟩
      rw [NumberOperator.apply, order,
        truthText_of_iff (Ordering.isGT_iff_eq_gt.trans compare_gt_iff_gt)]
  | atLeast =>
      refine ⟨.atLeast, rfl, ?_⟩
      rw [NumberOperator.apply, order, truthText_of_iff Int.isGE_compare]
  | equal =>
      refine ⟨.equal, rfl, ?_⟩
      rw [NumberOperator.apply, order,
        truthText_of_iff (Ordering.isEq_iff_eq_eq.trans compare_eq_iff_eq)]
  | unequal =>
      refine ⟨.unequal, rfl, ?_⟩
      rw [NumberOperator.apply, order,
        truthText_of_iff (Ordering.isNe_iff_ne_eq.trans compare_eq_iff_eq.not)]

end Operators

end Machine

/-! The text of an expression. -/

namespace Lexeme

theorem writes_toString (n : Int) : Writes (toString n).toList n := by
  obtain ⟨isRun, value⟩ := isRun_toString n
  obtain ⟨m, written⟩ := isRun.exists_writes
  rwa [← signedValue_of_writes written, value] at written

theorem IsRun.isWordChar {run : List Char} (h : IsRun run) : ∀ c ∈ run, isWordChar c = true :=
  fun c member => (isWordChar_of_isNumberChar (h.chars c member)).1

theorem count_newline {text : List Char} (chars : ∀ c ∈ text, isWordChar c = true) :
    text.count '\n' = 0 :=
  List.count_eq_zero.mpr fun member => absurd (chars '\n' member) (by decide)

theorem isToken_of_writes {run : List Char} {n : Int} (written : Writes run n)
    (small : |n| ≤ 2 ^ 53) : IsToken run .number (toString n) := by
  have fits : inRange n = true := by
    have range := abs_le.mp small
    exact inRange_iff.mpr ⟨by omega, by omega⟩
  have value := signedValue_of_writes written
  have read := written.isRun.read_alone (value.symm ▸ fits)
  rw [value] at read
  exact ⟨read, nofun, nofun⟩

end Lexeme

def expressionCommand (a : Int) (op : String) (b : Int) : Command :=
  ⟨⟨.word, "expr", 1⟩, [⟨.number, toString a, 1⟩, ⟨.word, op, 1⟩, ⟨.number, toString b, 1⟩]⟩

section Expression

variable {x op y : String} {a b : Int}

/-- An expression is read as four tokens, the operands in their canonical spelling. -/
theorem Program.parse_expression (left : Writes x.toList a) (right : Writes y.toList b)
    (smallLeft : |a| ≤ 2 ^ 53) (smallRight : |b| ≤ 2 ^ 53) (word : IsWord op.toList) :
    parse ("expr " ++ x ++ " " ++ op ++ " " ++ y) = .ok [expressionCommand a op b] := by
  have chars : ("expr " ++ x ++ " " ++ op ++ " " ++ y).toList =
      "expr".toList ++ ' ' :: (x.toList ++ ' ' :: (op.toList ++ ' ' :: y.toList)) := by
    simp
  have expr : IsWord "expr".toList := by decide
  have stream : (Cursor.start ("expr " ++ x ++ " " ++ op ++ " " ++ y)).stream =
      [⟨.word, "expr", 1⟩, ⟨.number, toString a, 1⟩, ⟨.word, op, 1⟩, ⟨.number, toString b, 1⟩] := by
    rw [Cursor.start, chars, Cursor.stream_append_of_isToken (isToken_word expr),
      Cursor.stream_append_of_isToken (isToken_of_writes left smallLeft),
      Cursor.stream_append_of_isToken (isToken_word word), count_newline expr.chars,
      count_newline left.isRun.isWordChar, count_newline word.chars,
      Cursor.stream_of_isToken (isToken_of_writes right smallRight)]
  rw [parse_eq_ok_iff, stream, ofTokens_of_running]
  · exact ⟨rfl, rfl⟩
  · simp only [List.forall_mem_cons]
    exact ⟨Bool.false_ne_true, Bool.false_ne_true, Bool.false_ne_true, Bool.false_ne_true,
      List.forall_mem_nil _⟩

theorem Token.isPlain_of_isWordChar {kind : Token.Kind} {literal : String} {line : Nat}
    (chars : ∀ c ∈ literal.toList, isWordChar c = true) :
    isPlain ⟨kind, literal, line⟩ = true := by
  have unreferred : '$' ∉ literal.toList := fun member => absurd (chars '$' member) (by decide)
  have unopened : '[' ∉ literal.toList := fun member => absurd (chars '[' member) (by decide)
  simp [isPlain, unreferred, unopened]

end Expression

namespace Script

open Machine

/-- A script of one plain command gives what a builtin makes of the arguments. -/
theorem evaluate_of_builtin {script : Script} {s t : State} {command : Command} {builtin : Builtin}
    {value : String} {fuel : Nat} (read : script.program s = .ok [command])
    (plain : command.isPlain = true) (running : s.checkInterrupt = .ok ())
    (shallow : s.depth < s.maxDepth)
    (found : s.builtins.get? command.head.literal = some builtin)
    (called : callBuiltin fuel builtin (command.arguments.map Token.literal)
      { s with commandsSealed := true, depth := s.depth + 1 } = some (.ok value, t)) :
    script.evaluate (fuel + 1) s = some (.ok (.normal value), { t with depth := t.depth - 1 }) := by
  let deeper := { s with commandsSealed := true, depth := s.depth + 1 }
  have executed : execute fuel (run fuel) command deeper = some (.ok value, t) := by
    have dispatched := dispatch_apply fuel (run fuel) command.head command.head.literal
      (command.arguments.map Token.literal) deeper
    have found' : deeper.builtins.get? command.head.literal = some builtin := found
    have invoked : invoke fuel (run fuel) builtin (command.arguments.map Token.literal) deeper =
      some (.ok value, t) := called
    rw [execute_of_isPlain plain, dispatched, found']
    simp only [Eval.mapSignal, invoked]
    rfl
  have alone : sequence (execute fuel (run fuel)) none [command] deeper = some (.ok value, t) :=
    (sequence_singleton (s := deeper) command running).trans executed
  rw [evaluate_of_program read]
  simp only [Evaluator.script, run, nested]
  rw [if_neg (Nat.not_le.mpr shallow), alone]
  rfl

end Script

namespace Machine

theorem NumberOperator.isWord_of_ofText? {op : String} {operator : NumberOperator}
    (spelled : ofText? op = some operator) : IsWord op.toList := by
  unfold ofText? at spelled
  split at spelled
  case h_12 => cases spelled
  all_goals decide

/-- Between integers of up to 53 bits an expression gives the exact result in its canonical
spelling, or the truth value of a comparison, and changes nothing. The operands may have leading
zeros. -/
theorem integer_arithmetic_is_exact {script : Script} {s : State} {x op y result : String}
    {a b : Int} (command : s.builtins.get? "expr" = some .expression)
    (running : s.checkInterrupt = .ok ()) (shallow : s.depth < s.maxDepth)
    (told : script.program s = Program.parse ("expr " ++ x ++ " " ++ op ++ " " ++ y))
    (left : Writes x.toList a) (right : Writes y.toList b) (smallLeft : |a| ≤ 2 ^ 53)
    (smallRight : |b| ≤ 2 ^ 53) (correct : IntegerResult a b op result) (fuel : Nat) :
    script.evaluate (fuel + 1) s =
      some (.ok (.normal result), { s with commandsSealed := true }) := by
  obtain ⟨m, readLeft, wholeLeft⟩ := Number.exists_read?_toString smallLeft
  obtain ⟨n, readRight, wholeRight⟩ := Number.exists_read?_toString smallRight
  obtain ⟨operator, spelled, applied⟩ := correct.exists_operator wholeLeft wholeRight smallLeft
  have word := NumberOperator.isWord_of_ofText? spelled
  have read := Program.parse_expression left right smallLeft smallRight word
  rw [← applyOperator_of_read? spelled readLeft readRight] at applied
  have plain : (expressionCommand a op b).isPlain = true := by
    have integer : ∀ k : Int, Token.isPlain ⟨.number, toString k, 1⟩ = true := fun k =>
      Token.isPlain_of_isWordChar (isRun_toString k).1.isWordChar
    simp only [Command.isPlain, expressionCommand, List.all_cons, List.all_nil, integer,
      Token.isPlain_of_isWordChar word.chars]
    rfl
  exact Script.evaluate_of_builtin (told.trans read) plain running shallow command
    (callBuiltin_expression_iff.mpr ⟨applied, rfl⟩)

/-- Operands at the ends of the range, on a fresh machine and on one that has one level left. -/
theorem far_operands_are_exact :
    Script.own.evaluate 1 (machineOf "expr -9007199254740991 - 01") =
      some (.ok (.normal "-9007199254740992"),
        { machineOf "expr -9007199254740991 - 01" with commandsSealed := true }) ∧
    (Script.source "expr -9007199254740992 % 10").evaluate 1 nearLimit =
      some (.ok (.normal "-2"), { nearLimit with commandsSealed := true }) ∧
    (Script.source "expr 9007199254740992 / -4194304").evaluate 1 nearLimit =
      some (.ok (.normal "-2147483648"), { nearLimit with commandsSealed := true }) ∧
    (Script.source "expr 9007199254740991 >= 9007199254740992").evaluate 1 nearLimit =
      some (.ok (.normal "0"), { nearLimit with commandsSealed := true }) := by
  have one : Writes "01".toList 1 := .plain ⟨nofun, List.all_eq_true.mp rfl⟩
  have told : Script.own.program (machineOf "expr -9007199254740991 - 01") =
      Program.parse ("expr " ++ toString (-9007199254740991 : Int) ++ " " ++ "-" ++ " " ++
        "01") := by decide +kernel
  have near : ∀ {text op result : String} {a b : Int},
      text = "expr " ++ toString a ++ " " ++ op ++ " " ++ toString b → |a| ≤ 2 ^ 53 →
      |b| ≤ 2 ^ 53 → IntegerResult a b op result → (Script.source text).evaluate 1 nearLimit =
        some (.ok (.normal result), { nearLimit with commandsSealed := true }) := by
    intro text op result a b spelled smallLeft smallRight correct
    have told : (Script.source text).program nearLimit =
        Program.parse ("expr " ++ toString a ++ " " ++ op ++ " " ++ toString b) :=
      congrArg Program.parse spelled
    exact integer_arithmetic_is_exact rfl rfl (by decide) told (writes_toString a)
      (writes_toString b) smallLeft smallRight correct 0
  refine ⟨?_, ?_, ?_, ?_⟩
  · exact integer_arithmetic_is_exact (s := machineOf _) rfl rfl (by decide) told
      (writes_toString _) one (by decide) (by decide) (.difference (by decide)) 0
  · exact @near _ _ _ (-9007199254740992) 10 (by decide +kernel) (by decide) (by decide)
      (.remainder (by decide))
  · exact @near _ _ _ 9007199254740992 (-4194304) (by decide +kernel) (by decide) (by decide)
      (.quotient (by decide) ⟨-2147483648, by decide⟩)
  · exact @near _ _ _ 9007199254740991 9007199254740992 (by decide +kernel) (by decide) (by decide)
      .atLeast

end Machine

end CommandScript
