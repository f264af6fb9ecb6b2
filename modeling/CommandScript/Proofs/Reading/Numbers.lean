import CommandScript.Proofs.Reading.Calls
import Mathlib.Data.Nat.Digits.Defs

/-! Numbers at the start of a text. What a number is read as depends on its digits alone: an integer
that fits in 64 bits becomes its canonical decimal spelling, whatever base it is written in, and a
fraction stays as it is written. The literal of a number is read as that number again. -/

namespace CommandScript

namespace Lexeme

/-- The value of digits in a base, the last of them counting ones. -/
def positional (base : Nat) (digits : List Char) : Nat :=
  Nat.ofDigits base (digits.reverse.map digitValue)

/-- A base other than ten: the mark behind the zero in front and the digits that may follow it. -/
structure Base where
  mark : Char
  radix : Nat
  isDigit : Char → Bool

def Base.hexadecimal : Base := ⟨'x', 16, isHexDigit⟩

def Base.binary : Base := ⟨'b', 2, isBinaryDigit⟩

def Base.all : List Base := [.hexadecimal, .binary]

/-- A run of characters of a kind that is as long as it can be before the text behind it. -/
structure LongestRun (kind : Char → Bool) (run behind : List Char) : Prop where
  chars : ∀ c ∈ run, kind c = true
  stops : ∀ c ∈ behind.head?, kind c = false

/-- The digits and minus signs that a number without a mark of its base starts with. -/
structure DecimalRun (run behind : List Char) : Prop where
  longest : LongestRun isNumberChar run behind
  starts : startsNumber (run ++ behind) = true
  unmarked : ∀ base ∈ Base.all, ¬ ['0', base.mark] <+: run ++ behind

/-- Digits that are written for an integer, with a minus sign in front of a negative one. -/
inductive Writes : List Char → Int → Prop
  | plain {digits} (h : IsDigits digits) : Writes digits (positional 10 digits)
  | negative {digits} (h : IsDigits digits) : Writes ('-' :: digits) (-positional 10 digits)

/-- The number that a text starts with, as its literal or as what is wrong with it, and the text
behind it. -/
inductive NumberRead : List Char → Except Fault String → List Char → Prop
  | based {base digits behind} (marked : base ∈ Base.all)
      (longest : LongestRun base.isDigit digits behind) (some : digits ≠ [])
      (fits : positional base.radix digits ≤ 2 ^ 63 - 1) :
      NumberRead ('0' :: base.mark :: (digits ++ behind))
        (.ok (toString (positional base.radix digits))) behind
  | basedBeyond {base digits behind} (marked : base ∈ Base.all)
      (longest : LongestRun base.isDigit digits behind) (some : digits ≠ [])
      (beyond : 2 ^ 63 - 1 < positional base.radix digits) :
      NumberRead ('0' :: base.mark :: (digits ++ behind))
        (.error (.outOfRange (String.ofList ('0' :: base.mark :: digits)))) behind
  | digitless {base behind} (marked : base ∈ Base.all)
      (longest : LongestRun base.isDigit [] behind) :
      NumberRead ('0' :: base.mark :: behind)
        (.error (.malformedNumber (String.ofList ['0', base.mark]))) behind
  | misplaced {run behind} (decimal : DecimalRun run behind) (signed : '-' ∈ run.tail) :
      NumberRead (run ++ behind) (.error .misplacedSign) behind
  | fraction {run digits behind} (decimal : DecimalRun run ('.' :: (digits ++ behind)))
      (unsigned : '-' ∉ run.tail) (longest : LongestRun Char.isDigit digits behind)
      (some : digits ≠ []) :
      NumberRead (run ++ '.' :: (digits ++ behind)) (.ok (String.ofList (run ++ '.' :: digits)))
        behind
  | integer {run behind n} (decimal : DecimalRun run behind)
      (whole : startsFraction behind = false) (written : Writes run n)
      (fits : -2 ^ 63 ≤ n ∧ n ≤ 2 ^ 63 - 1) :
      NumberRead (run ++ behind) (.ok (toString n)) behind
  | beyond {run behind n} (decimal : DecimalRun run behind)
      (whole : startsFraction behind = false) (written : Writes run n)
      (unfit : ¬ (-2 ^ 63 ≤ n ∧ n ≤ 2 ^ 63 - 1)) :
      NumberRead (run ++ behind) (.error (.outOfRange (String.ofList run))) behind

/-- A number, or what is wrong with it, as a lexeme. -/
def ofNumber (span rest : List Char) : Except Fault String → Lexeme
  | .ok literal => ⟨.number, literal, span, rest⟩
  | .error fault => illegal fault span rest

/-! Runs and their values. -/

theorem LongestRun.of_all {kind : Char → Bool} {run behind : List Char}
    (chars : run.all kind = true) (stops : (behind.head?.all fun c => !kind c) = true) :
    LongestRun kind run behind := by
  refine ⟨List.all_eq_true.mp chars, fun c first => ?_⟩
  rw [Option.mem_def.mp first, Option.all_some, Bool.not_eq_true'] at stops
  exact stops

theorem DecimalRun.of_all {run behind : List Char} (chars : run.all isNumberChar = true)
    (stops : (behind.head?.all fun c => !isNumberChar c) = true)
    (starts : startsNumber (run ++ behind) = true)
    (unmarked : (Base.all.any fun base => List.isPrefixOf ['0', base.mark] (run ++ behind)) = false) :
    DecimalRun run behind := by
  refine ⟨.of_all chars stops, starts, fun base member marked => ?_⟩
  exact List.any_eq_false.mp unmarked base member (List.isPrefixOf_iff_prefix.mpr marked)

theorem digitsValue_eq_positional (base : Nat) (digits : List Char) :
    digitsValue base digits = positional base digits := by
  rw [positional, Nat.ofDigits_eq_foldr, List.foldr_map, List.foldr_reverse, digitsValue]
  refine List.foldl_ext _ _ _ fun value c _ => ?_
  rw [Nat.add_comm]
  rfl

namespace LongestRun

variable {kind : Char → Bool} {run behind : List Char}

theorem takeWhile_append (h : LongestRun kind run behind) :
    (run ++ behind).takeWhile kind = run := by
  rw [List.takeWhile_append_of_pos h.chars]
  cases behind with
  | nil => exact List.append_nil run
  | cons c rest =>
      rw [List.takeWhile_cons_of_neg (Bool.eq_false_iff.mp (h.stops c rfl)), List.append_nil]

theorem dropWhile_append (h : LongestRun kind run behind) :
    (run ++ behind).dropWhile kind = behind := by
  rw [List.dropWhile_append_of_pos h.chars]
  cases behind with
  | nil => rfl
  | cons c rest => exact List.dropWhile_cons_of_neg (Bool.eq_false_iff.mp (h.stops c rfl))

theorem not_mem {c : Char} (h : LongestRun kind run behind) (other : kind c = false) : c ∉ run := by
  intro member
  rw [h.chars c member] at other
  cases other

theorem of_text (kind : Char → Bool) (text : List Char) :
    LongestRun kind (text.takeWhile kind) (text.dropWhile kind) := by
  refine ⟨fun _ => List.mem_takeWhile_imp, fun c first => ?_⟩
  have stops := List.head?_dropWhile_not kind text
  rw [Option.mem_def.mp first] at stops
  exact stops

end LongestRun

theorem signedValue_of_writes {run : List Char} {n : Int} (written : Writes run n) :
    signedValue run = n := by
  cases written with
  | plain h => rw [signedValue_of_isDigits h, digitsValue_eq_positional]
  | @negative digits h =>
      have value : signedValue ('-' :: digits) = -(digitsValue 10 digits : Int) := rfl
      rw [value, digitsValue_eq_positional]

theorem Writes.isRun {run : List Char} {n : Int} (written : Writes run n) : IsRun run := by
  cases written with
  | plain h => exact .plain h
  | negative h => exact .negative h

theorem IsRun.exists_writes {run : List Char} (h : IsRun run) : ∃ n, Writes run n := by
  cases h with
  | plain digits => exact ⟨_, .plain digits⟩
  | negative digits => exact ⟨_, .negative digits⟩

theorem inRange_iff {n : Int} : inRange n = true ↔ -2 ^ 63 ≤ n ∧ n ≤ 2 ^ 63 - 1 := by
  rw [inRange, decide_eq_true_iff]
  norm_num

/-! What a number is read as. -/

theorem read_of_startsNumber {text : List Char} (starts : startsNumber text = true) :
    read text = readNumber text := by
  cases text with
  | nil => cases starts
  | cons c rest =>
      obtain ⟨char, quote⟩ := isWordChar_of_isNumberChar (isNumberChar_of_startsNumber starts)
      rw [read_of_isWordChar char quote, if_pos starts]

theorem read_based {base : Base} (marked : base ∈ Base.all) {digits behind : List Char}
    (longest : LongestRun base.isDigit digits behind) :
    read ('0' :: base.mark :: (digits ++ behind)) =
      if digits = [] then
        illegal (.malformedNumber (String.ofList ['0', base.mark])) ['0', base.mark] behind
      else integer (positional base.radix digits) ('0' :: base.mark :: digits) behind := by
  have number : readNumber ('0' :: base.mark :: (digits ++ behind)) =
      readBased base.radix base.isDigit ['0', base.mark] (digits ++ behind) := by
    simp only [Base.all, List.mem_cons, List.not_mem_nil, or_false] at marked
    rcases marked with rfl | rfl <;> rfl
  rw [read_of_startsNumber rfl, number, readBased, longest.takeWhile_append,
    longest.dropWhile_append]
  split
  · next empty => rw [empty, List.append_nil]
  · rw [digitsValue_eq_positional]
    rfl

theorem DecimalRun.read_append {run behind : List Char} (h : DecimalRun run behind) :
    read (run ++ behind) =
      if '-' ∈ run.tail then illegal .misplacedSign run behind
      else if startsFraction behind then fraction run behind.tail
      else integer (signedValue run) run behind := by
  have unmarked : ∀ base ∈ Base.all, ∀ rest, run ++ behind ≠ '0' :: base.mark :: rest := by
    intro base marked rest same
    exact h.unmarked base marked ⟨rest, same.symm⟩
  rw [read_of_startsNumber h.starts,
    readNumber_eq_readDecimal (unmarked .hexadecimal (.head _)) (unmarked .binary (.tail _ (.head _))),
    readDecimal_eq, h.longest.takeWhile_append, h.longest.dropWhile_append]
  simp only [List.contains_iff_mem]

theorem integer_of_fits {n : Int} (fits : -2 ^ 63 ≤ n ∧ n ≤ 2 ^ 63 - 1) (span rest : List Char) :
    integer n span rest = ofNumber span rest (.ok (toString n)) := by
  rw [integer, if_pos (inRange_iff.mpr fits)]
  rfl

theorem integer_of_unfit {n : Int} (unfit : ¬ (-2 ^ 63 ≤ n ∧ n ≤ 2 ^ 63 - 1))
    (span rest : List Char) :
    integer n span rest = ofNumber span rest (.error (.outOfRange (String.ofList span))) := by
  rw [integer, if_neg (inRange_iff.not.mpr unfit)]
  rfl

variable {text behind : List Char} {outcome : Except Fault String}

/-- A number is read as the rules say, and it ends on its own line. -/
theorem NumberRead.read_eq (h : NumberRead text outcome behind) :
    ∃ span, read text = ofNumber span behind outcome ∧ '\n' ∉ span := by
  have unbroken : ∀ {base digits}, base ∈ Base.all → LongestRun base.isDigit digits behind →
      '\n' ∉ '0' :: base.mark :: digits := by
    intro base digits marked longest
    simp only [Base.all, List.mem_cons, List.not_mem_nil, or_false] at marked
    rcases marked with rfl | rfl
    · have free : '\n' ∉ digits := longest.not_mem rfl
      simp [Base.hexadecimal, free]
    · have free : '\n' ∉ digits := longest.not_mem rfl
      simp [Base.binary, free]
  cases h with
  | @based base digits _ marked longest some fits =>
      refine ⟨_, ?_, unbroken marked longest⟩
      rw [read_based marked longest, if_neg some, integer_of_fits (by omega)]
      rfl
  | basedBeyond marked longest some beyond =>
      refine ⟨_, ?_, unbroken marked longest⟩
      rw [read_based marked longest, if_neg some, integer_of_unfit (by omega)]
  | digitless marked longest =>
      have read := read_based marked longest
      rw [List.nil_append, if_pos rfl] at read
      exact ⟨_, read, unbroken marked longest⟩
  | misplaced decimal signed =>
      refine ⟨_, ?_, decimal.longest.not_mem rfl⟩
      rw [decimal.read_append, if_pos signed]
      rfl
  | @fraction run digits _ decimal unsigned longest some =>
      obtain ⟨d, more, rfl⟩ := List.exists_cons_of_ne_nil some
      have starts : startsFraction ('.' :: (d :: more ++ behind)) = true :=
        longest.chars d (.head more)
      refine ⟨run ++ '.' :: (d :: more), ?_, ?_⟩
      · rw [decimal.read_append, if_neg unsigned, if_pos starts, List.tail_cons, Lexeme.fraction,
          longest.takeWhile_append, longest.dropWhile_append]
        rfl
      · rw [List.mem_append, List.mem_cons, not_or, not_or]
        exact ⟨decimal.longest.not_mem rfl, by decide, longest.not_mem rfl⟩
  | integer decimal whole written fits =>
      refine ⟨_, ?_, decimal.longest.not_mem rfl⟩
      rw [decimal.read_append, if_neg written.isRun.unsigned, whole, if_neg Bool.false_ne_true,
        signedValue_of_writes written, integer_of_fits fits]
  | beyond decimal whole written unfit =>
      refine ⟨_, ?_, decimal.longest.not_mem rfl⟩
      rw [decimal.read_append, if_neg written.isRun.unsigned, whole, if_neg Bool.false_ne_true,
        signedValue_of_writes written, integer_of_unfit unfit]

theorem NumberRead.starts (h : NumberRead text outcome behind) : startsNumber text = true := by
  cases h with
  | based | basedBeyond | digitless => rfl
  | misplaced decimal | fraction decimal | integer decimal | beyond decimal => exact decimal.starts

theorem exists_numberRead_of_mark {base : Base} (marked : base ∈ Base.all) (rest : List Char) :
    ∃ outcome behind, NumberRead ('0' :: base.mark :: rest) outcome behind := by
  have longest := LongestRun.of_text base.isDigit rest
  have whole : rest.takeWhile base.isDigit ++ rest.dropWhile base.isDigit = rest :=
    List.takeWhile_append_dropWhile
  generalize rest.takeWhile base.isDigit = digits at longest whole
  generalize rest.dropWhile base.isDigit = behind at longest whole
  subst whole
  by_cases empty : digits = []
  · subst empty
    exact ⟨_, _, .digitless marked longest⟩
  by_cases fits : positional base.radix digits ≤ 2 ^ 63 - 1
  · exact ⟨_, _, .based marked longest empty fits⟩
  · exact ⟨_, _, .basedBeyond marked longest empty (Nat.lt_of_not_le fits)⟩

theorem DecimalRun.exists_numberRead {run : List Char} (h : DecimalRun run behind) :
    ∃ outcome rest, NumberRead (run ++ behind) outcome rest := by
  by_cases signed : '-' ∈ run.tail
  · exact ⟨_, _, .misplaced h signed⟩
  by_cases fractional : startsFraction behind = true
  · unfold startsFraction at fractional
    split at fractional
    · next d more =>
        have longest := LongestRun.of_text Char.isDigit (d :: more)
        have whole : (d :: more).takeWhile Char.isDigit ++ (d :: more).dropWhile Char.isDigit =
            d :: more := List.takeWhile_append_dropWhile
        have some : (d :: more).takeWhile Char.isDigit ≠ [] := by
          rw [List.takeWhile_cons_of_pos fractional]
          exact List.cons_ne_nil _ _
        rw [← whole] at h ⊢
        exact ⟨_, _, .fraction h signed longest some⟩
    · cases fractional
  · have same := h.longest.takeWhile_append
    have isRun : IsRun run := by
      rw [← same] at signed ⊢
      exact .of_startsNumber h.starts signed
    obtain ⟨n, written⟩ := isRun.exists_writes
    have whole := Bool.eq_false_iff.mpr fractional
    by_cases fits : -2 ^ 63 ≤ n ∧ n ≤ 2 ^ 63 - 1
    · exact ⟨_, _, .integer h whole written fits⟩
    · exact ⟨_, _, .beyond h whole written fits⟩

/-- The rules cover every text that starts with a number. -/
theorem exists_numberRead (starts : startsNumber text = true) :
    ∃ outcome behind, NumberRead text outcome behind := by
  by_cases marked : ∃ base ∈ Base.all, ['0', base.mark] <+: text
  · obtain ⟨base, member, rest, rfl⟩ := marked
    exact exists_numberRead_of_mark member rest
  · have whole : text.takeWhile isNumberChar ++ text.dropWhile isNumberChar = text :=
      List.takeWhile_append_dropWhile
    have run : DecimalRun (text.takeWhile isNumberChar) (text.dropWhile isNumberChar) := by
      refine ⟨.of_text isNumberChar text, ?_, ?_⟩
      · rwa [whole]
      · rw [whole]
        exact fun base member begins => marked ⟨base, member, begins⟩
    rw [← whole]
    exact run.exists_numberRead

theorem IsNumeral.unbroken (h : IsNumeral text) : '\n' ∉ text := by
  have run : ∀ {run}, IsRun run → '\n' ∉ run := fun h member =>
    absurd (h.chars '\n' member) (by decide)
  cases h with
  | integer fits => exact run (isRun_toString _).1
  | fraction whole parts =>
      rw [List.mem_append, List.mem_cons, not_or, not_or]
      exact ⟨run whole, by decide, run (.plain parts)⟩

theorem startsNumber_of_kind_read (number : (read text).kind = .number) :
    startsNumber text = true := by
  cases text with
  | nil => cases number
  | cons c rest =>
      unfold read at number
      dsimp only at number
      repeat' split at number
      · cases number
      · cases number
      · cases number
      · cases number
      · unfold readText at number
        split at number <;> cases number
      · unfold readBracket at number
        split at number <;> cases number
      · unfold readBlock at number
        split at number <;> cases number
      · next starts => exact starts
      · cases number

end Lexeme

def Token.ofNumber (line : Nat) : Except Fault String → Token
  | .ok literal => ⟨.number, literal, line⟩
  | .error fault => ⟨.illegal fault, fault.message, line⟩

namespace Cursor

open Lexeme

variable {c : Cursor}

theorem next_of_numberRead {outcome : Except Fault String} {behind : List Char}
    (h : NumberRead (c.rest.dropWhile isSpace) outcome behind) :
    c.next = (.ofNumber c.line outcome, ⟨behind, c.line⟩) := by
  obtain ⟨span, read, unbroken⟩ := h.read_eq
  have count : span.count '\n' = 0 := List.count_eq_zero.mpr unbroken
  cases outcome <;> simp only [next, read, ofNumber, illegal, Token.ofNumber, count, Nat.add_zero]

theorem isNumeral_of_kind_next (number : c.next.1.kind = .number) :
    IsNumeral c.next.1.literal.toList := by
  have more : ¬ c.Blank := by
    intro ended
    rw [kind_next_eq_finish_iff.mpr ended] at number
    cases number
  obtain ⟨d, rest, here, visible⟩ := exists_visible more
  have kind : (Lexeme.read (d :: rest)).kind = .number := by
    rw [← here]
    exact number
  have legal : (Lexeme.read (d :: rest)).IsLegal := by
    intro fault illegal
    rw [kind] at illegal
    cases illegal
  have admits := admits_read visible legal
  rw [kind, ← here] at admits
  exact admits

theorem tokens_of_isNumeral {literal : String} (numeral : IsNumeral literal.toList) :
    (start literal).tokens.1 = [⟨.number, literal, 1⟩, ⟨.finish, "", 1⟩] := by
  have admitted : Token.Kind.Admits .number literal := numeral
  have read := read_spelling admitted
  obtain ⟨d, rest, chars, visible⟩ := (isToken_spelling admitted).visible
  have spelled : Token.Kind.spelling literal .number = literal := rfl
  rw [spelled] at read chars
  have skip : literal.toList.dropWhile isSpace = literal.toList := by
    rw [chars]
    exact List.dropWhile_cons_of_neg (Bool.not_eq_true _ ▸ visible)
  have count : literal.toList.count '\n' = 0 := List.count_eq_zero.mpr numeral.unbroken
  have next : (start literal).next = (⟨.number, literal, 1⟩, ⟨[], 1⟩) := by
    simp only [next, start, skip, read, count]
  have more : ¬ (start literal).Blank := by
    intro ended
    have finish := kind_next_eq_finish_iff.mpr ended
    rw [next] at finish
    cases finish
  have ended : Blank ⟨[], 1⟩ := rfl
  rw [tokens, dif_neg more, next, tokens, dif_pos ended]
  rfl

/-- Where a number starts, the rules for numbers say what is read and where reading goes on. They
cover every such place, and no number is read anywhere else. What is then the literal of a number is
read as this number again, and nothing is left of it. -/
theorem numbers_are_read_exactly (c : Cursor) :
    (startsNumber (c.rest.dropWhile isSpace) = true ↔
      ∃ outcome behind, NumberRead (c.rest.dropWhile isSpace) outcome behind) ∧
    (∀ outcome behind, NumberRead (c.rest.dropWhile isSpace) outcome behind →
      c.next = (.ofNumber c.line outcome, ⟨behind, c.line⟩)) ∧
    (c.next.1.kind = .number →
      startsNumber (c.rest.dropWhile isSpace) = true ∧
      (start c.next.1.literal).tokens.1 =
        [⟨.number, c.next.1.literal, 1⟩, ⟨.finish, "", 1⟩]) := by
  refine ⟨⟨exists_numberRead, ?_⟩, fun _ _ => next_of_numberRead, fun number => ⟨?_, ?_⟩⟩
  · rintro ⟨outcome, behind, read⟩
    exact read.starts
  · exact startsNumber_of_kind_read number
  · exact tokens_of_isNumeral (isNumeral_of_kind_next number)

/-- All digits of the bases, the lower end of the range, a fraction with zeros around and a stray
sign. -/
theorem spelled_numbers_are_read :
    next ⟨"0x0123456789abcdefx".toList, 1⟩ = (⟨.number, "81985529216486895", 1⟩, ⟨['x'], 1⟩) ∧
    next ⟨"\t0xABCDEF-".toList, 1⟩ = (⟨.number, "11259375", 1⟩, ⟨['-'], 1⟩) ∧
    next ⟨"0b10102".toList, 1⟩ = (⟨.number, "10", 1⟩, ⟨['2'], 1⟩) ∧
    next ⟨"-0009223372036854775808 ".toList, 1⟩ =
      (⟨.number, "-9223372036854775808", 1⟩, ⟨[' '], 1⟩) ∧
    next ⟨"007.50.2".toList, 1⟩ = (⟨.number, "007.50", 1⟩, ⟨['.', '2'], 1⟩) ∧
    next ⟨"1-2".toList, 1⟩ =
      (⟨.illegal .misplacedSign, Fault.misplacedSign.message, 1⟩, ⟨[], 1⟩) := by
  have hexadecimal : Base.hexadecimal ∈ Base.all := .head _
  have binary : Base.binary ∈ Base.all := .tail _ (.head _)
  refine ⟨?_, ?_, ?_, ?_, ?_, ?_⟩
  · have read := (numbers_are_read_exactly ⟨"0x0123456789abcdefx".toList, 1⟩).2.1 _ ['x']
      (.based hexadecimal (.of_all rfl rfl : LongestRun _ "0123456789abcdef".toList _) nofun
        (by decide +kernel))
    have value : toString (positional 16 "0123456789abcdef".toList) = "81985529216486895" := by
      decide +kernel
    rw [← value]
    exact read
  · have read := (numbers_are_read_exactly ⟨"\t0xABCDEF-".toList, 1⟩).2.1 _ ['-']
      (.based hexadecimal (.of_all rfl rfl : LongestRun _ "ABCDEF".toList _) nofun
        (by decide +kernel))
    have value : toString (positional 16 "ABCDEF".toList) = "11259375" := by decide +kernel
    rw [← value]
    exact read
  · have read := (numbers_are_read_exactly ⟨"0b10102".toList, 1⟩).2.1 _ ['2']
      (.based binary (.of_all rfl rfl : LongestRun _ "1010".toList _) nofun (by decide +kernel))
    have value : toString (positional 2 "1010".toList) = "10" := by decide +kernel
    rw [← value]
    exact read
  · have run : DecimalRun "-0009223372036854775808".toList [' '] := .of_all rfl rfl rfl rfl
    have written : Writes "-0009223372036854775808".toList (-9223372036854775808) :=
      .negative ⟨nofun, List.all_eq_true.mp rfl⟩
    exact (numbers_are_read_exactly ⟨"-0009223372036854775808 ".toList, 1⟩).2.1 _ _
      (.integer run rfl written (by decide))
  · have run : DecimalRun "007".toList ".50.2".toList := .of_all rfl rfl rfl rfl
    exact (numbers_are_read_exactly ⟨"007.50.2".toList, 1⟩).2.1 _ _
      (.fraction run (by decide) (.of_all rfl rfl : LongestRun _ "50".toList ".2".toList) nofun)
  · have run : DecimalRun "1-2".toList [] := .of_all rfl rfl rfl rfl
    exact (numbers_are_read_exactly ⟨"1-2".toList, 1⟩).2.1 _ _ (.misplaced run (by decide))

end Cursor

end CommandScript
