import CommandScript.Proofs.Reading.Pairs
import CommandScript.Proofs.Reading.Stream

/-! Lexemes before a separator or a blank. Every reader of lexemes stops there as it does at the end
of the text, and takes nothing of what comes behind. -/

namespace CommandScript

/-- The characters that end a command and every lexeme that has no end of its own. -/
def IsSeparator (c : Char) : Prop := c = '\n' ∨ c = ';'

theorem IsSeparator.stops {c : Char} (ends : IsSeparator c) (kind : Char → Bool)
    (line : kind '\n' = false) (semicolon : kind ';' = false) : kind c = false := by
  rcases ends with rfl | rfl
  · exact line
  · exact semicolon

/-- Separators and blanks, which no lexeme goes past that has no end of its own. -/
def delimiters : List Char := ['\n', ';', ' ', '\t', '\r']

def IsDelimiter (c : Char) : Prop := c ∈ delimiters

theorem IsSeparator.isDelimiter {c : Char} (ends : IsSeparator c) : IsDelimiter c := by
  rcases ends with rfl | rfl
  · exact .head _
  · exact .tail _ (.head _)

theorem IsDelimiter.stops {c : Char} (ends : IsDelimiter c) (kind : Char → Bool)
    (free : delimiters.all (fun d => !kind d) = true) : kind c = false := by
  simpa only [Bool.not_eq_true'] using List.all_eq_true.mp free c ends

theorem IsDelimiter.ne {c other : Char} (ends : IsDelimiter c) (plain : other ∉ delimiters) :
    c ≠ other := by
  rintro rfl
  exact plain ends

namespace Lexeme

variable {delimiter : Char}

/-- A run of characters of a kind ends at a character that is not of that kind. -/
theorem takeWhile_append_stop {kind : Char → Bool} {stop : Char} (stops : kind stop = false)
    (text more : List Char) :
    (text ++ stop :: more).takeWhile kind = text.takeWhile kind := by
  induction text with
  | nil => simp only [List.nil_append, List.takeWhile_cons, stops, List.takeWhile_nil]; rfl
  | cons c rest ih => simp only [List.cons_append, List.takeWhile_cons, ih]

theorem dropWhile_append_stop {kind : Char → Bool} {stop : Char} (stops : kind stop = false)
    (text more : List Char) :
    (text ++ stop :: more).dropWhile kind = text.dropWhile kind ++ stop :: more := by
  induction text with
  | nil => simp only [List.nil_append, List.dropWhile_cons, stops, List.dropWhile_nil]; rfl
  | cons c rest ih =>
      simp only [List.cons_append, List.dropWhile_cons, ih]
      split <;> rfl

def before (lexeme : Lexeme) (more : List Char) : Lexeme :=
  { lexeme with rest := lexeme.rest ++ more }

def IsLegal (lexeme : Lexeme) : Prop := ∀ fault, lexeme.kind ≠ .illegal fault

/-! Lexemes with an end of their own are the same before any text. -/

theorem readQuoted_append {text : List Char} {q : Quoted} (found : readQuoted text = some q)
    (more : List Char) :
    readQuoted (text ++ more) = some { q with rest := q.rest ++ more } := by
  fun_induction readQuoted text generalizing q with
  | case1 => cases found
  | case2 rest => cases found; rfl
  | case3 rest ih =>
      obtain ⟨inner, read, rfl⟩ := Option.map_eq_some_iff.mp found
      simp only [List.cons_append, readQuoted, ih read]
      rfl
  | case4 c rest plain ih =>
      obtain ⟨inner, read, rfl⟩ := Option.map_eq_some_iff.mp found
      simp only [List.cons_append, readQuoted, ih read]
      rfl
  | case5 c rest noQuote noLine noEscape ih =>
      obtain ⟨inner, read, rfl⟩ := Option.map_eq_some_iff.mp found
      have plain : c ≠ '\\' := by
        rintro rfl
        cases rest with
        | nil => cases read
        | cons d rest => exact noEscape d rest rfl rfl
      rw [List.cons_append, readQuoted, ih read]
      · rfl
      · exact noQuote
      · exact fun _ same => absurd same plain
      · exact fun _ _ same => absurd same plain

theorem readPair_append {opener closer : Char} (distinct : opener ≠ closer) {inner : Nat}
    {text s t : List Char} (found : readPair opener closer inner text = .ok (s, t))
    (more : List Char) : readPair opener closer inner (text ++ more) = .ok (s, t ++ more) := by
  obtain ⟨closes, rfl⟩ := (readPair_eq_ok_iff distinct).mp found
  refine (readPair_eq_ok_iff distinct).mpr ⟨closes, ?_⟩
  rw [List.append_assoc, List.cons_append]

theorem readText_append {rest : List Char} (legal : (readText rest).IsLegal) (more : List Char) :
    readText (rest ++ more) = (readText rest).before more := by
  unfold readText at legal ⊢
  cases read : readQuoted rest with
  | none =>
      rw [read] at legal
      exact absurd rfl (legal .openText)
  | some q =>
      rw [readQuoted_append read]
      rfl

theorem readBracket_append {rest : List Char} (legal : (readBracket rest).IsLegal)
    (more : List Char) : readBracket (rest ++ more) = (readBracket rest).before more := by
  unfold readBracket at legal ⊢
  cases read : readPair '[' ']' 0 rest with
  | error depth =>
      rw [read] at legal
      exact absurd rfl (legal (.openPair '[' ']' depth))
  | ok pair =>
      rw [readPair_append (by decide) read]
      rfl

theorem readBlock_append {rest : List Char} (legal : (readBlock rest).IsLegal)
    (more : List Char) : readBlock (rest ++ more) = (readBlock rest).before more := by
  unfold readBlock at legal ⊢
  cases read : readPair '\x7b' '\x7d' 0 rest with
  | error depth =>
      rw [read] at legal
      exact absurd rfl (legal (.openPair '\x7b' '\x7d' depth))
  | ok pair =>
      rw [readPair_append (by decide) read]
      rfl

/-! The other lexemes are the same before a delimiter, which no run of characters contains. -/

theorem readVariable_append (ends : IsDelimiter delimiter) (rest more : List Char) :
    readVariable (rest ++ delimiter :: more) = (readVariable rest).before (delimiter :: more) := by
  have stops := ends.stops isVariableChar rfl
  unfold readVariable before
  rw [takeWhile_append_stop stops, dropWhile_append_stop stops]

theorem readWord_append (ends : IsDelimiter delimiter) (text more : List Char) :
    readWord (text ++ delimiter :: more) = (readWord text).before (delimiter :: more) := by
  have stops := ends.stops isWordChar rfl
  unfold readWord before
  rw [takeWhile_append_stop stops, dropWhile_append_stop stops]

theorem integer_append (n : Int) (span rest more : List Char) :
    integer n span (rest ++ more) = (integer n span rest).before more := by
  unfold integer
  split <;> rfl

theorem readBased_append (base : Nat) {isDigit : Char → Bool} (stops : isDigit delimiter = false)
    (mark text more : List Char) :
    readBased base isDigit mark (text ++ delimiter :: more) =
      (readBased base isDigit mark text).before (delimiter :: more) := by
  unfold readBased
  rw [takeWhile_append_stop stops, dropWhile_append_stop stops]
  dsimp only
  split
  · rfl
  · exact integer_append _ _ _ _

/-- Whether a fraction starts here: at a point before a digit. -/
def startsFraction : List Char → Bool
  | '.' :: c :: _ => c.isDigit
  | _ => false

/-- A run of digits with the fraction whose digits come behind the point. -/
def fraction (run digits : List Char) : Lexeme :=
  let span := run ++ '.' :: digits.takeWhile Char.isDigit
  ⟨.number, String.ofList span, span, digits.dropWhile Char.isDigit⟩

theorem readDecimal_eq (text : List Char) :
    readDecimal text =
      let run := text.takeWhile isNumberChar
      let rest := text.dropWhile isNumberChar
      if run.tail.contains '-' then illegal .misplacedSign run rest
      else if startsFraction rest then fraction run rest.tail
      else integer (signedValue run) run rest := by
  unfold readDecimal
  dsimp only
  split
  · rfl
  · split
    · next c more same =>
      rw [same]
      rfl
    · next whole =>
      rw [if_neg]
      intro starts
      unfold startsFraction at starts
      split at starts
      · next c more same => exact whole c more same
      · cases starts

theorem startsFraction_of_ne {c : Char} (other : c ≠ '.') (rest : List Char) :
    startsFraction (c :: rest) = false := by
  unfold startsFraction
  split
  · next same => exact absurd (List.cons.inj same).1 other
  · rfl

theorem startsNumber_of_ne {c : Char} (other : c ≠ '-') (rest : List Char) :
    startsNumber (c :: rest) = c.isDigit := by
  unfold startsNumber
  split
  · next same => exact absurd (List.cons.inj same).1 other
  · next same => cases same; rfl
  · next same => cases same

theorem startsFraction_append (ends : IsDelimiter delimiter) (text more : List Char) :
    startsFraction (text ++ delimiter :: more) = startsFraction text := by
  cases text with
  | nil => exact startsFraction_of_ne (ends.ne (by decide)) more
  | cons c rest =>
      by_cases point : c = '.'
      · subst point
        cases rest with
        | nil => exact ends.stops Char.isDigit rfl
        | cons d rest => rfl
      · rw [List.cons_append, startsFraction_of_ne point, startsFraction_of_ne point]

theorem startsNumber_append (ends : IsDelimiter delimiter) (c : Char) (rest more : List Char) :
    startsNumber (c :: rest ++ delimiter :: more) = startsNumber (c :: rest) := by
  by_cases minus : c = '-'
  · subst minus
    cases rest with
    | nil => exact ends.stops Char.isDigit rfl
    | cons d rest => rfl
  · rw [List.cons_append, startsNumber_of_ne minus, startsNumber_of_ne minus]

theorem readDecimal_append (ends : IsDelimiter delimiter) (text more : List Char) :
    readDecimal (text ++ delimiter :: more) = (readDecimal text).before (delimiter :: more) := by
  have stops := ends.stops isNumberChar rfl
  have digit := ends.stops Char.isDigit rfl
  rw [readDecimal_eq, readDecimal_eq, takeWhile_append_stop stops, dropWhile_append_stop stops]
  dsimp only
  rw [startsFraction_append ends]
  split
  · rfl
  · split
    · next starts =>
        -- The rest has a point in front, so its tail is still followed by the delimiter.
        cases rest : text.dropWhile isNumberChar with
        | nil => rw [rest] at starts; cases starts
        | cons point digits =>
            simp only [List.cons_append, List.tail_cons, fraction, before,
              takeWhile_append_stop digit, dropWhile_append_stop digit]
    · exact integer_append _ _ _ _

theorem readNumber_eq_readDecimal {text : List Char}
    (hex : ∀ rest, text ≠ '0' :: 'x' :: rest) (binary : ∀ rest, text ≠ '0' :: 'b' :: rest) :
    readNumber text = readDecimal text := by
  unfold readNumber
  split
  · next rest => exact absurd rfl (hex rest)
  · next rest => exact absurd rfl (binary rest)
  · rfl

theorem ne_mark_append {mark c : Char} {rest : List Char} (other : delimiter ≠ mark)
    (unmarked : ∀ tail, c :: rest ≠ '0' :: mark :: tail) (more tail : List Char) :
    c :: rest ++ delimiter :: more ≠ '0' :: mark :: tail := by
  intro same
  cases rest with
  | nil =>
      injection same with _ same
      injection same with same _
      exact other same
  | cons d rest =>
      injection same with first same
      injection same with second _
      exact unmarked rest (by rw [first, second])

theorem readNumber_append (ends : IsDelimiter delimiter) (c : Char) (rest more : List Char) :
    readNumber (c :: rest ++ delimiter :: more) =
      (readNumber (c :: rest)).before (delimiter :: more) := by
  have x : delimiter ≠ 'x' := ends.ne (by decide)
  have b : delimiter ≠ 'b' := ends.ne (by decide)
  by_cases hex : ∃ tail, c :: rest = '0' :: 'x' :: tail
  · obtain ⟨tail, same⟩ := hex
    rw [same]
    exact readBased_append 16 (ends.stops isHexDigit rfl) ['0', 'x'] tail more
  · by_cases binary : ∃ tail, c :: rest = '0' :: 'b' :: tail
    · obtain ⟨tail, same⟩ := binary
      rw [same]
      exact readBased_append 2 (ends.stops isBinaryDigit rfl) ['0', 'b'] tail more
    · have hex' := not_exists.mp hex
      have binary' := not_exists.mp binary
      rw [readNumber_eq_readDecimal hex' binary',
        readNumber_eq_readDecimal (ne_mark_append x hex' more) (ne_mark_append b binary' more)]
      exact readDecimal_append ends (c :: rest) more

/-- A legal lexeme is read the same before a delimiter as before the end of the text. -/
theorem read_append (ends : IsDelimiter delimiter) {c : Char} {rest : List Char}
    (legal : (read (c :: rest)).IsLegal) (more : List Char) :
    read (c :: rest ++ delimiter :: more) = (read (c :: rest)).before (delimiter :: more) := by
  by_cases quote : c = '"'
  · subst quote
    exact readText_append legal (delimiter :: more)
  by_cases bracket : c = '['
  · subst bracket
    exact readBracket_append legal (delimiter :: more)
  by_cases brace : c = '\x7b'
  · subst brace
    exact readBlock_append legal (delimiter :: more)
  have starts := startsNumber_append ends c rest more
  simp only [List.cons_append] at starts
  simp only [read, List.cons_append, if_neg quote, if_neg bracket, if_neg brace, starts]
  repeat' split
  · rfl
  · rfl
  · rfl
  · exact readVariable_append ends rest more
  · exact readNumber_append ends c rest more
  · exact readWord_append ends (c :: rest) more

end Lexeme

end CommandScript
