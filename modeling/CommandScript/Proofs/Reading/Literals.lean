import CommandScript.Proofs.Reading.Separation

/-! The literals that tokens have, kind by kind, and their spelling. Every token that is read has a
literal of its kind, and whatever has such a literal is spelled so that it is read again. -/

namespace CommandScript

namespace Lexeme

/-- The texts that are one bare word. -/
structure IsWord (text : List Char) : Prop where
  nonempty : text ≠ []
  chars : ∀ c ∈ text, isWordChar c = true
  unquoted : text.head? ≠ some '"'
  unnumbered : startsNumber text = false

instance (text : List Char) : Decidable (IsWord text) :=
  decidable_of_iff (text ≠ [] ∧ text.all isWordChar = true ∧ text.head? ≠ some '"' ∧
      startsNumber text = false)
    ⟨fun ⟨nonempty, chars, rest⟩ => ⟨nonempty, List.all_eq_true.mp chars, rest.1, rest.2⟩,
      fun h => ⟨h.nonempty, List.all_eq_true.mpr h.chars, h.unquoted, h.unnumbered⟩⟩

structure IsDigits (digits : List Char) : Prop where
  nonempty : digits ≠ []
  all : ∀ d ∈ digits, d.isDigit = true

/-- Digits, a minus sign in front or not. -/
inductive IsRun : List Char → Prop
  | plain {digits} (h : IsDigits digits) : IsRun digits
  | negative {digits} (h : IsDigits digits) : IsRun ('-' :: digits)

/-- The literals of numbers: an integer that fits in its canonical spelling, or a fraction. -/
inductive IsNumeral : List Char → Prop
  | integer {n : Int} (fits : inRange n = true) : IsNumeral (toString n).toList
  | fraction {run digits} (whole : IsRun run) (parts : IsDigits digits) :
      IsNumeral (run ++ '.' :: digits)

/-- A text with a backslash before every quote and backslash. -/
def escape (text : List Char) : List Char :=
  text.flatMap fun c => if c = '\\' ∨ c = '"' then ['\\', c] else [c]

end Lexeme

namespace Token.Kind

open Lexeme

/-- The literals that a token of a kind can have. -/
def Admits : Token.Kind → String → Prop
  | .word, literal => IsWord literal.toList
  | .text, _ => True
  | .number, literal => IsNumeral literal.toList
  | .variable, literal => ∃ name, literal.toList = '$' :: name ∧ ∀ c ∈ name, isVariableChar c = true
  | .block, literal => Balanced '\x7b' '\x7d' literal.toList
  | .bracket, literal => ∃ script, literal.toList = '[' :: script ++ [']'] ∧ Balanced '[' ']' script
  | .semicolon, literal => literal = ";"
  | .newline, literal => literal = "\\n"
  | .finish, _ | .illegal _, _ => False

/-- The text that a token of a kind with a literal is written as. -/
def spelling (literal : String) : Token.Kind → String
  | .text => "\"" ++ String.ofList (escape literal.toList) ++ "\""
  | .block => "\x7b" ++ literal ++ "\x7d"
  | .semicolon => ";"
  | .newline => "\n"
  | _ => literal

end Token.Kind

namespace Lexeme

/-! What starts a number. -/

theorem isNumberChar_of_isDigit {d : Char} (digit : d.isDigit = true) : isNumberChar d = true := by
  rw [isNumberChar, digit, Bool.or_true]

theorem ne_of_isDigit {c d : Char} (digit : d.isDigit = true) (other : c.isDigit = false) :
    d ≠ c := by
  rintro rfl
  rw [digit] at other
  cases other

theorem isWordChar_of_isNumberChar {c : Char} (number : isNumberChar c = true) :
    isWordChar c = true ∧ c ≠ '"' := by
  have free : [' ', '\t', '\r', '\x7b', '\x7d', '[', ']', '$', ';', '\n', '"'].all
      (fun d => !isNumberChar d) = true := rfl
  have other : c ∉ [' ', '\t', '\r', '\x7b', '\x7d', '[', ']', '$', ';', '\n', '"'] := by
    intro member
    have stops := List.all_eq_true.mp free c member
    rw [number] at stops
    cases stops
  simp only [List.mem_cons, List.not_mem_nil, or_false, not_or] at other
  simp [isWordChar, isSpace, other]

theorem startsNumber_digit {d : Char} (digit : d.isDigit = true) (rest : List Char) :
    startsNumber (d :: rest) = true := by
  rw [startsNumber_of_ne (ne_of_isDigit digit rfl), digit]

theorem exists_of_startsNumber {text : List Char} (starts : startsNumber text = true) :
    (∃ d rest, text = d :: rest ∧ d.isDigit = true) ∨
      ∃ d rest, text = '-' :: d :: rest ∧ d.isDigit = true := by
  unfold startsNumber at starts
  split at starts
  · next d rest => exact .inr ⟨d, rest, rfl, starts⟩
  · next d rest _ => exact .inl ⟨d, rest, rfl, starts⟩
  · cases starts

theorem IsDigits.exists_cons {digits : List Char} (h : IsDigits digits) :
    ∃ d rest, digits = d :: rest ∧ d.isDigit = true := by
  obtain ⟨d, rest, rfl⟩ := List.exists_cons_of_ne_nil h.nonempty
  exact ⟨d, rest, rfl, h.all d (.head rest)⟩

theorem isDigits_of_isNumberChar {text : List Char} (nonempty : text ≠ [])
    (chars : ∀ c ∈ text, isNumberChar c = true) (unsigned : '-' ∉ text) : IsDigits text := by
  refine ⟨nonempty, fun c member => ?_⟩
  have char := chars c member
  have other : c ≠ '-' := fun same => unsigned (same ▸ member)
  simpa only [isNumberChar, beq_eq_false_iff_ne.mpr other, Bool.false_or] using char

namespace IsRun

variable {run : List Char}

theorem chars (h : IsRun run) : ∀ c ∈ run, isNumberChar c = true := by
  cases h with
  | plain digits => exact fun c member => isNumberChar_of_isDigit (digits.all c member)
  | negative digits =>
      refine List.forall_mem_cons.mpr ⟨rfl, fun c member => ?_⟩
      exact isNumberChar_of_isDigit (digits.all c member)

theorem unsigned (h : IsRun run) : '-' ∉ run.tail := by
  have free : ∀ {digits : List Char}, IsDigits digits → '-' ∉ digits := fun digits member =>
    absurd (digits.all '-' member) (by decide)
  cases h with
  | plain digits => exact fun member => free digits (List.mem_of_mem_tail member)
  | negative digits => exact free digits

theorem starts (h : IsRun run) (rest : List Char) : startsNumber (run ++ rest) = true := by
  cases h with
  | plain digits =>
      obtain ⟨d, more, rfl, digit⟩ := digits.exists_cons
      exact startsNumber_digit digit (more ++ rest)
  | negative digits =>
      obtain ⟨d, more, rfl, digit⟩ := digits.exists_cons
      exact digit

theorem of_startsNumber {text : List Char} (number : startsNumber text = true)
    (unsigned : '-' ∉ (text.takeWhile isNumberChar).tail) :
    IsRun (text.takeWhile isNumberChar) := by
  have chars : ∀ c ∈ text.takeWhile isNumberChar, isNumberChar c = true :=
    fun _ => List.mem_takeWhile_imp
  rcases exists_of_startsNumber number with ⟨d, rest, rfl, digit⟩ | ⟨d, rest, rfl, digit⟩
  · have first := isNumberChar_of_isDigit digit
    simp only [List.takeWhile_cons, first, if_true, List.tail_cons] at chars unsigned ⊢
    refine .plain (isDigits_of_isNumberChar (List.cons_ne_nil _ _) chars ?_)
    rw [List.mem_cons, not_or]
    exact ⟨(ne_of_isDigit digit rfl).symm, unsigned⟩
  · have first := isNumberChar_of_isDigit digit
    have sign : isNumberChar '-' = true := rfl
    simp only [List.takeWhile_cons, first, sign, if_true, List.tail_cons] at chars unsigned ⊢
    exact .negative (isDigits_of_isNumberChar (List.cons_ne_nil _ _)
      (List.forall_mem_cons.mp chars).2 unsigned)

/-- A run before the end of the text or before a point carries no base mark. -/
theorem ne_mark {mark : Char} (h : IsRun run) (other : isNumberChar mark = false) {rest : List Char}
    (behind : rest.head? ≠ some mark) (tail : List Char) : run ++ rest ≠ '0' :: mark :: tail := by
  intro same
  have chars := h.chars
  match run with
  | [] =>
      have starts := h.starts []
      cases starts
  | [_] =>
      rw [List.singleton_append] at same
      rw [(List.cons.inj same).2] at behind
      exact behind rfl
  | _ :: c :: _ =>
      have second : c = mark := (List.cons.inj (List.cons.inj same).2).1
      have char := chars c (.tail _ (.head _))
      rw [second, other] at char
      cases char

theorem readNumber_append (h : IsRun run) {rest : List Char}
    (behind : ∀ c, rest.head? = some c → c = '.') :
    readNumber (run ++ rest) =
      if startsFraction rest then fraction run rest.tail
      else integer (signedValue run) run rest := by
  have x : rest.head? ≠ some 'x' := fun same => absurd (behind 'x' same) (by decide)
  have b : rest.head? ≠ some 'b' := fun same => absurd (behind 'b' same) (by decide)
  have stops : rest.takeWhile isNumberChar = [] ∧ rest.dropWhile isNumberChar = rest := by
    cases rest with
    | nil => exact ⟨rfl, rfl⟩
    | cons c more =>
        have point := behind c rfl
        subst point
        exact ⟨rfl, rfl⟩
  rw [readNumber_eq_readDecimal (h.ne_mark (by decide) x) (h.ne_mark (by decide) b), readDecimal_eq,
    List.takeWhile_append_of_pos h.chars, List.dropWhile_append_of_pos h.chars, stops.1, stops.2,
    List.append_nil]
  dsimp only
  rw [if_neg]
  rw [List.contains_iff_mem]
  exact h.unsigned

end IsRun

/-! Integers and their canonical spelling. -/

theorem digitsValue_of_isDigits {digits : List Char} (h : IsDigits digits) :
    digitsValue 10 digits = Nat.ofDigitChars 10 digits 0 := by
  refine List.foldl_ext _ _ _ fun value c member => ?_
  rw [digitValue, if_pos (h.all c member)]

theorem isDigits_toDigits (n : Nat) : IsDigits (Nat.toDigits 10 n) :=
  ⟨Nat.toDigits_ne_nil, fun _ member => Nat.isDigit_of_mem_toDigits (by decide) (by decide) member⟩

theorem digitsValue_toDigits (n : Nat) : digitsValue 10 (Nat.toDigits 10 n) = n := by
  rw [digitsValue_of_isDigits (isDigits_toDigits n), Nat.ofDigitChars_ten_toDigits]

theorem signedValue_of_isDigits {digits : List Char} (h : IsDigits digits) :
    signedValue digits = digitsValue 10 digits := by
  obtain ⟨d, rest, rfl, digit⟩ := h.exists_cons
  unfold signedValue
  split
  · next same => exact absurd (List.cons.inj same).1 (ne_of_isDigit digit rfl)
  · rfl

/-- The canonical spelling of an integer is a run that stands for it. -/
theorem isRun_toString (n : Int) :
    IsRun (toString n).toList ∧ signedValue (toString n).toList = n := by
  have repr : toString n = if 0 ≤ n then n.toNat.repr else "-" ++ (-n).toNat.repr := Int.repr_eq_if
  rw [repr]
  split
  · next nonneg =>
      rw [Nat.toList_repr]
      refine ⟨.plain (isDigits_toDigits _), ?_⟩
      rw [signedValue_of_isDigits (isDigits_toDigits _), digitsValue_toDigits,
        Int.toNat_of_nonneg nonneg]
  · next negative =>
      rw [String.toList_append, Nat.toList_repr]
      refine ⟨.negative (isDigits_toDigits _), ?_⟩
      have value : signedValue ("-".toList ++ Nat.toDigits 10 (-n).toNat) =
          -(digitsValue 10 (Nat.toDigits 10 (-n).toNat) : Int) := rfl
      rw [value, digitsValue_toDigits]
      omega

/-! What is spelled is read. -/

theorem read_of_isWordChar {c : Char} (char : isWordChar c = true) (quote : c ≠ '"')
    (rest : List Char) : read (c :: rest) =
      if startsNumber (c :: rest) then readNumber (c :: rest) else readWord (c :: rest) := by
  simp only [isWordChar, Bool.and_eq_true, Bool.not_eq_true', Bool.or_eq_false_iff,
    beq_eq_false_iff_ne] at char
  simp [read, char, quote]

theorem read_word {text : List Char} (h : IsWord text) :
    read text = ⟨.word, String.ofList text, text, []⟩ := by
  have whole : text.takeWhile isWordChar = text := List.takeWhile_eq_self_iff.mpr h.chars
  have rest : text.dropWhile isWordChar = [] := List.dropWhile_eq_nil_iff.mpr h.chars
  obtain ⟨c, more, rfl⟩ := List.exists_cons_of_ne_nil h.nonempty
  have quote : c ≠ '"' := fun same => h.unquoted (congrArg some same)
  rw [read_of_isWordChar (h.chars c (.head more)) quote, h.unnumbered, if_neg Bool.false_ne_true,
    readWord, whole, rest]

theorem IsRun.read_append {run : List Char} (h : IsRun run) (rest : List Char) :
    read (run ++ rest) = readNumber (run ++ rest) := by
  have starts := h.starts rest
  have chars := h.chars
  cases run with
  | nil => cases h.starts []
  | cons c more =>
      obtain ⟨char, quote⟩ := isWordChar_of_isNumberChar (chars c (.head more))
      rw [List.cons_append, read_of_isWordChar char quote]
      exact if_pos starts

theorem IsRun.read_alone {run : List Char} (h : IsRun run)
    (fits : inRange (signedValue run) = true) :
    read run = ⟨.number, toString (signedValue run), run, []⟩ := by
  have alone : ∀ c, ([] : List Char).head? = some c → c = '.' := nofun
  have read := h.read_append []
  rw [h.readNumber_append alone, List.append_nil] at read
  rw [read]
  exact if_pos fits

theorem read_integer {n : Int} (fits : inRange n = true) :
    read (toString n).toList = ⟨.number, toString n, (toString n).toList, []⟩ := by
  obtain ⟨run, value⟩ := isRun_toString n
  have read := run.read_alone (value.symm ▸ fits)
  rwa [value] at read

theorem read_fraction {run digits : List Char} (whole : IsRun run) (parts : IsDigits digits) :
    read (run ++ '.' :: digits) =
      ⟨.number, String.ofList (run ++ '.' :: digits), run ++ '.' :: digits, []⟩ := by
  have point : ∀ c, ('.' :: digits).head? = some c → c = '.' := fun c same =>
    (Option.some.inj same).symm
  have starts : startsFraction ('.' :: digits) = true := by
    obtain ⟨d, rest, rfl, digit⟩ := parts.exists_cons
    exact digit
  rw [whole.read_append, whole.readNumber_append point, if_pos starts, List.tail_cons, fraction,
    List.takeWhile_eq_self_iff.mpr parts.all, List.dropWhile_eq_nil_iff.mpr parts.all]

theorem readQuoted_escape (text rest : List Char) :
    readQuoted (escape text ++ '"' :: rest) = some ⟨text, escape text ++ ['"'], rest⟩ := by
  induction text with
  | nil => rfl
  | cons c text ih =>
      have split : escape (c :: text) =
          (if c = '\\' ∨ c = '"' then ['\\', c] else [c]) ++ escape text := rfl
      rw [split]
      by_cases backslash : c = '\\'
      · subst backslash
        exact congrArg (Option.map (Quoted.push ['\\'] ['\\', '\\'])) ih
      by_cases quote : c = '"'
      · subst quote
        exact congrArg (Option.map (Quoted.push ['"'] ['\\', '"'])) ih
      rw [if_neg (not_or.mpr ⟨backslash, quote⟩), List.singleton_append, List.cons_append,
        readQuoted, ih]
      · rfl
      · exact fun same => quote same
      · exact fun _ same => absurd same backslash
      · exact fun _ _ same => absurd same backslash

theorem toList_spelling_text (literal : String) :
    (Token.Kind.spelling literal .text).toList = '"' :: (escape literal.toList ++ ['"']) := by
  simp [Token.Kind.spelling]

theorem toList_spelling_block (literal : String) :
    (Token.Kind.spelling literal .block).toList = '\x7b' :: (literal.toList ++ ['\x7d']) := by
  simp [Token.Kind.spelling]

theorem read_spelling {kind : Token.Kind} {literal : String} (admitted : kind.Admits literal) :
    read (kind.spelling literal).toList = ⟨kind, literal, (kind.spelling literal).toList, []⟩ := by
  match kind with
  | .word =>
      have read := read_word admitted
      rw [String.ofList_toList] at read
      exact read
  | .text =>
      rw [toList_spelling_text]
      have read : read ('"' :: (escape literal.toList ++ ['"'])) =
          readText (escape literal.toList ++ ['"']) := rfl
      rw [read, readText, readQuoted_escape]
      simp only [String.ofList_toList]
  | .number =>
      have same : Token.Kind.spelling literal .number = literal := rfl
      rw [same]
      have numeral : IsNumeral literal.toList := admitted
      generalize chars : literal.toList = text at numeral
      have spelled : literal = String.ofList text := by rw [← chars, String.ofList_toList]
      cases numeral with
      | integer fits => rw [read_integer fits, spelled, String.ofList_toList]
      | fraction whole parts => rw [read_fraction whole parts, spelled]
  | .variable =>
      obtain ⟨name, chars, all⟩ := admitted
      have spelled : literal = String.ofList ('$' :: name) := by rw [← chars, String.ofList_toList]
      have same : Token.Kind.spelling literal .variable = literal := rfl
      have read : read ('$' :: name) = readVariable name := rfl
      rw [same, chars, read, readVariable, List.takeWhile_eq_self_iff.mpr all,
        List.dropWhile_eq_nil_iff.mpr all, spelled]
  | .block =>
      have balanced := closes_zero_iff.mpr admitted
      have read : read ('\x7b' :: (literal.toList ++ ['\x7d'])) =
          readBlock (literal.toList ++ ['\x7d']) := rfl
      rw [toList_spelling_block, read, readBlock,
        (readPair_eq_ok_iff (by decide)).mpr ⟨balanced, rfl⟩]
      simp only [String.ofList_toList, List.cons_append]
  | .bracket =>
      obtain ⟨script, chars, balanced⟩ := admitted
      have spelled : literal = String.ofList ('[' :: script ++ [']']) := by
        rw [← chars, String.ofList_toList]
      have same : Token.Kind.spelling literal .bracket = literal := rfl
      have read : read ('[' :: script ++ [']']) = readBracket (script ++ [']']) := rfl
      rw [same, chars, read, readBracket,
        (readPair_eq_ok_iff (by decide)).mpr ⟨closes_zero_iff.mpr balanced, rfl⟩, spelled]
  | .semicolon =>
      cases admitted
      rfl
  | .newline =>
      cases admitted
      rfl
  | .finish | .illegal _ => exact admitted.elim

/-! What is read has a literal of its kind. -/

theorem admits_integer {n : Int} {span rest : List Char} (legal : (integer n span rest).IsLegal) :
    (integer n span rest).kind.Admits (integer n span rest).literal := by
  unfold integer at legal ⊢
  split
  · next fits => exact IsNumeral.integer fits
  · next unfit =>
      rw [if_neg unfit] at legal
      exact absurd rfl (legal _)

theorem admits_readBased {base : Nat} {isDigit : Char → Bool} {mark text : List Char}
    (legal : (readBased base isDigit mark text).IsLegal) :
    (readBased base isDigit mark text).kind.Admits (readBased base isDigit mark text).literal := by
  unfold readBased at legal ⊢
  dsimp only at legal ⊢
  split
  · next empty =>
      rw [if_pos empty] at legal
      exact absurd rfl (legal _)
  · next some =>
      rw [if_neg some] at legal
      exact admits_integer legal

theorem admits_readDecimal {text : List Char} (starts : startsNumber text = true)
    (legal : (readDecimal text).IsLegal) :
    (readDecimal text).kind.Admits (readDecimal text).literal := by
  rw [readDecimal_eq] at legal ⊢
  dsimp only at legal ⊢
  split
  · next signed =>
      rw [if_pos signed] at legal
      exact absurd rfl (legal _)
  · next unsigned =>
      rw [if_neg unsigned] at legal
      split
      · next fractional =>
          unfold startsFraction at fractional
          split at fractional
          · next d digits behind =>
              -- Of a legal number only the first character can be a sign, so the rest are digits.
              rw [List.contains_iff_mem] at unsigned
              have parts : IsDigits ((d :: digits).takeWhile Char.isDigit) := by
                refine ⟨?_, fun _ => List.mem_takeWhile_imp⟩
                rw [List.takeWhile_cons, if_pos fractional]
                exact List.cons_ne_nil _ _
              have numeral := IsNumeral.fraction (.of_startsNumber starts unsigned) parts
              rw [behind, List.tail_cons]
              simp only [fraction, Token.Kind.Admits, String.toList_ofList]
              exact numeral
          · cases fractional
      · next whole =>
          rw [if_neg whole] at legal
          exact admits_integer legal

theorem admits_readNumber {text : List Char} (starts : startsNumber text = true)
    (legal : (readNumber text).IsLegal) :
    (readNumber text).kind.Admits (readNumber text).literal := by
  unfold readNumber at legal ⊢
  split at legal
  · exact admits_readBased legal
  · exact admits_readBased legal
  · exact admits_readDecimal starts legal

theorem admits_readText {rest : List Char} (legal : (readText rest).IsLegal) :
    (readText rest).kind.Admits (readText rest).literal := by
  unfold readText at legal ⊢
  split
  · trivial
  · next unread =>
      rw [unread] at legal
      exact absurd rfl (legal _)

theorem admits_readBracket {rest : List Char} (legal : (readBracket rest).IsLegal) :
    (readBracket rest).kind.Admits (readBracket rest).literal := by
  unfold readBracket at legal ⊢
  split
  · next script behind read =>
      refine ⟨script, String.toList_ofList, ?_⟩
      exact closes_zero_iff.mp ((readPair_eq_ok_iff (by decide)).mp read).1
  · next unread =>
      rw [unread] at legal
      exact absurd rfl (legal _)

theorem admits_readBlock {rest : List Char} (legal : (readBlock rest).IsLegal) :
    (readBlock rest).kind.Admits (readBlock rest).literal := by
  unfold readBlock at legal ⊢
  split
  · next text behind read =>
      simp only [Token.Kind.Admits, String.toList_ofList]
      exact closes_zero_iff.mp ((readPair_eq_ok_iff (by decide)).mp read).1
  · next unread =>
      rw [unread] at legal
      exact absurd rfl (legal _)

theorem admits_readVariable (rest : List Char) :
    (readVariable rest).kind.Admits (readVariable rest).literal :=
  ⟨_, String.toList_ofList, fun _ => List.mem_takeWhile_imp⟩

theorem startsNumber_of_takeWhile {kind : Char → Bool} {text : List Char}
    (starts : startsNumber (text.takeWhile kind) = true) : startsNumber text = true := by
  have whole : text.takeWhile kind ++ text.dropWhile kind = text :=
    List.takeWhile_append_dropWhile
  rcases exists_of_startsNumber starts with ⟨d, rest, same, digit⟩ | ⟨d, rest, same, digit⟩
  · rw [← whole, same]
    exact startsNumber_digit digit _
  · rw [← whole, same]
    exact digit

theorem admits_readWord {c : Char} {rest : List Char} (char : isWordChar c = true)
    (quote : c ≠ '"') (unnumbered : startsNumber (c :: rest) = false) :
    (readWord (c :: rest)).kind.Admits (readWord (c :: rest)).literal := by
  have first : (c :: rest).takeWhile isWordChar = c :: rest.takeWhile isWordChar := by
    rw [List.takeWhile_cons, if_pos char]
  have word : IsWord ((c :: rest).takeWhile isWordChar) := by
    refine ⟨?_, fun _ => List.mem_takeWhile_imp, ?_, ?_⟩
    · rw [first]
      exact List.cons_ne_nil _ _
    · rw [first]
      exact fun same => quote (Option.some.inj same)
    · refine Bool.eq_false_iff.mpr fun starts => ?_
      rw [startsNumber_of_takeWhile starts] at unnumbered
      cases unnumbered
  simp only [readWord, Token.Kind.Admits, String.toList_ofList]
  exact word

theorem admits_read {c : Char} {rest : List Char} (visible : isSpace c = false)
    (legal : (read (c :: rest)).IsLegal) :
    (read (c :: rest)).kind.Admits (read (c :: rest)).literal := by
  by_cases quote : c = '"'
  · subst quote
    exact admits_readText legal
  by_cases bracket : c = '['
  · subst bracket
    exact admits_readBracket legal
  by_cases brace : c = '\x7b'
  · subst brace
    exact admits_readBlock legal
  by_cases dollar : c = '$'
  · subst dollar
    exact admits_readVariable rest
  by_cases line : c = '\n'
  · subst line
    rfl
  by_cases semicolon : c = ';'
  · subst semicolon
    rfl
  by_cases closes : c = ']' ∨ c = '\x7d'
  · rcases closes with rfl | rfl
    · exact absurd rfl (legal (.unexpectedClose ']'))
    · exact absurd rfl (legal (.unexpectedClose '\x7d'))
  obtain ⟨closeBracket, closeBrace⟩ := not_or.mp closes
  have char : isWordChar c = true := by
    simp [isWordChar, visible, bracket, brace, dollar, line, semicolon, closeBracket, closeBrace]
  rw [read_of_isWordChar char quote] at legal ⊢
  split
  · next starts =>
      rw [if_pos starts] at legal
      exact admits_readNumber starts legal
  · next unnumbered => exact admits_readWord char quote (Bool.eq_false_iff.mpr unnumbered)

end Lexeme

end CommandScript
