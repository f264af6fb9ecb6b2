import CommandScript.Token.Basic

/-! The lexeme at the start of a text: its kind and literal, the characters it spans and those
that follow it. The main statement is that span and rest together are the text, and that only
the end of the text has an empty span. -/

namespace CommandScript

/-- A token's kind and literal, the characters it takes up and the characters after it. -/
structure Lexeme where
  kind : Token.Kind
  literal : String
  span : List Char
  rest : List Char

namespace Lexeme

/-- Blanks between the tokens of a command. -/
def isSpace (c : Char) : Bool :=
  c == ' ' || c == '\t' || c == '\r'

def isWordChar (c : Char) : Bool :=
  !isSpace c && !(c == '\x7b' || c == '\x7d' || c == '[' || c == ']' || c == '$' || c == ';' || c == '\n')

def isVariableChar (c : Char) : Bool :=
  c == '$' || c.isAlpha

/-- The lexeme of a fault; its literal is the message. -/
def illegal (fault : Fault) (span rest : List Char) : Lexeme :=
  ⟨.illegal fault, fault.message, span, rest⟩

/-- What an escaped character stands for. -/
def unescape : Char → Char
  | 'n' => '\n'
  | 'r' => '\r'
  | 't' => '\t'
  | c => c

structure Quoted where
  value : List Char
  span : List Char
  rest : List Char

def Quoted.push (value span : List Char) (q : Quoted) : Quoted :=
  ⟨value ++ q.value, span ++ q.span, q.rest⟩

/-- Reads behind an opening quote; an escaped line end stands for nothing. -/
def readQuoted : List Char → Option Quoted
  | [] => none
  | '"' :: rest => some ⟨[], ['"'], rest⟩
  | '\\' :: '\n' :: rest => (readQuoted rest).map (.push [] ['\\', '\n'])
  | '\\' :: c :: rest => (readQuoted rest).map (.push [unescape c] ['\\', c])
  | c :: rest => (readQuoted rest).map (.push [c] [c])

/-- Reads to the closer that matches an opener already read, with `inner` more openers left
open: the text before that closer and the text after it, or the number of missing closers. -/
def readPair (opener closer : Char) : Nat → List Char → Except Nat (List Char × List Char)
  | inner, [] => .error (inner + 1)
  | inner, c :: rest =>
    if c = opener then (readPair opener closer (inner + 1) rest).map fun (s, t) => (c :: s, t)
    else if c = closer then
      match inner with
      | 0 => .ok ([], rest)
      | inner + 1 => (readPair opener closer inner rest).map fun (s, t) => (c :: s, t)
    else (readPair opener closer inner rest).map fun (s, t) => (c :: s, t)

/-- The value of a digit in bases up to sixteen. -/
def digitValue (c : Char) : Nat :=
  if c.isDigit then c.toNat - '0'.toNat
  else if 'a' ≤ c then c.toNat - 'a'.toNat + 10
  else c.toNat - 'A'.toNat + 10

def isHexDigit (c : Char) : Bool :=
  c.isDigit || ('a' ≤ c && c ≤ 'f') || ('A' ≤ c && c ≤ 'F')

def isBinaryDigit (c : Char) : Bool :=
  c == '0' || c == '1'

def digitsValue (base : Nat) (digits : List Char) : Nat :=
  digits.foldl (fun n c => base * n + digitValue c) 0

/-- The range of integers a number may be spelled in. -/
def inRange (n : Int) : Bool :=
  decide (-9223372036854775808 ≤ n ∧ n ≤ 9223372036854775807)

/-- An integer in canonical decimal spelling. -/
def integer (n : Int) (span rest : List Char) : Lexeme :=
  if inRange n then ⟨.number, toString n, span, rest⟩
  else illegal (.outOfRange (String.ofList span)) span rest

def readBased (base : Nat) (isDigit : Char → Bool) (mark text : List Char) : Lexeme :=
  let digits := text.takeWhile isDigit
  let rest := text.dropWhile isDigit
  let span := mark ++ digits
  if digits = [] then illegal (.malformedNumber (String.ofList span)) span rest
  else integer (digitsValue base digits) span rest

def isNumberChar (c : Char) : Bool :=
  c == '-' || c.isDigit

/-- The integer a run of digits with an optional minus sign stands for. -/
def signedValue : List Char → Int
  | '-' :: digits => -(digitsValue 10 digits : Int)
  | digits => digitsValue 10 digits

/-- Reads a decimal number; one with a fraction keeps its spelling. -/
def readDecimal (text : List Char) : Lexeme :=
  let run := text.takeWhile isNumberChar
  let rest := text.dropWhile isNumberChar
  if run.tail.contains '-' then illegal .misplacedSign run rest
  else
    match rest with
    | '.' :: c :: more =>
      if c.isDigit then
        let span := run ++ '.' :: (c :: more).takeWhile Char.isDigit
        ⟨.number, String.ofList span, span, (c :: more).dropWhile Char.isDigit⟩
      else integer (signedValue run) run rest
    | _ => integer (signedValue run) run rest

def readNumber : List Char → Lexeme
  | '0' :: 'x' :: rest => readBased 16 isHexDigit ['0', 'x'] rest
  | '0' :: 'b' :: rest => readBased 2 isBinaryDigit ['0', 'b'] rest
  | text => readDecimal text

def readText (rest : List Char) : Lexeme :=
  match readQuoted rest with
  | some q => ⟨.text, String.ofList q.value, '"' :: q.span, q.rest⟩
  | none => illegal .openText ('"' :: rest) []

/-- Reads behind an opening bracket; the literal keeps the brackets. -/
def readBracket (rest : List Char) : Lexeme :=
  match readPair '[' ']' 0 rest with
  | .ok (inner, rest) =>
    let span := '[' :: inner ++ [']']
    ⟨.bracket, String.ofList span, span, rest⟩
  | .error depth => illegal (.openPair '[' ']' depth) ('[' :: rest) []

/-- Reads behind an opening brace; the literal is the text between the braces. -/
def readBlock (rest : List Char) : Lexeme :=
  match readPair '\x7b' '\x7d' 0 rest with
  | .ok (inner, rest) => ⟨.block, String.ofList inner, '\x7b' :: inner ++ ['\x7d'], rest⟩
  | .error depth => illegal (.openPair '\x7b' '\x7d' depth) ('\x7b' :: rest) []

def readVariable (rest : List Char) : Lexeme :=
  let span := '$' :: rest.takeWhile isVariableChar
  ⟨.variable, String.ofList span, span, rest.dropWhile isVariableChar⟩

def readWord (text : List Char) : Lexeme :=
  let span := text.takeWhile isWordChar
  ⟨.word, String.ofList span, span, text.dropWhile isWordChar⟩

/-- Whether a number starts here: at a digit, or at a minus sign before one. -/
def startsNumber : List Char → Bool
  | '-' :: c :: _ => c.isDigit
  | c :: _ => c.isDigit
  | [] => false

def read (text : List Char) : Lexeme :=
  match text with
  | [] => ⟨.finish, "", [], []⟩
  | c :: rest =>
    if c = '\n' then ⟨.newline, "\\n", ['\n'], rest⟩
    else if c = ';' then ⟨.semicolon, ";", [';'], rest⟩
    else if c = ']' ∨ c = '\x7d' then illegal (.unexpectedClose c) [c] rest
    else if c = '$' then readVariable rest
    else if c = '"' then readText rest
    else if c = '[' then readBracket rest
    else if c = '\x7b' then readBlock rest
    else if startsNumber text then readNumber text
    else readWord text

theorem span_append_rest_readQuoted {text : List Char} {q : Quoted}
    (found : readQuoted text = some q) : q.span ++ q.rest = text := by
  fun_induction readQuoted text generalizing q with
  | case1 => simp at found
  | case2 rest => simp_all [← Option.some.inj found]
  | case3 rest ih =>
    obtain ⟨inner, read, rfl⟩ := Option.map_eq_some_iff.mp found
    simp [Quoted.push, ih read]
  | case4 c rest _ ih =>
    obtain ⟨inner, read, rfl⟩ := Option.map_eq_some_iff.mp found
    simp [Quoted.push, ih read]
  | case5 c rest _ _ _ ih =>
    obtain ⟨inner, read, rfl⟩ := Option.map_eq_some_iff.mp found
    simp [Quoted.push, ih read]

theorem append_closer_readPair {opener closer : Char} {inner : Nat} {text s t : List Char}
    (found : readPair opener closer inner text = .ok (s, t)) : s ++ closer :: t = text := by
  induction text generalizing inner s with
  | nil => simp [readPair] at found
  | cons c rest ih =>
    have step : ∀ {k s}, (readPair opener closer k rest).map (fun (s, t) => (c :: s, t)) = .ok (s, t) →
        s ++ closer :: t = c :: rest := by
      intro k s mapped
      cases read : readPair opener closer k rest with
      | error depth => simp [read, Except.map] at mapped
      | ok pair =>
        obtain ⟨u, v⟩ := pair
        simp only [read, Except.map, Except.ok.injEq, Prod.mk.injEq] at mapped
        obtain ⟨rfl, rfl⟩ := mapped
        simp [ih read]
    unfold readPair at found
    split at found
    · exact step found
    · split at found
      · next same =>
        cases inner with
        | zero =>
          simp only [Except.ok.injEq, Prod.mk.injEq] at found
          simp [← found.1, ← found.2, same]
        | succ inner => exact step found
      · exact step found

theorem span_append_rest_integer (n : Int) (span rest : List Char) :
    (integer n span rest).span ++ (integer n span rest).rest = span ++ rest := by
  unfold integer
  split <;> rfl

theorem span_append_rest_readBased (base : Nat) (isDigit : Char → Bool) (mark text : List Char) :
    (readBased base isDigit mark text).span ++ (readBased base isDigit mark text).rest =
      mark ++ text := by
  unfold readBased
  dsimp only
  split
  · simp [illegal, List.append_assoc]
  · simp [span_append_rest_integer, List.append_assoc]

theorem span_append_rest_readDecimal (text : List Char) :
    (readDecimal text).span ++ (readDecimal text).rest = text := by
  have whole : text.takeWhile isNumberChar ++ text.dropWhile isNumberChar = text :=
    List.takeWhile_append_dropWhile
  unfold readDecimal
  dsimp only
  split
  · exact whole
  · split
    · next c more same =>
      split
      · simp only [List.append_assoc, List.cons_append]
        rw [List.takeWhile_append_dropWhile, ← same, whole]
      · rw [span_append_rest_integer, whole]
    · rw [span_append_rest_integer, whole]

theorem span_append_rest_readNumber (text : List Char) :
    (readNumber text).span ++ (readNumber text).rest = text := by
  unfold readNumber
  split
  · simp [span_append_rest_readBased]
  · simp [span_append_rest_readBased]
  · exact span_append_rest_readDecimal _

theorem span_append_rest_read (text : List Char) : (read text).span ++ (read text).rest = text := by
  unfold read
  split
  · rfl
  · next c rest =>
    repeat' split
    · simp_all
    · simp_all
    · simp [illegal]
    · next same =>
      subst same
      simp [readVariable]
    · next same =>
      subst same
      unfold readText
      split
      · next q found => simp [span_append_rest_readQuoted found]
      · simp [illegal]
    · next same =>
      subst same
      unfold readBracket
      split
      · next inner tail found => simp [append_closer_readPair found]
      · simp [illegal]
    · next same =>
      subst same
      unfold readBlock
      split
      · next inner tail found => simp [append_closer_readPair found]
      · simp [illegal]
    · exact span_append_rest_readNumber _
    · simp [readWord]

theorem span_integer (n : Int) (span rest : List Char) : (integer n span rest).span = span := by
  unfold integer
  split <;> rfl

theorem span_readDecimal_ne_nil {c : Char} {rest : List Char} (first : isNumberChar c) :
    (readDecimal (c :: rest)).span ≠ [] := by
  unfold readDecimal
  simp only [List.takeWhile_cons, first, if_true]
  repeat' split
  all_goals simp [illegal, span_integer]

theorem isNumberChar_of_startsNumber {c : Char} {rest : List Char}
    (starts : startsNumber (c :: rest)) : isNumberChar c := by
  unfold startsNumber at starts
  unfold isNumberChar
  split at starts <;> simp_all

theorem span_readNumber_ne_nil {c : Char} {rest : List Char} (first : isNumberChar c) :
    (readNumber (c :: rest)).span ≠ [] := by
  unfold readNumber
  split
  · unfold readBased
    dsimp only
    split <;> simp [illegal, span_integer]
  · unfold readBased
    dsimp only
    split <;> simp [illegal, span_integer]
  · exact span_readDecimal_ne_nil first

theorem span_read_ne_nil {c : Char} {rest : List Char} (visible : isSpace c = false) :
    (read (c :: rest)).span ≠ [] := by
  unfold read
  dsimp only
  repeat' split
  · simp
  · simp
  · simp [illegal]
  · simp [readVariable]
  · unfold readText
    split <;> simp [illegal]
  · unfold readBracket
    split <;> simp [illegal]
  · unfold readBlock
    split <;> simp [illegal]
  · next starts => exact span_readNumber_ne_nil (isNumberChar_of_startsNumber starts)
  · have first : isWordChar c = true := by simp_all [isWordChar]
    simp [readWord, first]

theorem length_rest_read_lt {c : Char} {rest : List Char} (visible : isSpace c = false) :
    (read (c :: rest)).rest.length < (c :: rest).length := by
  have whole := congrArg List.length (span_append_rest_read (c :: rest))
  have some := List.length_pos_iff.mpr (@span_read_ne_nil c rest visible)
  rw [List.length_append] at whole
  omega

end Lexeme

end CommandScript
