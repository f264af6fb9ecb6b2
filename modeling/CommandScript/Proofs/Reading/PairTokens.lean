import CommandScript.Proofs.Reading.Pairs
import CommandScript.Token.Cursor

namespace CommandScript

inductive Delimiters where
  | braces
  | brackets
deriving DecidableEq

namespace Delimiters

def opener : Delimiters → Char
  | braces => '\x7b'
  | brackets => '['

def closer : Delimiters → Char
  | braces => '\x7d'
  | brackets => ']'

/-- The kind of the token they enclose. -/
def kind : Delimiters → Token.Kind
  | braces => .block
  | brackets => .bracket

/-- The literal of the token around a text; that of a bracket keeps the brackets. -/
def literal : Delimiters → List Char → String
  | braces, s => String.ofList s
  | brackets, s => String.ofList ('[' :: s ++ [']'])

theorem distinct (pair : Delimiters) : pair.opener ≠ pair.closer := by
  cases pair <;> decide

/-- The text behind an opener begins with a balanced text and the closer behind it. -/
structure Encloses (pair : Delimiters) (text s rest : List Char) : Prop where
  balanced : Balanced pair.opener pair.closer s
  closed : text = s ++ pair.closer :: rest

/-- The reader is inside the pair once it has taken the front of a text: the openers that it then
counts as open, and its closers, are together the openers of the front. -/
def Counts (pair : Delimiters) (front behind : List Char) : Prop :=
  ∃ inner, inner + front.count pair.closer = front.count pair.opener ∧
    Lexeme.readPair pair.opener pair.closer 0 (front ++ behind) =
      Lexeme.after front (Lexeme.readPair pair.opener pair.closer inner behind)

variable {pair : Delimiters} {text s rest : List Char}

theorem readPair_eq_ok_iff :
    Lexeme.readPair pair.opener pair.closer 0 text = .ok (s, rest) ↔
      pair.Encloses text s rest := by
  rw [Lexeme.readPair_eq_ok_iff pair.distinct, closes_zero_iff]
  exact ⟨fun found => ⟨found.1, found.2⟩, fun found => ⟨found.balanced, found.closed⟩⟩

theorem Encloses.unique {s' rest' : List Char} (found : pair.Encloses text s rest)
    (other : pair.Encloses text s' rest') : s' = s ∧ rest' = rest := by
  have read := readPair_eq_ok_iff.mpr found
  rw [readPair_eq_ok_iff.mpr other] at read
  exact Prod.mk.inj (Except.ok.inj read)

/-- Where no prefix closes more than it opens, the reader has counted at every place. -/
theorem counts_of_unclosed (unclosed : Unclosed pair.opener pair.closer 0 text)
    {front : List Char} (begins : front <+: text) (behind : List Char) :
    pair.Counts front behind := by
  obtain ⟨inner, count, through⟩ := Lexeme.readPair_of_unclosed pair.distinct
    (fun inside starts => unclosed inside (starts.trans begins)) behind
  rw [Nat.zero_add] at count
  exact ⟨inner, count, through⟩

theorem read_opener (pair : Delimiters) (text : List Char) :
    Lexeme.read (pair.opener :: text) =
      match Lexeme.readPair pair.opener pair.closer 0 text with
      | .ok (s, rest) =>
        ⟨pair.kind, pair.literal s, pair.opener :: s ++ [pair.closer], rest⟩
      | .error depth =>
        Lexeme.illegal (.openPair pair.opener pair.closer depth) (pair.opener :: text) [] := by
  cases pair <;> rfl

theorem count_newline_opener (pair : Delimiters) (text : List Char) :
    (pair.opener :: text).count '\n' = text.count '\n' := by
  cases pair <;> exact List.count_cons_of_ne (by decide)

theorem count_newline_closer (pair : Delimiters) (text : List Char) :
    (text ++ [pair.closer]).count '\n' = text.count '\n' := by
  rw [List.count_append]
  cases pair <;> rfl

end Delimiters

namespace Cursor

open Delimiters

variable {pair : Delimiters} {c : Cursor} {text s rest : List Char}

theorem next_of_encloses (here : c.rest.dropWhile Lexeme.isSpace = pair.opener :: text)
    (found : pair.Encloses text s rest) :
    c.next = (⟨pair.kind, pair.literal s, c.line⟩, ⟨rest, c.line + s.count '\n'⟩) := by
  have token := read_opener pair text
  rw [readPair_eq_ok_iff.mpr found] at token
  rw [next, here, token]
  simp only [count_newline_closer, count_newline_opener]

theorem next_of_readPair_eq_error {depth : Nat}
    (here : c.rest.dropWhile Lexeme.isSpace = pair.opener :: text)
    (unread : Lexeme.readPair pair.opener pair.closer 0 text = .error depth) :
    c.next = (⟨.illegal (.openPair pair.opener pair.closer depth),
      (Fault.openPair pair.opener pair.closer depth).message, c.line⟩,
      ⟨[], c.line + text.count '\n'⟩) := by
  have token := read_opener pair text
  rw [unread] at token
  rw [next, here, token]
  simp only [Lexeme.illegal, count_newline_opener]

/-- The token ends at the same place when characters other than the delimiters are replaced. -/
theorem next_map {f : Char → Char}
    (here : c.rest.dropWhile Lexeme.isSpace = pair.opener :: text)
    (opens : ∀ d, f d = pair.opener ↔ d = pair.opener)
    (closes : ∀ d, f d = pair.closer ↔ d = pair.closer) :
    (next ⟨pair.opener :: text.map f, c.line⟩).1.kind = c.next.1.kind ∧
      (next ⟨pair.opener :: text.map f, c.line⟩).2.rest = c.next.2.rest.map f := by
  have there : (pair.opener :: text.map f).dropWhile Lexeme.isSpace =
      pair.opener :: text.map f := by
    cases pair <;> rfl
  simp only [next, here, there, read_opener, Lexeme.readPair_map opens closes]
  cases Lexeme.readPair pair.opener pair.closer 0 text <;> exact ⟨rfl, rfl⟩

/-- Behind an opener the token takes the one balanced text with a closer behind it, and reading goes
on behind that closer. If there is none, the token takes all of the text and names the number of
openers, its own among them, that are left. On the way the openers less the closers are counted and
never fall below none, and characters other than the two delimiters may be any others. -/
theorem pairs_take_balanced_text (pair : Delimiters) (c : Cursor) (text : List Char)
    (here : c.rest.dropWhile Lexeme.isSpace = pair.opener :: text) :
    (∀ s rest, pair.Encloses text s rest →
      (∀ s' rest', pair.Encloses text s' rest' → s' = s ∧ rest' = rest) ∧
      c.next = (⟨pair.kind, pair.literal s, c.line⟩, ⟨rest, c.line + s.count '\n'⟩) ∧
      ∀ front behind, s = front ++ behind →
        pair.Counts front (behind ++ pair.closer :: rest)) ∧
    ((¬ ∃ s rest, pair.Encloses text s rest) →
      (∃ depth, depth + text.count pair.closer = 1 + text.count pair.opener ∧
        c.next = (⟨.illegal (.openPair pair.opener pair.closer depth),
          (Fault.openPair pair.opener pair.closer depth).message, c.line⟩,
          ⟨[], c.line + text.count '\n'⟩)) ∧
      ∀ front behind, text = front ++ behind → pair.Counts front behind) ∧
    ∀ f : Char → Char, (∀ d, f d = pair.opener ↔ d = pair.opener) →
      (∀ d, f d = pair.closer ↔ d = pair.closer) →
      (next ⟨pair.opener :: text.map f, c.line⟩).1.kind = c.next.1.kind ∧
        (next ⟨pair.opener :: text.map f, c.line⟩).2.rest = c.next.2.rest.map f := by
  refine ⟨fun s rest found => ?_, fun missing => ?_, fun f => next_map here⟩
  · refine ⟨fun _ _ => found.unique, next_of_encloses here found, ?_⟩
    rintro front behind rfl
    have unclosed := (closes_zero_iff.mpr found.balanced).count_le
    exact counts_of_unclosed unclosed ⟨behind, rfl⟩ _
  · cases unread : Lexeme.readPair pair.opener pair.closer 0 text with
    | ok pieces => exact absurd ⟨_, _, readPair_eq_ok_iff.mp unread⟩ missing
    | error depth =>
        obtain ⟨unclosed, count⟩ := Lexeme.unclosed_of_readPair_eq_error pair.distinct unread
        refine ⟨⟨depth, count, next_of_readPair_eq_error here unread⟩, ?_⟩
        rintro front behind rfl
        exact counts_of_unclosed unclosed ⟨behind, rfl⟩ behind

/-- A brace counts inside quotes and behind a backslash too, a bracket does not count among braces,
and one that is left open is reported with everything behind it. -/
theorem quotes_do_not_hide_braces :
    next ⟨['\t', '\x7b', '"', '\x7b', '[', '\\', '\x7d', '\n', '\x7d', 'a'], 1⟩ =
      (⟨.block, "\"\x7b[\\\x7d\n", 1⟩, ⟨['a'], 2⟩) ∧
    ∃ depth, depth + 1 = 1 + 2 ∧
      next ⟨['[', '[', '"', '[', ']', '\x7d'], 1⟩ =
        (⟨.illegal (.openPair '[' ']' depth), (Fault.openPair '[' ']' depth).message, 1⟩,
          ⟨[], 1⟩) := by
  constructor
  · have taken := (pairs_take_balanced_text .braces
      ⟨['\t', '\x7b', '"', '\x7b', '[', '\\', '\x7d', '\n', '\x7d', 'a'], 1⟩ _ rfl).1
      ['"', '\x7b', '[', '\\', '\x7d', '\n'] ['a'] ⟨by decide, rfl⟩
    exact taken.2.1
  · refine ((pairs_take_balanced_text .brackets
      ⟨['[', '[', '"', '[', ']', '\x7d'], 1⟩ _ rfl).2.1 ?_).1
    rintro ⟨s, rest, found⟩
    cases readPair_eq_ok_iff.mpr found

end Cursor

end CommandScript
