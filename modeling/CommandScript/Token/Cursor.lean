import CommandScript.Token.Lexeme

namespace CommandScript

structure Cursor where
  rest : List Char
  line : Nat
deriving DecidableEq

namespace Cursor

def start (text : String) : Cursor := ⟨text.toList, 1⟩

/-- Skips blanks and reads one token; at the end of the text the place stays the same. -/
def next (c : Cursor) : Token × Cursor :=
  let lexeme := Lexeme.read (c.rest.dropWhile Lexeme.isSpace)
  (⟨lexeme.kind, lexeme.literal, c.line⟩, ⟨lexeme.rest, c.line + lexeme.span.count '\n'⟩)

theorem length_dropWhile_le (p : Char → Bool) (text : List Char) :
    (text.dropWhile p).length ≤ text.length :=
  (List.dropWhile_suffix p).length_le

theorem length_rest_next_lt {c : Cursor} (more : c.rest.dropWhile Lexeme.isSpace ≠ []) :
    c.next.2.rest.length < c.rest.length := by
  have bound := length_dropWhile_le Lexeme.isSpace c.rest
  have visible := List.head_dropWhile_not Lexeme.isSpace more
  unfold next
  generalize c.rest.dropWhile Lexeme.isSpace = text at *
  cases text with
  | nil => contradiction
  | cons d rest => exact Nat.lt_of_lt_of_le (Lexeme.length_rest_read_lt visible) bound

/-- All tokens to the end of the text, which comes last, with the place behind them. Reading
goes on after an illegal token. -/
def tokens (c : Cursor) : List Token × Cursor :=
  if _ended : c.rest.dropWhile Lexeme.isSpace = [] then ([c.next.1], c.next.2)
  else
    let (more, final) := tokens c.next.2
    (c.next.1 :: more, final)
termination_by c.rest.length
decreasing_by exact length_rest_next_lt _ended

/-- The tokens before the end of the text, the first illegal one being the last. -/
def untilFault : List Token → List Token
  | [] => []
  | token :: rest =>
    match token.kind with
    | .finish => []
    | .illegal _ => [token]
    | _ => token :: untilFault rest

/-- The tokens of a text as a reader takes them: it stops at an illegal token. -/
def stream (c : Cursor) : List Token :=
  untilFault c.tokens.1

end Cursor

/-- A reader hands out the tokens of a text one by one. It has no place any more once it has handed
out an illegal one. -/
structure Reader where
  place? : Option Cursor
deriving DecidableEq

namespace Reader

def start (text : String) : Reader := ⟨some (.start text)⟩

/-- The next token, unless the text is at its end or an illegal token has come before. -/
def next (r : Reader) : Option Token × Reader :=
  match r.place? with
  | none => (none, r)
  | some c =>
    let (token, behind) := c.next
    match token.kind with
    | .finish => (none, ⟨some behind⟩)
    | .illegal _ => (some token, ⟨none⟩)
    | _ => (some token, ⟨some behind⟩)

end Reader

end CommandScript
