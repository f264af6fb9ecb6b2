import CommandScript.Program
import Mathlib.Data.List.TakeWhile

namespace CommandScript

def Token.down (lines : Nat) (token : Token) : Token :=
  { token with line := token.line + lines }

def Command.down (lines : Nat) (command : Command) : Command :=
  ⟨command.head.down lines, command.arguments.map (Token.down lines)⟩

@[simp] theorem Token.isTerminator_down (lines : Nat) (token : Token) :
    (token.down lines).isTerminator = token.isTerminator := rfl

theorem Token.fault?_down (lines : Nat) (token : Token) :
    (token.down lines).fault? = token.fault?.map fun found => (found.1 + lines, found.2) := by
  obtain ⟨kind, literal, line⟩ := token
  cases kind <;> rfl

theorem Token.findSome?_fault?_down (lines : Nat) (tokens : List Token) :
    (tokens.map (Token.down lines)).findSome? Token.fault? =
      (tokens.findSome? Token.fault?).map fun found => (found.1 + lines, found.2) := by
  induction tokens with
  | nil => rfl
  | cons token rest ih =>
      rw [List.map_cons, List.findSome?_cons, List.findSome?_cons, Token.fault?_down]
      cases token.fault? with
      | none => exact ih
      | some found => rfl

namespace Lexeme

theorem kind_integer (n : Int) (span rest : List Char) :
    (integer n span rest).kind = .number ∨ ∃ fault, (integer n span rest).kind = .illegal fault := by
  unfold integer
  split
  · exact .inl rfl
  · exact .inr ⟨_, rfl⟩

theorem kind_readNumber (text : List Char) :
    (readNumber text).kind = .number ∨ ∃ fault, (readNumber text).kind = .illegal fault := by
  have based : ∀ base isDigit mark text, (readBased base isDigit mark text).kind = .number ∨
      ∃ fault, (readBased base isDigit mark text).kind = .illegal fault := by
    intro base isDigit mark text
    unfold readBased
    dsimp only
    split
    · exact .inr ⟨_, rfl⟩
    · exact kind_integer _ _ _
  unfold readNumber
  split
  · exact based _ _ _ _
  · exact based _ _ _ _
  · unfold readDecimal
    dsimp only
    split
    · exact .inr ⟨_, rfl⟩
    · split
      · split
        · exact .inl rfl
        · exact kind_integer _ _ _
      · exact kind_integer _ _ _

theorem kind_read_ne_finish {text : List Char} (more : text ≠ []) :
    (read text).kind ≠ .finish := by
  cases text with
  | nil => exact absurd rfl more
  | cons c rest =>
      unfold read
      dsimp only
      repeat' split
      · exact nofun
      · exact nofun
      · exact nofun
      · exact nofun
      · unfold readText
        split <;> exact nofun
      · unfold readBracket
        split <;> exact nofun
      · unfold readBlock
        split <;> exact nofun
      · rcases kind_readNumber (c :: rest) with number | ⟨fault, illegal⟩
        · rw [number]
          exact nofun
        · rw [illegal]
          exact nofun
      · exact nofun

end Lexeme

namespace Cursor

variable {c : Cursor}

/-- Nothing but blanks is left. -/
abbrev Blank (c : Cursor) : Prop := c.rest.dropWhile Lexeme.isSpace = []

theorem exists_visible (more : ¬ c.Blank) :
    ∃ d rest, c.rest.dropWhile Lexeme.isSpace = d :: rest ∧ Lexeme.isSpace d = false := by
  obtain ⟨d, rest, here⟩ := List.exists_cons_of_ne_nil more
  have visible := List.head_dropWhile_not Lexeme.isSpace more
  simp only [here, List.head_cons] at visible
  exact ⟨d, rest, here, visible⟩

def lastLine (c : Cursor) : Nat := c.line + c.rest.count '\n'

theorem stream_of_blank (ended : c.Blank) : c.stream = [] := by
  have kind : c.next.1.kind = .finish := by
    simp only [next, ended]
    rfl
  unfold stream tokens
  rw [dif_pos ended]
  simp only [untilFault, kind]

/-- A stream begins with the next token and goes on behind it, unless that token is illegal. -/
theorem stream_of_more (more : ¬ c.Blank) :
    c.stream = c.next.1 :: if c.next.1.fault? = none then c.next.2.stream else [] := by
  have kind : c.next.1.kind ≠ .finish := Lexeme.kind_read_ne_finish more
  rw [stream, tokens, dif_neg more]
  simp only [untilFault]
  split
  · next ended => exact absurd ended kind
  · next fault illegal =>
      have found : c.next.1.fault? ≠ none := by
        simp only [Token.fault?, illegal]
        exact nofun
      rw [if_neg found]
  · next legal =>
      have none : c.next.1.fault? = none := by
        unfold Token.fault?
        split
        · next fault illegal => exact absurd illegal (legal fault)
        · rfl
      rw [if_pos none]
      rfl

def down (lines : Nat) (c : Cursor) : Cursor := ⟨c.rest, c.line + lines⟩

theorem next_down (lines : Nat) (c : Cursor) :
    (c.down lines).next = (c.next.1.down lines, c.next.2.down lines) := by
  simp only [next, down, Token.down, Nat.add_right_comm]

theorem stream_down (lines : Nat) (c : Cursor) :
    (c.down lines).stream = c.stream.map (Token.down lines) := by
  induction c using tokens.induct with
  | case1 c ended =>
      have ended' : (c.down lines).Blank := ended
      rw [stream_of_blank ended, stream_of_blank ended']
      rfl
  | case2 c more following final read ih =>
      have more' : ¬ (c.down lines).Blank := more
      rw [stream_of_more more, stream_of_more more', next_down, Token.fault?_down, ih]
      cases c.next.1.fault? <;> rfl

theorem lastLine_next (c : Cursor) : c.next.2.lastLine = c.lastLine := by
  have skipped : (c.rest.takeWhile Lexeme.isSpace).count '\n' = 0 := by
    refine List.count_eq_zero.mpr fun member => ?_
    exact absurd (List.mem_takeWhile_imp member) (by decide)
  have whole := congrArg (List.count '\n')
    (Lexeme.span_append_rest_read (c.rest.dropWhile Lexeme.isSpace))
  have split := congrArg (List.count '\n')
    (List.takeWhile_append_dropWhile (p := Lexeme.isSpace) (l := c.rest))
  rw [List.count_append] at whole split
  simp only [lastLine, next]
  omega

end Cursor

end CommandScript
