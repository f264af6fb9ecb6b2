import CommandScript.Failure
import CommandScript.Token.Cursor

namespace CommandScript

structure Command where
  head : Token
  arguments : List Token
deriving DecidableEq, Repr

abbrev Program := List Command

namespace Program

def takeCommand : List Token → List Token × List Token
  | [] => ([], [])
  | token :: rest =>
    if token.isTerminator then ([], rest)
    else
      let (run, more) := takeCommand rest
      (token :: run, more)

theorem length_takeCommand_le (tokens : List Token) :
    (takeCommand tokens).2.length ≤ tokens.length := by
  induction tokens with
  | nil => exact Nat.le_refl _
  | cons token rest ih =>
    unfold takeCommand
    split
    · exact Nat.le_succ _
    · exact Nat.le_succ_of_le ih

/-- Groups tokens into commands; terminators without a command between them are skipped. -/
def ofTokens : List Token → Program
  | [] => []
  | token :: rest =>
    if token.isTerminator then ofTokens rest
    else ⟨token, (takeCommand rest).1⟩ :: ofTokens (takeCommand rest).2
termination_by tokens => tokens.length
decreasing_by
  · exact Nat.lt_succ_self _
  · exact Nat.lt_succ_of_le (length_takeCommand_le rest)

/-- Reads a script; the first illegal token fails it. -/
def parse (text : String) : Except Failure Program :=
  let tokens := (Cursor.start text).stream
  match tokens.findSome? Token.fault? with
  | some (line, fault) => .error (.parse line fault)
  | none => .ok (ofTokens tokens)

end Program

end CommandScript
