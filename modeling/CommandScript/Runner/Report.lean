import CommandScript.Failure
import CommandScript.Text.Blank
import CommandScript.Text.Integer

namespace CommandScript.Runner

/-- What is printed at the end, and the exit code. -/
structure Report where
  stdout : Option String := none
  stderr : Option String := none
  code : Nat := 0
deriving DecidableEq, Repr

/-- The number that an exit value spells, if it is an integer of 32 bits. -/
def exitNumber? (value : String) : Option Int :=
  (Text.readInteger? (Text.trim value.toList)).filter fun n =>
    decide (-2147483648 ≤ n ∧ n ≤ 2147483647)

/-- The exit code of a number; one that is no exit code counts as 255. -/
def exitCode (n : Int) : Nat :=
  if 0 ≤ n ∧ n ≤ 255 then n.toNat else 255

def printed (value : String) : Option String :=
  if value = "" then none else some value

/-- The name that messages start with. -/
def complaint (message : String) : String :=
  "critical: " ++ message

namespace Report

def ofResult : Except Failure Outcome → Report
  | .ok (.normal value) | .ok (.returned value) => { stdout := printed value }
  | .ok (.exited value) =>
    match exitNumber? value with
    | some n => { code := exitCode n }
    | none => { stdout := printed value }
  | .error cause => { stderr := some (complaint cause.message), code := 1 }

end Report

end CommandScript.Runner
