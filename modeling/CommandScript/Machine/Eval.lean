import CommandScript.Machine.State

/-! Evaluations: what reads and changes the machine's state and ends with a value or a signal,
unless its fuel runs out. -/

namespace CommandScript

/-- Turns a state into a result and the state behind it, none when the fuel runs out. -/
def Eval (α : Type) : Type :=
  State → Option (Except Signal α × State)

namespace Eval

variable {α β : Type}

@[inline] def ok (a : α) : Eval α := fun s => some (.ok a, s)

/-- Goes on with a value; a signal ends both. -/
@[inline] def andThen (m : Eval α) (f : α → Eval β) : Eval β := fun s =>
  match m s with
  | none => none
  | some (.error signal, s') => some (.error signal, s')
  | some (.ok a, s') => f a s'

instance : Monad Eval where
  pure := ok
  bind := andThen

def exhausted : Eval α := fun _ => none

@[inline] def raise (signal : Signal) : Eval α := fun s => some (.error signal, s)

@[inline] def fail (cause : Failure) : Eval α := raise (.failed cause)

@[inline] def getState : Eval State := fun s => some (.ok s, s)

@[inline] def modifyState (f : State → State) : Eval Unit := fun s => some (.ok (), f s)

@[inline] def ofExcept (r : Except Failure α) : Eval α :=
  match r with
  | .ok a => ok a
  | .error cause => fail cause

/-- Makes the result a value, signals included. -/
@[inline] def attempt (m : Eval α) : Eval (Except Signal α) := fun s =>
  (m s).map fun (r, s') => (.ok r, s')

@[inline] def mapSignal (f : Signal → Signal) (m : Eval α) : Eval α := fun s =>
  (m s).map fun (r, s') => (r.mapError f, s')

def writeLine (line : String) : Eval Unit := fun s =>
  match s.writeLine line with
  | .ok s' => some (.ok (), s')
  | .error cause => some (.error (.failed cause), s)

def checkInterrupt : Eval Unit := fun s =>
  match s.checkInterrupt with
  | .ok () => some (.ok (), s)
  | .error cause => some (.error (.failed cause), s)

end Eval

abbrev Evaluator := Program → Eval String

def Evaluator.text (run : Evaluator) (text : String) : Eval String := do
  let program ← Eval.ofExcept (Program.parse text)
  run program

/-- Runs a program as a whole script; no more builtins are added after it. -/
def Evaluator.script (run : Evaluator) (program : Program) (s : State) :
    Option (Except Failure Outcome × State) :=
  (run program { s with commandsSealed := true }).map fun (r, s') => (Outcome.ofResult r, s')

def Evaluator.source (run : Evaluator) (text : String) (s : State) :
    Option (Except Failure Outcome × State) :=
  match Program.parse text with
  | .error cause => some (.error cause, s)
  | .ok program => run.script program s

end CommandScript
