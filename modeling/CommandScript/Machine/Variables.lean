import CommandScript.Machine.Eval
import CommandScript.Number.Decimal

namespace CommandScript.Machine

/-- Reads a variable, nothing for an unbound one, or assigns it. -/
def set : List String → Eval String
  | [name] => do
    let s ← Eval.getState
    pure ((s.valueOf? name).getD "")
  | [name, value] => do
    Eval.modifyState (·.setVariable name value)
    pure value
  | args => Eval.fail (.arity "set" "1 or 2 arguments" args.length)

def unset : List String → Eval String
  | [name] => do
    Eval.modifyState (·.unsetVariable name)
    pure ""
  | args => Eval.fail (.arity "unset" "1 argument" args.length)

/-- Assigns a variable its value followed by the other arguments. -/
def append : List String → Eval String
  | name :: pieces => do
    let s ← Eval.getState
    let value := pieces.foldl (· ++ ·) ((s.valueOf? name).getD "")
    Eval.modifyState (·.setVariable name value)
    pure value
  | [] => Eval.fail (.arity "append" "at least 1 argument" 0)

def readNumber (text : String) : Except Failure Number :=
  match Number.read? text with
  | some n => .ok n
  | none => .error (.notANumber text)

/-- The number of a variable; an unbound or empty one counts as zero. -/
def currentNumber (value : Option String) : Except Failure Number :=
  match value with
  | none | some "" => .ok Number.zero
  | some text => readNumber text

def unitStep : Except Failure Number := readNumber "1"

def adjust (operation : Number → Number → Quantity) (name : String)
    (step : Except Failure Number) : Eval String := do
  let s ← Eval.getState
  let current ← Eval.ofExcept (currentNumber (s.valueOf? name))
  let amount ← Eval.ofExcept step
  let value := (operation current amount).print
  Eval.modifyState (·.setVariable name value)
  pure value

def increment : List String → Eval String
  | [name] => adjust Number.add name unitStep
  | [name, step] => adjust Number.add name (readNumber step)
  | args => Eval.fail (.arity "incr" "1 or 2 arguments" args.length)

def decrement : List String → Eval String
  | [name] => adjust Number.sub name unitStep
  | [name, step] => adjust Number.sub name (readNumber step)
  | args => Eval.fail (.arity "decr" "1 or 2 arguments" args.length)

/-- Reads a variable of the surrounding process, nothing for one that is not set. -/
def environment : List String → Eval String
  | [name] => do
    let s ← Eval.getState
    pure ((s.environment.get? name).getD "")
  | args => Eval.fail (.arity "env" "1 argument" args.length)

end CommandScript.Machine
