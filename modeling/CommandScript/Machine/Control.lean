import CommandScript.Machine.Eval
import CommandScript.Number.Decimal

namespace CommandScript.Machine

def choose (run : Evaluator) (test body : String) (otherwise : Option String) : Eval String := do
  let answer ← run.text test
  if isTrue answer then run.text body
  else
    match otherwise with
    | some text => run.text text
    | none => pure ""

/-- Evaluates the second argument when the first is true, else the alternative, if there is
one. -/
def ifElse (run : Evaluator) : List String → Eval String
  | [test, body] => choose run test body none
  | [test, body, word, alternative] =>
    if word = "else" then choose run test body (some alternative)
    else Eval.fail (.expectedElse word)
  | args => Eval.fail (.arity "if" "2 or 4 arguments" args.length)

/-- What a finished body does to a loop: its last value, and whether another round follows. -/
def afterBody (last : String) : Except Signal String → Except Signal (String × Bool)
  | .ok value => .ok (value, true)
  | .error (.leaveLoop value) => .ok (value.getD last, false)
  | .error (.nextRound value) => .ok (value.getD last, true)
  | .error signal => .error signal

/-- Runs the body and then the step while the condition is true. The value is that of the last
round with one. -/
def rounds (run : Evaluator) (condition body : Program) (step : Option Program) :
    Nat → String → Eval String
  | 0, _ => Eval.exhausted
  | fuel + 1, last => do
    Eval.checkInterrupt
    let answer ← run condition
    if isTrue answer then
      let result ← Eval.attempt (run body)
      match afterBody last result with
      | .error signal => Eval.raise signal
      | .ok (value, false) => pure value
      | .ok (value, true) =>
        match step with
        | none => rounds run condition body step fuel value
        | some program => do
          let _ ← run program
          rounds run condition body step fuel value
    else pure last

def loop (fuel : Nat) (run : Evaluator) (condition body : String) (step : Option String) :
    Eval String := do
  let condition ← Eval.ofExcept (Program.parse condition)
  let body ← Eval.ofExcept (Program.parse body)
  match step with
  | none => rounds run condition body none fuel ""
  | some text => do
    let step ← Eval.ofExcept (Program.parse text)
    rounds run condition body (some step) fuel ""

def whileLoop (fuel : Nat) (run : Evaluator) : List String → Eval String
  | [condition, body] => loop fuel run condition body none
  | args => Eval.fail (.arity "while" "2 arguments" args.length)

def forLoop (fuel : Nat) (run : Evaluator) : List String → Eval String
  | [first, condition, step, body] => do
    let _ ← run.text first
    loop fuel run condition body (some step)
  | args => Eval.fail (.arity "for" "4 arguments" args.length)

def leaveLoop : List String → Eval String
  | [] => Eval.raise (.leaveLoop none)
  | args => Eval.fail (.arity "break" "no arguments" args.length)

def continueLoop : List String → Eval String
  | [] => Eval.raise (.nextRound none)
  | args => Eval.fail (.arity "continue" "no arguments" args.length)

def returnValue : List String → Eval String
  | [value] => Eval.raise (.returned value)
  | args => Eval.fail (.arity "return" "1 argument" args.length)

def exitScript : List String → Eval String
  | [value] => Eval.raise (.exited value)
  | args => Eval.fail (.arity "exit" "1 argument" args.length)

/-- Defines a procedure; its parameters are the words of the second argument. -/
def procedure : List String → Eval String
  | [name, params, body] => do
    let made ← Eval.ofExcept
      (Procedure.make ((Text.words params.toList).map String.ofList) body)
    Eval.modifyState (·.define name made)
    pure ""
  | args => Eval.fail (.arity "proc" "3 arguments" args.length)

def evaluate (run : Evaluator) : List String → Eval String
  | [text] => run.text text
  | args => Eval.fail (.arity "eval" "1 argument" args.length)

def putLine : List String → Eval String
  | [line] => do
    Eval.writeLine line
    pure line
  | args => Eval.fail (.arity "puts" "1 argument" args.length)

end CommandScript.Machine
