import CommandScript.Expansion.Bracket
import CommandScript.Machine.Control
import CommandScript.Machine.Expression

/-! Running commands and programs. Every level of nesting takes one unit of fuel, and so does
every round of a loop. -/

namespace CommandScript

namespace HostStep

def run (evaluator : Evaluator) : HostStep → Eval String
  | .finish (.ok value), s => some (.ok value, s)
  | .finish (.error signal), s => some (.error signal, s)
  | .evaluate text resume, s =>
    match evaluator.text text s with
    | none => none
    | some (result, s') => (resume result).run evaluator s'
  | .evaluateSource text resume, s =>
    match evaluator.source text s with
    | none => none
    | some (result, s') => (resume result).run evaluator s'
  | .readVariable name resume, s => (resume (s.valueOf? name)).run evaluator s
  | .setVariable name value resume, s => resume.run evaluator (s.setVariable name value)
  | .unsetVariable name resume, s =>
    (resume (s.valueOf? name)).run evaluator (s.unsetVariable name)
  | .writeLine line resume, s =>
    match s.writeLine line with
    | .ok s' => (resume (.ok ())).run evaluator s'
    | .error cause => (resume (.error cause)).run evaluator s
  | .define name params body resume, s =>
    match Procedure.make params body with
    | .ok made => (resume (.ok ())).run evaluator (s.define name made)
    | .error cause => (resume (.error cause)).run evaluator s
  | .limitDepth depth resume, s => resume.run evaluator { s with maxDepth := depth }
  | .raiseInterrupt resume, s =>
    resume.run evaluator { s with interrupt := { s.interrupt with raised := true } }

end HostStep

namespace Machine

def invoke (fuel : Nat) (run : Evaluator) (builtin : Builtin) (args : List String) :
    Eval String :=
  match builtin with
  | .append => append args
  | .comment => pure ""
  | .continueLoop => continueLoop args
  | .decrement => decrement args
  | .environment => environment args
  | .evaluate => evaluate run args
  | .exitScript => exitScript args
  | .expression => expression args
  | .forLoop => forLoop fuel run args
  | .ifElse => ifElse run args
  | .increment => increment args
  | .leaveLoop => leaveLoop args
  | .matchPattern => matchPattern args
  | .procedure => procedure args
  | .putLine => putLine args
  | .returnValue => returnValue args
  | .set => set args
  | .unset => unset args
  | .whileLoop => whileLoop fuel run args
  | .host act => (act args).run run

def callResult : Except Signal String → Except Signal String
  | .ok value => .ok value
  | .error (.returned value) => .ok value
  | .error (.leaveLoop _) => .error (.failed .breakOutsideLoop)
  | .error (.nextRound _) => .error (.failed .continueOutsideLoop)
  | .error signal => .error signal

def bindParams (scopes : Scopes) (params args : List String) : Scopes :=
  (params.zip args).foldl (fun scopes (param, arg) => scopes.setLocal param arg) scopes

def call (run : Evaluator) (name : String) (procedure : Procedure) (args : List String) :
    Eval String := fun s =>
  if args.length = procedure.params.length then
    let entered := { s with scopes := bindParams s.scopes.push procedure.params args }
    match run procedure.program entered with
    | none => none
    | some (result, s') => some (callResult result, { s' with scopes := s'.scopes.pop })
  else
    Eval.fail (.functionArity name procedure.params.length args.length) s

def expandWord (run : Evaluator) (text : String) : Eval String := do
  let s ← Eval.getState
  Expansion.expand s.valueOf? run.text text

def commandName (run : Evaluator) (head : Token) : Eval String :=
  match head.kind with
  | .variable | .bracket => expandWord run head.literal
  | .block => Eval.fail (.invalidCommand head.literal)
  | _ => pure head.literal

/-- The argument that a token stands for: a block is taken as written. -/
def argument (run : Evaluator) (token : Token) : Eval String :=
  match token.kind with
  | .block => pure token.literal
  | _ => expandWord run token.literal

def arguments (run : Evaluator) : List Token → Eval (List String)
  | [] => pure []
  | token :: rest => do
    let first ← argument run token
    let others ← arguments run rest
    pure (first :: others)

/-- Whether a head token alone is a value when it names no command. -/
def isLiteral (head : Token) : Bool :=
  match head.kind with
  | .text | .number | .variable | .bracket => true
  | _ => false

def dispatch (fuel : Nat) (run : Evaluator) (head : Token) (name : String) (args : List String) :
    Eval String := do
  let s ← Eval.getState
  match s.builtins.get? name, s.procedures.get? name with
  | some builtin, _ => Eval.mapSignal (Signal.inCommand name) (invoke fuel run builtin args)
  | none, some procedure => call run name procedure args
  | none, none =>
    if isLiteral head && args.isEmpty then pure name else Eval.fail (.unknownCommand name)

/-- Runs one command: its name and arguments are expanded from left to right. -/
def execute (fuel : Nat) (run : Evaluator) (command : Command) : Eval String := do
  let name ← commandName run command.head
  let args ← arguments run command.arguments
  dispatch fuel run command.head name args

/-- Gives a signal the value of the last completed command, if there is one. -/
def stampLast (last : Option String) (signal : Signal) : Signal :=
  match last with
  | some value => signal.stamp value
  | none => signal

def sequence (execute : Command → Eval String) (last : Option String) : Program → Eval String
  | [] => pure (last.getD "")
  | command :: rest => do
    Eval.checkInterrupt
    let value ← Eval.mapSignal (stampLast last) (execute command)
    sequence execute (some value) rest

/-- Goes one level down, unless that passes the limit. -/
def nested (m : Eval String) : Eval String := fun s =>
  if s.maxDepth ≤ s.depth then Eval.fail (.depthExceeded s.maxDepth) s
  else
    match m { s with depth := s.depth + 1 } with
    | none => none
    | some (result, s') => some (result, { s' with depth := s'.depth - 1 })

def run : Nat → Evaluator
  | 0 => fun _ => Eval.exhausted
  | fuel + 1 => fun program => nested (sequence (execute fuel (run fuel)) none program)

/-- Calls a builtin as a command would, without naming it in failures. -/
def callBuiltin (fuel : Nat) (builtin : Builtin) (args : List String) : Eval String :=
  invoke fuel (run fuel) builtin args

/-- Reads and runs a text in the current scope. -/
def evaluateText (fuel : Nat) (text : String) : Eval String :=
  Evaluator.text (run fuel) text

/-- Runs the machine's own program from the start. -/
def evaluateProgram (fuel : Nat) (s : State) : Option (Except Failure Outcome × State) :=
  Evaluator.script (run fuel) s.program s

def evaluateSource (fuel : Nat) (text : String) (s : State) :
    Option (Except Failure Outcome × State) :=
  Evaluator.source (run fuel) text s

end Machine

end CommandScript
