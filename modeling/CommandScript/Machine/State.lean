import CommandScript.Machine.Host
import CommandScript.Program
import CommandScript.Scopes

namespace CommandScript

structure Procedure where
  params : List String
  body : String
  program : Program

def Procedure.make (params : List String) (body : String) : Except Failure Procedure :=
  (Program.parse body).map fun program => ⟨params, body, program⟩

inductive Builtin where
  | append
  | comment
  | continueLoop
  | decrement
  | environment
  | evaluate
  | exitScript
  | expression
  | forLoop
  | ifElse
  | increment
  | leaveLoop
  | matchPattern
  | procedure
  | putLine
  | returnValue
  | set
  | unset
  | whileLoop
  | host (act : List String → HostStep)

namespace Builtin

def standard : Table Builtin := .ofList [
  ("#", .comment),
  ("//", .comment),
  ("append", .append),
  ("break", .leaveLoop),
  ("continue", .continueLoop),
  ("decr", .decrement),
  ("env", .environment),
  ("eval", .evaluate),
  ("exit", .exitScript),
  ("expr", .expression),
  ("for", .forLoop),
  ("if", .ifElse),
  ("incr", .increment),
  ("proc", .procedure),
  ("puts", .putLine),
  ("regexp", .matchPattern),
  ("return", .returnValue),
  ("set", .set),
  ("unset", .unset),
  ("while", .whileLoop)]

end Builtin

/-- Where written lines go. -/
inductive Sink where
  | console
  | capture
  | writer
  | failing (reason : String)
deriving DecidableEq

structure Output where
  sink : Sink := .console
  lines : Array String := #[]

namespace Output

def writeLine (o : Output) (line : String) : Except Failure Output :=
  match o.sink with
  | .failing reason => .error (.output reason)
  | _ => .ok { o with lines := o.lines.push line }

def text (o : Output) : String :=
  o.lines.foldl (fun text line => text ++ line ++ "\n") ""

end Output

/-- A flag that stops evaluation while it is raised, once the machine watches it. -/
structure Interrupt where
  watched : Bool := false
  raised : Bool := false
deriving DecidableEq

/-- The machine between two commands. -/
structure State where
  program : Program
  builtins : Table Builtin
  commandsSealed : Bool := false
  procedures : Table Procedure := {}
  scopes : Scopes := .empty
  output : Output := {}
  interrupt : Interrupt := {}
  depth : Nat := 0
  maxDepth : Nat := 1000
  environment : Table String := {}

namespace State

/-- A machine at rest, ready to run a script. -/
def make (builtins : Table Builtin) (source : String) : Except Failure State :=
  (Program.parse source).map fun program => { program, builtins }

/-- Adds a builtin; refused once a script has been run. -/
def register (s : State) (name : String) (builtin : Builtin) : Except Failure State :=
  if s.commandsSealed then .error (.commandsSealed name)
  else .ok { s with builtins := s.builtins.insert name builtin }

def valueOf? (s : State) (name : String) : Option String :=
  s.scopes.get? name

def setVariable (s : State) (name value : String) : State :=
  { s with scopes := s.scopes.set name value }

def unsetVariable (s : State) (name : String) : State :=
  { s with scopes := s.scopes.clear name }

def define (s : State) (name : String) (procedure : Procedure) : State :=
  { s with procedures := s.procedures.insert name procedure }

def openSink (s : State) (sink : Sink) : State :=
  { s with output := { sink } }

/-- The captured lines, which the machine forgets. -/
def takeOutput (s : State) : List String × State :=
  match s.output.sink with
  | .capture => (s.output.lines.toList, { s with output := { s.output with lines := #[] } })
  | _ => ([], s)

def writeLine (s : State) (line : String) : Except Failure State :=
  (s.output.writeLine line).map fun output => { s with output }

def checkInterrupt (s : State) : Except Failure Unit :=
  if s.interrupt.watched && s.interrupt.raised then .error .interrupted else .ok ()

end State

end CommandScript
