import CommandScript.Token.Basic
import CommandScript.Pattern.Fault

namespace CommandScript

/-- Why a script cannot go on. -/
inductive Failure where
  | parse (line : Nat) (fault : Fault)
  | arity (command expected : String) (got : Nat)
  | functionArity (name : String) (expected got : Nat)
  | notANumber (text : String)
  | divisionByZero
  | unknownOperation (lhs op rhs : String)
  | unknownCommand (name : String)
  | invalidCommand (text : String)
  | expectedElse (text : String)
  | pattern (fault : Pattern.Fault)
  | output (reason : String)
  | breakOutsideLoop
  | continueOutsideLoop
  | depthExceeded (limit : Nat)
  | interrupted
  | commandsSealed (name : String)
  | within (command : String) (cause : Failure)
deriving DecidableEq, Repr

namespace Failure

def message : Failure → String
  | .parse line fault => s!"line {line}: illegal token: {fault.message}"
  | .arity command expected got => s!"{command} expects {expected}, got {got}"
  | .functionArity name expected got =>
    s!"function argument mismatch, {name} takes {expected} arguments, {got} supplied"
  | .notANumber text => s!"not a number: '{text}'"
  | .divisionByZero => "division by zero"
  | .unknownOperation lhs op rhs => s!"unknown operation {lhs} {op} {rhs}"
  | .unknownCommand name => s!"unknown command '{name}'"
  | .invalidCommand text =>
    "a block cannot be used as a command name: \x7b" ++ text ++ "\x7d"
  | .expectedElse text => s!"expected 'else', got '{text}'"
  | .pattern fault => fault.message
  | .output reason => reason
  | .breakOutsideLoop => "break outside a loop"
  | .continueOutsideLoop => "continue outside a loop"
  | .depthExceeded limit => s!"maximum nesting depth of {limit} exceeded"
  | .interrupted => "interrupted"
  | .commandsSealed name => s!"cannot register builtin '{name}' after evaluation has started"
  | .within command cause => s!"error invoking {command}: {cause.message}"

/-- Names the command that failed. A failure of the whole evaluation stays as it is. -/
def inCommand (name : String) : Failure → Failure
  | .depthExceeded limit => .depthExceeded limit
  | .interrupted => .interrupted
  | cause => .within name cause

/-- The failure without the commands it was named with. -/
def root : Failure → Failure
  | .within _ cause => cause.root
  | cause => cause

end Failure

/-- What can end an evaluation before its last command: a loop, a procedure or the script is
left, or the script fails. The value of the first two is that of the last completed command. -/
inductive Signal where
  | leaveLoop (value : Option String)
  | nextRound (value : Option String)
  | returned (value : String)
  | exited (value : String)
  | failed (cause : Failure)
deriving DecidableEq, Repr

namespace Signal

/-- Gives a signal that leaves or continues a loop a value, if it has none. -/
def stamp (last : String) : Signal → Signal
  | .leaveLoop none => .leaveLoop (some last)
  | .nextRound none => .nextRound (some last)
  | signal => signal

def inCommand (name : String) : Signal → Signal
  | .failed cause => .failed (cause.inCommand name)
  | signal => signal

end Signal

/-- How a script ends without failing. -/
inductive Outcome where
  | normal (value : String)
  | returned (value : String)
  | exited (value : String)
deriving DecidableEq, Repr

namespace Outcome

def value : Outcome → String
  | .normal value | .returned value | .exited value => value

/-- Reads the result of a whole script: no loop is left to leave. -/
def ofResult : Except Signal String → Except Failure Outcome
  | .ok value => .ok (.normal value)
  | .error (.returned value) => .ok (.returned value)
  | .error (.exited value) => .ok (.exited value)
  | .error (.leaveLoop _) => .error .breakOutsideLoop
  | .error (.nextRound _) => .error .continueOutsideLoop
  | .error (.failed cause) => .error cause

end Outcome

end CommandScript
