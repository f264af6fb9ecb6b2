import CommandScript.Failure

namespace CommandScript

/-- What a host command does next. Each request comes with what the command does with the
answer. -/
inductive HostStep where
  | finish (result : Except Signal String)
  | evaluate (text : String) (resume : Except Signal String → HostStep)
  | evaluateSource (text : String) (resume : Except Failure Outcome → HostStep)
  | readVariable (name : String) (resume : Option String → HostStep)
  | setVariable (name value : String) (resume : HostStep)
  | unsetVariable (name : String) (resume : Option String → HostStep)
  | writeLine (line : String) (resume : Except Failure Unit → HostStep)
  | define (name : String) (params : List String) (body : String)
      (resume : Except Failure Unit → HostStep)
  | limitDepth (depth : Nat) (resume : HostStep)
  | raiseInterrupt (resume : HostStep)

end CommandScript
