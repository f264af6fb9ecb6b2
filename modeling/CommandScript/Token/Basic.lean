namespace CommandScript

/-- Why a stretch of text is no token. -/
inductive Fault where
  | openText
  | openPair (opener closer : Char) (depth : Nat)
  | misplacedSign
  | outOfRange (spelling : String)
  | malformedNumber (spelling : String)
  | unexpectedClose (closer : Char)
deriving DecidableEq, Repr

namespace Fault

def message : Fault → String
  | .openText => "unterminated string"
  | .openPair opener closer depth =>
    s!"unterminated pair {opener}-{closer} depth:{depth}"
  | .misplacedSign => "'-' may only occur at the start of the number"
  | .outOfRange spelling => s!"number out of range: {spelling}"
  | .malformedNumber spelling => s!"invalid number: {spelling}"
  | .unexpectedClose closer => s!"closing '{closer}' without opening one"

end Fault

namespace Token

/-- The kinds of token. A block is text in braces, a bracket is text to evaluate. -/
inductive Kind where
  | word
  | text
  | number
  | variable
  | block
  | bracket
  | semicolon
  | newline
  | finish
  | illegal (fault : Fault)
deriving DecidableEq, Repr

def Kind.label : Kind → String
  | .word => "IDENT"
  | .text => "STRING"
  | .number => "NUMBER"
  | .variable => "VARIABLE"
  | .block => "BLOCK"
  | .bracket => "EVAL"
  | .semicolon => "SEMICOLON"
  | .newline => "NEWLINE"
  | .finish => "EOF"
  | .illegal _ => "ILLEGAL"

end Token

structure Token where
  kind : Token.Kind
  literal : String
  line : Nat
deriving DecidableEq, Repr

namespace Token

/-- Holds of the tokens that end a command. -/
def isTerminator (token : Token) : Bool :=
  match token.kind with
  | .semicolon | .newline | .finish => true
  | _ => false

def fault? (token : Token) : Option (Nat × Fault) :=
  match token.kind with
  | .illegal fault => some (token.line, fault)
  | _ => none

/-- A text shows as itself, any other token with its kind. -/
def display (token : Token) : String :=
  match token.kind with
  | .text => token.literal
  | kind => "token\x7bType:" ++ kind.label ++ " Literal:" ++ token.literal ++ "\x7d"

end Token

end CommandScript
