import CommandScript.Pattern.Property

namespace CommandScript.Pattern

inductive WordEdge where
  | boundary
  | noBoundary
  | start
  | finish
  | startHalf
  | finishHalf
deriving DecidableEq, Repr

/-- Conditions on the place between two characters. -/
inductive Look where
  | textStart
  | textEnd
  | lineStart
  | lineEnd
  | mixedLineStart
  | mixedLineEnd
  | word (unicode : Bool) (edge : WordEdge)
deriving DecidableEq, Repr

namespace Look

def isWord (unicode : Bool) : Option Char → Bool
  | none => false
  | some c => if unicode then Property.wordCharacters.contains c else c.isAlphanum || c == '_'

def edgeHolds (edge : WordEdge) (before after : Bool) : Bool :=
  match edge with
  | .boundary => before != after
  | .noBoundary => before == after
  | .start => !before && after
  | .finish => before && !after
  | .startHalf => !before
  | .finishHalf => !after

/-- Whether the condition holds between two characters, none standing for an end of the text.
Mixed lines end with a carriage return, a line feed or both in a row. -/
def holds (look : Look) (before after : Option Char) : Bool :=
  match look with
  | .textStart => before.isNone
  | .textEnd => after.isNone
  | .lineStart => before.isNone || before == some '\n'
  | .lineEnd => after.isNone || after == some '\n'
  | .mixedLineStart =>
    before.isNone || before == some '\n' || (before == some '\r' && after != some '\n')
  | .mixedLineEnd =>
    after.isNone || after == some '\r' || (after == some '\n' && before != some '\r')
  | .word unicode edge => edgeHolds edge (isWord unicode before) (isWord unicode after)

end Look

/-- What a pattern asks of a stretch of text. -/
inductive Tree where
  | empty
  | look (condition : Look)
  | one (set : CharSet)
  | seq (first second : Tree)
  | either (first second : Tree)
  | repeated (least : Nat) (most : Option Nat) (body : Tree)
deriving Repr

namespace Tree

/-- Whether a pattern can only match the empty text. -/
def takesNothing : Tree → Bool
  | .empty => true
  | .look _ => true
  | .one _ => false
  | .seq first second => first.takesNothing && second.takesNothing
  | .either first second => first.takesNothing && second.takesNothing
  | .repeated _ most body => most == some 0 || body.takesNothing

/-- Repeats a pattern. One that takes nothing need not be repeated more than once. -/
def repetition (least : Nat) (most : Option Nat) (body : Tree) : Tree :=
  let (least, most) :=
    if body.takesNothing then (min least 1, some (min (most.getD 1) 1)) else (least, most)
  if most = some 0 then .empty
  else if least = 1 ∧ most = some 1 then body
  else .repeated least most body

/-- The bytes that a range of a set takes up in a compiled pattern, roughly: characters of more
than one byte take a chain of states, a wide range of them several chains. -/
def rangeCost (first last : Nat) : Nat :=
  if last < 0x80 then 8
  else if first + 0x800 < last then 290
  else 58

/-- The bytes that a pattern takes up when it is compiled, roughly. -/
def cost : Tree → Nat
  | .empty => 32
  | .look _ => 32
  | .one set => 24 + (set.ranges.map fun (first, last) => rangeCost first last).sum
  | .seq first second => first.cost + second.cost
  | .either first second => first.cost + second.cost + 72
  | .repeated least none body => max least 1 * body.cost + 72
  | .repeated least (some most) body =>
    least * body.cost + (most - least) * (body.cost + 40) + 32

/-- Patterns that take up more bytes are refused. -/
def costLimit : Nat := 10485760

end Tree

end CommandScript.Pattern
