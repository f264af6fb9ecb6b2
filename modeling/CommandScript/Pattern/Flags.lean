import CommandScript.Pattern.Fault
import CommandScript.Pattern.Tree
import CommandScript.Text.Blank

namespace CommandScript.Pattern

structure Flags where
  ignoreCase : Bool := false
  multiLine : Bool := false
  dotAll : Bool := false
  swapGreed : Bool := false
  unicode : Bool := true
  mixedLines : Bool := false
  ignoreSpace : Bool := false
deriving DecidableEq, Repr

namespace Flags

def set? (flags : Flags) (letter : Char) (on : Bool) : Option Flags :=
  match letter with
  | 'i' => some { flags with ignoreCase := on }
  | 'm' => some { flags with multiLine := on }
  | 's' => some { flags with dotAll := on }
  | 'U' => some { flags with swapGreed := on }
  | 'u' => some { flags with unicode := on }
  | 'R' => some { flags with mixedLines := on }
  | 'x' => some { flags with ignoreSpace := on }
  | _ => none

/-- Drops blanks and comments, which go from a number sign to the end of the line. -/
def dropComments (inComment : Bool) : List Char → List Char
  | [] => []
  | c :: rest =>
    if inComment then dropComments (c != '\n') rest
    else if Text.isBlank c then dropComments false rest
    else if c = '#' then dropComments true rest
    else c :: rest

/-- Drops what has no meaning here. -/
def skip (flags : Flags) (text : List Char) : List Char :=
  if flags.ignoreSpace then dropComments false text else text

/-- The next character with a meaning, as far as one can tell without leaving a comment. -/
def peek (flags : Flags) (text : List Char) : Option Char :=
  if flags.ignoreSpace then
    ((text.dropWhile fun c => Text.isBlank c || c == '#')).head?
  else text.head?

/-- Takes up to `limit` characters with a property, skipping what has no meaning behind each. -/
def takeRun (flags : Flags) (wanted : Char → Bool) : Nat → List Char → List Char × List Char
  | limit + 1, c :: rest =>
    if wanted c then
      let (run, more) := takeRun flags wanted limit (flags.skip rest)
      (c :: run, more)
    else ([], c :: rest)
  | _, text => ([], text)

def takeAll (flags : Flags) (wanted : Char → Bool) (text : List Char) : List Char × List Char :=
  flags.takeRun wanted text.length text

def fold (flags : Flags) (set : CharSet) : CharSet :=
  if !flags.ignoreCase then set
  else if flags.unicode then set.foldCase
  else set.foldAsciiCase

/-- Refuses a set with members of more than one byte where bytes are meant. -/
def checked (flags : Flags) (set : CharSet) : Except Fault CharSet :=
  if flags.unicode || set.isAscii then .ok set else .error .bytesDisallowed

/-- Negates a set: where bytes are meant, that adds members of more than one byte. -/
def negate (flags : Flags) (negated : Bool) (set : CharSet) : Except Fault CharSet :=
  if !negated then flags.checked set
  else if flags.unicode then .ok (set.complement CharSet.lastPoint)
  else flags.checked (set.complement 0xFF)

end Flags

end CommandScript.Pattern
