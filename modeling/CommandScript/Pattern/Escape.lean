import CommandScript.Pattern.Flags
import CommandScript.Token.Lexeme

namespace CommandScript.Pattern

/-- The smallest parts of a pattern. A literal written as two hexadecimal digits can mean a
byte. -/
inductive Primitive where
  | literal (c : Char) (hex : Bool)
  | set (s : CharSet)
  | look (condition : Look)

namespace Primitive

def ofPoint (n : Nat) : Except Fault Char :=
  if n.isValidChar then .ok (Char.ofNat n) else .error .codePoint

def hexValue (digits : List Char) : Nat :=
  Lexeme.digitsValue 16 digits

def readBraced (flags : Flags) (text : List Char) : Except Fault (Primitive × List Char) :=
  match flags.takeAll (· != '\x7d') (flags.skip text) with
  | (_, []) => .error .escape
  | (digits, _ :: rest) =>
    if digits ≠ [] ∧ digits.all Lexeme.isHexDigit then do
      let c ← ofPoint (hexValue digits)
      pure (.literal c false, flags.skip rest)
    else .error .escape

def readHex (flags : Flags) (width : Nat) (text : List Char) :
    Except Fault (Primitive × List Char) :=
  match flags.skip text with
  | '\x7b' :: rest => readBraced flags rest
  | text =>
    let (digits, rest) := flags.takeRun Lexeme.isHexDigit width text
    if digits.length = width then do
      let c ← ofPoint (hexValue digits)
      pure (.literal c (width == 2), rest)
    else .error .escape

def splitAt? (mark : List Char) : List Char → Option (List Char × List Char)
  | [] => none
  | c :: rest =>
    if mark.isPrefixOf (c :: rest) then some ([], (c :: rest).drop mark.length)
    else (splitAt? mark rest).map fun (front, back) => (c :: front, back)

def property? (name : List Char) : Option (CharSet × Bool) :=
  match splitAt? ['!', '='] name, splitAt? [':'] name, splitAt? ['='] name with
  | some (property, value), _, _ =>
    (Property.valued? (String.ofList property) (String.ofList value)).map (·, true)
  | none, some (property, value), _ =>
    (Property.valued? (String.ofList property) (String.ofList value)).map (·, false)
  | none, none, some (property, value) =>
    (Property.valued? (String.ofList property) (String.ofList value)).map (·, false)
  | none, none, none => (Property.named? (String.ofList name)).map (·, false)

def ofProperty (flags : Flags) (negated : Bool) (name : List Char) : Except Fault Primitive :=
  if !flags.unicode then .error .unicodeDisallowed
  else
    match property? name with
    | none => .error .unknownProperty
    | some (members, inverse) =>
      (flags.negate (negated != inverse) (flags.fold members)).map .set

def readProperty (flags : Flags) (negated : Bool) (text : List Char) :
    Except Fault (Primitive × List Char) :=
  match flags.skip text with
  | [] => .error .escape
  | '\x7b' :: rest =>
    match flags.takeAll (· != '\x7d') (flags.skip rest) with
    | (_, []) => .error .escape
    | (name, _ :: rest) => (ofProperty flags negated name).map (·, rest)
  | c :: rest =>
    if c = '\\' then .error .unknownProperty
    else (ofProperty flags negated [c]).map (·, flags.skip rest)

def ofLetter (flags : Flags) (letter : Char) (negated : Bool) : Except Fault Primitive :=
  let members :=
    match letter, flags.unicode with
    | 'd', true => Property.digits
    | 's', true => Property.whiteSpace
    | 'w', true => Property.wordCharacters
    | 'd', false => ⟨(Property.asciiClass? "digit").getD []⟩
    | 's', false => ⟨(Property.asciiClass? "space").getD []⟩
    | _, _ => ⟨(Property.asciiClass? "word").getD []⟩
  (flags.negate negated members).map .set

def isEdgeChar (c : Char) : Bool :=
  c.isAlpha || c == '-'

def readEdge? (flags : Flags) (text : List Char) :
    Except Fault (Option (WordEdge × List Char)) :=
  match text with
  | '\x7b' :: inner =>
    match flags.skip inner with
    | [] => .error .wordBoundary
    | c :: rest =>
      if isEdgeChar c then
        match flags.takeAll isEdgeChar (c :: rest) with
        | (name, '\x7d' :: rest) =>
          match String.ofList name with
          | "start" => .ok (some (.start, rest))
          | "end" => .ok (some (.finish, rest))
          | "start-half" => .ok (some (.startHalf, rest))
          | "end-half" => .ok (some (.finishHalf, rest))
          | _ => .error .wordBoundary
        | _ => .error .wordBoundary
      else .ok none
  | _ => .ok none

def isMeta (c : Char) : Bool :=
  ['\\', '.', '+', '*', '?', '(', ')', '|', '[', ']', '\x7b', '\x7d', '^', '$', '#', '&', '-',
    '~'].contains c

def isEscapable (c : Char) : Bool :=
  isMeta c || (decide (c.toNat < 0x80) && !c.isAlphanum && c != '<' && c != '>')

def control? : Char → Option Char
  | 'a' => some '\x07'
  | 'f' => some '\x0c'
  | 't' => some '\t'
  | 'n' => some '\n'
  | 'r' => some '\r'
  | 'v' => some '\x0b'
  | _ => none

def readEscape (flags : Flags) : List Char → Except Fault (Primitive × List Char)
  | [] => .error .escape
  | c :: rest =>
    let edge (e : WordEdge) (rest : List Char) : Except Fault (Primitive × List Char) :=
      .ok (.look (.word flags.unicode e), rest)
    if c.isDigit then .error .backReference
    else if isEscapable c then .ok (.literal c false, rest)
    else
      match c with
      | 'x' => readHex flags 2 rest
      | 'u' => readHex flags 4 rest
      | 'U' => readHex flags 8 rest
      | 'p' => readProperty flags false rest
      | 'P' => readProperty flags true rest
      | 'd' => (ofLetter flags 'd' false).map (·, rest)
      | 's' => (ofLetter flags 's' false).map (·, rest)
      | 'w' => (ofLetter flags 'w' false).map (·, rest)
      | 'D' => (ofLetter flags 'd' true).map (·, rest)
      | 'S' => (ofLetter flags 's' true).map (·, rest)
      | 'W' => (ofLetter flags 'w' true).map (·, rest)
      | 'A' => .ok (.look .textStart, rest)
      | 'z' => .ok (.look .textEnd, rest)
      | 'B' => edge .noBoundary rest
      | '<' => edge .start rest
      | '>' => edge .finish rest
      | 'b' => do
        match ← readEdge? flags rest with
        | some (e, rest) => edge e rest
        | none => edge .boundary rest
      | c =>
        match control? c with
        | some control => .ok (.literal control false, rest)
        | none => .error .escape

end Primitive

end CommandScript.Pattern
