import CommandScript.Pattern.CharClass

namespace CommandScript.Pattern

/-- A part of a pattern with the number of levels it nests. A change of flags is a part that
cannot be repeated. -/
structure Part where
  tree : Tree
  depth : Nat := 0
  isOperand : Bool := true

/-- What stands around an open group: the alternatives and parts before it, last first, and the
flags in force there. -/
structure Level where
  branches : List Part
  parts : List Part
  flags : Flags

/-- What has been read of a pattern: the alternatives and parts of the innermost open group, the
groups around it and the names of groups. -/
structure Reading where
  flags : Flags := {}
  branches : List Part := []
  parts : List Part := []
  outer : List Level := []
  names : List String := []

namespace Part

def row : List Part → Part
  | [] => { tree := .empty }
  | [part] => part
  | parts =>
    { tree := parts.foldl (fun tree part => .seq part.tree tree) .empty
      depth := parts.foldl (fun depth part => max depth part.depth) 0 + 1 }

def choice : List Part → Part
  | [] => { tree := .empty }
  | [part] => part
  | last :: others =>
    { tree := others.foldl (fun tree part => .either part.tree tree) last.tree
      depth := others.foldl (fun depth part => max depth part.depth) last.depth + 1 }

end Part

namespace Reading

def push (r : Reading) (part : Part) : Reading :=
  { r with parts := part :: r.parts }

def group (r : Reading) : Part :=
  Part.choice (Part.row r.parts :: r.branches)

def openGroup (r : Reading) (flags : Flags) : Reading :=
  { r with
    flags
    branches := []
    parts := []
    outer := ⟨r.branches, r.parts, r.flags⟩ :: r.outer }

def closeGroup (r : Reading) : Except Fault Reading :=
  match r.outer with
  | [] => .error .unopenedGroup
  | level :: outer =>
    let inner := r.group
    .ok { r with
      flags := level.flags
      branches := level.branches
      parts := { tree := inner.tree, depth := inner.depth + 1 } :: level.parts
      outer }

def repeatLast (r : Reading) (least : Nat) (most : Option Nat) : Except Fault Reading :=
  match r.parts with
  | [] => .error .missingOperand
  | part :: parts =>
    if part.isOperand then
      .ok { r with
        parts :=
          { tree := .repetition least most part.tree, depth := part.depth + 1 } :: parts }
    else .error .missingOperand

end Reading

namespace Parse

/-- A question mark behind a repetition changes only which match is preferred. -/
def dropLazy : List Char → List Char
  | '?' :: rest => rest
  | text => text

def readCount (flags : Flags) (text : List Char) : Except Fault Nat × List Char :=
  let (digits, rest) := flags.takeAll Char.isDigit (text.dropWhile Text.isBlank)
  let rest := flags.skip (rest.dropWhile Text.isBlank)
  let value := Nat.ofDigitChars 10 digits 0
  if digits = [] ∨ UInt32.size ≤ value then (.error .repetitionCount, rest) else (.ok value, rest)

/-- Reads the counts of a repetition behind the opening brace: the least, the most if there is
one, and the rest behind the closing brace. -/
def readCounts (flags : Flags) (text : List Char) :
    Except Fault (Nat × Option Nat × List Char) := do
  let (least, rest) := readCount flags (flags.skip text)
  match rest with
  | '\x7d' :: rest =>
    let n ← least
    pure (n, some n, rest)
  | ',' :: rest =>
    match flags.skip rest with
    | '\x7d' :: rest =>
      let n ← least
      pure (n, none, rest)
    | text =>
      let n ← least
      let (most, rest) := readCount flags text
      let m ← most
      match rest with
      | '\x7d' :: rest => if n ≤ m then pure (n, some m, rest) else .error .repetitionCount
      | _ => .error .repetitionCount
  | _ => .error .repetitionCount

def isNameChar (isFirst : Bool) (c : Char) : Bool :=
  let isLetter := Property.alphabetic.contains c
  if isFirst then c == '_' || isLetter
  else
    c == '_' || c == '.' || c == '[' || c == ']' || isLetter ||
      Property.numbers.contains c

def readName (text : List Char) : Except Fault (String × List Char) :=
  let name := text.takeWhile (· != '>')
  match name, text.dropWhile (· != '>') with
  | first :: others, _ :: rest =>
    if isNameChar true first && others.all (isNameChar false) then .ok (String.ofList name, rest)
    else .error .groupName
  | _, _ => .error .groupName

structure FlagLetters where
  flags : Flags
  seen : List Char := []
  isLastDash : Bool := false

def readFlags (letters : FlagLetters) : List Char → Except Fault (FlagLetters × Char × List Char)
  | [] => .error .flags
  | c :: rest =>
    if c = ':' ∨ c = ')' then
      if letters.isLastDash then .error .flags else .ok (letters, c, rest)
    else if letters.seen.contains c then .error .flags
    else if c = '-' then
      readFlags { letters with seen := c :: letters.seen, isLastDash := true } rest
    else
      match letters.flags.set? c (!letters.seen.contains '-') with
      | none => .error .flags
      | some flags =>
        readFlags { flags, seen := c :: letters.seen, isLastDash := false } rest

/-- Opens a named group, unless its name is taken. -/
def openNamed (r : Reading) (text : List Char) : Except Fault (Reading × List Char) := do
  let (name, rest) ← readName text
  if r.names.contains name then .error .repeatedGroupName
  else pure ({ r with names := name :: r.names }.openGroup r.flags, rest)

/-- Reads what stands behind an opening bracket: the start of a group or a change of flags. -/
def readGroup (r : Reading) (text : List Char) : Except Fault (Reading × List Char) :=
  match r.flags.skip text with
  | '?' :: '=' :: _ | '?' :: '!' :: _ | '?' :: '<' :: '=' :: _ | '?' :: '<' :: '!' :: _ =>
    .error .lookAround
  | '?' :: 'P' :: '<' :: rest | '?' :: '<' :: rest => openNamed r rest
  | '?' :: rest => do
    let (letters, close, rest) ← readFlags { flags := r.flags } rest
    if close = ':' then pure (r.openGroup letters.flags, rest)
    else if letters.seen = [] then .error .missingOperand
    else
      pure ({ r with flags := letters.flags }.push { tree := .empty, isOperand := false }, rest)
  | text => .ok (r.openGroup r.flags, text)

def literal (flags : Flags) (c : Char) (hex : Bool) : Except Fault Tree :=
  if !flags.unicode && hex && decide (0x80 ≤ c.toNat) then .error .bytesDisallowed
  else .ok (.one (flags.fold (.singleton c)))

def ofPrimitive (flags : Flags) : Primitive → Except Fault Tree
  | .literal c hex => literal flags c hex
  | .set s => .ok (.one s)
  | .look condition => .ok (.look condition)

def dot (flags : Flags) : Except Fault Tree :=
  if !flags.unicode then .error .bytesDisallowed
  else if flags.dotAll then .ok (.one .all)
  else
    let excluded : CharSet :=
      if flags.mixedLines then ⟨[(10, 10), (13, 13)]⟩ else .singleton '\n'
    .ok (.one (excluded.complement CharSet.lastPoint))

def lineStart (flags : Flags) : Look :=
  if !flags.multiLine then .textStart
  else if flags.mixedLines then .mixedLineStart else .lineStart

def lineEnd (flags : Flags) : Look :=
  if !flags.multiLine then .textEnd
  else if flags.mixedLines then .mixedLineEnd else .lineEnd

def step (r : Reading) (c : Char) (rest : List Char) : Except Fault (Reading × List Char) :=
  match c with
  | '(' => readGroup r rest
  | ')' => do
    let closed ← r.closeGroup
    pure (closed, rest)
  | '|' => .ok ({ r with branches := Part.row r.parts :: r.branches, parts := [] }, rest)
  | '[' => do
    let (inner, rest) ← CharClass.read r.flags rest
    pure (r.push { tree := .one inner.set, depth := inner.depth }, rest)
  | '?' => do
    let changed ← r.repeatLast 0 (some 1)
    pure (changed, dropLazy rest)
  | '*' => do
    let changed ← r.repeatLast 0 none
    pure (changed, dropLazy rest)
  | '+' => do
    let changed ← r.repeatLast 1 none
    pure (changed, dropLazy rest)
  | '\x7b' => do
    let (least, most, rest) ← readCounts r.flags rest
    let changed ← r.repeatLast least most
    pure (changed, dropLazy (r.flags.skip rest))
  | '\\' => do
    let (primitive, rest) ← Primitive.readEscape r.flags rest
    let tree ← ofPrimitive r.flags primitive
    pure (r.push { tree }, rest)
  | '.' => do
    let tree ← dot r.flags
    pure (r.push { tree }, rest)
  | '^' => .ok (r.push { tree := .look (lineStart r.flags) }, rest)
  | '$' => .ok (r.push { tree := .look (lineEnd r.flags) }, rest)
  | c => do
    let tree ← literal r.flags c false
    pure (r.push { tree }, rest)

/-- Reads elements to the end of the text; each takes at least one character. -/
def readAll : Nat → Reading → List Char → Except Fault Reading
  | 0, r, _ => .ok r
  | fuel + 1, r, text =>
    match r.flags.skip text with
    | [] => .ok r
    | c :: rest => do
      let (r, rest) ← step r c rest
      readAll fuel r rest

/-- Patterns that nest more levels are refused. -/
def depthLimit : Nat := 250

end Parse

def parse (pattern : String) : Except Fault Tree := do
  let text := pattern.toList
  let r ← Parse.readAll (text.length + 1) {} text
  if r.outer ≠ [] then .error .unclosedGroup
  else if Parse.depthLimit < r.group.depth then .error .nestedTooDeeply
  else if Tree.costLimit < r.group.tree.cost then .error .tooLarge
  else pure r.group.tree

end CommandScript.Pattern
