import CommandScript.Pattern.Escape

namespace CommandScript.Pattern

inductive SetOperator where
  | inter
  | difference
  | symmetricDifference

def SetOperator.apply : SetOperator → CharSet → CharSet → CharSet
  | .inter, s, t => s.inter t
  | .difference, s, t => s.difference t
  | .symmetricDifference, s, t => s.symmetricDifference t

/-- A set with the number of levels it nests. -/
structure NestedSet where
  set : CharSet
  depth : Nat

/-- The items read so far: their union and number, the deepest one, and what stands before an
operator. -/
structure ClassItems where
  set : CharSet := .empty
  count : Nat := 0
  depth : Nat := 0
  before : Option (SetOperator × NestedSet) := none

namespace ClassItems

def add (items : ClassItems) (set : CharSet) (depth : Nat) : ClassItems :=
  { items with
    set := items.set.union set
    count := items.count + 1
    depth := max items.depth depth }

def union (items : ClassItems) : NestedSet :=
  ⟨items.set, if 2 ≤ items.count then items.depth + 1 else items.depth⟩

/-- The items with the operator before them applied. -/
def total (flags : Flags) (items : ClassItems) : NestedSet :=
  match items.before with
  | none => items.union
  | some (operator, left) =>
    ⟨operator.apply (flags.fold left.set) (flags.fold items.set),
      max left.depth items.union.depth + 1⟩

def split (flags : Flags) (items : ClassItems) (operator : SetOperator) : ClassItems :=
  { before := some (operator, items.total flags) }

end ClassItems

namespace CharClass

def literal (flags : Flags) (c : Char) (hex : Bool) : Except Fault Nat :=
  if flags.unicode || decide (c.toNat < 0x80) then .ok c.toNat
  else .error (if hex then .bytesDisallowed else .unicodeDisallowed)

def readItem (flags : Flags) : List Char → Except Fault (Primitive × List Char)
  | [] => .error .unclosedClass
  | '\\' :: rest => Primitive.readEscape flags rest
  | c :: rest => .ok (.literal c false, rest)

def itemSet (flags : Flags) : Primitive → Except Fault CharSet
  | .literal c hex => do
    let n ← literal flags c hex
    pure (.range n n)
  | .set s => .ok s
  | .look _ => .error .classItem

def rangeSet (flags : Flags) : Primitive → Primitive → Except Fault CharSet
  | .literal a hexA, .literal b hexB =>
    if a ≤ b then do
      let first ← literal flags a hexA
      let last ← literal flags b hexB
      pure (.range first last)
    else .error .classRange
  | _, _ => .error .classRange

/-- Reads an item or a range. A dash before the end or before another dash starts no range. -/
def readRange (flags : Flags) (text : List Char) : Except Fault (CharSet × List Char) := do
  let (first, rest) ← readItem flags text
  match flags.skip rest with
  | [] => .error .unclosedClass
  | c :: rest =>
    if c ≠ '-' ∨ flags.peek rest = some ']' ∨ flags.peek rest = some '-' then do
      let set ← itemSet flags first
      pure (set, c :: rest)
    else
      match flags.skip rest with
      | [] => .error .unclosedClass
      | text => do
        let (last, rest) ← readItem flags text
        let set ← rangeSet flags first last
        pure (set, rest)

/-- Reads a named class such as `:alpha:`, behind its bracket; none if this is no such class. -/
def readNamed? (flags : Flags) (text : List Char) :
    Option (Except Fault CharSet × List Char) :=
  match text with
  | ':' :: rest =>
    let (negated, body) : Bool × List Char :=
      match rest with
      | '^' :: body => (true, body)
      | body => (false, body)
    match body.dropWhile (· != ':') with
    | ':' :: ']' :: rest =>
      (Property.asciiClass? (String.ofList (body.takeWhile (· != ':')))).map fun ranges =>
        (flags.negate negated (flags.fold ⟨ranges⟩), rest)
    | _ => none
  | _ => none

def readOpening (flags : Flags) (text : List Char) : Bool × ClassItems × List Char :=
  let (negated, text) : Bool × List Char :=
    match flags.skip text with
    | '^' :: rest => (true, flags.skip rest)
    | text => (false, text)
  let dash : CharSet := .singleton '-'
  match flags.takeAll (· == '-') text with
  | ([], ']' :: rest) =>
    (negated, ClassItems.add {} (.singleton ']') 0, flags.skip rest)
  | (dashes, rest) => (negated, dashes.foldl (fun items _ => items.add dash 0) {}, rest)

mutual

def readClass (flags : Flags) : Nat → List Char → Except Fault (NestedSet × List Char)
  | 0, _ => .error .unclosedClass
  | fuel + 1, text => do
    let (negated, items, rest) := readOpening flags text
    let (inner, rest) ← readItems flags fuel items rest
    let set ← flags.negate negated (flags.fold inner.set)
    pure (⟨set, inner.depth + 1⟩, rest)

def readItems (flags : Flags) : Nat → ClassItems → List Char → Except Fault (NestedSet × List Char)
  | 0, _, _ => .error .unclosedClass
  | fuel + 1, items, text =>
    match flags.skip text with
    | [] => .error .unclosedClass
    | '[' :: rest =>
      match readNamed? flags rest with
      | some (named, rest) => do
        let set ← named
        readItems flags fuel (items.add set 0) rest
      | none => do
        let (inner, rest) ← readClass flags fuel rest
        readItems flags fuel (items.add inner.set inner.depth) rest
    | ']' :: rest => .ok (items.total flags, rest)
    | '&' :: '&' :: rest => readItems flags fuel (items.split flags .inter) rest
    | '-' :: '-' :: rest => readItems flags fuel (items.split flags .difference) rest
    | '~' :: '~' :: rest => readItems flags fuel (items.split flags .symmetricDifference) rest
    | text => do
      let (set, rest) ← readRange flags text
      readItems flags fuel (items.add set 0) rest

end

/-- Reads a class behind its opening bracket; every step takes a character. -/
def read (flags : Flags) (text : List Char) : Except Fault (NestedSet × List Char) :=
  readClass flags (2 * text.length + 2) text

end CharClass

end CommandScript.Pattern
