import CommandScript.Pattern.Data.Folding

namespace CommandScript.Pattern

/-- Ranges of code points with both ends included, in order and apart from each other. -/
structure CharSet where
  ranges : List (Nat × Nat)
deriving DecidableEq, Repr

namespace CharSet

def lastPoint : Nat := 0x10FFFF

def empty : CharSet := ⟨[]⟩

def all : CharSet := ⟨[(0, lastPoint)]⟩

def member (s : CharSet) (n : Nat) : Bool :=
  s.ranges.any fun (first, last) => decide (first ≤ n ∧ n ≤ last)

def contains (s : CharSet) (c : Char) : Bool :=
  s.member c.toNat

def joinRanges : List (Nat × Nat) → List (Nat × Nat)
  | [] => []
  | [range] => [range]
  | (a, b) :: (c, d) :: rest =>
    if c ≤ b + 1 then joinRanges ((a, max b d) :: rest)
    else (a, b) :: joinRanges ((c, d) :: rest)
termination_by ranges => ranges.length

def ofRanges (ranges : List (Nat × Nat)) : CharSet :=
  ⟨joinRanges (ranges.mergeSort fun x y => decide (x.1 ≤ y.1))⟩

def range (first last : Nat) : CharSet := ⟨[(first, last)]⟩

def singleton (c : Char) : CharSet := range c.toNat c.toNat

def union (s t : CharSet) : CharSet :=
  ofRanges (s.ranges ++ t.ranges)

def gaps (top : Nat) (first : Nat) : List (Nat × Nat) → List (Nat × Nat)
  | [] => if first ≤ top then [(first, top)] else []
  | (a, b) :: rest =>
    if first < a then (first, a - 1) :: gaps top (b + 1) rest else gaps top (b + 1) rest

def complement (s : CharSet) (top : Nat) : CharSet :=
  ⟨gaps top 0 s.ranges⟩

def inter (s t : CharSet) : CharSet :=
  ((s.complement lastPoint).union (t.complement lastPoint)).complement lastPoint

def difference (s t : CharSet) : CharSet :=
  s.inter (t.complement lastPoint)

def symmetricDifference (s t : CharSet) : CharSet :=
  (s.union t).difference (s.inter t)

def isAscii (s : CharSet) : Bool :=
  s.ranges.all fun (_, last) => decide (last < 0x80)

def readNat (digits : String) : Nat :=
  digits.toNat?.getD 0

/-- Reads ranges such as `48-57 95`. -/
def ofText (lines : List String) : CharSet :=
  ofRanges ((lines.flatMap (·.splitOn " ")).filterMap fun item =>
    match item.splitOn "-" with
    | [point] => point.toNat?.map fun n => (n, n)
    | [first, last] => some (readNat first, readNat last)
    | _ => none)

/-- Characters that differ only in case, each beside the smallest one of them. -/
def casePairs : List (Nat × Nat) :=
  (Data.foldingRuns.flatMap (·.splitOn " ")).flatMap fun item =>
    match (item.splitOn ":").map readNat with
    | [first, count, stride, distance] =>
      (List.range count).map fun i => (first + i * stride, first + i * stride + distance)
    | _ => []

def foldCase (s : CharSet) : CharSet :=
  let smallest := casePairs.filterMap fun (a, b) =>
    if s.member a || s.member b then some (a, a) else none
  let roots := ofRanges smallest
  let others := casePairs.filterMap fun (a, b) => if roots.member a then some (b, b) else none
  ofRanges (s.ranges ++ smallest ++ others)

def caseDistance : Nat := 32

def foldAsciiCase (s : CharSet) : CharSet :=
  let upper := (s.inter (range 0x41 0x5A)).ranges.map fun (a, b) =>
    (a + caseDistance, b + caseDistance)
  let lower := (s.inter (range 0x61 0x7A)).ranges.map fun (a, b) =>
    (a - caseDistance, b - caseDistance)
  ofRanges (s.ranges ++ upper ++ lower)

end CharSet

end CommandScript.Pattern
