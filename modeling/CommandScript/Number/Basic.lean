import CommandScript.Number.Magnitude

namespace CommandScript

/-- A finite number; zero has two signs. -/
structure Number where
  negative : Bool
  magnitude : Magnitude
deriving DecidableEq

/-- What an operation on finite numbers can yield. -/
inductive Quantity where
  | finite (number : Number)
  | infinite (negative : Bool)
  | undefined
deriving DecidableEq

namespace Quantity

/-- A sign with a rounded magnitude, infinite when the magnitude is too large. -/
def ofRounded (negative : Bool) : Option Magnitude → Quantity
  | some magnitude => .finite ⟨negative, magnitude⟩
  | none => .infinite negative

def ofPattern (bits : Nat) : Quantity :=
  let negative := bits / Nat.pow 2 63 % 2 == 1
  let exponent := bits / Nat.pow 2 52 % Nat.pow 2 11
  let fraction := bits % Nat.pow 2 52
  if exponent = 2047 then
    if fraction = 0 then .infinite negative else .undefined
  else if exponent = 0 then ofRounded negative (Magnitude.nearest? fraction 1)
  else
    ofRounded negative
      (Magnitude.nearest? ((Nat.pow 2 52 + fraction) * Nat.pow 2 (exponent - 1)) 1)

end Quantity

namespace Number

/-- The exact value in units. -/
def value (n : Number) : Int :=
  if n.negative then -(n.magnitude.units : Int) else n.magnitude.units

def zero : Number := ⟨false, Magnitude.zero⟩

def isZero (n : Number) : Bool :=
  n.magnitude.units == 0

def neg (n : Number) : Number :=
  ⟨!n.negative, n.magnitude⟩

/-- Encodes the number in the 64-bit interchange format. -/
def pattern (n : Number) : Nat :=
  n.magnitude.pattern + if n.negative then Nat.pow 2 63 else 0

/-- Rounds the exact sum; a zero sum is negative only for two negative operands. -/
def add (a b : Number) : Quantity :=
  let sum := a.value + b.value
  let negative := if sum = 0 then a.negative && b.negative else decide (sum < 0)
  Quantity.ofRounded negative (Magnitude.nearest? sum.natAbs 1)

def sub (a b : Number) : Quantity :=
  a.add b.neg

def mul (a b : Number) : Quantity :=
  Quantity.ofRounded (a.negative != b.negative)
    (Magnitude.nearest? (a.magnitude.units * b.magnitude.units) Magnitude.one)

def div (a b : Number) : Quantity :=
  Quantity.ofRounded (a.negative != b.negative)
    (Magnitude.nearest? (a.magnitude.units * Magnitude.one) b.magnitude.units)

/-- The remainder of the quotient cut toward zero, with the sign of the first number. -/
def rem (a b : Number) : Quantity :=
  Quantity.ofRounded a.negative (Magnitude.nearest? (a.magnitude.units % b.magnitude.units) 1)

/-- Compares exact values, so the two zeros are equal. -/
def compare (a b : Number) : Ordering :=
  Ord.compare a.value b.value

end Number

end CommandScript
