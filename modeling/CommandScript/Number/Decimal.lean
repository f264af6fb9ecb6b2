import CommandScript.Number.Basic
import CommandScript.Text.Blank
import CommandScript.Text.Integer

/-! Decimal text of numbers: reading rounds to the nearest number, printing is exact for integers
and keeps six decimals otherwise. -/

namespace CommandScript

structure Numeral where
  negative : Bool
  digits : List Char
  exponent : Int

namespace Numeral

/-- Reads a sign, digits with an optional point among or beside them, and an optional power of
ten. -/
def read? (text : List Char) : Option Numeral :=
  let (negative, body) := Text.splitSign text
  let whole := body.takeWhile Char.isDigit
  let (fraction, rest) :=
    match body.dropWhile Char.isDigit with
    | '.' :: more => (more.takeWhile Char.isDigit, more.dropWhile Char.isDigit)
    | more => ([], more)
  let digits := whole ++ fraction
  if digits = [] then none
  else
    match rest with
    | [] => some ⟨negative, digits, -fraction.length⟩
    | c :: more =>
      if c = 'e' ∨ c = 'E' then
        (Text.readInteger? more).map fun exponent => ⟨negative, digits, exponent - fraction.length⟩
      else none

/-- Any numeral other than zero with a larger exponent is beyond the largest magnitude. -/
def largestExponent : Nat := 400

/-- The magnitude nearest to the numeral. Exponents far outside the range are settled without
computing the power of ten. -/
def magnitude? (n : Numeral) : Option Magnitude :=
  let significand := Nat.ofDigitChars 10 n.digits 0
  if significand = 0 then some Magnitude.zero
  else
    match n.exponent with
    | .ofNat e =>
      if largestExponent < e then none
      else Magnitude.nearest? (significand * Nat.pow 10 e * Magnitude.one) 1
    | .negSucc e =>
      if n.digits.length + largestExponent < e + 1 then some Magnitude.zero
      else Magnitude.nearest? (significand * Magnitude.one) (Nat.pow 10 (e + 1))

end Numeral

namespace Number

/-- Reads a numeral between blanks; none when it is no numeral or its value is not finite. -/
def read? (text : String) : Option Number :=
  (Numeral.read? (Text.trim text.toList)).bind fun numeral =>
    numeral.magnitude?.map fun magnitude => ⟨numeral.negative, magnitude⟩

/-- Integers below this magnitude are printed without decimals. -/
def integerBound : Nat := 9200000000000000000

def printsAsInteger (n : Number) : Bool :=
  n.magnitude.units % Magnitude.one == 0 && decide (n.magnitude.units < integerBound * Magnitude.one)

/-- A minus sign before the digits of a negative number. -/
def signed (negative : Bool) (digits : List Char) : List Char :=
  if negative then '-' :: digits else digits

def padded (width n : Nat) : List Char :=
  let digits := Nat.toDigits 10 n
  List.replicate (width - digits.length) '0' ++ digits

/-- Rounds to six decimals, a half going to the even neighbour. -/
def printDecimals (n : Number) : List Char :=
  let millionths := roundQuotient (n.magnitude.units * 1000000) Magnitude.one
  signed n.negative
    (Nat.toDigits 10 (millionths / 1000000) ++ '.' :: padded 6 (millionths % 1000000))

/-- Prints an integer value; zero has no sign. -/
def printInteger (n : Number) : List Char :=
  let whole := n.magnitude.units / Magnitude.one
  signed (n.negative && whole != 0) (Nat.toDigits 10 whole)

def print (n : Number) : String :=
  String.ofList (if n.printsAsInteger then n.printInteger else n.printDecimals)

end Number

/-- Prints an integer below the bound as such, any other number with six decimals. -/
def Quantity.print : Quantity → String
  | .finite n => n.print
  | .infinite negative => if negative then "-inf" else "inf"
  | .undefined => "NaN"

/-- Holds of every text but the empty one and `0`. -/
def isTrue (text : String) : Bool :=
  text != "" && text != "0"

def truthText (b : Bool) : String :=
  if b then "1" else "0"

end CommandScript
