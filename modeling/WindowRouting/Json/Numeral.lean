/-!
Numerals and the numbers they stand for. A numeral has decimal digits, perhaps a fraction and
perhaps an exponent. It stands for a 32-bit word if it is written as one (`word?`), and for the
number in single precision nearest to it, ties going to the even one, unless that is infinite
(`single?`).

Two kinds of numerals are not rounded as they stand. Of more than 113 digits only the first 113 are
read, and a digit one stands for what follows them; no point half-way between two numbers has more
digits, so this matters only for a whole number with zeros after them. And a whole number below
`-2 ^ 63` but above `-2 ^ 64` is rounded to double precision first.
-/

set_option autoImplicit false
set_option relaxedAutoImplicit false

namespace WindowRouting.Json

/-- A numeral, with its digits from left to right. -/
structure Numeral where
  negative : Bool
  whole : List Nat
  /-- The digits after the point; there are none without a point. -/
  fraction : List Nat
  /-- Whether the exponent is negative, and its digits. -/
  exponent : Option (Bool × List Nat)

namespace Numeral

/-- The number with the decimal digits `ds`. -/
def ofDigits (ds : List Nat) : Nat := ds.foldl (fun n d ↦ 10 * n + d) 0

/-- The numeral has neither a fraction nor an exponent. -/
def isWhole (n : Numeral) : Bool := n.fraction.isEmpty && n.exponent.isNone

/-- The 32-bit word that the numeral is written as. -/
def word? (n : Numeral) : Option UInt32 :=
  if !n.negative && n.isWhole && ofDigits n.whole < UInt32.size then
    some (UInt32.ofNat (ofDigits n.whole))
  else none

/-- The digits of a fraction without the zeros at its end. -/
def shortFraction (n : Numeral) : List Nat := (n.fraction.reverse.dropWhile (· = 0)).reverse

/-- The digits of the numeral, from the first one that is not zero. -/
def significant (n : Numeral) : List Nat := (n.whole ++ n.shortFraction).dropWhile (· = 0)

/-- The number that the exponent stands for. -/
def exponentValue (n : Numeral) : Int :=
  match n.exponent with
  | none => 0
  | some (negative, ds) => if negative then -(ofDigits ds : Int) else ofDigits ds

/-- The number of significant digits that are read. -/
def digitLimit : Nat := 113

/-- The digits that are read and the power of ten they are multiplied by. -/
def decimal (n : Numeral) : List Nat × Int :=
  let ds := n.significant
  let power := n.exponentValue - n.shortFraction.length
  if ds.length ≤ digitLimit then (ds, power)
  else (ds.take digitLimit ++ [1], power + (ds.length - (digitLimit + 1) : Nat))

/-- The number in single precision nearest to the digits `ds`, which do not start with zero, times
ten to the `power`, unless it is infinite. From ten to the 39 on it is infinite, and up to ten to
the -46 it is zero. -/
def nearest? (ds : List Nat) (power : Int) : Option Float32 :=
  if ds.isEmpty || ds.length + power ≤ -46 then some 0
  else if 40 ≤ ds.length + power then none
  else
    let x := Float32.ofScientific (ofDigits ds) (power < 0) power.natAbs
    if x.isInf then none else some x

/-- The numeral is a whole number below `-2 ^ 63` but above `-2 ^ 64`. -/
def isDeep (n : Numeral) : Bool :=
  n.negative && n.isWhole && UInt64.size / 2 < ofDigits n.whole && ofDigits n.whole < UInt64.size

/-- The magnitude of the numeral in single precision. -/
def magnitude? (n : Numeral) : Option Float32 :=
  if n.isDeep then some (UInt64.ofNat (ofDigits n.whole)).toFloat.toFloat32
  else nearest? n.decimal.1 n.decimal.2

/-- The number in single precision that the numeral stands for, unless it is too large. -/
def single? (n : Numeral) : Option Float32 :=
  n.magnitude?.map fun x ↦ if n.negative then -x else x

end Numeral

end WindowRouting.Json
