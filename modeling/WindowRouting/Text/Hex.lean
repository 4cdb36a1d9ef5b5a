/-!
Hexadecimal numerals. Numbers are written with lower-case digits and the mark `0x`; reading takes
the digits after the mark in either case. `number?` also takes one plus sign before the digits, and
refuses an empty numeral.
-/

set_option autoImplicit false
set_option relaxedAutoImplicit false

namespace WindowRouting.Text.Hex

/-- The lower-case digits of `n` without leading zeros; zero is the single digit `0`. -/
def digits (n : Nat) : List Char := Nat.toDigits 16 n

/-- The mark and the digits of `n`. -/
def marked (n : Nat) : List Char := '0' :: 'x' :: digits n

/-- The value of a hexadecimal digit of either case. -/
def digit? (c : Char) : Option Nat :=
  if '0' ≤ c ∧ c ≤ '9' then some (c.toNat - '0'.toNat)
  else if 'a' ≤ c ∧ c ≤ 'f' then some (c.toNat - 'a'.toNat + 10)
  else if 'A' ≤ c ∧ c ≤ 'F' then some (c.toNat - 'A'.toNat + 10)
  else none

/-- The value of the digits `cs` read after a numeral of value `acc`. -/
def value? (acc : Nat) : List Char → Option Nat
  | [] => some acc
  | c :: cs => (digit? c).bind fun d ↦ value? (16 * acc + d) cs

/-- Reads a numeral without its mark: at least one digit, after at most one plus sign. -/
def number? : List Char → Option Nat
  | [] => none
  | '+' :: c :: cs => value? 0 (c :: cs)
  | c :: cs => value? 0 (c :: cs)

end WindowRouting.Text.Hex
