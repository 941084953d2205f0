import Colloquy.Json
import Colloquy.Text.Decimal

/-!
# Numbers as they are written

A number is a sign, digits before and behind a point, and an exponent.  Its size is not the exact one but
that of a float: as many leading digits as fit into 64 bits are taken as one float, the power of ten
that is left over as another, and the size is their product.  So two roundings come before the product,
and they decide whether a number next to the largest float is still a number.

## Main definitions

* `Numeral`: a number as it is written, with `Numeral.read?` and `Numeral.value`.
* `Numeral.significand`: the leading digits and the power of ten that they are multiplied by.
* `nearestFloat`: rounding to 53 binary digits.
* `Numeral.isHuge`: whether the size is beyond the largest float.
-/

namespace Colloquy.Json

open Text

/-- A number as it is written: its sign, the digits before and behind the point, and the exponent. -/
structure Numeral where
  negative : Bool
  whole : List Char
  fraction : List Char
  exponent : Int
  /-- Whether there is neither a point nor an exponent. -/
  plain : Bool

/-! ## Size -/

/-- The value of `n` and the digits behind it as far as they fit into 64 bits, and the digits that do
not. -/
def takeDigits (n : Nat) : List Char → Nat × List Char
  | [] => (n, [])
  | d :: ds =>
    let longer := 10 * n + (d.toNat - '0'.toNat)
    if longer < UInt64.size then takeDigits longer ds else (n, d :: ds)

/-- The nearest number with at most 53 binary digits before its zeros; of two that are equally near, the
one whose last of these digits is even. -/
def nearestFloat (n : Nat) : Nat :=
  let excess := n.log2 - 52
  let unit := 1 <<< excess
  let left := n % unit
  let below := n - left
  if unit < 2 * left ∨ (2 * left = unit ∧ below / unit % 2 = 1) then below + unit else below

/-- What is rounded up to a power of two that no float has: the largest float and half of what its last
binary digit is worth. -/
def ceiling : Nat := 1 <<< 1024 - 1 <<< 970

/-- The largest power of ten that is a float. -/
def largestPower : Int := 308

namespace Numeral

/-- The value of the leading digits, and the power of ten to multiply it by.  Digits before the point
that are not taken raise the power; digits behind the point lower it if they are taken. -/
def significand (n : Numeral) : Nat × Int :=
  let (whole, left) := takeDigits 0 n.whole
  let (all, unused) := takeDigits whole n.fraction
  (all, n.exponent + left.length - (n.fraction.length - unused.length))

/-- Whether the number is larger than every float. -/
def isHuge (n : Numeral) : Bool :=
  let (digits, power) := n.significand
  if digits = 0 ∨ power < 0 then false
  else if largestPower < power then true
  else ceiling ≤ nearestFloat digits * nearestFloat (Nat.pow 10 power.toNat)

/-- The value of digits; other characters do not come here. -/
def digitsValue (ds : List Char) : Nat := (Decimal.digitsValue? 0 ds).getD 0

/-- The value of the number. -/
def value (n : Numeral) : Json :=
  if n.isHuge then .beyond
  else
    let whole := digitsValue n.whole
    if n.plain && !(n.negative && whole == 0) then
      .int (if n.negative then -(whole : Int) else whole)
    else .real

/-! ## Reading -/

/-- A run of at least one digit, and what follows it. -/
def run? (cs : List Char) : Option (List Char × List Char) :=
  match cs.takeWhile Char.isDigit with
  | [] => none
  | ds => some (ds, cs.dropWhile Char.isDigit)

/-- The digits behind a point, if there is one, and what follows. -/
def fraction? : List Char → Option (List Char × List Char)
  | '.' :: cs => run? cs
  | cs => some ([], cs)

/-- The exponent, if there is one, and what follows. -/
def exponent? : List Char → Option (Int × List Char)
  | c :: cs =>
    if c = 'e' ∨ c = 'E' then
      match cs with
      | '-' :: cs => (run? cs).map fun r => (-(digitsValue r.1 : Int), r.2)
      | '+' :: cs => (run? cs).map fun r => ((digitsValue r.1 : Int), r.2)
      | cs => (run? cs).map fun r => ((digitsValue r.1 : Int), r.2)
    else some (0, c :: cs)
  | [] => some (0, [])

/-- The number at the front of a text, and what follows it.  No digit precedes a zero at its front. -/
def read? (cs : List Char) : Option (Numeral × List Char) := do
  let (negative, unsigned) :=
    match cs with
    | '-' :: cs => (true, cs)
    | cs => (false, cs)
  let (whole, behind) ← run? unsigned
  if whole.head? = some '0' ∧ whole.length ≠ 1 then none
  let (fraction, afterPoint) ← fraction? behind
  let (exponent, rest) ← exponent? afterPoint
  return (⟨negative, whole, fraction, exponent, behind.length = rest.length⟩, rest)

end Numeral

example : (Numeral.read? "17976931348623158e292".toList).map (·.1.isHuge) = some true := by
  decide +kernel

example : (Numeral.read? "179769313486231581e291".toList).map (·.1.isHuge) = some false := by
  decide +kernel

example : (Numeral.read? "0e309".toList).map (·.1.isHuge) = some false := by decide +kernel

end Colloquy.Json
