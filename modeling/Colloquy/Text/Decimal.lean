/-!
# Decimal integers of 64 bits

The integers of a script are those of 64 bits.  They are read from decimal text, written as decimal
text, and computed with through `Int`, where every operation is exact: `ofInt?` is the one place that
decides whether an exact result is still an integer of the script.

## Main definitions

* `ofInt?`: the 64-bit integer of an exact one, if there is one.
* `readInt?`: an optional sign, then one digit or more, and nothing else.
* `readNat?`: the same with a bound from above and no minus sign.
* `write`: decimal text without padding.
-/

namespace Colloquy.Text.Decimal

/-- The 64-bit integer with this exact value, and `none` outside the range. -/
def ofInt? (n : Int) : Option Int64 :=
  if Int64.minValue.toInt ≤ n ∧ n ≤ Int64.maxValue.toInt then some (Int64.ofInt n) else none

theorem ofInt?_eq_some_iff {n : Int} {i : Int64} : ofInt? n = some i ↔ i.toInt = n := by
  unfold ofInt?
  constructor
  · intro h
    split at h
    · next hn =>
      cases h
      have top : n ≤ 9223372036854775807 := hn.2
      exact Int64.toInt_ofInt_of_le hn.1 (by omega)
    · simp at h
  · intro h
    subst h
    rw [if_pos ⟨Int64.minValue_le_toInt i, Int64.toInt_le i⟩, Int64.ofInt_toInt]

/-- Only an exact value outside the 64-bit range is refused. -/
theorem ofInt?_eq_none_iff {n : Int} : ofInt? n = none ↔
    n < Int64.minValue.toInt ∨ Int64.maxValue.toInt < n := by
  unfold ofInt?
  split
  · next hn => simp only [reduceCtorEq, false_iff]; omega
  · next hn => simp only [true_iff]; omega

/-- The value of a run of decimal digits, most significant first, continuing from `acc`; `none` if
some character is not one of the ten ASCII digits. -/
def digitsValue? (acc : Nat) : List Char → Option Nat
  | [] => some acc
  | c :: cs =>
    if c.isDigit then digitsValue? (acc * 10 + (c.toNat - '0'.toNat)) cs else none

/-- The value of a non-empty run of digits. -/
def digits? : List Char → Option Nat
  | [] => none
  | c :: cs => digitsValue? 0 (c :: cs)

/-- The exact integer written as an optional sign and digits. -/
def integer? : List Char → Option Int
  | '-' :: cs => (digits? cs).map fun n => -(n : Int)
  | '+' :: cs => (digits? cs).map fun n => (n : Int)
  | cs => (digits? cs).map fun n => (n : Int)

/-- Reads a 64-bit integer; text around it, even blanks, makes the reading fail. -/
def readInt? (cs : List Char) : Option Int64 := (integer? cs).bind ofInt?

/-- Reads a natural number up to `top`; a plus sign is allowed and a minus sign is not. -/
def readNat? (top : Nat) : List Char → Option Nat
  | '+' :: cs => (digits? cs).filter (· ≤ top)
  | cs => (digits? cs).filter (· ≤ top)

/-- The decimal text of an integer, with a minus sign below zero. -/
def write (i : Int64) : String := toString i.toInt

end Colloquy.Text.Decimal
