import Colloquy.Text.Decimal
import Colloquy.Text.Quoted
import Colloquy.Text.Trim

/-!
# Script values

What a script's variable can hold: an integer, a text, or nothing.  *Unset* is a value of its own,
apart from zero and from the empty text, and a variable that was never assigned reads as it.

## Main definitions

* `Value`, with `Value.ofText` (an integer wherever the text is one) and `Value.toText`.
* `Value.kindName`: the word that diagnostics use for the kind of value.
-/

namespace Colloquy

open Text

/-- A value that a script's variable can hold. -/
inductive Value where
  | int (value : Int64)
  | str (text : String)
  | unset
  deriving DecidableEq, Inhabited

namespace Value

/-- The integer that the text is apart from blanks around it, and the whole text, blanks included,
where it is none. -/
def ofText (raw : String) : Value :=
  match Decimal.readInt? (trimChars raw.toList) with
  | some i => .int i
  | none => .str raw

/-- The integer, if the value is one. -/
def int? : Value → Option Int64
  | .int i => some i
  | _ => none

/-- The text, if the value is one. -/
def str? : Value → Option String
  | .str s => some s
  | _ => none

/-- Whether the value is the absent one. -/
def isUnset : Value → Bool
  | .unset => true
  | _ => false

/-- The word for the kind of value. -/
def kindName : Value → String
  | .int _ => "integer"
  | .str _ => "string"
  | .unset => "unset"

/-- The value as text; unset is the empty text. -/
def toText : Value → String
  | .int i => Decimal.write i
  | .str s => s
  | .unset => ""

/-- The value as diagnostics show it, with its kind. -/
def inspect : Value → String
  | .int i => "Int(" ++ Decimal.write i ++ ")"
  | .str s => "Str(" ++ quote s ++ ")"
  | .unset => "Unset"

theorem isUnset_iff {v : Value} : v.isUnset = true ↔ v = .unset := by
  cases v <;> simp [isUnset]

end Value

end Colloquy
