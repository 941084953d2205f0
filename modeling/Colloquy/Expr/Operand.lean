import Colloquy.Expr.Token
import Colloquy.Value

/-!
# What an expression yields

The values inside an expression are those of a script and the two truth values.  A truth value that
leaves the expression for a variable becomes one or zero.

Two operands of the same kind compare as their kind does; of different kinds they compare as texts.
Unset compares with itself only.
-/

namespace Colloquy.Expr

open Text

/-- A value inside an expression. -/
inductive Operand where
  | int (value : Int64)
  | str (text : String)
  | bool (truth : Bool)
  | unset
  deriving DecidableEq, Inhabited

namespace Operand

/-- A script value inside an expression. -/
def ofValue : Value → Operand
  | .int i => .int i
  | .str s => .str s
  | .unset => .unset

/-- The script value that is stored; truth is one and falsehood is zero. -/
def toValue : Operand → Value
  | int i => .int i
  | str s => .str s
  | bool b => .int (if b then 1 else 0)
  | unset => .unset

/-- Whether a condition with this value holds: zero, the empty text, falsehood and unset do not. -/
def truthy : Operand → Bool
  | int i => i ≠ 0
  | str s => s ≠ ""
  | bool b => b
  | unset => false

/-- The word for a truth value. -/
def truthText (b : Bool) : String := if b then "true" else "false"

/-- The operand as text. -/
def text : Operand → String
  | int i => Decimal.write i
  | str s => s
  | bool b => truthText b
  | unset => ""

/-- The operand as diagnostics show it, with its kind. -/
def inspect : Operand → String
  | int i => "Int(" ++ Decimal.write i ++ ")"
  | str s => "Str(" ++ quote s ++ ")"
  | bool b => "Bool(" ++ truthText b ++ ")"
  | unset => "Unset"

/-- The word that the kind of the operand is known by. -/
def kindName : Operand → String
  | int _ => "int"
  | str _ => "str"
  | bool _ => "bool"
  | unset => "unset"

theorem toValue_ofValue (v : Value) : (ofValue v).toValue = v := by
  cases v <;> rfl

/-- The order of texts by code points. -/
def orderText (s t : String) : Ordering :=
  if s < t then .lt else if s = t then .eq else .gt

/-- The order of integers. -/
def orderInt (i j : Int64) : Ordering :=
  if i.toInt < j.toInt then .lt else if i = j then .eq else .gt

/-- Falsehood comes before truth. -/
def orderBool : Bool → Bool → Ordering
  | false, true => .lt
  | true, false => .gt
  | _, _ => .eq

/-- How two operands stand to each other; `none` if only one of them is unset. -/
def order? : Operand → Operand → Option Ordering
  | unset, unset => some .eq
  | unset, _ => none
  | _, unset => none
  | int i, int j => some (orderInt i j)
  | bool b, bool c => some (orderBool b c)
  | x, y => some (orderText x.text y.text)

/-- Whether a comparison holds between two operands that stand to each other as `order?` says.
Operands without an order differ, and no other comparison holds between them. -/
def Comparison.holds (s : Symbol) : Option Ordering → Bool
  | none => s = .ne
  | some o =>
    match s with
    | .eq2 | .eq => o = .eq
    | .ne => o ≠ .eq
    | .lt => o = .lt
    | .le => o ≠ .gt
    | .gt => o = .gt
    | .ge => o ≠ .lt
    | _ => false

/-- Whether the comparison written with the symbol holds. -/
def compares (s : Symbol) (x y : Operand) : Bool := Comparison.holds s (order? x y)

end Operand

end Colloquy.Expr
