import Colloquy.Expr.Lexeme
import Colloquy.Expr.Tree
import Colloquy.Fault

/-!
# The value of an expression

A tree is evaluated from left to right and every operand of it once, those of `&&` and `||` too, so
the first failure in reading order is the one that is reported.  Arithmetic is exact: a result is the
integer of exact arithmetic or, where that is beyond 64 bits, a failure.

## Main definitions

* `Expr.Setting`: what variables and dotted names stand for.
* `Expr.arithmetic`: one arithmetic operation on two operands.
* `Expr.eval`: the value of a tree.
* `Expr.evaluateTokens`: the value of a list of tokens.
* `Expr.evaluate`: the value of a text.
-/

namespace Colloquy.Expr

open Text

/-- What an expression can refer to. -/
structure Setting where
  /-- The value of a variable; a name that was never assigned has the value unset. -/
  valueOf : String → Value
  /-- The text behind a dotted name, given by its parts. -/
  resolve : List String → Except Fault String

/-- The exact result of an arithmetic symbol on integers; a quotient is rounded toward zero. -/
def exactResult (s : Symbol) (i j : Int) : Int :=
  match s with
  | .plus => i + j
  | .minus => i - j
  | .times => i * j
  | _ => i.tdiv j

/-- The result of an arithmetic symbol on two operands, which have to be integers. -/
def arithmetic (s : Symbol) (x y : Operand) : Except Problem Operand :=
  match x, y with
  | .int i, .int j =>
    if s = .slash ∧ j = 0 then .error .zeroDivisor
    else match Decimal.ofInt? (exactResult s i.toInt j.toInt) with
      | some k => .ok (.int k)
      | none => .error .overflow
  | x, y => .error (.notIntegers s x y)

/-- The result of the symbol between two operands. -/
def combine (s : Symbol) (x y : Operand) : Except Problem Operand :=
  match s with
  | .or => .ok (.bool (x.truthy || y.truthy))
  | .and => .ok (.bool (x.truthy && y.truthy))
  | .plus | .minus | .times | .slash => arithmetic s x y
  | _ => .ok (.bool (x.compares s y))

/-- The result of the symbol in front of an operand.  A plus or minus sign works as if zero stood in
front of it. -/
def applySign (s : Symbol) (x : Operand) : Except Problem Operand :=
  match s with
  | .not => .ok (.bool (!x.truthy))
  | .minus => arithmetic .minus (.int 0) x
  | _ => arithmetic .plus (.int 0) x

/-- The value of a word: a truth value by its name, what a dotted name stands for, and else the word
itself. -/
def wordValue (setting : Setting) (word : String) : Except Fault Operand :=
  if word.toList.contains '.' then do
    let text ← setting.resolve (splitOn '.' word)
    return .ofValue (Value.ofText text)
  else if word = "true" then .ok (.bool true)
  else if word = "false" then .ok (.bool false)
  else .ok (.str word)

/-- The value of a tree read from `text`, which is quoted where it has none. -/
def eval (setting : Setting) (text : String) : Expr → Except Fault Operand
  | int i => .ok (.int i)
  | str s => .ok (.str s)
  | var name => .ok (.ofValue (setting.valueOf name))
  | word s => wordValue setting s
  | sign s e => do
    let x ← eval setting text e
    (applySign s x).mapError (.expression text)
  | binary s l r => do
    let x ← eval setting text l
    let y ← eval setting text r
    (combine s x y).mapError (.expression text)
  | missing reason => .error (.expression text (.malformed reason))
  | broken e reason => do
    let _ ← eval setting text e
    .error (.expression text (.malformed reason))

/-- The value of the expression that the tokens of `text` are. -/
def evaluateTokens (setting : Setting) (text : String) : List Token → Except Fault Operand
  | [] => .error (.expression text (.malformed .empty))
  | tokens => eval setting text (ofTokens tokens)

/-- The value of the expression that the text is. -/
def evaluate (setting : Setting) (text : String) : Except Fault Operand :=
  match Token.readAll text.toList with
  | .error reason => .error (.expression text (.malformed reason))
  | .ok tokens => evaluateTokens setting text tokens

/-- A tree with a malformed place never has a value. -/
theorem eval_ne_ok_of_not_isWhole (setting : Setting) (text : String) {e : Expr}
    (h : e.isWhole = false) (x : Operand) : eval setting text e ≠ .ok x := by
  induction e generalizing x with
  | int | str | var | word => simp [isWhole] at h
  | sign s e ih =>
    intro hx
    cases he : eval setting text e with
    | error f => simp [eval, he, bind, Except.bind] at hx
    | ok y => exact ih (by simpa [isWhole] using h) y he
  | binary s l r ihl ihr =>
    intro hx
    simp only [isWhole, Bool.and_eq_false_iff] at h
    cases hl : eval setting text l with
    | error f => simp [eval, hl, bind, Except.bind] at hx
    | ok y =>
      cases hr : eval setting text r with
      | error f => simp [eval, hl, hr, bind, Except.bind] at hx
      | ok z => exact h.elim (fun h => ihl h y hl) (fun h => ihr h z hr)
  | missing reason => simp [eval]
  | broken e reason ih =>
    intro hx
    cases he : eval setting text e <;> simp [eval, he, bind, Except.bind] at hx

end Colloquy.Expr
