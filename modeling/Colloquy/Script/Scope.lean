import Colloquy.Document
import Colloquy.Expr.Eval
import Colloquy.Table

/-!
# Names in a script

A script's text refers to variables, to the game by way of providers, and to what its document says
about the things in focus.  A scope holds all three.

The focus is a stack of nodes, the narrowest first.  It is empty exactly as long as nothing is loaded.

## Main definitions

* `Scope`, with `Scope.value`, `Scope.resolve` and `Scope.noun`.
* `Scope.evaluate`: the value of an expression.
-/

namespace Colloquy

open Text

/-- Answers for the dotted names that begin with one word, given all parts of a name. -/
abbrev Provider := List String → Except Fault String

/-- What the names in a script stand for. -/
structure Scope where
  store : Table Value
  providers : Table Provider
  /-- The nodes in focus, innermost first. -/
  focus : List Node

namespace Scope

/-- The scope of a script to which nothing has happened yet. -/
def initial : Scope := ⟨.empty, .empty, []⟩

/-- The value of a variable, which is unset if it was never assigned. -/
def value (s : Scope) (name : String) : Value := (s.store.get? name).getD .unset

/-- The scope with a variable assigned. -/
def assign (s : Scope) (name : String) (v : Value) : Scope :=
  { s with store := s.store.insert name v }

/-- The scope with a variable as if never assigned. -/
def forget (s : Scope) (name : String) : Scope :=
  { s with store := s.store.erase name }

theorem value_assign (s : Scope) (m name : String) (v : Value) :
    (s.assign name v).value m = if m = name then v else s.value m := by
  unfold value assign
  rw [Table.get?_insert]
  split <;> rfl

theorem value_forget (s : Scope) (m name : String) :
    (s.forget name).value m = if m = name then .unset else s.value m := by
  unfold value forget
  rw [Table.get?_erase]
  split <;> rfl

/-- The text behind a dotted name: the provider of its first part answers for all of it. -/
def resolve (s : Scope) (parts : List String) : Except Fault String :=
  let qualifier := parts.headD ""
  match s.providers.get? qualifier with
  | some provider => provider parts
  | none => .error (.noProvider qualifier (joinWith "." parts))

/-- What a node itself says of a noun: an attribute, or the text of the first child of that name. -/
def nounAt? (noun : String) (n : Node) : Option String :=
  match n.attribute? noun with
  | some text => some text
  | none => (n.findChild? noun).map fun child => trim child.content

/-- What the nodes in focus say of a noun; the innermost that says anything has the word. -/
def noun (s : Scope) (noun : String) : Except Fault String :=
  if s.focus.isEmpty then .error .notLoaded
  else match s.focus.findSome? (nounAt? noun) with
    | some text => .ok text
    | none => .error (.unknownNoun noun)

/-- What the names in an expression stand for. -/
def setting (s : Scope) : Expr.Setting := ⟨s.value, s.resolve⟩

/-- The value of an expression. -/
def evaluate (s : Scope) (text : String) : Except Fault Expr.Operand :=
  Expr.evaluate s.setting text

/-- The integer that a variable holds. -/
def int? (s : Scope) (name : String) : Except Fault Int64 :=
  match s.value name with
  | .int i => .ok i
  | other => .error (.variableKind name other.kindName "integer")

/-- The text that a variable holds. -/
def str? (s : Scope) (name : String) : Except Fault String :=
  match s.value name with
  | .str text => .ok text
  | other => .error (.variableKind name other.kindName "string")

end Scope

end Colloquy
