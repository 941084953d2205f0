import Colloquy.Json.Token

/-!
# Reading structured data

The value that a text is, if it is one.  Marks have to stand where the notation wants them, down to
parts that nobody will look at.

What is nested deeper than `depthLimit` is a value that cannot be held, and so is an object of which
some name cannot be; a text of well-placed tokens is a value all the same.

## Main definitions

* `Json.ofText?`: the value that a text is.
-/

namespace Colloquy.Json

/-- How many lists and objects may stand within each other. -/
def depthLimit : Nat := 127

/-- A list or an object at its level of nesting, of which the outermost is zero. -/
def atLevel (level : Nat) (j : Json) : Json := if level < depthLimit then j else .beyond

/-- An object, unless some name of it cannot be held. -/
def ofFields (fields : List (Option String × Json)) : Json :=
  match fields.mapM fun f => f.1.map fun name => (name, f.2) with
  | some fields => .object fields
  | none => .beyond

/-- A text, if it can be held. -/
def ofText : Option String → Json
  | some s => .str s
  | none => .beyond

namespace Token

mutual

/-- The value at the front of tokens, and the tokens behind it.  The fuel bounds the tokens looked at
twice over. -/
def value? : Nat → Nat → List Token → Option (Json × List Token)
  | 0, _, _ => none
  | fuel + 1, level, tokens =>
    match tokens with
    | .atom j :: rest => some (j, rest)
    | .text s :: rest => some (ofText s, rest)
    | .openList :: .closeList :: rest => some (atLevel level (.list []), rest)
    | .openList :: rest =>
      (items? fuel (level + 1) rest).map fun read => (atLevel level (.list read.1), read.2)
    | .openObject :: .closeObject :: rest => some (atLevel level (.object []), rest)
    | .openObject :: rest =>
      (fields? fuel (level + 1) rest).map fun read => (atLevel level (ofFields read.1), read.2)
    | _ => none

/-- The items of a list up to its end, of which there is at least one, and the tokens behind it. -/
def items? : Nat → Nat → List Token → Option (List Json × List Token)
  | 0, _, _ => none
  | fuel + 1, level, tokens =>
    match value? fuel level tokens with
    | some (j, .comma :: rest) =>
      (items? fuel level rest).map fun read => (j :: read.1, read.2)
    | some (j, .closeList :: rest) => some ([j], rest)
    | _ => none

/-- The fields of an object up to its end, of which there is at least one, and the tokens behind
it. -/
def fields? : Nat → Nat → List Token → Option (List (Option String × Json) × List Token)
  | 0, _, _ => none
  | fuel + 1, level, tokens =>
    match tokens with
    | .text name :: .colon :: rest =>
      match value? fuel level rest with
      | some (j, .comma :: rest) =>
        (fields? fuel level rest).map fun read => ((name, j) :: read.1, read.2)
      | some (j, .closeObject :: rest) => some ([(name, j)], rest)
      | _ => none
    | _ => none

end

end Token

/-- The value that a text is. -/
def ofText? (text : String) : Option Json := do
  let tokens ← Token.readAll? text.toList
  match Token.value? (2 * tokens.length + 1) 0 tokens with
  | some (j, []) => some j
  | _ => none

example : (ofText? "[1, \x7b\"a\":null\x7d]").map compact = some "[1,\x7b\"a\":null\x7d]" := by
  decide +kernel

example : (ofText? "[1,]").isNone = true ∧ (ofText? "01").isNone = true := by decide +kernel

end Colloquy.Json
