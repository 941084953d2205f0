import Colloquy.Text.Decimal

/-!
# Structured data

The values of the data notation: null, truth values, numbers, texts, lists, and objects.  An object keeps
its fields in the order in which they stand, and keeps repeated ones, because readers of a document
refuse repetitions and printers are compared letter by letter.

A number is an integer if it is written as one; a number written with a point or an exponent, or as
minus zero, is real and of no use to any reader here, so it keeps no value.

## Main definitions

* `Json`: the values, with `Json.field?` and `Json.isReadable`.
* `Json.compact`: a value's text without blanks.
-/

namespace Colloquy

/-- A value of the data notation. -/
inductive Json where
  | null
  | bool (truth : Bool)
  | int (value : Int)
  | real
  | str (text : String)
  | list (items : List Json)
  | object (fields : List (String × Json))
  /-- A value that the notation admits and no memory holds: a number beyond all bounds, a text with
  half a character, or something nested too deep.  Only who ignores it gets past it. -/
  | beyond

namespace Json

mutual

/-- Whether the value can be held, down to its last part. -/
def isReadable : Json → Bool
  | list items => areReadable items
  | object fields => haveReadable fields
  | beyond => false
  | _ => true

/-- Whether all values of a list can be held. -/
def areReadable : List Json → Bool
  | [] => true
  | j :: js => j.isReadable && areReadable js

/-- Whether the values of all fields can be held. -/
def haveReadable : List (String × Json) → Bool
  | [] => true
  | (_, j) :: fs => j.isReadable && haveReadable fs

end

/-- The text of a truth value. -/
def ofBool (b : Bool) : Json := bool b

/-- A 64-bit integer as a value. -/
def ofInt64 (i : Int64) : Json := int i.toInt

/-- Null for an absent value. -/
def ofOption {α : Type} (f : α → Json) : Option α → Json
  | some a => f a
  | none => null

/-- The characters that stand for a character between quotes: only what cannot stand there by itself
is written in another way. -/
def escape (c : Char) : List Char :=
  if c = '"' then ['\\', '"']
  else if c = '\\' then ['\\', '\\']
  else if c = '\n' then ['\\', 'n']
  else if c = '\r' then ['\\', 'r']
  else if c = '\t' then ['\\', 't']
  else if c = '\x08' then ['\\', 'b']
  else if c = '\x0c' then ['\\', 'f']
  else if c.toNat < 32 then
    ['\\', 'u', '0', '0', Nat.digitChar (c.toNat / 16), Nat.digitChar (c.toNat % 16)]
  else [c]

/-- A text between quotes. -/
def quoted (s : String) : List Char := '"' :: s.toList.flatMap escape ++ ['"']

mutual

/-- The characters of a value without blanks. -/
def chars : Json → List Char
  | null => ['n', 'u', 'l', 'l']
  | bool b => (if b then "true" else "false").toList
  | int i => (toString i).toList
  | real => ['0', '.', '0']
  | str s => quoted s
  | list items => '[' :: itemChars items ++ [']']
  | object fields => '\x7b' :: fieldChars fields ++ ['\x7d']
  | beyond => ['n', 'u', 'l', 'l']

/-- The characters of items with commas between them. -/
def itemChars : List Json → List Char
  | [] => []
  | [j] => j.chars
  | j :: js => j.chars ++ ',' :: itemChars js

/-- The characters of fields with commas between them. -/
def fieldChars : List (String × Json) → List Char
  | [] => []
  | [(n, j)] => quoted n ++ ':' :: j.chars
  | (n, j) :: fs => quoted n ++ ':' :: j.chars ++ ',' :: fieldChars fs

end

/-- The value's text without blanks. -/
def compact (j : Json) : String := String.ofList j.chars

/-- The text of a text value. -/
def compactText (s : String) : String := String.ofList (quoted s)

end Json

end Colloquy
