import Colloquy.Json

/-!
# Reading records from structured data

A record has named fields in a fixed order.  It is written as an object, whose fields may come in any
order, or as the list of its values in the order of the record.

## Main definitions

* `Presence`, `Record`: what a record demands of its fields.
* `Record.fields?`: the values of a record's fields by name.
* `Json.str?`, `Json.int?`, `Json.nat?`, `Json.items?`, `Json.nullOr?`, `Json.named?`: values of one kind.
-/

namespace Colloquy.Json

/-- The text that the value is. -/
def str? : Json → Option String
  | str s => some s
  | _ => none

/-- The truth value that the value is. -/
def bool? : Json → Option Bool
  | bool b => some b
  | _ => none

/-- The 64-bit integer that the value is. -/
def int? : Json → Option Int64
  | int i => Text.Decimal.ofInt? i
  | _ => none

/-- The natural number up to `top` that the value is. -/
def nat? (top : Nat) : Json → Option Nat
  | int i => if 0 ≤ i ∧ i.toNat ≤ top then some i.toNat else none
  | _ => none

/-- The list of values of one kind that the value is. -/
def items? {α : Type} (read : Json → Option α) : Json → Option (List α)
  | list items => items.mapM read
  | _ => none

/-- Nothing for null, and else a value of one kind. -/
def nullOr? {α : Type} (read : Json → Option α) : Json → Option (Option α)
  | null => some none
  | j => (read j).map some

/-- One of several things with names: its name, or an object with the name and null. -/
def named? {α : Type} (ofName? : String → Option α) : Json → Option α
  | str name => ofName? name
  | object [(name, null)] => ofName? name
  | _ => none

/-- Where a field of a record has to be present. -/
inductive Presence where
  /-- In objects and lists. -/
  | always
  /-- In lists. -/
  | inLists
  | nowhere
  deriving DecidableEq

/-- What a record demands. -/
structure Record where
  fields : List (String × Presence)
  /-- Whether an object may have other fields, which are ignored. -/
  lenient : Bool

namespace Record

/-- The values that have a name, and those that have not. -/
def split (name : String) (fs : List (String × Json)) : List Json × List (String × Json) :=
  ((fs.filter (·.1 == name)).map (·.2), fs.filter (·.1 != name))

/-- The fields of an object: each at most once. -/
def ofObject? (lenient : Bool) :
    List (String × Presence) → List (String × Json) → Option (List (String × Json))
  | [], fs => if lenient || fs.isEmpty then some [] else none
  | (name, presence) :: rules, fs =>
    let (own, others) := split name fs
    match own with
    | [] => if presence = .always then none else ofObject? lenient rules others
    | [j] => (ofObject? lenient rules others).map ((name, j) :: ·)
    | _ => none

/-- The fields of a list: each in its place. -/
def ofList? : List (String × Presence) → List Json → Option (List (String × Json))
  | [], [] => some []
  | [], _ :: _ => none
  | (name, _) :: rules, j :: js => (ofList? rules js).map ((name, j) :: ·)
  | (_, presence) :: rules, [] => if presence = .nowhere then ofList? rules [] else none

/-- The values of the record's fields by name. -/
def fields? (r : Record) : Json → Option (List (String × Json))
  | object fs => ofObject? r.lenient r.fields fs
  | list js => ofList? r.fields js
  | _ => none

end Record

/-- The value of a field that is there. -/
def field? {α : Type} (fs : List (String × Json)) (name : String) (read : Json → Option α) :
    Option α :=
  (fs.lookup name).bind read

/-- The value of a field, and a value in its place if it is missing. -/
def fieldOr? {α : Type} (fs : List (String × Json)) (name : String) (missing : α)
    (read : Json → Option α) : Option α :=
  match fs.lookup name with
  | some j => read j
  | none => some missing

end Colloquy.Json
