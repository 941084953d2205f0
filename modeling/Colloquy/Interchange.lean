import Colloquy.Dialogue.Part
import Colloquy.Json.Record
import Colloquy.Script.Effect

/-!
# Interchange

How values, parts of responses, requests and effects are written for other programs, and read from
them.  What is written is read back; more is read than is written, for fields may be left out, come in
another order, or stand beside fields of somebody else.

Where a reader has to look at a value more than once, the value has to be one that can be held.

## Main definitions

* `Value.toJson`, `Value.ofJson?`.
* `Command.toJson`, `Command.ofJson?`, `Part.toJson`, `Part.ofJson?`.
* `Input.Request.toJson`, `Input.Request.ofJson?`.
* `Effect.ofJson?`, beside `Effect.toJson`.
-/

namespace Colloquy

open Json (field? fieldOr? nullOr?)

/-- A value as data: an integer, a text, or null. -/
def Value.toJson : Value → Json
  | int i => .ofInt64 i
  | str s => .str s
  | unset => .null

/-- The value that data is. -/
def Value.ofJson? : Json → Option Value
  | .str s => some (.str s)
  | .null => some .unset
  | j => j.int?.map .int

/-- A command as data: its name. -/
def Command.toJson (c : Command) : Json := .str c.name

/-- The command that data is. -/
def Command.ofJson? : Json → Option Command := Json.named? Command.ofName?

namespace Part

/-- A part as data: a text, or an object with the command. -/
def toJson : Part → Json
  | text s => .str s
  | command c => .object [("command", c.toJson)]

/-- The record that a command is. -/
def commandRecord : Json.Record := { fields := [("command", .always)], lenient := true }

/-- The part that data is.  A command comes as an object only. -/
def ofJson? (j : Json) : Option Part :=
  if !j.isReadable then none
  else match j with
    | .str s => some (.text s)
    | .object _ => do
      let fs ← commandRecord.fields? j
      return .command (← field? fs "command" Command.ofJson?)
    | _ => none

end Part

namespace Input

/-- A kind of answer as data: its name. -/
def Kind.ofJson? : Json → Option Kind := Json.named? Kind.ofName?

namespace Request

/-- The record that a request is. -/
def record : Json.Record :=
  { fields :=
      [("kind", .always), ("targetVar", .inLists), ("maxLen", .inLists), ("choices", .inLists)]
    lenient := true }

/-- A request as data. -/
def toJson (r : Request) : Json :=
  .object
    [("kind", .str r.kind.name), ("targetVar", .ofOption .str r.target),
     ("maxLen", .ofOption (fun n => .int n) r.maxLength), ("choices", .ofOption .str r.choices)]

/-- The largest length that can be asked for. -/
def longest : Nat := UInt64.size - 1

/-- The request that data is. -/
def ofJson? (j : Json) : Option Request := do
  let fs ← record.fields? j
  return {
    kind := ← field? fs "kind" Kind.ofJson?
    target := ← fieldOr? fs "targetVar" none (nullOr? Json.str?)
    maxLength := ← fieldOr? fs "maxLen" none (nullOr? (Json.nat? longest))
    choices := ← fieldOr? fs "choices" none (nullOr? Json.str?) }

end Request

end Input

namespace Effect

/-- Splits data that names a kind from what it says besides: an object with one field `kind`, or a
list that begins with the kind. -/
def splitKind? : Json → Option (String × Json)
  | .object fs =>
    match Json.Record.split "kind" fs with
    | ([.str kind], others) => some (kind, .object others)
    | _ => none
  | .list (.str kind :: others) => some (kind, .list others)
  | _ => none

/-- The record of fields that all have to be there. -/
def record (fields : List String) (optional : List String) : Json.Record :=
  { fields := fields.map fun f => (f, if optional.contains f then .inLists else .always)
    lenient := true }

/-- An integer that may be missing. -/
def number? (fs : List (String × Json)) (name : String) : Option (Option Int64) :=
  fieldOr? fs name none (nullOr? Json.int?)

/-- The effect of this kind that says this. -/
def ofKind? (kind : String) (j : Json) : Option Effect :=
  match kind with
  | "move" => do
    let fs ← (record ["x", "y", "z"] ["x", "y", "z"]).fields? j
    return .move (← number? fs "x") (← number? fs "y") (← number? fs "z")
  | "sleep" => do
    let _ ← (record [] []).fields? j
    return .sleep
  | "cursor" => do
    let fs ← (record ["visible"] []).fields? j
    return .cursor (← field? fs "visible" Json.bool?)
  | "pay" => do
    let fs ← (record ["price", "quantity"] []).fields? j
    return .pay (← field? fs "price" Json.int?) (← field? fs "quantity" Json.int?)
  | "add" => goods .add
  | "lose" => goods .lose
  | "heal" => do
    let fs ← (record ["treatment", "player"] ["player"]).fields? j
    return .heal (← field? fs "treatment" Json.str?) (← number? fs "player")
  | "castSpell" => do
    let fs ← (record ["spell", "player"] ["player"]).fields? j
    return .castSpell (← field? fs "spell" Json.str?) (← number? fs "player")
  | "damage" => do
    let fs ← (record ["player", "points"] ["player"]).fields? j
    return .damage (← number? fs "player") (← field? fs "points" Json.int?)
  | "karma" => do
    let fs ← (record ["virtue", "amount"] []).fields? j
    return .karma (← field? fs "virtue" Json.str?) (← field? fs "amount" Json.int?)
  | "music" => do
    let fs ← (record ["track"] []).fields? j
    return .music (← field? fs "track" Json.str?)
  | "ztats" => do
    let fs ← (record ["player"] ["player"]).fields? j
    return .ztats (← number? fs "player")
  | _ => none
where
  /-- The effect on goods of a kind and an amount. -/
  goods (make : String → Option String → Int64 → Effect) : Option Effect := do
    let fs ← (record ["item", "subtype", "amount"] ["subtype"]).fields? j
    return make (← field? fs "item" Json.str?) (← fieldOr? fs "subtype" none (nullOr? Json.str?))
      (← field? fs "amount" Json.int?)

/-- The effect that data is. -/
def ofJson? (j : Json) : Option Effect :=
  if j.isReadable then do
    let (kind, others) ← splitKind? j
    ofKind? kind others
  else none

end Effect

end Colloquy
