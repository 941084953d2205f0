import Colloquy.Dialogue.Outline
import Colloquy.Interchange

/-!
# Outlines as structured data

A dialogue as a record.  A response is a text or a list of parts; what is not given is empty, and for
a response or the question null says the same.  Fields that no dialogue has are refused.

## Main definitions

* `Part.listOfJson?`: the parts of a response.
* `Outline.ofJson?`: the outline that data is.
-/

namespace Colloquy

open Json (field? fieldOr? nullOr? Record)

/-- The parts of the response that data is. -/
def Part.listOfJson? (j : Json) : Option (List Part) :=
  if !j.isReadable then none
  else match j with
    | .str s => some [.text s]
    | j => j.items? Part.ofJson?

namespace Outline

/-- The record that a question is. -/
def Choice.record : Record :=
  { fields := [("text", .always), ("yes", .always), ("no", .always)], lenient := false }

/-- The question that data is. -/
def Choice.ofJson? (j : Json) : Option Choice := do
  let fs ← Choice.record.fields? j
  return {
    text := ← field? fs "text" Json.str?
    yes := ← field? fs "yes" Part.listOfJson?
    no := ← field? fs "no" Part.listOfJson? }

/-- The record that an entry is. -/
def Entry.record : Record :=
  { fields := [("keywords", .always), ("response", .always)], lenient := false }

/-- The entry that data is. -/
def Entry.ofJson? (j : Json) : Option Entry := do
  let fs ← Entry.record.fields? j
  return {
    keywords := ← field? fs "keywords" (Json.items? Json.str?)
    parts := ← field? fs "response" Part.listOfJson? }

/-- The record that a dialogue is. -/
def record : Record :=
  { fields :=
      [("name", .always), ("pronoun", .nowhere), ("prompt", .nowhere), ("intro", .inLists),
       ("longIntro", .inLists), ("defaultAnswer", .inLists), ("turnAwayProb", .nowhere),
       ("question", .inLists), ("keywords", .nowhere)]
    lenient := false }

/-- The parts of a response, of which null has none. -/
def response? (fs : List (String × Json)) (name : String) : Option (List Part) :=
  (fieldOr? fs name none (nullOr? Part.listOfJson?)).map fun parts => parts.getD []

/-- The outline that data is. -/
def ofJson? (j : Json) : Option Outline := do
  let fs ← record.fields? j
  return {
    name := ← field? fs "name" Json.str?
    pronoun := ← fieldOr? fs "pronoun" "" Json.str?
    prompt := ← fieldOr? fs "prompt" "" Json.str?
    intro := ← response? fs "intro"
    longIntro := ← response? fs "longIntro"
    defaultAnswer := ← response? fs "defaultAnswer"
    turnAway := UInt32.ofNat (← fieldOr? fs "turnAwayProb" 0 (Json.nat? (UInt32.size - 1)))
    question := ← fieldOr? fs "question" none (nullOr? Choice.ofJson?)
    entries := ← fieldOr? fs "keywords" [] (Json.items? Entry.ofJson?) }

end Outline

end Colloquy
