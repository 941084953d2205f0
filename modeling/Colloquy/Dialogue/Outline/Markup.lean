import Colloquy.Dialogue.Outline
import Colloquy.Document

/-!
# Outlines in markup

A dialogue as a document: the element `dialogue` with attributes for what is short, and an element
for each response.  Within a response, text is speech and elements are commands.  Text may be laid out
at will: lines are trimmed and empty ones dropped.

Elements of other names are passed over, which is noticed.

## Main definitions

* `Node.speech`: the text of a node without its layout.
* `Node.parts?`: the parts of a response.
* `Outline.ofNode`: the outline that a document is, and what was noticed on the way.
-/

namespace Colloquy

open Text

namespace Node

/-- The text without its layout: no line is empty or has blanks around it. -/
def speech (written : String) : String :=
  joinWith "\n" (((splitOn '\n' written).map trim).filter (· ≠ ""))

/-- Something is wrong with this element. -/
def defect {α : Type} (n : Node) (d : Dialogue.Defect) : Except Fault α :=
  .error (.dialogueMarkup n.describe d)

/-- The value of an attribute that has to be there. -/
def required (n : Node) (name : String) : Except Fault String :=
  match n.attribute? name with
  | some value => .ok value
  | none => n.defect (.missingAttribute name)

/-- The part that a node of a response is; text that is nothing but layout is none. -/
def part? (n : Node) : Except Fault (Option Part) :=
  match n.text? with
  | some written =>
    let said := speech written
    .ok (if said = "" then none else some (.text said))
  | none =>
    match Command.ofWord? (trim n.label) with
    | some c => .ok (some (.command c))
    | none => n.defect (.unknownCommand (trim n.label))

/-- The parts of the response that an element is. -/
def parts? (n : Node) : Except Fault (List Part) := do
  let parts ← n.children.mapM part?
  return parts.filterMap id

end Node

namespace Outline

/-- The mark between keywords of one entry. -/
def aliasMark : Char := '|'

/-- The parts of the answer of this name. -/
def branch? (n : Node) (label : String) : Except Fault (List Part) :=
  match n.findChild? label with
  | some found => found.parts?
  | none => n.defect (.missingBranch label)

/-- The question that an element is. -/
def Choice.ofNode? (n : Node) : Except Fault Choice := do
  let text ← n.required "text"
  let yes ← branch? n "yes"
  let no ← branch? n "no"
  return ⟨text, yes, no⟩

/-- The entry that an element is. -/
def Entry.ofNode? (n : Node) : Except Fault Entry := do
  let names ← n.required "name"
  let parts ← n.parts?
  return ⟨splitOn aliasMark names, parts⟩

/-- The outline with what one element adds; `none` for an element of another name. -/
def extend? (o : Outline) (n : Node) : Option (Except Fault Outline) :=
  match n.label with
  | "intro" => some (n.parts?.map fun parts => { o with intro := parts })
  | "longintro" => some (n.parts?.map fun parts => { o with longIntro := parts })
  | "default" => some (n.parts?.map fun parts => { o with defaultAnswer := parts })
  | "question" => some ((Choice.ofNode? n).map fun c => { o with question := some c })
  | "keyword" => some ((Entry.ofNode? n).map fun e => { o with entries := o.entries ++ [e] })
  | _ => none

/-- What is noticed about an element that is passed over. -/
def passedOver (o : Outline) (n : Node) : String :=
  "dialogue " ++ o.name ++ ": ignoring <" ++ n.label ++ ">"

/-- The outline with what elements add in order, and what was noticed up to the end or the first
defect. -/
def extendAll (o : Outline) : List Node → Except Fault Outline × List String
  | [] => (.ok o, [])
  | n :: ns =>
    match o.extend? n with
    | some (.ok o) => extendAll o ns
    | some (.error fault) => (.error fault, [])
    | none =>
      let (result, notices) := extendAll o ns
      (result, o.passedOver n :: notices)

/-- The turn-away value of a document, zero if none is given. -/
def turnAway? (root : Node) : Except Fault UInt32 :=
  match root.attribute? "turnaway" with
  | none => .ok 0
  | some raw =>
    match Decimal.readNat? (UInt32.size - 1) (trimChars raw.toList) with
    | some n => .ok (UInt32.ofNat n)
    | none => root.defect (.notNumber raw)

/-- The outline with what the attributes of the root say. -/
def ofAttributes? (root : Node) : Except Fault Outline := do
  if root.label ≠ "dialogue" then
    root.defect (.foreignRoot root.label)
  let name ← root.required "name"
  let turnAway ← turnAway? root
  return {
    name
    pronoun := (root.attribute? "pronoun").getD ""
    prompt := (root.attribute? "prompt").getD ""
    turnAway }

/-- The outline that a document is, and what was noticed on the way. -/
def ofNode (root : Node) : Except Fault Outline × List String :=
  match ofAttributes? root with
  | .ok o => o.extendAll root.childElements
  | .error fault => (.error fault, [])

end Outline

end Colloquy
