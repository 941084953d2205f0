import Colloquy.Dialogue.Outline.Data
import Colloquy.Dialogue.Outline.Markup
import Colloquy.Json.Tree
import Colloquy.Markup.Tree
import Colloquy.Path

/-!
# Sources of dialogues

A dialogue is written in one of two notations.  Which one it is, is said by a source type, or told by
the ending of a file's name.

## Main definitions

* `SourceType`, with `SourceType.ofName?` and `SourceType.ofPath?`.
* `Outline.ofText`: the outline that a text in a notation is.
-/

namespace Colloquy

open Text

/-- A notation for dialogues. -/
inductive SourceType where
  | data
  | markup
  deriving DecidableEq

namespace SourceType

/-- The notations in the order of their names. -/
def all : List SourceType := [data, markup]

/-- The name of the notation. -/
def name : SourceType → String
  | data => "application/json"
  | markup => "application/xml"

/-- The ending of names of files in the notation. -/
def fileEnding : SourceType → String
  | data => "json"
  | markup => "xml"

/-- The notation of this name in any ASCII case and with blanks around it. -/
def ofName? (name : String) : Option SourceType := all.find? (·.name == lowerAscii (trim name))

/-- The notation that the name of a file tells. -/
def ofPath? (path : String) : Option SourceType := do
  let ending ← Path.ending? (← Path.fileName? path)
  all.find? (·.fileEnding == lowerAscii ending)

end SourceType

namespace Outline

/-- The name that places in a dialogue's document are shown with. -/
def documentName : String := "dialogue.xml"

/-- The outline that a text in a notation is, and what was noticed on the way. -/
def ofText (text : String) : SourceType → Except Fault Outline × List String
  | .data =>
    match (Json.ofText? text).bind ofJson? with
    | some o => (.ok o, [])
    | none => (.error .dialogueJson, [])
  | .markup =>
    match Node.ofText? documentName text with
    | .ok root => ofNode root
    | .error fault => (.error fault, [])

/-- The outline that a text is, given the name of its notation. -/
def ofSource (sourceType text : String) : Except Fault Outline × List String :=
  match SourceType.ofName? sourceType with
  | some written => ofText text written
  | none => (.error (.noLoader sourceType (SourceType.all.map SourceType.name)), [])

end Outline

end Colloquy
