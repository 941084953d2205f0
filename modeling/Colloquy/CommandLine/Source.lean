import Colloquy.CommandLine.Request
import Colloquy.Dialogue.Source
import Colloquy.Folder
import Colloquy.Table

/-!
# Sources of requests

A request names the path of its source.  The path is looked up first; then the source is read from what
was found there, and whatever is in the way of it is a fault that quotes the path that was looked up.

## Main definitions

* `Request.path`: the path that a request names.
* `locate`: the path that is looked up.
* `TalkRequest.outline`, `ScriptRequest.sources`: what is read there.
-/

namespace Colloquy.CommandLine

open Text

/-- The path that a request names. -/
def Request.path : Request → Except Fault String
  | talk r => .ok r.dialogue
  | script r =>
    match r.place with
    | some place => .ok place.path
    | none => .error .noSourceGiven

/-- The path that is looked up: a relative one starts at the working directory. -/
def locate (directory : Option String) (path : String) : Except Fault String :=
  if Path.isAbsolute path then .ok path
  else
    match directory with
    | some directory => .ok (Path.join directory path)
    | none => .error .noWorkingDirectory

/-- The outline of the dialogue that was found, and what was noticed on the way. -/
def TalkRequest.outline (r : TalkRequest) (found : Finding) : Except Fault Outline × List String :=
  match found.bytes? with
  | none => (.error (.noDialogueFile found.path), [])
  | some bytes =>
    match r.sourceType <|> (SourceType.ofPath? found.path).map SourceType.name with
    | none => (.error (.unknownSourceType found.path), [])
    | some sourceType =>
      match textOf bytes with
      | .error fault => (.error fault, [])
      | .ok text => Outline.ofSource sourceType text

/-- Whether a file is one of the documents of a folder, by its name. -/
def isDocument (place : List String) : Bool :=
  (place.getLast?.bind Path.ending?).map lowerAscii == some SourceType.markup.fileEnding

/-- The name of a document in a folder: its steps with slashes between them, also in the place of
backslashes. -/
def documentName (place : List String) : String :=
  String.ofList ((joinWith "/" place).toList.map fun c => if c = '\\' then '/' else c)

/-- The documents in a folder, by name. -/
def folderSources (path : String) (entries : List (String × Entry)) :
    Except Fault (Table String) := do
  let documents := (Entry.filesOf [] entries).filter fun f => isDocument f.1
  let texts ← documents.mapM fun f => do return (documentName f.1, ← textOf f.2)
  if texts = [] then .error (.noSources path) else return .ofList texts

/-- The documents at a place, by name, from what was found there. -/
def Place.sources (found : Finding) : Place → Except Fault (Table String)
  | file _ =>
    match found.bytes? with
    | none => .error (.noScriptFile found.path)
    | some bytes => do return .ofList [((Path.fileName? found.path).getD "script.xml", ← textOf bytes)]
  | folder _ =>
    match found.entry with
    | none => .error (.noScriptsDirectory found.path)
    | some (.file _) => .error (.notDirectory found.path)
    | some (.folder entries) => folderSources found.path entries

/-- The documents of a script, from what was found at their place. -/
def ScriptRequest.sources (r : ScriptRequest) (found : Finding) : Except Fault (Table String) :=
  match r.place with
  | some place => place.sources found
  | none => .error .noSourceGiven

end Colloquy.CommandLine
