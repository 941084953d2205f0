import Colloquy.CommandLine.Parameter
import Colloquy.Fault
import Colloquy.Text.Decimal

/-!
# Requests

The program has two commands: `talk` carries on a talk with the character of a dialogue, and `script`
plays a script.  Arguments become a request, and what only the command itself can judge, such as what
a variable is set to, stays as it was given.

## Main definitions

* `TalkRequest`, `ScriptRequest`, `Request`.
* `Request.ofArguments`: the request that arguments make.
* `subNode`, `assignment`: the two kinds of values that consist of two parts.
-/

namespace Colloquy.CommandLine

open Text

/-- What it takes to talk. -/
structure TalkRequest where
  /-- The path of the dialogue. -/
  dialogue : String
  /-- The name of the notation; without one, the name of the file tells. -/
  sourceType : Option String
  seed : Option UInt32
  deriving DecidableEq

/-- Where the documents of a script are. -/
inductive Place where
  | file (path : String)
  | folder (path : String)
  deriving DecidableEq

/-- The path of a place. -/
def Place.path : Place → String
  | file path | folder path => path

/-- What it takes to play a script. -/
structure ScriptRequest where
  place : Option Place
  id : String
  /-- The name and the id of the element to begin with in focus, as given. -/
  sub : Option String
  label : String
  /-- The names and values of variables, as given. -/
  assignments : List String
  seed : Option UInt32
  stepLimit : Option Nat
  deriving DecidableEq

/-- What the program is asked to do. -/
inductive Request where
  | talk (r : TalkRequest)
  | script (r : ScriptRequest)
  deriving DecidableEq

/-! ## Values of parameters -/

/-- The seed that a text names. -/
def seed? (s : String) : Option UInt32 :=
  (Decimal.integer? s.toList).bind fun n =>
    if 0 ≤ n ∧ n < UInt32.size then some (UInt32.ofNat n.toNat) else none

/-- The number of steps that a text names. -/
def stepLimit? (s : String) : Option Nat := Decimal.readNat? (UInt64.size - 1) s.toList

/-- The name and the id in a text with a colon between them, none of them blank. -/
def subNode (raw : String) : Except Fault (String × String) :=
  match cut? ':' raw.toList with
  | some (name, id) =>
    if trimChars name = [] ∨ trimChars id = [] then .error (.subNodeArgument raw)
    else .ok (String.ofList (trimChars name), String.ofList (trimChars id))
  | none => .error (.subNodeArgument raw)

/-- The name and the value in a text with an equals sign between them.  The name must not be blank; the
value is taken as it is. -/
def assignment (raw : String) : Except Fault (String × String) :=
  match cut? '=' raw.toList with
  | some (name, value) =>
    if trimChars name = [] then .error (.variableArgument raw)
    else .ok (String.ofList (trimChars name), String.ofList value)
  | none => .error (.variableArgument raw)

/-! ## The commands -/

/-- The parameters of talks.  Talks are carried on line by line in any case. -/
def talkParameters : List Parameter :=
  [.required "dialogue", .text "source-type", .readable "seed" seed?, .switch "line-mode"]

/-- The parameters of scripts. -/
def scriptParameters : List Parameter :=
  [.text "file", .text "scripts-dir", .required "script-id", .text "sub-node", .required "label",
    .repeated "var", .readable "seed" seed?, .readable "step-limit" stepLimit?]

/-- The request for a talk. -/
def TalkRequest.ofGiven (g : Given) : TalkRequest :=
  { dialogue := (g.value? "dialogue").getD ""
    sourceType := g.value? "source-type"
    seed := (g.value? "seed").bind seed? }

/-- The documents of a script come from one place or another, not from both. -/
def Place.ofGiven (g : Given) : Except Refusal (Option Place) :=
  match g.value? "file", g.value? "scripts-dir" with
  | some _, some _ => .error .misuse
  | some path, none => .ok (some (.file path))
  | none, some path => .ok (some (.folder path))
  | none, none => .ok none

/-- The request for a script. -/
def ScriptRequest.ofGiven (g : Given) : Except Refusal ScriptRequest := do
  let place ← Place.ofGiven g
  return { place
           id := (g.value? "script-id").getD ""
           sub := g.value? "sub-node"
           label := (g.value? "label").getD ""
           assignments := g.values "var"
           seed := (g.value? "seed").bind seed?
           stepLimit := (g.value? "step-limit").bind stepLimit? }

/-- The names of the commands. -/
def commandNames : List String := ["talk", "script", "help"]

/-- The request that arguments make. -/
def Request.ofArguments : List String → Except Refusal Request
  | "talk" :: rest => do return .talk (.ofGiven (← Given.ofArguments talkParameters rest))
  | "script" :: rest => do
    return .script (← ScriptRequest.ofGiven (← Given.ofArguments scriptParameters rest))
  | ["help"] => .error .help
  | ["help", name] => .error (if commandNames.contains name then .help else .misuse)
  | argument :: _ =>
    .error (if argument = "--help" ∨ Given.isShortHelp argument then .help else .misuse)
  | [] => .error .misuse

end Colloquy.CommandLine
