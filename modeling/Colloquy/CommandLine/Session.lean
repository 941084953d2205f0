import Colloquy.CommandLine.Source
import Colloquy.Json
import Colloquy.Random
import Colloquy.Script.Create
import Colloquy.Script.Session
import Colloquy.Talk.Session

/-!
# Carrying out a request

A request is carried out in two parts.  First its source is read and a session is made ready; nothing is
written until then.  Then the session is carried on a console.  A fault in either part is reported behind
all that was written, and what the program returns tells whether there was one.

## Main definitions

* `Session`, with `Session.turn`: a talk or a script, ready to be carried on.
* `Request.session`: the session of a request.
* `Ending`, with `Ending.status` and `Ending.report`: how the program ends.
* `run`: the whole program, given its arguments, files and console.
-/

namespace Colloquy.CommandLine

/-- A session with a talker or a script. -/
inductive Session where
  | talk (s : Talk.Session Unit Seeded)
  | script (s : Script.Session Seeded)

/-- What the session does next. -/
def Session.turn (fuel : Nat) : Session → Turn Session
  | talk s => s.turn.map talk
  | script s => (s.turn fuel).map script

/-- The generator for a request, which may name a seed. -/
def generator (seed : Option UInt32) : Seeded := ⟨seed.getD defaultSeed⟩

/-- The talk of a request, before anything is said. -/
def TalkRequest.session (r : TalkRequest) (found : Finding) : Except Fault Session × List String :=
  let (outline, notices) := r.outline found
  (outline.map fun o =>
    let (dialogue, shelf) := o.make (Shelf.new ())
    .talk (.meeting (Talk.new dialogue shelf (generator r.seed))), notices)

/-- The script of a request, started at its label.  Variables are set in the order in which they were
given. -/
def ScriptRequest.start (r : ScriptRequest) (sources : Table String) :
    Except Fault (Script Seeded) := do
  let sub ← r.sub.mapM subNode
  let script ← Script.create ⟨sources, r.id, sub, none, r.stepLimit⟩ (generator r.seed)
  let script ← r.assignments.foldlM (fun script raw => do
    let (name, value) ← assignment raw
    return script.assign name (Value.ofText value)) script
  script.start r.label

/-- The session of a script's request. -/
def ScriptRequest.session (r : ScriptRequest) (found : Finding) : Except Fault Session := do
  let script ← r.start (← r.sources found)
  return .script (.walking script)

/-- The session of a request, from what was found at its path, and what was noticed on the way. -/
def Request.session (found : Finding) : Request → Except Fault Session × List String
  | talk r => r.session found
  | script r => (r.session found, [])

/-! ## The whole program -/

/-- How the program ends. -/
inductive Ending where
  | refused (why : Refusal)
  | finished (result : Except Fault Unit)

/-- The lines that report a fault. -/
def report (code message : String) : String :=
  "RESULT:ERROR\nERROR_CODE:" ++ code ++ "\nERROR_MSG_JSON:" ++ Json.compactText message ++ "\n"

namespace Ending

/-- What the program returns. -/
def status : Ending → Nat
  | refused .help => 0
  | refused .misuse => 2
  | finished (.ok ()) => 0
  | finished (.error fault) => if fault.breaksOff then 101 else 1

/-- The fault at the end, if there is one. -/
def fault? : Ending → Option Fault
  | finished (.error fault) => some fault
  | _ => none

/-- What is written behind everything else.  A program that breaks off writes no report. -/
def report (e : Ending) : String :=
  match e.fault? with
  | some fault => if fault.breaksOff then "" else CommandLine.report fault.code fault.message
  | none => ""

end Ending

/-- All files there are, and the directory at which relative paths start. -/
structure Surroundings where
  root : Entry
  directory : Option String

/-- What is found at a request's path. -/
def Surroundings.finding (s : Surroundings) (r : Request) : Except Fault Finding := do
  let path ← locate s.directory (← r.path)
  return ⟨path, s.root.follow? [] (Path.steps path)⟩

/-- Carries out a request; `none` if the fuel runs out. -/
def Request.run (fuel : Nat) (s : Surroundings) (r : Request) (t : Tape) :
    Option (Except Fault Unit × Tape) :=
  match s.finding r with
  | .error fault => some (.error fault, t)
  | .ok found =>
    match r.session found with
    | (.error fault, notices) => some (.error fault, t.note notices)
    | (.ok session, notices) => (t.note notices).converse (Session.turn fuel) fuel session

/-- How the program ends, and what was written before its report; `none` if the fuel runs out. -/
def run (fuel : Nat) (s : Surroundings) (arguments : List String) (t : Tape) :
    Option (Ending × Tape) :=
  match Request.ofArguments arguments with
  | .error why => some (.refused why, t)
  | .ok r => (r.run fuel s t).map fun done => (.finished done.1, done.2)

end Colloquy.CommandLine
