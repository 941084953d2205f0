import Colloquy.Console
import Colloquy.Script.Answer
import Colloquy.Script.Walk

/-!
# Scripts on a console

A script is played on a console: what it shows is written, what it asks for is read, and the effects it
has on the game, which does whatever it is asked, are written as lines of structured data before the
output that follows them.

## Main definitions

* `Script.Session`: where the session stands.
* `Script.Session.turn`: what it does next.
-/

namespace Colloquy

/-- Where a session with a script stands. -/
inductive Script.Session (ρ : Type) where
  | walking (script : Script ρ)
  /-- A request has been shown and not yet been answered. -/
  | waiting (request : Input.Request) (script : Script ρ)

/-- The prompt for an answer. -/
def Input.Request.prompt (r : Input.Request) : String :=
  match r.kind, r.choices with
  | .choice, some choices => "[" ++ choices ++ "] > "
  | .keypress, _ => "(press enter) "
  | kind, _ => "(" ++ kind.name ++ ") > "

/-- The line for an effect. -/
def Effect.line (e : Effect) : String := "EFFECT_JSON:" ++ e.toJson.compact ++ "\n"

namespace Script.Session

variable {ρ : Type}

/-- Writes the effects of a walk and what its output shows. -/
def present (effects : String) (notices : List String) (script : Script ρ) :
    Output → Move (Session ρ)
  | .text text => .go (effects ++ text ++ "\n") notices (.walking script)
  | .wait millis =>
    .go (effects ++ "(wait " ++ Text.Decimal.write millis ++ "ms)\n") notices (.walking script)
  | .input request => .go effects notices (.waiting request script)
  | .stopped => .stop (effects ++ "RESULT:STOPPED\n") notices (.ok ())
  | .finished => .stop (effects ++ "RESULT:END\n") notices (.ok ())

/-- Takes in the answer to a request.  An invalid one is commented on and the request stays. -/
def receive (request : Input.Request) (script : Script ρ) : Option String → Move (Session ρ)
  | none => .stop "RESULT:EOF\n" [] (.ok ())
  | some raw =>
    match script.submit raw with
    | .ok script => .go "" [] (.walking script)
    | .error fault => .go (fault.message ++ "\n") [] (.waiting request script)

/-- What the session does next.  When the fuel for a walk runs out, the walk is begun again. -/
def turn [PatientSource ρ] (fuel : Nat) : Session ρ → Turn (Session ρ)
  | .waiting request script => .ask request.prompt (receive request script)
  | .walking script =>
    match script.next Host.recording fuel [] with
    | none => .move (.go "" [] (.walking script))
    | some advance =>
      match advance.result with
      | .error fault => .move (.stop "" advance.notices (.error fault))
      | .ok output =>
        .move (present (String.join (advance.game.map Effect.line)) advance.notices advance.script
          output)

end Script.Session

end Colloquy
