import Colloquy.Console
import Colloquy.Talk

/-!
# Talking on a console

A talk is carried on line by line: lines are shown, the prompt is written, and a line is read.  The end
of the input is the player walking away.

## Main definitions

* `Talk.Session`: where the session stands.
* `Talk.Session.turn`: what it does next.
-/

namespace Colloquy

/-- Where a session with a talker stands. -/
inductive Talk.Session (γ ρ : Type) where
  /-- Before the player and the talker meet. -/
  | meeting (talk : Talk γ ρ)
  | talking (talk : Talk γ ρ)

namespace Talk.Session

variable {γ ρ : Type}

/-- Lines as they are written. -/
def written (lines : List String) : String := String.join (lines.map (· ++ "\n"))

/-- The last line of a session. -/
def closing (t : Talk γ ρ) : String := "RESULT:" ++ t.outcome ++ "\n"

/-- Writes what an exchange shows. -/
def present (e : Exchange γ ρ) : Move (Session γ ρ) :=
  .go (written e.lines) e.notices (.talking e.talk)

/-- Takes in what the player says, or that the player says nothing more. -/
def receive [RandomSource ρ] (t : Talk γ ρ) : Option String → Move (Session γ ρ)
  | some raw => present (t.submit raw)
  | none => .stop (closing t.hangUp) [] (.ok ())

/-- What the session does next. -/
def turn [RandomSource ρ] : Session γ ρ → Turn (Session γ ρ)
  | .meeting t => .move (present t.begin)
  | .talking t =>
    if t.isDone then .move (.stop (closing t) [] (.ok ())) else .ask t.prompt (receive t)

end Talk.Session

end Colloquy
