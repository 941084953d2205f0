import Colloquy.Dialogue.Outline
import Colloquy.Proofs.Talk.Exchange

/-!
# What a response comes to

A response is shown whole: each text line by line, each command for the game by its name, whatever commands stand
in front of it, and the question last if it is asked.  Where the talk goes depends on which commands there are, and
not on where they stand or how often (`Talk.response_is_shown_whole`).

### What is load-bearing

Showing a response is known as a function of the list of its parts (`Talk.respond_eq`).  In that function the
commands for the talk are looked for among all parts, so the state behind it is read off three memberships
(`Conversation.state_afterParts_eq`).

## Main definitions

* `Talk.Shown`: what showing a response with these parts comes to.
-/

namespace Colloquy

open Text

namespace Talk

variable {γ ρ : Type}

/-- What showing a response with these parts comes to, in a talk in which no line waits. -/
structure Shown (t : Talk γ ρ) (parts : List Part) (e : Exchange γ ρ) : Prop where
  /-- Every part is shown in its place.  The question comes last, and only if it is asked and nothing ends the
  talk. -/
  lines : e.lines = parts.flatMap Part.lines ++
    if .command .ask ∈ parts ∧ .command .finish ∉ parts ∧ .command .attack ∉ parts then
      (t.dialogue.question.map fun q => splitOn '\n' q.text).getD []
    else []
  /-- An attack counts for more than an end, and an end for more than the question. -/
  state : e.talk.state =
    if .command .attack ∈ parts then .attack
    else if .command .finish ∈ parts then .done
    else if .command .ask ∈ parts ∧ t.dialogue.question.isSome = true then .askYesNo
    else t.state
  /-- No line is left waiting. -/
  quiet : e.talk.conversation.replies = []
  dialogue : e.talk.dialogue = t.dialogue
  random : e.talk.random = t.random

theorem linesOf_eq (t : Talk γ ρ) (parts : List Part) :
    t.linesOf parts = parts.flatMap Part.lines ++
      if .command .ask ∈ parts ∧ .command .finish ∉ parts ∧ .command .attack ∉ parts then
        (t.dialogue.question.map fun q => splitOn '\n' q.text).getD []
      else [] := by
  have asked : t.asked?.map (splitOn '\n') = t.dialogue.question.map fun q => splitOn '\n' q.text :=
    Option.map_map ..
  rw [linesOf, asked]
  simp only [Part.ending?_eq_none_iff, Part.asks_iff]
  simp only [and_comm]

theorem shown_respond {t : Talk γ ρ} (quiet : t.conversation.replies = []) (response : Ticket) :
    t.Shown (t.shelf.read response).1 (t.respond response) := by
  have asked : t.asked?.isSome = t.dialogue.question.isSome := Option.isSome_map
  rw [respond_eq quiet]
  exact
    { lines := t.linesOf_eq _
      state := asked ▸ t.conversation.state_afterParts_eq ..
      quiet := Conversation.replies_afterParts quiet ..
      dialogue := rfl
      random := rfl }

/-- Responses with the same commands take the talk to the same state. -/
theorem Shown.state_eq {t : Talk γ ρ} {parts parts' : List Part} {e e' : Exchange γ ρ}
    (shown : t.Shown parts e) (shown' : t.Shown parts' e')
    (same : ∀ c, Part.command c ∈ parts ↔ .command c ∈ parts') : e.talk.state = e'.talk.state := by
  rw [shown.state, shown'.state]
  simp only [same]

/-- **A response is shown whole, and its commands may stand in any order.**  The state behind it is the same for
any response with the same commands. -/
theorem response_is_shown_whole {t : Talk γ ρ} (quiet : t.conversation.replies = []) (response : Ticket) :
    t.Shown (t.shelf.read response).1 (t.respond response) ∧
      ∀ other, (∀ c, Part.command c ∈ (t.shelf.read response).1 ↔ .command c ∈ (t.shelf.read other).1) →
        (t.respond response).talk.state = (t.respond other).talk.state :=
  ⟨shown_respond quiet response, fun other => (shown_respond quiet response).state_eq (shown_respond quiet other)⟩

/-- A talker who takes leave, attacks and asks in one response: all that is said is shown, and the attack counts. -/
theorem response_is_shown_whole_of_attacker :
    let made := Outline.make
      { name := "Sutek"
        intro := [.text "Stay.\nListen!", .command .finish, .text "No.", .command .attack, .command .ask,
          .command .bragged]
        question := some ⟨"Well?", [], []⟩ } (Shelf.new ())
    let t : Talk Unit Unit := .new made.1 made.2 ()
    t.conversation.replies = [] ∧
      (t.respond t.dialogue.intro).lines = ["Stay.", "Listen!", "No.", "[BRAGGED]"] ∧
      (t.respond t.dialogue.intro).talk.state = .attack := by
  intro made t
  have shown := (response_is_shown_whole (t := t) rfl t.dialogue.intro).1
  exact ⟨rfl, shown.lines.trans (by decide), shown.state.trans (by decide)⟩

end Talk

end Colloquy
