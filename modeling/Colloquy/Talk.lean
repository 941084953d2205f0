import Colloquy.Conversation
import Colloquy.Dialogue.Basic

/-!
# Talking

A talk carries on one conversation with one talker.  The player says a line, the talker answers, and
after an answer the talker may lose patience.

A response is shown whole before its commands have consequences: a response that ends the
conversation ends it behind its last part, wherever the command stands, and a question is asked behind
everything that is said.

## Main definitions

* `Talk`, and `Talk.Exchange` for what a move of the player brings about.
* `Talk.begin`, `Talk.submit`, `Talk.hangUp`: the moves.
* `Talk.respond`: shows a response.
-/

namespace Colloquy

open Text

/-- A conversation in progress, with the talker and what the talker draws on. -/
structure Talk (γ ρ : Type) where
  dialogue : Dialogue
  shelf : Shelf γ
  random : ρ
  conversation : Conversation ρ

/-- What a move brings about: lines to be shown, and what was noticed on the way. -/
structure Talk.Exchange (γ ρ : Type) where
  talk : Talk γ ρ
  lines : List String
  notices : List String

/-! ## Showing a response -/

/-- A response in the course of being shown. -/
structure Delivery (ρ : Type) where
  conversation : Conversation ρ
  /-- The lines shown so far. -/
  lines : List String
  /-- Whether the question is to be asked. -/
  asks : Bool
  /-- The state that is to end the conversation. -/
  ending : Option Conversation.State

namespace Delivery

variable {ρ : Type}

/-- Before the first part. -/
def start (c : Conversation ρ) : Delivery ρ := ⟨c, [], false, none⟩

/-- Shows all lines that wait in the conversation. -/
def flush (d : Delivery ρ) : Delivery ρ :=
  let (lines, c) := d.conversation.drainReplies
  { d with conversation := c, lines := d.lines ++ lines }

/-- Takes down a command.  An attack overrides an end, and an end no attack.  Commands for the game are
shown as lines. -/
def obey (d : Delivery ρ) : Command → Delivery ρ
  | .none => d
  | .ask => { d with asks := true }
  | .finish => { d with ending := some (d.ending.getD .done) }
  | .attack => { d with ending := some .attack }
  | c => { d with lines := d.lines ++ ["[" ++ c.name ++ "]"] }

/-- Shows one part.  Texts wait until a command or the end comes. -/
def utter (d : Delivery ρ) : Part → Delivery ρ
  | .text said => { d with conversation := d.conversation.pushReply said }
  | .command c => d.flush.obey c

/-- Ends the conversation, or asks the question, or leaves it at what was shown.  There may be no
question to be asked. -/
def close (d : Delivery ρ) (question : Option String) : Delivery ρ :=
  match d.ending with
  | some ending =>
    let d := d.flush
    { d with conversation := d.conversation.enter ending }
  | none =>
    match d.asks, question with
    | true, some text =>
      { d with conversation := (d.conversation.pushReply text).enter .askYesNo }.flush
    | _, _ => d.flush

end Delivery

namespace Talk

variable {γ ρ : Type}

/-- A talk that has not begun. -/
def new (dialogue : Dialogue) (shelf : Shelf γ) (random : ρ) : Talk γ ρ :=
  ⟨dialogue, shelf, random, .new⟩

/-- The state of the conversation. -/
def state (t : Talk γ ρ) : Conversation.State := t.conversation.state

/-- Whether the conversation is over. -/
def isDone (t : Talk γ ρ) : Bool := t.conversation.isDone

/-- How the conversation came out. -/
def outcome (t : Talk γ ρ) : String := if t.state = .attack then "ATTACK" else "DONE"

/-- The prompt of a talker who has none. -/
def defaultPrompt : String := "Your interest?"

/-- What stands before the player's line. -/
def prompt (t : Talk γ ρ) : String :=
  if t.state = .askYesNo then "(y/n) > "
  else if t.dialogue.prompt = "" then defaultPrompt ++ " "
  else t.dialogue.prompt ++ " "

/-- The same talk with more lines before those of an exchange. -/
def Exchange.after (e : Exchange γ ρ) (lines : List String) : Exchange γ ρ :=
  { e with lines := lines ++ e.lines }

/-- An exchange with nothing to notice. -/
def quietly (t : Talk γ ρ) (lines : List String) : Exchange γ ρ := ⟨t, lines, []⟩

/-- Shows a response. -/
def respond (t : Talk γ ρ) (response : Ticket) : Exchange γ ρ :=
  let (parts, shelf) := t.shelf.read response
  let shown := parts.foldl Delivery.utter (Delivery.start t.conversation)
  let closed := shown.close (t.dialogue.question.map Question.text)
  { talk := { t with shelf, conversation := closed.conversation }
    lines := closed.lines
    notices :=
      if shown.ending = none ∧ shown.asks = true ∧ t.dialogue.question = none then
        [t.dialogue.name ++ ": <ASK> without a question"]
      else [] }

/-- Goes over to a state. -/
def enter (t : Talk γ ρ) (s : Conversation.State) : Talk γ ρ :=
  { t with conversation := t.conversation.enter s }

/-- The player and the talker meet. -/
def begin (t : Talk γ ρ) : Exchange γ ρ :=
  let e := t.respond t.dialogue.intro
  let e := if e.talk.state = .intro then { e with talk := e.talk.enter .talk } else e
  e.after ["You meet " ++ t.dialogue.name ++ "."]

/-- The word that ends a conversation with a talker who does not know it. -/
def byeWord : String := "bye"

/-- The word by which the player looks at a talker who does not know it. -/
def lookWord : String := "look"

/-- The answer to what the player says. -/
def answer (t : Talk γ ρ) (said : String) : Exchange γ ρ :=
  match t.dialogue.keyword? said with
  | some (_, response) => t.respond response
  | none =>
    if said = "" ∨ sameIgnoringAsciiCase said byeWord then
      (t.enter .done).quietly [t.dialogue.name ++ " says: Bye."]
    else if sameIgnoringAsciiCase said lookWord then t.respond t.dialogue.longIntro
    else t.respond t.dialogue.defaultAnswer

/-- The answer to what the player replies to the question. -/
def answerReply (t : Talk γ ρ) (said : String) : Exchange γ ρ :=
  match t.dialogue.question with
  | none => (t.enter .talk).quietly []
  | some q =>
    match q.answer? said with
    | some response => (t.enter .talk).respond response
    | none => t.quietly ["Yes or no?"]

/-- Who is meant when the talker does something. -/
def who (t : Talk γ ρ) : String :=
  if t.dialogue.pronoun = "" then t.dialogue.name else t.dialogue.pronoun

/-- The talker may lose patience. -/
def react [RandomSource ρ] (t : Talk γ ρ) : Exchange γ ρ :=
  let (reaction, random) := t.dialogue.reaction t.random
  let t := { t with random }
  match reaction with
  | .finish => (t.enter .done).quietly [t.who ++ " turns away!"]
  | .attack => (t.enter .attack).quietly [t.who ++ " attacks!"]
  | _ => t.quietly []

/-- Two exchanges in a row. -/
def Exchange.followedBy (e : Exchange γ ρ) (next : Talk γ ρ → Exchange γ ρ) : Exchange γ ρ :=
  let e' := next e.talk
  ⟨e'.talk, e.lines ++ e'.lines, e.notices ++ e'.notices⟩

/-- The player says a line.  Nothing comes of it when the conversation is over. -/
def submit [RandomSource ρ] (t : Talk γ ρ) (raw : String) : Exchange γ ρ :=
  if t.isDone then t.quietly []
  else
    let t := { t with conversation := t.conversation.typeIn raw }
    let said := trim t.conversation.input
    if t.state = .askYesNo then t.answerReply said
    else
      let answered := t.answer said
      if answered.talk.state = .talk then answered.followedBy react else answered

/-- The player walks away. -/
def hangUp (t : Talk γ ρ) : Talk γ ρ := if t.isDone then t else t.enter .done

end Talk

end Colloquy
