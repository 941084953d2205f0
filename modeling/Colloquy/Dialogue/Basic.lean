import Colloquy.Dialogue.Holding
import Colloquy.Dialogue.Keyword
import Colloquy.Random

/-!
# Dialogues

A dialogue is what a talker has to say: on meeting, on being looked at, when asked, and when at a loss;
and a question that the talker may ask in turn.  Its responses are held on a shelf.

Setting a field hands the dialogue a ticket that the caller held; the ticket that was there before is
let go first.

## Main definitions

* `Question`, `Dialogue`.
* `Dialogue.addKeyword`, `Dialogue.removeKeyword`, `Dialogue.keyword?`: the keyword table.
* `Dialogue.reaction`: whether a talker loses patience.
-/

namespace Colloquy

open Text

/-- A question with a response to each answer. -/
structure Question where
  text : String
  yes : Ticket
  no : Ticket
  deriving DecidableEq

/-- The response to what was said: it counts how the answer begins. -/
def Question.answer? (q : Question) (input : String) : Option Ticket :=
  match (trimChars input.toList).head?.map Char.toLower with
  | some 'y' => some q.yes
  | some 'n' => some q.no
  | _ => none

/-- What a talker has to say. -/
structure Dialogue where
  name : String
  pronoun : String
  prompt : String
  intro : Ticket
  longIntro : Ticket
  defaultAnswer : Ticket
  keywords : Keywords Ticket
  question : Option Question
  /-- How readily the talker turns away, out of 256. -/
  turnAway : UInt32

namespace Dialogue

variable {γ : Type}

/-- A dialogue with a name and nothing to say. -/
def new (name : String) (s : Shelf γ) : Dialogue × Shelf γ :=
  let (intro, s) := s.add .empty
  let (longIntro, s) := s.add .empty
  let (defaultAnswer, s) := s.add .empty
  (⟨name, "", "", intro, longIntro, defaultAnswer, .empty, none, 0⟩, s)

/-- The tickets of a question. -/
def questionTickets : Option Question → List Ticket
  | some q => [q.yes, q.no]
  | none => []

/-- All tickets that a dialogue holds. -/
def tickets (d : Dialogue) : List Ticket :=
  [d.intro, d.longIntro, d.defaultAnswer] ++ d.keywords.entries.map (·.2) ++
    questionTickets d.question

/-- Sets the response on meeting. -/
def setIntro (d : Dialogue) (t : Ticket) (s : Shelf γ) : Dialogue × Shelf γ :=
  ({ d with intro := t }, s.release d.intro)

/-- Sets the response on being looked at. -/
def setLongIntro (d : Dialogue) (t : Ticket) (s : Shelf γ) : Dialogue × Shelf γ :=
  ({ d with longIntro := t }, s.release d.longIntro)

/-- Sets the response for all that is not a keyword. -/
def setDefaultAnswer (d : Dialogue) (t : Ticket) (s : Shelf γ) : Dialogue × Shelf γ :=
  ({ d with defaultAnswer := t }, s.release d.defaultAnswer)

/-- Sets or removes the question. -/
def setQuestion (d : Dialogue) (q : Option Question) (s : Shelf γ) : Dialogue × Shelf γ :=
  ({ d with question := q }, s.releaseAll (questionTickets d.question))

/-- Registers a response for a keyword; the one registered before is let go. -/
def addKeyword (d : Dialogue) (raw : String) (t : Ticket) (s : Shelf γ) : Dialogue × Shelf γ :=
  let s :=
    match d.keywords.get? (normalizeKeyword raw) with
    | some old => s.release old
    | none => s
  ({ d with keywords := d.keywords.register raw t }, s)

/-- Removes a keyword and lets its response go, and tells whether there was one. -/
def removeKeyword (d : Dialogue) (raw : String) (s : Shelf γ) : Bool × Dialogue × Shelf γ :=
  match d.keywords.get? (normalizeKeyword raw) with
  | some old => (true, { d with keywords := d.keywords.remove raw }, s.release old)
  | none => (false, d, s)

/-- The keyword that input means, and its response. -/
def keyword? (d : Dialogue) (input : String) : Option (String × Ticket) := d.keywords.find? input

/-- The range of the draw that decides on a reaction. -/
def reactionRange : UInt32 := 256

/-- How far the draw has to be below the turn-away value for the talker to attack. -/
def attackMargin : Nat := 64

/-- What a talker does for a number drawn: nothing from the turn-away value on, and below it attack
or, if the number is close, leave. -/
def reactionTo (turnAway draw : Nat) : Command :=
  if turnAway ≤ draw then .none
  else if turnAway - draw < attackMargin then .finish
  else .attack

/-- What a talker does after an exchange.  The range divides the number of words, so a draw below it accepts
every word, and one is drawn from whatever source. -/
def reaction {ρ : Type} [RandomSource ρ] (d : Dialogue) (random : ρ) : Command × ρ :=
  let (word, random) := RandomSource.next random
  (reactionTo d.turnAway.toNat (word % reactionRange).toNat, random)

/-- A response by its printed form. -/
def inspectTicket (s : Shelf γ) (t : Ticket) : String :=
  match s.get? t with
  | some h => h.response.inspect
  | none => Response.inspect (γ := γ) .empty

/-- A dialogue with all its fields. -/
def inspect (d : Dialogue) (s : Shelf γ) : String :=
  let response := inspectTicket s
  let entry (e : String × Ticket) : String × String :=
    (quote e.1, Printed.record "Keyword" [("keyword", quote e.1), ("response", response e.2)])
  let question (q : Question) : String :=
    Printed.record "Question" [("text", quote q.text), ("yes", response q.yes), ("no", response q.no)]
  Printed.record "Dialogue"
    [("name", quote d.name), ("pronoun", quote d.pronoun), ("prompt", quote d.prompt),
     ("intro", response d.intro), ("long_intro", response d.longIntro),
     ("default_answer", response d.defaultAnswer),
     ("keywords", Printed.table (d.keywords.entries.map entry)),
     ("question", Printed.optional (d.question.map question)),
     ("turn_away_prob", toString d.turnAway.toNat)]

end Dialogue

end Colloquy
