import Colloquy.Dialogue.Basic

/-!
# Outlines of dialogues

What an author writes down about a talker, apart from the notation.  Making the dialogue puts the
responses on a shelf; keywords of one entry share one response.

## Main definitions

* `Outline`, with `Outline.Entry` and `Outline.Choice`.
* `Outline.make`: the dialogue of an outline.
-/

namespace Colloquy

/-- A question with what is said to each answer. -/
structure Outline.Choice where
  text : String
  yes : List Part
  no : List Part
  deriving DecidableEq

/-- Keywords with what is said to any of them. -/
structure Outline.Entry where
  keywords : List String
  parts : List Part
  deriving DecidableEq

/-- What there is to know about a talker. -/
structure Outline where
  name : String
  pronoun : String := ""
  prompt : String := ""
  intro : List Part := []
  longIntro : List Part := []
  defaultAnswer : List Part := []
  /-- How readily the talker turns away, out of 256. -/
  turnAway : UInt32 := 0
  question : Option Outline.Choice := none
  entries : List Outline.Entry := []
  deriving DecidableEq

namespace Outline

variable {γ : Type}

/-- Puts the two responses of a question on the shelf. -/
def Choice.make (c : Choice) (s : Shelf γ) : Question × Shelf γ :=
  let (yes, s) := s.add (.fixed c.yes)
  let (no, s) := s.add (.fixed c.no)
  (⟨c.text, yes, no⟩, s)

/-- Registers a response for each of several keywords, each of which becomes a holder of it. -/
def register (t : Ticket) : List String → Dialogue → Shelf γ → Dialogue × Shelf γ
  | [], d, s => (d, s)
  | keyword :: keywords, d, s =>
    let (d, s) := d.addKeyword keyword t (s.hold t)
    register t keywords d s

/-- Puts the response of an entry on the shelf and registers it.  Who made it holds it until then, so
it does not go when a keyword of the entry replaces another. -/
def Entry.make (e : Entry) (d : Dialogue) (s : Shelf γ) : Dialogue × Shelf γ :=
  let (t, s) := s.add (.fixed e.parts)
  let (d, s) := register t e.keywords d s
  (d, s.release t)

/-- Makes entries in order. -/
def makeAll : List Entry → Dialogue → Shelf γ → Dialogue × Shelf γ
  | [], d, s => (d, s)
  | e :: es, d, s =>
    let (d, s) := e.make d s
    makeAll es d s

/-- The dialogue of an outline. -/
def make (o : Outline) (s : Shelf γ) : Dialogue × Shelf γ :=
  let (intro, s) := s.add (.fixed o.intro)
  let (longIntro, s) := s.add (.fixed o.longIntro)
  let (defaultAnswer, s) := s.add (.fixed o.defaultAnswer)
  let (question, s) :=
    match o.question with
    | some c => let (q, s) := c.make s; (some q, s)
    | none => (none, s)
  makeAll o.entries
    ⟨o.name, o.pronoun, o.prompt, intro, longIntro, defaultAnswer, .empty, question, o.turnAway⟩ s

end Outline

end Colloquy
