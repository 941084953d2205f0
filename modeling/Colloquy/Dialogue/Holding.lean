import Colloquy.Dialogue.Response

/-!
# Shared responses

One response may be held in several places: by several keywords, or by a dialogue and by the game.  All
holders see what happens to it, and it is released when the last of them lets go.

A shelf keeps the responses under tickets and counts who holds each.  A ticket is never used again, so
an old one tells for ever whether its response is still there.

## Main definitions

* `Ticket`, `Shelf`: shared responses with their holders.
* `Shelf.add`, `Shelf.hold`, `Shelf.release`: changes of the holders.
* `Shelf.read`, `Shelf.text`, `Shelf.commands`, `Shelf.append`: use of a response.
-/

namespace Colloquy

/-- What a holder of a response has. -/
structure Ticket where
  number : Nat
  deriving DecidableEq, Inhabited

/-- A response with the number of its holders. -/
structure Held (γ : Type) where
  response : Response γ
  holders : Nat

/-- Shared responses, and the game that some of them are made from. -/
structure Shelf (γ : Type) where
  held : List (Ticket × Held γ)
  /-- The number of the next ticket. -/
  fresh : Nat
  game : γ

namespace Shelf

variable {γ : Type}

/-- A shelf without responses. -/
def new (game : γ) : Shelf γ := ⟨[], 0, game⟩

/-- What is held under a ticket. -/
def get? (s : Shelf γ) (t : Ticket) : Option (Held γ) := s.held.lookup t

/-- How many holders a response has. -/
def holders (s : Shelf γ) (t : Ticket) : Nat :=
  match s.get? t with
  | some h => h.holders
  | none => 0

/-- Changes what is held under a ticket. -/
def update (s : Shelf γ) (t : Ticket) (f : Held γ → Held γ) : Shelf γ :=
  { s with held := s.held.map fun e => if e.1 = t then (e.1, f e.2) else e }

/-- The shelf with one more response, which has one holder, and its ticket. -/
def add (s : Shelf γ) (r : Response γ) : Ticket × Shelf γ :=
  (⟨s.fresh⟩, { s with held := (⟨s.fresh⟩, ⟨r, 1⟩) :: s.held, fresh := s.fresh + 1 })

/-- The shelf after one more holder has taken a ticket. -/
def hold (s : Shelf γ) (t : Ticket) : Shelf γ :=
  s.update t fun h => { h with holders := h.holders + 1 }

/-- The shelf after a holder has let go; the response of the last one leaves the shelf. -/
def release (s : Shelf γ) (t : Ticket) : Shelf γ :=
  if s.holders t ≤ 1 then { s with held := s.held.filter (·.1 ≠ t) }
  else s.update t fun h => { h with holders := h.holders - 1 }

/-- The shelf after a holder of each of these tickets has let go. -/
def releaseAll (s : Shelf γ) (ts : List Ticket) : Shelf γ := ts.foldl release s

/-- The parts of a response, and the shelf after they were read. -/
def read (s : Shelf γ) (t : Ticket) : List Part × Shelf γ :=
  match s.get? t with
  | none => ([], s)
  | some h =>
    let (parts, response, game) := h.response.read s.game
    (parts, { s.update t fun h => { h with response := response } with game := game })

/-- What comes of an access to a response, and the shelf afterwards; under an old ticket there is nothing. -/
def access {α : Type} [Inhabited α] (s : Shelf γ) (t : Ticket) (how : Response γ → γ → α × Response γ × γ) :
    α × Shelf γ :=
  match s.get? t with
  | none => (default, s)
  | some h =>
    let (a, response, game) := how h.response s.game
    (a, { s.update t fun h => { h with response := response } with game := game })

/-- The text of a response, and the shelf after it was read for that. -/
def text (s : Shelf γ) (t : Ticket) : String × Shelf γ := s.access t Response.text

/-- The commands of a response, and the shelf after it was read for them. -/
def commands (s : Shelf γ) (t : Ticket) : List Command × Shelf γ := s.access t Response.commands

/-- The shelf after a part was appended to a response, and what was noticed. -/
def append (s : Shelf γ) (t : Ticket) (part : Part) : Shelf γ × List String :=
  match s.get? t with
  | none => (s, [])
  | some h =>
    let (response, notices) := h.response.append part
    (s.update t fun h => { h with response := response }, notices)

end Shelf

end Colloquy
