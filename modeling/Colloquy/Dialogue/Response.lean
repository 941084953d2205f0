import Colloquy.Dialogue.Part

/-!
# Responses

A response is fixed, or it is made anew from the state of the game each time it is read.  The one made
last is kept until the next time; it is let go before the next one is made, so a maker never meets it.

What a maker makes may be such a response itself.  Reading then reads the made one too, once.

## Main definitions

* `Response`: the two kinds.
* `Response.read`: the parts of a response, the response afterwards, and the game afterwards.
* `Response.text`, `Response.commands`: what is seen of the parts, each time by reading them.
-/

namespace Colloquy

/-- A response, given the states of the game. -/
inductive Response (γ : Type) where
  | fixed (parts : List Part)
  /-- Made anew by `make` each time, which also changes the game as `change` says.  Both are told
  whether an instance is kept at that moment. -/
  | dynamic (param : String) (make : Bool → γ → Response γ) (change : Bool → γ → γ)
      (kept : Option (Response γ))

namespace Response

variable {γ : Type}

instance : Inhabited (Response γ) := ⟨.fixed []⟩

/-- A response with nothing to say. -/
def empty : Response γ := .fixed []

/-- Whether the response is made anew each time. -/
def isDynamic : Response γ → Bool
  | fixed _ => false
  | dynamic _ _ _ _ => true

/-- The instance made by the last reading. -/
def kept? : Response γ → Option (Response γ)
  | fixed _ => none
  | dynamic _ _ _ kept => kept

/-- The response with nothing kept. -/
def withoutKept : Response γ → Response γ
  | fixed parts => fixed parts
  | dynamic param make change _ => dynamic param make change none

/-- The parts of the response, and the response and the game after they were read.  The instance that is kept is
let go first; then the maker is told whether one is kept. -/
def read : Response γ → γ → List Part × Response γ × γ
  | fixed parts, game => (parts, fixed parts, game)
  | dynamic param make change kept, game =>
    let met := (dynamic param make change kept).withoutKept.kept?.isSome
    let made := (make met game).read (change met game)
    (made.1, dynamic param make change (some made.2.1), made.2.2)

/-- No maker meets an instance. -/
theorem read_dynamic (param : String) (make : Bool → γ → Response γ) (change : Bool → γ → γ)
    (kept : Option (Response γ)) (game : γ) :
    (dynamic param make change kept).read game =
      let made := (make false game).read (change false game)
      (made.1, dynamic param make change (some made.2.1), made.2.2) := rfl

/-- The text of the response, and the response and the game after it was read for that. -/
def text (r : Response γ) (game : γ) : String × Response γ × γ :=
  let (parts, r, game) := r.read game
  (Part.textOf parts, r, game)

/-- The commands of the response, and the response and the game after it was read for them. -/
def commands (r : Response γ) (game : γ) : List Command × Response γ × γ :=
  let (parts, r, game) := r.read game
  (Part.commandsOf parts, r, game)

/-- The response as it is written where a text is wanted. -/
def display (r : Response γ) (game : γ) : String × Response γ × γ := r.text game

/-- The response with one more part, if it is fixed; a response made anew each time ignores the part,
which is noticed. -/
def append (r : Response γ) (part : Part) : Response γ × List String :=
  match r with
  | fixed parts => (fixed (parts ++ [part]), [])
  | dynamic param _ _ _ =>
    (r, ["ignoring part appended to dynamic response \"" ++ param ++ "\""])

/-- The response as a printed state shows it, without reading it. -/
def inspect : Response γ → String
  | fixed parts => Text.Printed.tagged "Response" (Text.Printed.sequence (parts.map Part.inspect))
  | dynamic param _ _ _ => Text.Printed.record "DynamicResponse" [("param", Text.quote param)]

end Response

end Colloquy
