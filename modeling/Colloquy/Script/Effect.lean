import Colloquy.Fault
import Colloquy.Json

/-!
# Effects on the game

What a script asks of the game around it.  The game answers each effect: it was done, or it was
refused, as when the party cannot pay; or the game reports a fault of its own.

## Main definitions

* `Effect`: the effects, with `Effect.kindName` and `Effect.toJson`.
* `Host`: a game that effects are put to, with a state of its own.
-/

namespace Colloquy

/-- A side effect that a script asks for. -/
inductive Effect where
  | move (x y z : Option Int64)
  | sleep
  | cursor (visible : Bool)
  | pay (price quantity : Int64)
  | add (item : String) (subtype : Option String) (amount : Int64)
  | lose (item : String) (subtype : Option String) (amount : Int64)
  | heal (treatment : String) (player : Option Int64)
  | castSpell (spell : String) (player : Option Int64)
  | damage (player : Option Int64) (points : Int64)
  | karma (virtue : String) (amount : Int64)
  | music (track : String)
  | ztats (player : Option Int64)
  deriving DecidableEq

namespace Effect

/-- The name of the kind of effect. -/
def kindName : Effect → String
  | move _ _ _ => "move"
  | sleep => "sleep"
  | cursor _ => "cursor"
  | pay _ _ => "pay"
  | add _ _ _ => "add"
  | lose _ _ _ => "lose"
  | heal _ _ => "heal"
  | castSpell _ _ => "castSpell"
  | damage _ _ => "damage"
  | karma _ _ => "karma"
  | music _ => "music"
  | ztats _ => "ztats"

/-- What the effect says besides its kind, in the order of the notation. -/
def fields : Effect → List (String × Json)
  | move x y z =>
    [("x", .ofOption .ofInt64 x), ("y", .ofOption .ofInt64 y), ("z", .ofOption .ofInt64 z)]
  | sleep => []
  | cursor visible => [("visible", .bool visible)]
  | pay price quantity => [("price", .ofInt64 price), ("quantity", .ofInt64 quantity)]
  | add item subtype amount | lose item subtype amount =>
    [("item", .str item), ("subtype", .ofOption .str subtype), ("amount", .ofInt64 amount)]
  | heal treatment player =>
    [("treatment", .str treatment), ("player", .ofOption .ofInt64 player)]
  | castSpell spell player => [("spell", .str spell), ("player", .ofOption .ofInt64 player)]
  | damage player points => [("player", .ofOption .ofInt64 player), ("points", .ofInt64 points)]
  | karma virtue amount => [("virtue", .str virtue), ("amount", .ofInt64 amount)]
  | music track => [("track", .str track)]
  | ztats player => [("player", .ofOption .ofInt64 player)]

/-- The effect as an object whose first field names its kind. -/
def toJson (e : Effect) : Json := .object (("kind", .str e.kindName) :: e.fields)

end Effect

/-- How the game answers an effect that it does not fail at. -/
inductive Reply where
  | done
  | refused
  deriving DecidableEq

/-- A game with a state: what it answers to an effect, and the state afterwards. -/
abbrev Host (η : Type) := Effect → η → Except Fault Reply × η

/-- A game that does everything it is asked and changes nothing. -/
def Host.obliging {η : Type} : Host η := fun _ game => (.ok .done, game)

/-- A game that does everything it is asked and keeps a record of it, latest last. -/
def Host.recording : Host (List Effect) := fun effect record => (.ok .done, record ++ [effect])

end Colloquy
