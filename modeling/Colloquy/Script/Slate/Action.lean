import Colloquy.Script.Slate

/-!
# Actions in place

What an element does, done on the slate: its attributes are read one after the other, each of which may draw or
fail; what it refers to is looked up; and variables, frames, focus, state and request are written where the element
comes to it.  Nothing holds a write back until the last check.

## Main definitions

* `Slate.Outcome`: what an element tells the walk.
* `Slate.handle`: the actions.
-/

namespace Colloquy.Slate

open Text

/-- What an element tells the walk. -/
inductive Outcome where
  /-- The walk goes on. -/
  | onward
  /-- The walk goes on somewhere else. -/
  | redirected
  /-- The pass is halted. -/
  | stop
  /-- The walk is interrupted to show something. -/
  | suspend (output : Output)

variable {ρ η : Type} [PatientSource ρ]

/-! ## Attributes -/

/-- The text of an attribute. -/
def text? (n : Node) (name : String) : Work ρ η (Option String) := do
  let _ ← tree
  match n.attribute? name with
  | some raw =>
    let text ← translate raw
    return some text
  | none => return none

/-- The text of an attribute that has to be there. -/
def text (n : Node) (name : String) : Work ρ η String := do
  match ← text? n name with
  | some text => return text
  | none => throw (.missingAttribute n.describe name)

/-- The integer that an attribute is an expression for. -/
def integer? (n : Node) (name : String) : Work ρ η (Option Int64) := do
  match ← text? n name with
  | some text =>
    match ← evaluate text with
    | .int i => return some i
    | other => throw (.attributeKind name n.describe other.text)
  | none => return none

/-- The integer of an attribute that has to be there. -/
def integer (n : Node) (name : String) : Work ρ η Int64 := do
  match ← integer? n name with
  | some i => return i
  | none => throw (.missingAttribute n.describe name)

/-- The integer of an attribute, or one where it is missing. -/
def integerOrOne (n : Node) (name : String) : Work ρ η Int64 := do
  return (← integer? n name).getD 1

/-! ## Parts of actions -/

/-- The first element of a name, and an id if one is given, below the script's element; failing that,
the first one in the whole document. -/
def locate? (root : Node) (label : String) (id : Option String) : Work ρ η (Option Node) := do
  match (← look).script.bind fun script => script.findBelow? (.byId label id) with
  | some found => return some found
  | none => return root.findBelow? (.byId label id)

/-- Leaves all blocks and goes into the content of a node. -/
def jumpTo (target : Node) : Work ρ η Unit := do
  write ({ · with frames := [] })
  pushBlock target

/-- Waits for an answer. -/
def suspendForInput (request : Input.Request) : Work ρ η Outcome := do
  write ({ · with request := some request })
  write ({ · with state := .awaitingInput })
  return .suspend (.input request)

/-- Asks the game for an effect. -/
def apply (host : Host η) (effect : Effect) : Work ρ η Reply := fun w =>
  let answered := host effect w.game
  (answered.1, { w with game := answered.2 })

/-- Asks for an effect and goes on, whether the game refuses or not. -/
def perform (host : Host η) (effect : Effect) : Work ρ η Outcome := do
  let _ ← apply host effect
  return .onward

/-! ## Jumps -/

/-- Jumps to the first element with the target's name and id, or failing that the default id. -/
def redirect (n : Node) : Work ρ η Outcome := do
  let root ← tree
  let label ← text n "target"
  let id ← text? n "id"
  let fallback ← text? n "default"
  let found ←
    match ← locate? root label id, fallback with
    | some target, _ => pure (some target)
    | none, some fallback => locate? root label (some fallback)
    | none, none => pure none
  let target ← need found (.noRedirect n.describe label id)
  jumpTo target
  return .redirected

/-- Pays, and if the game refuses jumps to a block if one is named. -/
def pay (host : Host η) (n : Node) : Work ρ η Outcome := do
  let price ← integer n "price"
  let quantity ← integerOrOne n "quantity"
  let block ← text? n "cantpay"
  match ← apply host (.pay price quantity) with
  | .done => return .onward
  | .refused =>
    match block with
    | none => return .onward
    | some label =>
      let root ← tree
      let target ← need (← locate? root label none) (.noRefusalBlock label)
      jumpTo target
      return .redirected

/-! ## Blocks -/

/-- The number of the last pass of a loop; `none` if there is no pass. -/
def lastPass? (n : Node) (start step : Int64) : Work ρ η (Option Int64) := do
  match ← integer? n "count" with
  | some count =>
    if count.toInt ≤ 0 then return none
    else
      let last? := do
        let span ← Decimal.ofInt? ((count.toInt - 1) * step.toInt)
        Decimal.ofInt? (start.toInt + span.toInt)
      match last? with
      | some last => return some last
      | none => throw (.loopRange n.describe)
  | none =>
    let last ← integer n "end"
    return some last

/-- Binds the iterator to the number of the first pass and goes into the content, unless there is no pass. -/
def loop (n : Node) : Work ρ η Outcome := do
  let _ ← tree
  let iterator ← text? n "var"
  let start ← integerOrOne n "start"
  let step ← integerOrOne n "step"
  if step = 0 then throw (.zeroStep n.describe)
  match ← lastPass? n start step with
  | none => return .onward
  | some last =>
    let l : Loop := ⟨iterator, start, last, step⟩
    if l.isPast then return .onward
    else
      match iterator with
      | some name => assign name (.int start)
      | none => pure ()
      write fun s => { s with frames := ⟨n, n.children, some l⟩ :: s.frames }
      return .onward

/-- The elements with their weights, which count as zero below zero. -/
def weights : List Node → Work ρ η (List (Node × Int64))
  | [] => return []
  | n :: ns => do
    let weight ← integerOrOne n "weight"
    let others ← weights ns
    return (n, if weight.toInt < 0 then 0 else weight) :: others

/-- Counts a number down along the weights and goes into the content of the node at which it is used up. -/
def pushChosen (draw : Int) : List (Node × Int64) → Work ρ η Unit
  | [] => pure ()
  | (n, weight) :: others =>
    if draw < weight.toInt then pushBlock n else pushChosen (draw - weight.toInt) others

/-- Goes into the element's own content with a chance in a hundred, or into that of one child by its weight. -/
def chance (n : Node) : Work ρ η Outcome := do
  let _ ← tree
  match ← integer? n "chance" with
  | some chance =>
    let number ← draw (Draw.below 100)
    if (number.toNat : Int) < chance.toInt then
      pushBlock n
      return .onward
    else return .onward
  | none =>
    let weighted ← weights n.childElements
    match Site.sum? weighted with
    | none => throw .brokenSum
    | some total =>
      if total.toInt < 0 ∨ UInt32.size ≤ total.toInt then throw (.weightRange n.describe)
      else if total = 0 then return .onward
      else
        let number ← draw (Draw.below (UInt32.ofNat total.toInt.toNat))
        pushChosen number.toNat weighted
        return .onward

/-- Goes into the element's own content if its condition holds, else into that of its alternative. -/
def branch (n : Node) : Work ρ η Outcome := do
  let _ ← tree
  let test ← text n "test"
  let x ← evaluate test
  if x.truthy then
    pushBlock n
    return .onward
  else
    match n.findChild? "else" with
    | some alternative =>
      pushBlock alternative
      return .onward
    | none => return .onward

/-- Goes into the content of another script of the document, or of one block of it. -/
def inclusion (n : Node) : Work ρ η Outcome := do
  let root ← tree
  let id ← text n "script"
  let block ← text? n "block"
  let found := do
    let script ← root.findBelow? (.byId "script" (some id))
    match block with
    | some label => script.findBelow? (.byId label none)
    | none => some script
  let target ← need found (.noInclude n.describe id block)
  pushBlock target
  return .onward

/-! ## Variables and requests -/

/-- Gives a variable the value of an expression or a text, or makes it unset. -/
def assignment (n : Node) : Work ρ η Outcome := do
  let name ← text n "name"
  match ← text? n "expr" with
  | some text =>
    let x ← evaluate text
    assign name x.toValue
    return .onward
  | none =>
    match ← text? n "value" with
    | some text =>
      assign name (.ofText text)
      return .onward
    | none =>
      forget name
      return .onward

/-- Asks for an answer. -/
def input (n : Node) : Work ρ η Outcome := do
  let name ← text n "type"
  let kind ← Input.Kind.read name
  let target ← text? n "name"
  let maxLength ←
    match ← integer? n "maxlen" with
    | some length =>
      if length.toInt < 0 then throw (.negativeLength length) else pure (some length.toInt.toNat)
    | none => pure none
  let options ← text? n "options"
  suspendForInput ⟨kind, target, maxLength, options.map lower⟩

/-- Whether the cursor is to be seen. -/
def visibility (n : Node) : Work ρ η Bool := do
  let enable ← text? n "enable"
  match enable.map trim with
  | none => return true
  | some word =>
    if word = "true" ∨ word = "on" ∨ word = "1" then return true
    else if word = "false" ∨ word = "off" ∨ word = "0" then return false
    else throw (.notBoolean word)

/-! ## All actions -/

/-- What an element does that is this action. -/
def handle (host : Host η) (n : Node) : Action → Work ρ η Outcome
  | .context => do
    let label ← text n "name"
    let id ← text? n "id"
    let _ ← pushContext label id
    return .onward
  | .unsetContext => do
    let _ ← popContext
    return .onward
  | .finish => do
    write ({ · with frames := [] })
    write ({ · with state := .done })
    return .suspend .finished
  | .stop => return .stop
  | .redirect => redirect n
  | .waitForKeypress => suspendForInput .keypress
  | .wait => do
    let millis ← integer n "msecs"
    return .suspend (.wait millis)
  | .loop => loop n
  | .random => chance n
  | .move => do
    let x ← integer? n "x"
    let y ← integer? n "y"
    let z ← integer? n "z"
    perform host (.move x y z)
  | .sleep => perform host .sleep
  | .cursor => do
    let visible ← visibility n
    perform host (.cursor visible)
  | .pay => pay host n
  | .branch => branch n
  | .otherwise => return .onward
  | .input => input n
  | .add => do
    let item ← text n "type"
    let subtype ← text? n "subtype"
    let amount ← integerOrOne n "amount"
    perform host (.add item subtype amount)
  | .lose => do
    let item ← text n "type"
    let subtype ← text? n "subtype"
    let amount ← integerOrOne n "amount"
    perform host (.lose item subtype amount)
  | .heal => do
    let treatment ← text? n "type"
    let player ← integer? n "player"
    perform host (.heal (treatment.getD "full") player)
  | .castSpell => do
    let spell ← text n "spell"
    let player ← integer? n "player"
    perform host (.castSpell spell player)
  | .damage => do
    let player ← integer? n "player"
    let points ← integer n "pts"
    perform host (.damage player points)
  | .karma => do
    let virtue ← text n "virtue"
    let amount ← integerOrOne n "amount"
    perform host (.karma virtue amount)
  | .music => do
    let track ← text n "type"
    perform host (.music track)
  | .assignment => assignment n
  | .ztats => do
    let player ← integer? n "player"
    perform host (.ztats player)
  | .inclusion => inclusion n

end Colloquy.Slate
