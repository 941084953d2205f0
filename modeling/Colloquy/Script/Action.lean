import Colloquy.Script.Effect
import Colloquy.Script.State

/-!
# Actions

Every element that a pass meets is an action.  What an action comes to is decided before anything
happens: its attributes are translated and evaluated in a fixed order, what it refers to is looked up,
and the result is a `Deed`.  A fault on the way leaves nothing half done, because nothing but random
numbers has been spent by then.

## Main definitions

* `Action`: the actions, with `Action.ofLabel?`.
* `Deed`: what an action comes to.
* `Site.text?`, `Site.integer?`: attributes of an element.
* `Site.deed`: the deed of an element.
-/

namespace Colloquy

open Text

/-- The actions. -/
inductive Action where
  | context | unsetContext | finish | stop | redirect | waitForKeypress | wait | loop | random
  | move | sleep | cursor | pay | branch | otherwise | input | add | lose | heal | castSpell
  | damage | karma | music | assignment | ztats | inclusion
  deriving DecidableEq

namespace Action

/-- The names of the elements that are actions. -/
def labels : List (String × Action) :=
  [("context", context), ("unset_context", unsetContext), ("end", finish), ("stop", stop),
   ("redirect", redirect), ("wait_for_keypress", waitForKeypress), ("wait", wait),
   ("for", loop), ("random", random), ("move", move), ("sleep", sleep), ("cursor", cursor),
   ("pay", pay), ("if", branch), ("else", otherwise), ("input", input), ("add", add),
   ("lose", lose), ("heal", heal), ("cast_spell", castSpell), ("damage", damage),
   ("karma", karma), ("music", music), ("var", assignment), ("ztats", ztats), ("include", inclusion)]

/-- The action of an element of this name. -/
def ofLabel? (label : String) : Option Action := labels.lookup label

end Action

/-- The kind of input of this name, in any ASCII case and with blanks around; two names mean a
text. -/
def Input.Kind.read (raw : String) : Except Fault Input.Kind :=
  let name := lowerAscii (trim raw)
  if name = "text" then .ok .string
  else match Input.Kind.ofName? name with
    | some kind => .ok kind
    | none => .error (.unknownInput name)

/-- What an action comes to. -/
inductive Deed where
  /-- The pass goes on behind the element. -/
  | proceed
  /-- The pass goes on inside a block and comes back. -/
  | enter (frame : Frame)
  /-- The pass leaves everything it is inside and goes on in the content of a node. -/
  | jump (target : Node)
  | assign (name : String) (value : Value)
  | forget (name : String)
  | narrow (target : Node)
  | widen
  /-- The pass comes to its end. -/
  | finish
  /-- The pass is halted. -/
  | halt
  | pause (millis : Int64)
  | ask (request : Input.Request)
  /-- The game is asked for an effect.  If it refuses, the pass goes on where `refused` says. -/
  | perform (effect : Effect) (refused : Except Fault (Option Node))

/-- Where an action is met: the document, the script's element, and what names stand for. -/
structure Site where
  root : Node
  script : Node
  scope : Scope

namespace Site

variable {ρ : Type} [PatientSource ρ]

/-- The first element of a name, and an id if one is given, below the script's element; failing that,
the first one in the whole document. -/
def locate? (site : Site) (label : String) (id : Option String) : Option Node :=
  match site.script.findBelow? (.byId label id) with
  | some found => some found
  | none => site.root.findBelow? (.byId label id)

/-! ## Attributes -/

/-- The text of an attribute. -/
def text? (site : Site) (n : Node) (name : String) : Draw ρ (Option String) := do
  match n.attribute? name with
  | some raw =>
    let text ← site.scope.translate raw
    return some text
  | none => return none

/-- The text of an attribute that has to be there. -/
def text (site : Site) (n : Node) (name : String) : Draw ρ String := do
  match ← site.text? n name with
  | some text => return text
  | none => throw (.missingAttribute n.describe name)

/-- The integer that an attribute is an expression for. -/
def integer? (site : Site) (n : Node) (name : String) : Draw ρ (Option Int64) := do
  match ← site.text? n name with
  | some text =>
    match ← site.scope.evaluate text with
    | .int i => return some i
    | other => throw (.attributeKind name n.describe other.text)
  | none => return none

/-- The integer of an attribute that has to be there. -/
def integer (site : Site) (n : Node) (name : String) : Draw ρ Int64 := do
  match ← site.integer? n name with
  | some i => return i
  | none => throw (.missingAttribute n.describe name)

/-- The integer of an attribute, or one where it is missing. -/
def integerOrOne (site : Site) (n : Node) (name : String) : Draw ρ Int64 := do
  return (← site.integer? n name).getD 1

/-! ## What an element settles

What each kind of element reads off its attributes, before anything happens. -/

/-- The element that comes into focus. -/
def narrowing (site : Site) (n : Node) : Draw ρ Node := do
  let label ← site.text n "name"
  let id ← site.text? n "id"
  let target ← site.scope.narrower? label id
  return target

/-- Where a jump goes: to the first element with the target's name and id, or failing that the
default id. -/
def destination (site : Site) (n : Node) : Draw ρ Node := do
  let label ← site.text n "target"
  let id ← site.text? n "id"
  let fallback ← site.text? n "default"
  let found :=
    match site.locate? label id, fallback with
    | some target, _ => some target
    | none, some fallback => site.locate? label (some fallback)
    | none, none => none
  match found with
  | some target => return target
  | none => throw (.noRedirect n.describe label id)

/-- The number of the last pass of a loop; `none` if there is no pass.  A count says how many passes
there are; without one the end is given itself and need not be hit exactly. -/
def lastPass? (site : Site) (n : Node) (start step : Int64) : Draw ρ (Option Int64) := do
  match ← site.integer? n "count" with
  | some count =>
    if count.toInt ≤ 0 then return none
    else
      let last? := do
        let span ← Decimal.ofInt? ((count.toInt - 1) * step.toInt)
        Decimal.ofInt? (start.toInt + span.toInt)
      match last? with
      | some last => return some last
      | none => throw (.loopRange n.describe)
  | none =>
    let last ← site.integer n "end"
    return some last

/-- The passes of a loop, counting from a start by a step; `none` if a count asks for no pass. -/
def loop? (site : Site) (n : Node) : Draw ρ (Option Loop) := do
  let iterator ← site.text? n "var"
  let start ← site.integerOrOne n "start"
  let step ← site.integerOrOne n "step"
  if step = 0 then throw (.zeroStep n.describe)
  match ← site.lastPass? n start step with
  | none => return none
  | some last => return some ⟨iterator, start, last, step⟩

/-- The elements among the nodes with their weights, which count as zero below zero. -/
def weights (site : Site) : List Node → Draw ρ (List (Node × Int64))
  | [] => return []
  | n :: ns => do
    let weight ← site.integerOrOne n "weight"
    let others ← site.weights ns
    return (n, if weight.toInt < 0 then 0 else weight) :: others

/-- The sum of the weights, taken one by one in a word; there is none once a word is too small for it. -/
def sum? (weighted : List (Node × Int64)) : Option Int64 :=
  weighted.foldlM (fun sum w => Decimal.ofInt? (sum.toInt + w.2.toInt)) 0

/-- The node whose share of the weights holds the number drawn; the shares lie side by side in the
order of the nodes. -/
def choose? (draw : Int) : List (Node × Int64) → Option Node
  | [] => none
  | (n, weight) :: others =>
    if draw < weight.toInt then some n else choose? (draw - weight.toInt) others

/-- The node whose content chance selects: the element itself with a chance in a hundred, or one
child by its weight. -/
def selected? (site : Site) (n : Node) : Draw ρ (Option Node) := do
  match ← site.integer? n "chance" with
  | some chance =>
    let draw ← Draw.below 100
    if (draw.toNat : Int) < chance.toInt then return some n else return none
  | none =>
    let weighted ← site.weights n.childElements
    match sum? weighted with
    | none => throw .brokenSum
    | some total =>
      if total.toInt < 0 ∨ UInt32.size ≤ total.toInt then throw (.weightRange n.describe)
      else if total = 0 then return none
      else
        let draw ← Draw.below (UInt32.ofNat total.toInt.toNat)
        return choose? draw.toNat weighted

/-- Whether the cursor is to be seen. -/
def visibility (site : Site) (n : Node) : Draw ρ Bool := do
  let enable ← site.text? n "enable"
  match enable.map trim with
  | none => return true
  | some word =>
    if word = "true" ∨ word = "on" ∨ word = "1" then return true
    else if word = "false" ∨ word = "off" ∨ word = "0" then return false
    else throw (.notBoolean word)

/-- What is to be paid, and the name of the block for a refusal. -/
def payment (site : Site) (n : Node) : Draw ρ (Effect × Option String) := do
  let price ← site.integer n "price"
  let quantity ← site.integerOrOne n "quantity"
  let block ← site.text? n "cantpay"
  return (.pay price quantity, block)

/-- Where the pass goes on when a payment is refused: behind the element, or in a block if one is
named. -/
def refusal (site : Site) : Option String → Except Fault (Option Node)
  | none => .ok none
  | some label =>
    match site.locate? label none with
    | some target => .ok (some target)
    | none => .error (.noRefusalBlock label)

/-- The value of a condition. -/
def test (site : Site) (n : Node) : Draw ρ Expr.Operand := do
  let test ← site.text n "test"
  let x ← site.scope.evaluate test
  return x

/-- The request for an answer. -/
def request (site : Site) (n : Node) : Draw ρ Input.Request := do
  let name ← site.text n "type"
  let kind ← Input.Kind.read name
  let target ← site.text? n "name"
  let maxLength ←
    match ← site.integer? n "maxlen" with
    | some length =>
      if length.toInt < 0 then throw (.negativeLength length) else pure (some length.toInt.toNat)
    | none => pure none
  let options ← site.text? n "options"
  return ⟨kind, target, maxLength, options.map lower⟩

/-- A variable and the value that it gets, that of an expression or a text; `none` makes it unset. -/
def assignment (site : Site) (n : Node) : Draw ρ (String × Option Value) := do
  let name ← site.text n "name"
  match ← site.text? n "expr" with
  | some text =>
    let x ← site.scope.evaluate text
    return (name, some x.toValue)
  | none =>
    let text ← site.text? n "value"
    return (name, text.map .ofText)

/-- Another script of the document, or one block of it. -/
def included (site : Site) (n : Node) : Draw ρ Node := do
  let id ← site.text n "script"
  let block ← site.text? n "block"
  let found := do
    let script ← site.root.findBelow? (.byId "script" (some id))
    match block with
    | some label => script.findBelow? (.byId label none)
    | none => some script
  match found with
  | some target => return target
  | none => throw (.noInclude n.describe id block)

/-- The effect of an action that is nothing but an effect. -/
def effect? (site : Site) (n : Node) : Action → Draw ρ (Option Effect)
  | .move => do
    return some (.move (← site.integer? n "x") (← site.integer? n "y") (← site.integer? n "z"))
  | .sleep => return some .sleep
  | .cursor => do return some (.cursor (← site.visibility n))
  | .add => do
    return some (.add (← site.text n "type") (← site.text? n "subtype")
      (← site.integerOrOne n "amount"))
  | .lose => do
    return some (.lose (← site.text n "type") (← site.text? n "subtype")
      (← site.integerOrOne n "amount"))
  | .heal => do
    return some (.heal ((← site.text? n "type").getD "full") (← site.integer? n "player"))
  | .castSpell => do
    return some (.castSpell (← site.text n "spell") (← site.integer? n "player"))
  | .damage => do
    return some (.damage (← site.integer? n "player") (← site.integer n "pts"))
  | .karma => do
    return some (.karma (← site.text n "virtue") (← site.integerOrOne n "amount"))
  | .music => do return some (.music (← site.text n "type"))
  | .ztats => do return some (.ztats (← site.integer? n "player"))
  | _ => return none

/-! ## Deeds -/

/-- Runs the content of a node once, if there is one. -/
def contentDeed : Option Node → Deed
  | some n => .enter (.block n)
  | none => .proceed

/-- Runs the content of an element once a pass, unless the first pass is past the last. -/
def loopDeed (n : Node) : Option Loop → Deed
  | some l => if l.isPast then .proceed else .enter ⟨n, n.children, some l⟩
  | none => .proceed

/-- Gives a variable a value, or makes it unset. -/
def assignmentDeed (name : String) : Option Value → Deed
  | some v => .assign name v
  | none => .forget name

/-- Asks for an effect, if there is one. -/
def effectDeed : Option Effect → Deed
  | some effect => .perform effect (.ok none)
  | none => .proceed

/-- The deed of an element that is this action. -/
def deed (site : Site) (n : Node) (action : Action) : Draw ρ Deed := do
  match action with
  | .context => return .narrow (← site.narrowing n)
  | .unsetContext =>
    let _ ← site.scope.widen?
    return .widen
  | .finish => return .finish
  | .stop => return .halt
  | .redirect => return .jump (← site.destination n)
  | .waitForKeypress => return .ask .keypress
  | .wait => return .pause (← site.integer n "msecs")
  | .loop => return loopDeed n (← site.loop? n)
  | .random => return contentDeed (← site.selected? n)
  | .pay =>
    let (effect, block) ← site.payment n
    return .perform effect (site.refusal block)
  | .branch =>
    let x ← site.test n
    return contentDeed (if x.truthy then some n else n.findChild? "else")
  | .otherwise => return .proceed
  | .input => return .ask (← site.request n)
  | .assignment =>
    let (name, v) ← site.assignment n
    return assignmentDeed name v
  | .inclusion => return .enter (.block (← site.included n))
  | action => return effectDeed (← site.effect? n action)

end Site

end Colloquy
