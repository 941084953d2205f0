import Colloquy.Script.Template

/-!
# Scripts

A script runs one element of a document.  It keeps its variables over every change of document, and
its pass, which is where it stands in the document, from one call to the next.

### The pass

A pass is idle, running, waiting for an answer, or done.  Where it stands is a stack of frames: one for
each block it is inside, with what of that block is still to come.  Only a running or waiting pass has
frames and only a waiting one has a request, so those are parts of the `Pass` and not of the script.

## Main definitions

* `Frame`, `Loop`: a block in progress.
* `Pass`, `Script`: where a script stands, and all it holds.
* `Script.load`, `Script.start`, `Script.unload`: changes of document and pass.
* `Script.pushContext`, `Script.popContext`: changes of focus.
-/

namespace Colloquy

/-- The passes of a loop that are still to come: `current` is the number of the pass in progress. -/
structure Loop where
  /-- The variable that holds the number of the pass. -/
  iterator : Option String
  current : Int64
  last : Int64
  step : Int64
  deriving DecidableEq

/-- Whether the pass in progress is past the last one in the direction of the step. -/
def Loop.isPast (l : Loop) : Bool :=
  (0 < l.step.toInt && l.last.toInt < l.current.toInt) ||
    (l.step.toInt < 0 && l.current.toInt < l.last.toInt)

/-- The number of the pass behind the one in progress, unless that was the last one.  A number
beyond 64 bits is beyond every last one. -/
def Loop.next? (l : Loop) : Option Int64 :=
  (Text.Decimal.ofInt? (l.current.toInt + l.step.toInt)).filter fun next =>
    if 0 < l.step.toInt then next.toInt ≤ l.last.toInt else l.last.toInt ≤ next.toInt

/-- A block in progress. -/
structure Frame where
  /-- The node whose content is run. -/
  owner : Node
  /-- What of the content is still to come. -/
  rest : List Node
  /-- The loop, if the content is run more than once. -/
  loop : Option Loop

/-- The content of a node, run once. -/
def Frame.block (n : Node) : Frame := ⟨n, n.children, none⟩

/-- Where a loaded script stands. -/
inductive Pass where
  /-- No pass has begun, or the last one was halted. -/
  | idle
  | running (frames : List Frame)
  | waiting (request : Input.Request) (frames : List Frame)
  | done

namespace Pass

/-- The blocks in progress, innermost first. -/
def frames : Pass → List Frame
  | running frames | waiting _ frames => frames
  | _ => []

/-- What is waited for. -/
def request? : Pass → Option Input.Request
  | waiting request _ => some request
  | _ => none

end Pass

/-- A loaded document: its root, the script's element, and the pass. -/
structure Play where
  root : Node
  script : Node
  pass : Pass

/-- Limits and seeds of a new script that are not set take these values. -/
def defaultSeed : UInt32 := 1

/-- How many silent iterations a pass may go on for unless a script sets another limit. -/
def defaultStepLimit : Nat := 10000

/-- A script with all it holds. -/
structure Script (ρ : Type) where
  scope : Scope
  random : ρ
  stepLimit : Nat
  /-- What is loaded. -/
  play : Option Play

/-- The four states of a script that a caller tells apart. -/
inductive Script.State where
  | unloaded | normal | awaitingInput | done
  deriving DecidableEq

/-- The name of the state. -/
def Script.State.name : Script.State → String
  | unloaded => "unloaded"
  | normal => "normal"
  | awaitingInput => "awaitingInput"
  | done => "done"

namespace Script

variable {ρ : Type}

/-- A script to which nothing has happened yet. -/
def new (random : ρ) (stepLimit : Nat) : Script ρ := ⟨.initial, random, stepLimit, none⟩

/-- The state of the script. -/
def state (s : Script ρ) : State :=
  match s.play with
  | none => .unloaded
  | some p =>
    match p.pass with
    | .idle | .running _ => .normal
    | .waiting _ _ => .awaitingInput
    | .done => .done

/-- Whether a document is loaded. -/
def isLoaded (s : Script ρ) : Bool := s.play.isSome

/-- Whether no pass is in progress although none came to its end. -/
def isIdle (s : Script ρ) : Bool :=
  match s.play with
  | none => true
  | some p =>
    match p.pass with
    | .idle => true
    | _ => false

/-- What the script waits for. -/
def request? (s : Script ρ) : Option Input.Request := s.play.bind fun p => p.pass.request?

/-- The blocks in progress, innermost first. -/
def frames (s : Script ρ) : List Frame := (s.play.map fun p => p.pass.frames).getD []

/-- The script with another pass in its document. -/
def withPass (s : Script ρ) (pass : Pass) : Script ρ :=
  { s with play := s.play.map fun p => { p with pass := pass } }

/-- The script with a provider for the dotted names that begin with a word. -/
def withProvider (s : Script ρ) (qualifier : String) (provider : Provider) : Script ρ :=
  { s with scope := { s.scope with providers := s.scope.providers.insert qualifier provider } }

/-- The script with another random source. -/
def withRandom {σ : Type} (s : Script ρ) (random : σ) : Script σ :=
  ⟨s.scope, random, s.stepLimit, s.play⟩

/-- The script with a variable assigned. -/
def assign (s : Script ρ) (name : String) (v : Value) : Script ρ :=
  { s with scope := s.scope.assign name v }

/-- The script with a variable as if never assigned. -/
def forget (s : Script ρ) (name : String) : Script ρ := { s with scope := s.scope.forget name }

/-! ## Loading -/

/-- The script element with this id: the root itself, or the first one below it. -/
def findScript? (root : Node) (id : String) : Option Node :=
  if root.label == "script" && root.hasAttribute "id" id then some root
  else root.findBelow? (.byId "script" (some id))

/-- Loads a document.  The element with the script's id is what runs; in focus is that element or,
if a label and an id are given, the first element of the document with those.  The variables stay. -/
def load (s : Script ρ) (root : Node) (id : String) (sub : Option (String × String)) :
    Except Fault (Script ρ) := do
  let script ←
    match findScript? root id with
    | some script => pure script
    | none => throw (.noScript id)
  let base ←
    match sub with
    | none => pure script
    | some (label, subId) =>
      match root.findBelow? (.byId label (some subId)) with
      | some node => pure node
      | none => throw (.noSubNode label subId id)
  return { s with scope := { s.scope with focus := [base] }, play := some ⟨root, script, .idle⟩ }

/-- Drops the document with its pass and its focus. -/
def unload (s : Script ρ) : Script ρ :=
  { s with scope := { s.scope with focus := [] }, play := none }

/-- Begins a new pass at the first element of this name below the script's element. -/
def start (s : Script ρ) (label : String) : Except Fault (Script ρ) :=
  match s.play with
  | none => .error .notLoaded
  | some p =>
    match p.script.findBelow? (.byId label none) with
    | none => .error (.noLabel label p.script.describe)
    | some block => .ok (s.withPass (.running [.block block]))

end Script

/-! ## Focus -/

namespace Scope

/-- The first element of a name, and an id if one is given, below the innermost node in focus. -/
def narrower? (s : Scope) (label : String) (id : Option String) : Except Fault Node :=
  match s.focus with
  | [] => .error .notLoaded
  | current :: _ =>
    match current.findBelow? (.byId label id) with
    | some node => .ok node
    | none => .error (.noContext label id current.describe)

/-- The scope with one more node in focus. -/
def narrow (s : Scope) (n : Node) : Scope := { s with focus := n :: s.focus }

/-- The innermost node in focus and the scope without it.  The outermost one stays. -/
def widen? (s : Scope) : Except Fault (Node × Scope) :=
  match s.focus with
  | n :: outer@(_ :: _) => .ok (n, { s with focus := outer })
  | _ => .error .contextUnderflow

end Scope

namespace Script

variable {ρ : Type}

/-- Narrows the focus to the first element of a name below it. -/
def pushContext (s : Script ρ) (label : String) (id : Option String) :
    Except Fault (Node × Script ρ) := do
  let n ← s.scope.narrower? label id
  return (n, { s with scope := s.scope.narrow n })

/-- Undoes the last narrowing of the focus. -/
def popContext (s : Script ρ) : Except Fault (Node × Script ρ) := do
  let (n, scope) ← s.scope.widen?
  return (n, { s with scope := scope })

/-- The text with its blocks replaced, and the script after the random numbers drawn for it. -/
def translate [PatientSource ρ] (s : Script ρ) (text : String) :
    Except Fault String × Script ρ :=
  let drawn := (s.scope.translate text).run.run s.random
  (drawn.1, { s with random := drawn.2 })

/-- The value of an expression. -/
def evaluate (s : Script ρ) (text : String) : Except Fault Expr.Operand := s.scope.evaluate text

end Script

end Colloquy
