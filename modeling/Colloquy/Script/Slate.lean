import Colloquy.Script.Answer
import Colloquy.Script.Walk

/-!
# Scripts in place

A script in storage is a row of fields, each of which is written by itself: the document, the script's element,
the state that callers are told, the blocks in progress, the request that waits, and so on.  Nothing but the order
in which they are written keeps them together, and what was written before a failure stays written.

This file has the calls on such a row, one check and one write after the other.  The elements that a pass meets and
the walk are carried out in the same way in `Colloquy.Script.Slate.Action` and `Colloquy.Script.Slate.Walk`.  A
`Script` has what the calls come to instead, and cannot hold fields that do not belong together; that both do the same
is shown in `Colloquy.Proofs.Slate.Calls` and `Colloquy.Proofs.Slate.Walk`.

## Main definitions

* `Slate`: a script as its fields, and `Slate.of` for the fields of a script.
* `Slate.World`, `Slate.Work`: what is done with a slate and the game around it, step by step.
* `Slate.Call`, with `Slate.Call.work`: the calls but for output.
-/

namespace Colloquy

/-- A script as its fields. -/
structure Slate (ρ : Type) where
  /-- The root of the loaded document. -/
  root : Option Node
  /-- The element that runs. -/
  script : Option Node
  state : Script.State
  /-- The blocks in progress, innermost first. -/
  frames : List Frame
  /-- The variables, the providers and the nodes in focus. -/
  scope : Scope
  /-- What is waited for. -/
  request : Option Input.Request
  random : ρ
  stepLimit : Nat
  /-- Whether no pass is in progress although none came to its end. -/
  idle : Bool

namespace Slate

variable {ρ η α : Type}

/-- The fields of a script to which nothing has happened yet. -/
def new (random : ρ) (stepLimit : Nat) : Slate ρ :=
  ⟨none, none, .unloaded, [], .initial, none, random, stepLimit, true⟩

/-- The fields of a script. -/
def of (s : Script ρ) : Slate ρ :=
  ⟨s.play.map Play.root, s.play.map Play.script, s.state, s.frames, s.scope, s.request?, s.random, s.stepLimit,
    s.isIdle⟩

/-- The slate with another random source. -/
def withRandom {σ : Type} (s : Slate ρ) (random : σ) : Slate σ :=
  ⟨s.root, s.script, s.state, s.frames, s.scope, s.request, random, s.stepLimit, s.idle⟩

/-- A slate with the game around it. -/
structure World (ρ η : Type) where
  slate : Slate ρ
  game : η
  /-- What was noticed, in order. -/
  notices : List String

/-- Something done in a world, which may fail on the way. -/
abbrev Work (ρ η α : Type) := ExceptT Fault (StateM (World ρ η)) α

/-! ## Steps -/

/-- The slate as it is now. -/
def look : Work ρ η (Slate ρ) := do return (← get).slate

/-- Writes on the slate. -/
def write (f : Slate ρ → Slate ρ) : Work ρ η Unit := modify fun w => { w with slate := f w.slate }

/-- What was found; it is a failure to have found nothing. -/
def need (found : Option α) (fault : Fault) : Work ρ η α :=
  match found with
  | some a => pure a
  | none => throw fault

/-- The loaded document. -/
def tree : Work ρ η Node := do need (← look).root .notLoaded

/-- Draws from the random source of the slate. -/
def draw (d : Draw ρ α) : Work ρ η α := fun w =>
  let drawn := d.run.run w.slate.random
  (drawn.1, { w with slate := { w.slate with random := drawn.2 } })

/-! ## Names -/

/-- Assigns a variable. -/
def assign (name : String) (v : Value) : Work ρ η Unit := write fun s => { s with scope := s.scope.assign name v }

/-- Makes a variable as if never assigned. -/
def forget (name : String) : Work ρ η Unit := write fun s => { s with scope := s.scope.forget name }

/-- The value of an expression. -/
def evaluate (text : String) : Work ρ η Expr.Operand := do (← look).scope.evaluate text

/-- Registers a provider. -/
def provide (qualifier : String) (provider : Provider) : Work ρ η Unit :=
  write fun s => { s with scope := { s.scope with providers := s.scope.providers.insert qualifier provider } }

/-! ## Texts -/

/-- What the nodes in focus say of a noun; the innermost that says anything has the word. -/
def noun (noun : String) : Work ρ η String := do
  let _ ← tree
  need ((← look).scope.focus.findSome? (Scope.nounAt? noun)) (.unknownNoun noun)

section Texts

variable [PatientSource ρ]

/-- The text that a block stands for, given by what is inside it without outer blanks. -/
def resolveBlock (block : List Char) : Work ρ η String := do
  match block with
  | '$' :: name => return ((← look).scope.value (String.ofList (Text.trimChars name))).toText
  | _ =>
    match Scope.call? block with
    | some (function, argument) => draw ((← look).scope.apply function argument)
    | none =>
      if block.contains '.' then (← look).scope.resolve (Text.splitOn '.' (String.ofList block))
      else noun (String.ofList block)

mutual

/-- The characters that a fragment stands for. -/
def expand : Fragment → Work ρ η (List Char)
  | .char c => return [c]
  | .block inside => do
    let block ← expandAll inside
    let text ← resolveBlock (Text.trimChars block)
    return text.toList

/-- The characters that fragments stand for, in order. -/
def expandAll : List Fragment → Work ρ η (List Char)
  | [] => return []
  | f :: fs => do
    let first ← expand f
    let others ← expandAll fs
    return first ++ others

end

/-- Replaces the blocks of a text. -/
def translate (text : String) : Work ρ η String := do
  let template := Template.ofChars text.toList
  let cs ← expandAll template.fragments
  if template.closed then return String.ofList cs
  else throw (.unclosedBlock text)

end Texts

/-! ## Focus -/

/-- The first element of a name, and an id if one is given, below the innermost node in focus. -/
def narrower (label : String) (id : Option String) : Work ρ η Node := do
  let _ ← tree
  let current ← need (← look).scope.focus.head? .notLoaded
  need (current.findBelow? (.byId label id)) (.noContext label id current.describe)

/-- Finds the node and puts it on top of the focus. -/
def pushContext (label : String) (id : Option String) : Work ρ η Node := do
  let found ← narrower label id
  write fun s => { s with scope := s.scope.narrow found }
  return found

/-- Checks that the innermost node in focus is not the outermost, and takes it off. -/
def popContext : Work ρ η Node := do
  let focus := (← look).scope.focus
  if focus.length ≤ 1 then throw .contextUnderflow
  write fun s => { s with scope := { s.scope with focus := focus.tail } }
  need focus.head? .notLoaded

/-! ## Documents and passes -/

/-- Finds the script's element and what comes into focus; then writes the document and drops all that belonged to
the one before. -/
def load (root : Node) (id : String) (sub : Option (String × String)) : Work ρ η Unit := do
  let script ← need (Script.findScript? root id) (.noScript id)
  let base ←
    match sub with
    | none => pure script
    | some (label, subId) => need (root.findBelow? (.byId label (some subId))) (.noSubNode label subId id)
  write ({ · with root := some root })
  write ({ · with script := some script })
  write fun s => { s with scope := { s.scope with focus := [base] } }
  write ({ · with frames := [] })
  write ({ · with request := none })
  write ({ · with state := .normal })
  write ({ · with idle := true })

/-- Drops the document and all that belongs to it. -/
def unload : Work ρ η Unit := do
  write ({ · with root := none })
  write ({ · with script := none })
  write ({ · with frames := [] })
  write fun s => { s with scope := { s.scope with focus := [] } }
  write ({ · with request := none })
  write ({ · with state := .unloaded })
  write ({ · with idle := true })

/-- Goes into the content of a node, inside the blocks in progress. -/
def pushBlock (n : Node) : Work ρ η Unit := write fun s => { s with frames := .block n :: s.frames }

/-- Finds the block and begins a pass in it. -/
def start (label : String) : Work ρ η Unit := do
  let _ ← tree
  let script ← need (← look).script .notLoaded
  let block ← need (script.findBelow? (.byId label none)) (.noLabel label script.describe)
  write ({ · with frames := [] })
  pushBlock block
  write ({ · with request := none })
  write ({ · with state := .normal })
  write ({ · with idle := false })

/-- Checks the answer against the request, puts it where the request says, and drops the request. -/
def submit (raw : String) : Work ρ η Unit := do
  let request ← need (← look).request .noPendingInput
  let v ← request.read raw
  match request.target with
  | some name => assign name v
  | none => pure ()
  write ({ · with request := none })
  write ({ · with state := .normal })

/-! ## Calls -/

/-- The calls but for output. -/
inductive Call where
  | load (root : Node) (id : String) (sub : Option (String × String))
  | unload
  | start (label : String)
  | submit (raw : String)
  | pushContext (label : String) (id : Option String)
  | popContext
  | assign (name : String) (v : Value)
  | forget (name : String)
  | translate (text : String)
  | evaluate (text : String)
  | provide (qualifier : String) (provider : Provider)

/-- The call, one step after another. -/
def Call.work [PatientSource ρ] : Call → Work ρ η Unit
  | load root id sub => Slate.load root id sub
  | unload => Slate.unload
  | start label => Slate.start label
  | submit raw => Slate.submit raw
  | pushContext label id => do
    let _ ← Slate.pushContext label id
  | popContext => do
    let _ ← Slate.popContext
  | assign name v => Slate.assign name v
  | forget name => Slate.forget name
  | translate text => do
    let _ ← Slate.translate text
  | evaluate text => do
    let _ ← Slate.evaluate text
  | provide qualifier provider => Slate.provide qualifier provider

/-- The slate behind a call, whether it failed or not. -/
def after [PatientSource ρ] (s : Slate ρ) (c : Call) : Slate ρ := (c.work.run.run ⟨s, (), []⟩).2.slate

end Slate

end Colloquy
