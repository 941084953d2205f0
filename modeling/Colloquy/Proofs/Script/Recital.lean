import Colloquy.Script.Answer
import Colloquy.Script.Walk

/-!
# What a document means when it is played

The structural meaning of a script's document.  A recital runs the content of a node by running the nodes
of the content one after the other, and running a node may mean to run the content of another: there are
no frames and no cursors, and where the walk through a document keeps a stack, a recital is in the middle
of a recursion.

A recital tells what happens as a list of moments: each effect on the game, each output and each fault,
with the scope behind it.  What an element reads off its attributes it decides the way the walk does
(`Site.narrowing`, `Site.destination` and so on), since that is not a matter of structure.  A fault on the
way is told and the element is passed over.

### Leaving and cutting off

Jumps, the end, a halt and a request for which no answer is left abandon everything that the recital is in
the middle of, so they are exits.  Only jumps and inclusions lead a recital anywhere but further down or
on, and only they can make it go on for ever; the fuel bounds how deep it gets and how many jumps it
follows, and a recital that comes to that bound is cut off.  The statement about recitals
(`Colloquy.Proofs.Script.Simulation`) is about all amounts of fuel.

## Main definitions

* `Event`, `Moment`, `Stage`: what happens, and what it happens to.
* `Exit`, `Recital`: computations on a stage that can leave.
* `Recital.element`: the meaning of each action.
* `Recital.node`, `Recital.content`, `recite`: the meaning of a node, of the content of a node, and of all
  that follows a start.
-/

namespace Colloquy

/-- What happens during a pass for others to notice. -/
inductive Event where
  | effect (effect : Effect)
  | output (output : Output)
  | fault (fault : Fault)

/-- Something that happened, and the scope behind it. -/
structure Moment where
  event : Event
  scope : Scope

/-- What a pass changes apart from where it stands. -/
structure Stage (ρ η : Type) where
  scope : Scope
  random : ρ
  game : η
  /-- The answers that have not been given yet. -/
  answers : List String
  /-- What happened, in order. -/
  trace : List Moment

namespace Stage

variable {ρ η : Type}

/-- The stage after something happened. -/
def record (s : Stage ρ η) (event : Event) : Stage ρ η :=
  { s with trace := s.trace ++ [⟨event, s.scope⟩] }

/-- The stage with the random source after some draws. -/
def drawn (s : Stage ρ η) (random : ρ) : Stage ρ η := { s with random := random }

/-- The stage after an answer was accepted. -/
def accept (s : Stage ρ η) (request : Input.Request) (v : Value) (later : List String) : Stage ρ η :=
  { s with
    answers := later
    scope :=
      match request.target with
      | some name => s.scope.assign name v
      | none => s.scope }

/-- The stage after an answer was rejected. -/
def reject (s : Stage ρ η) (fault : Fault) (later : List String) : Stage ρ η :=
  record { s with answers := later } (.fault fault)

end Stage

/-- How a recital leaves everything that it is in the middle of. -/
inductive Exit where
  /-- It goes on with the content of this node and nothing else. -/
  | jump (target : Node)
  | finished
  | halted
  /-- There is no answer left to this request. -/
  | waiting (request : Input.Request)
  /-- The fuel is used up. -/
  | cut

/-- A computation on a stage that may leave. -/
abbrev Recital (ρ η α : Type) := ExceptT Exit (StateM (Stage ρ η)) α

/-- The numbers of the passes: those that the step leads to from the current one and that are not past
the last. -/
def Loop.numbers (l : Loop) : List Int64 :=
  let passes := ((l.last.toInt - l.current.toInt).fdiv l.step.toInt + 1).toNat
  (List.range passes).map fun (k : Nat) => Int64.ofInt (l.current.toInt + k * l.step.toInt)

/-- The scope in which a loop runs the pass of this number. -/
def Scope.count (s : Scope) (iterator : Option String) (number : Int64) : Scope :=
  match iterator with
  | some name => s.assign name (.int number)
  | none => s

namespace Recital

variable {ρ η α β : Type}

theorem bind_apply (c : Recital ρ η α) (d : α → Recital ρ η β) (s : Stage ρ η) :
    (c >>= d) s =
      match c s with
      | (.ok a, s) => d a s
      | (.error exit, s) => (.error exit, s) := by
  rcases given : c s with ⟨_ | _, _⟩
  · simp only [bind, ExceptT.bind, ExceptT.mk, ExceptT.bindCont, StateT.bind, given]
    rfl
  · simp only [bind, ExceptT.bind, ExceptT.mk, ExceptT.bindCont, StateT.bind, given]

/-- Does nothing. -/
def skip : Recital ρ η Unit := pure ()

/-- Tells what happens. -/
def tell (event : Event) : Recital ρ η Unit := fun s => (.ok (), s.record event)

/-- Changes the scope. -/
def change (f : Scope → Scope) : Recital ρ η Unit := fun s => (.ok (), { s with scope := f s.scope })

/-- Leaves. -/
def leave (exit : Exit) : Recital ρ η Unit := fun s => (.error exit, s)

/-- Decides something in the scope as it is and goes on with it; a fault is told and that is all. -/
def attempt (decision : Scope → Draw ρ α) (go : α → Recital ρ η Unit) : Recital ρ η Unit := fun s =>
  match (decision s.scope).run.run s.random with
  | (.ok a, random) => go a (s.drawn random)
  | (.error fault, random) => (.ok (), (s.drawn random).record (.fault fault))

/-- Asks the game for an effect and goes on with what it replies. -/
def put (host : Host η) (effect : Effect) (go : Reply → Recital ρ η Unit) : Recital ρ η Unit := fun s =>
  let answered := host effect s.game
  let s := Stage.record { s with game := answered.2 } (.effect effect)
  match answered.1 with
  | .ok reply => go reply s
  | .error fault => (.ok (), s.record (.fault fault))

/-- Hears the answers until one is accepted, which goes where the request says; each rejected one is a
fault. -/
def hear (request : Input.Request) : List String → Recital ρ η Unit
  | [] => leave (.waiting request)
  | raw :: later => fun s =>
    match request.read raw with
    | .ok v => (.ok (), s.accept request v later)
    | .error fault => hear request later (s.reject fault later)

/-- Shows a request and hears the answers that are left. -/
def ask (request : Input.Request) : Recital ρ η Unit := do
  tell (.output (.input request))
  fun s => hear request s.answers s

/-- Runs the content of a loop for the pass of this number. -/
def round (run : Node → Recital ρ η Unit) (n : Node) (iterator : Option String) (number : Int64) :
    Recital ρ η Unit := do
  change (·.count iterator number)
  run n

variable [PatientSource ρ]

/-- Says a text with its blocks replaced; a blank text is nothing to say. -/
def say (raw : String) : Recital ρ η Unit :=
  if Text.trim raw = "" then skip
  else attempt (fun scope => scope.translate (Text.trim raw)) fun text => tell (.output (.text text))

section

variable (host : Host η) (root script : Node)

/-- The meaning of an element that is this action, given what it means to run the content of a node. -/
def element (run : Node → Recital ρ η Unit) (n : Node) (action : Action) : Recital ρ η Unit :=
  let site (scope : Scope) : Site := ⟨root, script, scope⟩
  match action with
  | .context => attempt (fun scope => (site scope).narrowing n) fun target => change (·.narrow target)
  | .unsetContext => attempt (fun scope => liftM scope.widen?) fun widened => change fun _ => widened.2
  | .finish => do
    tell (.output .finished)
    leave .finished
  | .stop => do
    tell (.output .stopped)
    leave .halted
  | .redirect => attempt (fun scope => (site scope).destination n) fun target => leave (.jump target)
  | .waitForKeypress => ask .keypress
  | .wait => attempt (fun scope => (site scope).integer n "msecs") fun ms => tell (.output (.wait ms))
  | .loop =>
    attempt (fun scope => (site scope).loop? n) fun
      | some l => l.numbers.forM (round run n l.iterator)
      | none => skip
  | .random =>
    attempt (fun scope => (site scope).selected? n) fun
      | some selected => run selected
      | none => skip
  | .pay =>
    attempt (fun scope => do
      let (effect, block) ← (site scope).payment n
      return (effect, (site scope).refusal block)) fun (effect, refusal) => put host effect fun
        | .done => skip
        | .refused =>
          match refusal with
          | .ok (some target) => leave (.jump target)
          | .ok none => skip
          | .error fault => tell (.fault fault)
  | .branch =>
    attempt (fun scope => (site scope).test n) fun x =>
      if x.truthy then run n
      else match n.findChild? "else" with
        | some otherwise => run otherwise
        | none => skip
  | .otherwise => skip
  | .input => attempt (fun scope => (site scope).request n) ask
  | .assignment =>
    attempt (fun scope => (site scope).assignment n) fun
      | (name, some v) => change (·.assign name v)
      | (name, none) => change (·.forget name)
  | .inclusion => attempt (fun scope => (site scope).included n) run
  | action =>
    attempt (fun scope => (site scope).effect? n action) fun
      | some effect => put host effect fun _ => skip
      | none => skip

/-- The meaning of a node of a content, with fuel for this many nodes one inside the other.  To run the
content of a node is to run its nodes in order. -/
def node : Nat → Node → Recital ρ η Unit
  | 0, _ => leave .cut
  | _ + 1, .text _ _ raw => say raw
  | fuel + 1, .element index origin label attributes children =>
    match Action.ofLabel? label with
    | some action =>
      element host root script (fun m => m.children.forM (node fuel))
        (.element index origin label attributes children) action
    | none => skip

/-- The meaning of the content of a node: that of its nodes in order. -/
def content (fuel : Nat) (n : Node) : Recital ρ η Unit := n.children.forM (node host root script fuel)

end

end Recital

/-- The meaning of all that follows a start at a node: its content, and that of each node that a jump leads
to, with fuel for this many of those and for as many nodes one inside the other.  At the end of a content
the pass comes to its end. -/
def recite {ρ η : Type} [PatientSource ρ] (host : Host η) (root script : Node) :
    Nat → Node → Stage ρ η → Exit × Stage ρ η
  | 0, _, s => (.cut, s)
  | fuel + 1, target, s =>
    match Recital.content host root script (fuel + 1) target s with
    | (.ok (), s) => (.finished, s.record (.output .finished))
    | (.error (.jump next), s) => recite host root script fuel next s
    | (.error exit, s) => (exit, s)

end Colloquy
