import Colloquy.Script.Action

/-!
# Walking through a script

A call for output walks on from where the pass stands until there is something to show: a text, a
request for input, a pause, a halt, the end, or a fault.

### One iteration

`Scene.tick` is one iteration of the walk.  It takes the next node of the innermost block, and the
block is behind the node before the node does anything; so after a fault the walk goes on behind the
failing node, inside the same blocks and loops.  A block without a next node is left, or begins its next
pass if it is a loop.

### The guard

A script's step limit is the number of iterations that may pass in one call without anything to show.
A loop that begins a new pass starts the count again.  A walk in which that happens for ever goes on for
ever, so `Scene.walk` takes fuel; it gives `none` only when the fuel is used up, and more fuel never
changes an answer.

## Main definitions

* `Output`: what a script shows.
* `Scene`: what changes during a walk.
* `Scene.tick`, `Scene.walk`: one iteration and the whole walk.
* `Script.next`: the next output of a script.
-/

namespace Colloquy

open Text

/-- What a script shows to its caller. -/
inductive Output where
  | text (text : String)
  | input (request : Input.Request)
  /-- A pause; the script goes on when it is asked again. -/
  | wait (millis : Int64)
  /-- The pass was halted; a new one has to be started. -/
  | stopped
  | finished
  deriving DecidableEq

/-- What changes while a script walks through a document. -/
structure Scene (ρ η : Type) where
  scope : Scope
  random : ρ
  frames : List Frame
  game : η
  /-- What was noticed on the way, in order. -/
  notices : List String

/-- What an iteration comes to. -/
inductive Step where
  /-- Nothing to show. -/
  | quiet
  /-- Nothing to show, but a loop began its next pass. -/
  | round
  | shown (output : Output)
  | failed (fault : Fault)

namespace Scene

variable {ρ η : Type}

/-- Leaves the innermost block, which has no next node, or begins its next pass. -/
def close (s : Scene ρ η) (f : Frame) (outer : List Frame) : Scene ρ η × Step :=
  match f.loop with
  | none => ({ s with frames := outer }, .quiet)
  | some l =>
    match l.next? with
    | none => ({ s with frames := outer }, .quiet)
    | some number =>
      let again : Frame := ⟨f.owner, f.owner.children, some { l with current := number }⟩
      let scope :=
        match l.iterator with
        | some name => s.scope.assign name (.int number)
        | none => s.scope
      ({ s with scope := scope, frames := again :: outer }, .round)

/-- The scene inside a block; a loop's iterator holds the number of its first pass. -/
def enter (s : Scene ρ η) (f : Frame) : Scene ρ η :=
  let scope :=
    match f.loop with
    | some ⟨some name, first, _, _⟩ => s.scope.assign name (.int first)
    | _ => s.scope
  { s with scope := scope, frames := f :: s.frames }

/-- The scene in the content of a node, outside everything else. -/
def jump (s : Scene ρ η) (target : Node) : Scene ρ η := { s with frames := [.block target] }

/-- Does what an action comes to. -/
def enact (host : Host η) (s : Scene ρ η) : Deed → Scene ρ η × Step
  | .proceed => (s, .quiet)
  | .enter f => (s.enter f, .quiet)
  | .jump target => (s.jump target, .quiet)
  | .assign name v => ({ s with scope := s.scope.assign name v }, .quiet)
  | .forget name => ({ s with scope := s.scope.forget name }, .quiet)
  | .narrow n => ({ s with scope := s.scope.narrow n }, .quiet)
  | .widen =>
    match s.scope.widen? with
    | .ok (_, scope) => ({ s with scope := scope }, .quiet)
    | .error fault => (s, .failed fault)
  | .finish => ({ s with frames := [] }, .shown .finished)
  | .halt => ({ s with frames := [] }, .shown .stopped)
  | .pause millis => (s, .shown (.wait millis))
  | .ask request => (s, .shown (.input request))
  | .perform effect refused =>
    let answered := host effect s.game
    let s := { s with game := answered.2 }
    match answered.1 with
    | .error fault => (s, .failed fault)
    | .ok .done => (s, .quiet)
    | .ok .refused =>
      match refused with
      | .error fault => (s, .failed fault)
      | .ok none => (s, .quiet)
      | .ok (some target) => (s.jump target, .quiet)

variable [PatientSource ρ]

/-- Shows a text with its blocks replaced; a blank text is nothing to show. -/
def speak (s : Scene ρ η) (raw : String) : Scene ρ η × Step :=
  let raw := trim raw
  if raw = "" then (s, .quiet)
  else
    let drawn := (s.scope.translate raw).run.run s.random
    let s := { s with random := drawn.2 }
    match drawn.1 with
    | .ok text => (s, .shown (.text text))
    | .error fault => (s, .failed fault)

/-- Does what an element comes to.  An element that is no action is noticed and passed over. -/
def act (host : Host η) (root script : Node) (s : Scene ρ η) (n : Node) : Scene ρ η × Step :=
  match Action.ofLabel? n.label with
  | none =>
    let notice := "unknown script action " ++ n.describe ++ ", skipped"
    ({ s with notices := s.notices ++ [notice] }, .quiet)
  | some action =>
    let site : Site := ⟨root, script, s.scope⟩
    let drawn := (site.deed n action).run.run s.random
    let s := { s with random := drawn.2 }
    match drawn.1 with
    | .ok deed => s.enact host deed
    | .error fault => (s, .failed fault)

/-- One iteration of the walk. -/
def tick (host : Host η) (root script : Node) (s : Scene ρ η) : Scene ρ η × Step :=
  match s.frames with
  | [] => (s, .shown .finished)
  | f :: outer =>
    match f.rest with
    | [] => s.close f outer
    | n :: rest =>
      let s := { s with frames := { f with rest := rest } :: outer }
      match n with
      | .text _ _ raw => s.speak raw
      | .element _ _ _ _ _ => s.act host root script n

/-- Walks until there is something to show or `left` iterations have passed without; `limit` is the
count that a new pass of a loop starts from.  Without fuel there is no answer. -/
def walk (host : Host η) (root script : Node) (limit : Nat) :
    (fuel left : Nat) → Scene ρ η → Option (Scene ρ η × Except Fault Output)
  | _, 0, s => some (s, .error (.stepLimit limit))
  | 0, _ + 1, _ => none
  | fuel + 1, left + 1, s =>
    match s.tick host root script with
    | (s, .quiet) => walk host root script limit fuel left s
    | (s, .round) => walk host root script limit fuel limit s
    | (s, .shown output) => some (s, .ok output)
    | (s, .failed fault) => some (s, .error fault)

/-- More fuel never changes an answer. -/
theorem walk_mono (host : Host η) (root script : Node) (limit : Nat) {fuel fuel' left : Nat}
    {s : Scene ρ η} {r : Scene ρ η × Except Fault Output} (le : fuel ≤ fuel')
    (h : walk host root script limit fuel left s = some r) :
    walk host root script limit fuel' left s = some r := by
  induction fuel generalizing fuel' left s with
  | zero =>
    cases left with
    | zero => cases fuel' <;> exact h
    | succ left => simp [walk] at h
  | succ fuel ih =>
    cases left with
    | zero => cases fuel' <;> exact h
    | succ left =>
      cases fuel' with
      | zero => omega
      | succ fuel' =>
        unfold walk at h ⊢
        generalize s.tick host root script = t at h ⊢
        obtain ⟨s', step⟩ := t
        cases step with
        | quiet => exact ih (Nat.le_of_succ_le_succ le) h
        | round => exact ih (Nat.le_of_succ_le_succ le) h
        | shown output => exact h
        | failed fault => exact h

end Scene

/-- Where a pass stands after an output, given the blocks it is inside. -/
def Output.passAfter (frames : List Frame) : Output → Pass
  | .text _ | .wait _ => .running frames
  | .input request => .waiting request frames
  | .stopped => .idle
  | .finished => .done

/-- What a call for output comes to. -/
structure Advance (ρ η : Type) where
  script : Script ρ
  game : η
  notices : List String
  result : Except Fault Output

namespace Script

variable {ρ η : Type}

/-- The scene in which a call for output begins its walk. -/
def scene (s : Script ρ) (frames : List Frame) (game : η) : Scene ρ η :=
  ⟨s.scope, s.random, frames, game, []⟩

/-- What a call comes to whose walk through the document has come to this. -/
def afterWalk (s : Script ρ) (p : Play) (r : Scene ρ η × Except Fault Output) : Advance ρ η :=
  let pass :=
    match r.2 with
    | .ok output => output.passAfter r.1.frames
    | .error _ => .running r.1.frames
  ⟨{ s with scope := r.1.scope, random := r.1.random, play := some { p with pass := pass } },
    r.1.game, r.1.notices, r.2⟩

/-- The next output.  A script that waits repeats its request, one that is done repeats that it is,
and one without a pass says so; only a running pass walks on. -/
def next [PatientSource ρ] (host : Host η) (fuel : Nat) (s : Script ρ) (game : η) :
    Option (Advance ρ η) :=
  match s.play with
  | none => some ⟨s, game, [], .error .notLoaded⟩
  | some p =>
    match p.pass with
    | .idle => some ⟨s, game, [], .ok .stopped⟩
    | .waiting request _ => some ⟨s, game, [], .ok (.input request)⟩
    | .done => some ⟨s, game, [], .ok .finished⟩
    | .running frames =>
      (Scene.walk host p.root p.script s.stepLimit fuel s.stepLimit (s.scene frames game)).map
        (s.afterWalk p)

end Script

end Colloquy
