import Colloquy.Script.Slate.Action

/-!
# Walking in place

A call for output on the slate.  It looks at the state and at the request before it walks, and puts a state right
that waits for an answer to no request.  An iteration moves the cursor of the innermost block behind a node before
the node does anything, and what the node does it does on the slate.

## Main definitions

* `Slate.standing`: what there is to show before any walk.
* `Slate.iterate`, `Slate.walk`: one iteration and the whole walk.
* `Slate.next`: a call for output.
* `Slate.Reachable`: the slates that calls lead to.
-/

namespace Colloquy.Slate

open Text

/-- What an iteration comes to that does not fail. -/
inductive Motion where
  /-- Nothing to show. -/
  | quiet
  /-- Nothing to show, but a loop began its next pass. -/
  | round
  | shown (output : Output)

variable {ρ η : Type}

/-- Begins the next pass of the innermost block if it is a loop that has one, and leaves it otherwise; tells
whether a pass was begun. -/
def closeFrame : Work ρ η Bool := do
  match (← look).frames with
  | [] => return false
  | f :: outer =>
    match f.loop with
    | none =>
      write ({ · with frames := outer })
      return false
    | some l =>
      match l.next? with
      | none =>
        write ({ · with frames := outer })
        return false
      | some number =>
        write ({ · with frames := { f with loop := some { l with current := number } } :: outer })
        write ({ · with frames := ⟨f.owner, f.owner.children, some { l with current := number }⟩ :: outer })
        match l.iterator with
        | some name => assign name (.int number)
        | none => pure ()
        return true

/-- Notices that an element is no action. -/
def notice (n : Node) : Work ρ η Unit :=
  modify fun w => { w with notices := w.notices ++ ["unknown script action " ++ n.describe ++ ", skipped"] }

variable [PatientSource ρ]

/-- Carries out an element.  One that is no action is noticed and passed over. -/
def execute (host : Host η) (n : Node) : Work ρ η Outcome :=
  match Action.ofLabel? n.label with
  | some action => handle host n action
  | none => do
    notice n
    return .onward

/-- What comes of an element's outcome.  A pass that is halted leaves all its blocks. -/
def conclude : Outcome → Work ρ η Motion
  | .onward | .redirected => return .quiet
  | .stop => do
    write ({ · with frames := [] })
    write ({ · with idle := true })
    return .shown .stopped
  | .suspend output => return .shown output

/-- Shows a text with its blocks replaced; a blank text is nothing to show. -/
def speak (raw : String) : Work ρ η Motion := do
  let raw := trim raw
  if raw = "" then return .quiet
  else
    let text ← translate raw
    return .shown (.text text)

/-- One iteration of the walk. -/
def iterate (host : Host η) : Work ρ η Motion := do
  match (← look).frames with
  | [] =>
    write ({ · with state := .done })
    return .shown .finished
  | f :: outer =>
    match f.rest with
    | [] =>
      if ← closeFrame then return .round else return .quiet
    | n :: rest =>
      write ({ · with frames := { f with rest := rest } :: outer })
      match n with
      | .text _ _ raw => speak raw
      | .element _ _ _ _ _ =>
        let outcome ← execute host n
        conclude outcome

/-- Walks until there is something to show or so many iterations have passed without as the limit says; `steps`
have passed already.  Without fuel there is no answer. -/
def walk (host : Host η) : (fuel steps : Nat) → World ρ η → Option (Except Fault Output × World ρ η)
  | 0, steps, w =>
    if w.slate.stepLimit ≤ steps then some (.error (.stepLimit w.slate.stepLimit), w) else none
  | fuel + 1, steps, w =>
    if w.slate.stepLimit ≤ steps then some (.error (.stepLimit w.slate.stepLimit), w)
    else
      match (iterate host).run.run w with
      | (.ok .quiet, w) => walk host fuel (steps + 1) w
      | (.ok .round, w) => walk host fuel 0 w
      | (.ok (.shown output), w) => some (.ok output, w)
      | (.error fault, w) => some (.error fault, w)

omit [PatientSource ρ] in
/-- What there is to show if the pass is halted; otherwise there is a document to walk through. -/
def resting : Work ρ η (Option Output) := do
  if (← look).idle then return some .stopped
  else
    let _ ← tree
    return none

omit [PatientSource ρ] in
/-- What there is to show before any walk. -/
def standing : Work ρ η (Option Output) := do
  let s ← look
  match s.state with
  | .unloaded => throw .notLoaded
  | .done => return some .finished
  | .awaitingInput =>
    match s.request with
    | some request => return some (.input request)
    | none =>
      write ({ · with state := .normal })
      resting
  | .normal => resting

/-- The next output. -/
def next (host : Host η) (fuel : Nat) (w : World ρ η) : Option (Except Fault Output × World ρ η) :=
  match standing.run.run w with
  | (.error fault, w) => some (.error fault, w)
  | (.ok (some output), w) => some (.ok output, w)
  | (.ok none, w) => walk host fuel 0 w

/-- The slates that calls lead to, from a new one, whether they fail or not.  The game of each call for output, the
provider of each name and the random source may be any. -/
inductive Reachable : {ρ : Type} → [PatientSource ρ] → Slate ρ → Prop where
  | new {ρ : Type} [PatientSource ρ] (random : ρ) (stepLimit : Nat) : Reachable (Slate.new random stepLimit)
  | call {ρ : Type} [PatientSource ρ] {s : Slate ρ} (c : Call) (before : Reachable s) : Reachable (s.after c)
  | next {ρ η : Type} [PatientSource ρ] {s : Slate ρ} {host : Host η} {fuel : Nat} {game : η}
      {result : Except Fault Output} {w : World ρ η} (before : Reachable s)
      (called : Slate.next host fuel ⟨s, game, []⟩ = some (result, w)) : Reachable w.slate
  | withRandom {ρ σ : Type} [PatientSource ρ] [PatientSource σ] {s : Slate ρ} (random : σ) (before : Reachable s) :
      Reachable (s.withRandom random)

end Colloquy.Slate
