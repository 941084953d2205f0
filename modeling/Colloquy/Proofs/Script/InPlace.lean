import Colloquy.Script.Answer

/-!
# Calls that change a script in place

A call takes a script to what it makes of it, or fails.  Carried out on a script in place it is one thing
after another, each of which may look at the script, change it or fail, and what was changed before a
failure stays changed.  `Script.Call.run_inPlace` says that both are the same: a call that is carried out
in place leaves what the call makes of the script, and the script as it was if the call fails.

### What is load-bearing

Every check and every search of a call comes before its first change.  A change in front of a check would
be seen in the script behind the failure, and the theorem would be false of it.

## Main definitions

* `Script.Effort`: things done to a script in place.
* `Script.Call`, with `Script.Call.apply` and `Script.Call.inPlace`: the calls that change a script at once
  or not at all, both ways.
-/

namespace Colloquy

namespace Script

/-- Something done to a script in place, which may fail on the way. -/
abbrev Effort (ρ α : Type) := ExceptT Fault (StateM (Script ρ)) α

namespace Effort

variable {ρ α : Type}

/-- What was found; it is a failure to have found nothing. -/
def need (found : Option α) (fault : Fault) : Effort ρ α :=
  match found with
  | some a => pure a
  | none => throw fault

/-- Finds the script's element and what comes into focus, and replaces the document, the pass and the
focus. -/
def load (root : Node) (id : String) (sub : Option (String × String)) : Effort ρ Unit := do
  let script ← need (findScript? root id) (.noScript id)
  let base ←
    match sub with
    | none => pure script
    | some (label, subId) => need (root.findBelow? (.byId label (some subId))) (.noSubNode label subId id)
  modify fun s => { s with play := some ⟨root, script, .idle⟩ }
  modify fun s => { s with scope := { s.scope with focus := [base] } }

/-- Finds the block and begins the pass. -/
def start (label : String) : Effort ρ Unit := do
  let s ← get
  let p ← need s.play .notLoaded
  let block ← need (p.script.findBelow? (.byId label none)) (.noLabel label p.script.describe)
  modify fun s => s.withPass (.running [.block block])

/-- Finds the node and puts it on top of the focus. -/
def pushContext (label : String) (id : Option String) : Effort ρ Unit := do
  let s ← get
  let n ← s.scope.narrower? label id
  modify fun s => { s with scope := s.scope.narrow n }

/-- Checks that the innermost node in focus is not the outermost, and drops it. -/
def popContext : Effort ρ Unit := do
  let s ← get
  if s.scope.focus.length ≤ 1 then throw .contextUnderflow
  modify fun s => { s with scope := { s.scope with focus := s.scope.focus.tail } }

/-- Checks the answer against the request, puts it where the request says, and drops the request. -/
def submit (raw : String) : Effort ρ Unit := do
  let s ← get
  let request ← need s.request? .noPendingInput
  let v ← request.read raw
  match request.target with
  | some name => modify fun s => s.assign name v
  | none => pure ()
  modify fun s => s.withPass (.running s.frames)

/-- What a call comes to in place that came to this. -/
def ofResult (s : Script ρ) : Except Fault (Script ρ) → Except Fault Unit × Script ρ
  | .ok s' => (.ok (), s')
  | .error fault => (.error fault, s)

theorem run_load (s : Script ρ) (root : Node) (id : String) (sub : Option (String × String)) :
    (load root id sub).run.run s = ofResult s (s.load root id sub) := by
  unfold load Script.load
  cases findScript? root id with
  | none => rfl
  | some script =>
    cases sub with
    | none => rfl
    | some sub =>
      dsimp only
      cases root.findBelow? (.byId sub.1 (some sub.2)) with
      | none => rfl
      | some base => rfl

theorem run_start (s : Script ρ) (label : String) :
    (start label).run.run s = ofResult s (s.start label) := by
  rcases s with ⟨scope, random, limit, _ | p⟩
  · rfl
  · show (need (p.script.findBelow? (.byId label none)) _ >>= fun block => _ : Effort ρ Unit).run.run _ = _
    unfold Script.start
    dsimp only
    cases p.script.findBelow? (.byId label none) with
    | none => rfl
    | some block => rfl

theorem run_pushContext (s : Script ρ) (label : String) (id : Option String) :
    (pushContext label id).run.run s = ofResult s ((s.pushContext label id).map Prod.snd) := by
  show ((liftM (s.scope.narrower? label id) : Effort ρ Node) >>= fun n => _ : Effort ρ Unit).run.run s = _
  unfold Script.pushContext
  cases s.scope.narrower? label id with
  | error fault => rfl
  | ok n => rfl

theorem run_popContext (s : Script ρ) :
    popContext.run.run s = ofResult s (s.popContext.map Prod.snd) := by
  rcases s with ⟨⟨store, providers, _ | ⟨inner, _ | ⟨n, outer⟩⟩⟩, random, limit, play⟩
  · rfl
  · rfl
  · rfl

theorem run_submit (s : Script ρ) (raw : String) :
    (submit raw).run.run s = ofResult s (s.submit raw) := by
  rcases s with ⟨scope, random, limit, _ | ⟨root, script, pass⟩⟩
  · rfl
  · cases pass with
    | idle | running | done => rfl
    | waiting request frames =>
      show ((liftM (request.read raw) : Effort ρ Value) >>= fun v => _ : Effort ρ Unit).run.run _ = _
      unfold Script.submit
      dsimp only
      cases request.read raw with
      | error fault => rfl
      | ok v =>
        cases request.target with
        | none => rfl
        | some name => rfl

end Effort

/-! ## Calls -/

/-- The calls that change a script at once or not at all. -/
inductive Call where
  | load (root : Node) (id : String) (sub : Option (String × String))
  | start (label : String)
  | pushContext (label : String) (id : Option String)
  | popContext
  | submit (raw : String)

namespace Call

variable {ρ : Type}

/-- What the call makes of a script. -/
def apply (s : Script ρ) : Call → Except Fault (Script ρ)
  | load root id sub => s.load root id sub
  | start label => s.start label
  | pushContext label id => (s.pushContext label id).map Prod.snd
  | popContext => s.popContext.map Prod.snd
  | submit raw => s.submit raw

/-- The call, one thing after another. -/
def inPlace : Call → Effort ρ Unit
  | load root id sub => Effort.load root id sub
  | start label => Effort.start label
  | pushContext label id => Effort.pushContext label id
  | popContext => Effort.popContext
  | submit raw => Effort.submit raw

/-- **A call in place is all or nothing.** -/
theorem run_inPlace (c : Call) (s : Script ρ) : c.inPlace.run.run s = Effort.ofResult s (c.apply s) := by
  cases c with
  | load root id sub => exact Effort.run_load s root id sub
  | start label => exact Effort.run_start s label
  | pushContext label id => exact Effort.run_pushContext s label id
  | popContext => exact Effort.run_popContext s
  | submit raw => exact Effort.run_submit s raw

end Call

end Script

end Colloquy
