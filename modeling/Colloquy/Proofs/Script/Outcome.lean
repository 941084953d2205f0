import Colloquy.Script.Answer
import Colloquy.Script.Walk

/-!
# What a call has done

A call that was done, taken apart: what it found, and the script that it left.  Each lemma says everything
that its call can have done, so that a proof about scripts behind calls need not open the calls.

## Main definitions and results

* `Script.exists_of_load`, `Script.exists_of_start`, `Script.exists_of_submit`, `Script.exists_of_pushContext`,
  `Script.exists_of_popContext`: the calls that fail or are done.
* `Script.exists_of_next`: calls for output, which walk on only if the pass runs.
* `Script.amid`, `Script.WalksOnFrom`: scripts in the middle of a walk, and in front of one.
-/

namespace Colloquy

/-- The scene at which a call resumes a walk: what was noticed before is forgotten. -/
def Scene.resumed {ρ η : Type} (s : Scene ρ η) : Scene ρ η := { s with notices := [] }

namespace Script

variable {ρ : Type} {s s' : Script ρ}

theorem exists_of_load {root : Node} {id : String} {sub : Option (String × String)}
    (done : s.load root id sub = .ok s') :
    ∃ script base, findScript? root id = some script ∧
      (base = script ∨ ∃ w, root.findBelow? w = some base) ∧
      s' = { s with scope := { s.scope with focus := [base] }, play := some ⟨root, script, .idle⟩ } := by
  unfold load at done
  cases found : findScript? root id with
  | none =>
    rw [found] at done
    cases done
  | some script =>
    rw [found] at done
    cases sub with
    | none =>
      cases done
      exact ⟨script, script, rfl, .inl rfl, rfl⟩
    | some sub =>
      cases there : root.findBelow? (.byId sub.1 (some sub.2)) with
      | none =>
        simp only [there] at done
        cases done
      | some base =>
        simp only [there] at done
        cases done
        exact ⟨script, base, rfl, .inr ⟨_, there⟩, rfl⟩

theorem exists_of_start {label : String} (done : s.start label = .ok s') :
    ∃ p block, s.play = some p ∧ p.script.findBelow? (.byId label none) = some block ∧
      s' = s.withPass (.running [.block block]) := by
  unfold start at done
  split at done
  · cases done
  · next p play =>
    split at done
    · cases done
    · next block found =>
      cases done
      exact ⟨p, block, play, found, rfl⟩

/-- The scope after an answer with this value. -/
def answeredScope (s : Script ρ) (request : Input.Request) (v : Value) : Scope :=
  match request.target with
  | some name => s.scope.assign name v
  | none => s.scope

theorem answeredScope_focus (s : Script ρ) (request : Input.Request) (v : Value) :
    (s.answeredScope request v).focus = s.scope.focus := by
  unfold answeredScope
  cases request.target <;> rfl

theorem exists_of_submit {raw : String} (done : s.submit raw = .ok s') :
    ∃ p request frames v, s.play = some p ∧ p.pass = .waiting request frames ∧ request.read raw = .ok v ∧
      s' = { s with scope := s.answeredScope request v, play := some { p with pass := .running frames } } := by
  unfold submit at done
  split at done
  · cases done
  · next p play =>
    split at done
    · next request frames pass =>
      cases read : request.read raw with
      | error fault =>
        rw [read] at done
        cases done
      | ok v =>
        rw [read] at done
        cases done
        refine ⟨p, request, frames, v, play, pass, read, ?_⟩
        unfold withPass answeredScope
        cases request.target with
        | none =>
          dsimp only
          rw [play]
          rfl
        | some name =>
          dsimp only [assign]
          rw [play]
          rfl
    · cases done

theorem exists_of_pushContext {label : String} {id : Option String} {n : Node}
    (done : s.pushContext label id = .ok (n, s')) :
    s.scope.narrower? label id = .ok n ∧ s' = { s with scope := s.scope.narrow n } := by
  unfold pushContext at done
  cases found : s.scope.narrower? label id with
  | error fault =>
    rw [found] at done
    cases done
  | ok m =>
    rw [found] at done
    cases done
    exact ⟨rfl, rfl⟩

theorem exists_of_popContext {n : Node} (done : s.popContext = .ok (n, s')) :
    ∃ m outer, s.scope.focus = n :: m :: outer ∧
      s' = { s with scope := { s.scope with focus := m :: outer } } := by
  unfold popContext Scope.widen? at done
  split at done
  · next inner m outer focus =>
    cases done
    exact ⟨m, outer, focus, rfl⟩
  · cases done

/-! ## Calls for output -/

theorem frames_of_play {p : Play} (play : s.play = some p) : s.frames = p.pass.frames := by
  rw [frames, play]
  rfl

/-- What a script shows without a walk, if its pass does not run. -/
def still? (s : Script ρ) : Option (Except Fault Output) :=
  match s.play with
  | none => some (.error .notLoaded)
  | some p =>
    match p.pass with
    | .idle => some (.ok .stopped)
    | .waiting request _ => some (.ok (.input request))
    | .done => some (.ok .finished)
    | .running _ => none

theorem exists_running_of_still? (h : s.still? = none) :
    ∃ p frames, s.play = some p ∧ p.pass = .running frames := by
  rcases s with ⟨scope, random, limit, _ | ⟨root, script, pass⟩⟩
  · cases h
  · cases pass with
    | idle | waiting | done => cases h
    | running frames => exact ⟨_, frames, rfl, rfl⟩

variable {η : Type} [PatientSource ρ] {host : Host η} {fuel : Nat} {game : η} {a : Advance ρ η}

theorem next_of_still? {result : Except Fault Output} (h : s.still? = some result) :
    s.next host fuel game = some ⟨s, game, [], result⟩ := by
  rcases s with ⟨scope, random, limit, _ | ⟨root, script, pass⟩⟩
  · cases h
    rfl
  · cases pass with
    | idle | waiting | done =>
      cases h
      rfl
    | running => cases h

theorem next_of_running {p : Play} {frames : List Frame} (play : s.play = some p)
    (pass : p.pass = .running frames) (fuel : Nat) :
    s.next host fuel game =
      ((s.scene frames game).walk host p.root p.script s.stepLimit fuel s.stepLimit).map (s.afterWalk p) := by
  rw [next, play]
  dsimp only
  rw [pass]

/-- The script in the middle of a walk that has come to this scene. -/
def amid (s : Script ρ) (p : Play) (t : Scene ρ η) : Script ρ :=
  { s with scope := t.scope, random := t.random, play := some { p with pass := .running t.frames } }

omit [PatientSource ρ] in
/-- A walk begins in the script that it is called for. -/
theorem amid_scene {p : Play} {frames : List Frame} (play : s.play = some p) (pass : p.pass = .running frames)
    (game : η) : s.amid p (s.scene frames game) = s := by
  obtain ⟨scope, random, limit, _⟩ := s
  obtain ⟨root, script, _⟩ := p
  cases play
  cases pass
  rfl

/-- A call in the middle of a walk resumes it. -/
theorem next_amid (s : Script ρ) (p : Play) (t : Scene ρ η) (fuel : Nat) :
    (s.amid p t).next host fuel t.game =
      (t.resumed.walk host p.root p.script s.stepLimit fuel s.stepLimit).map (s.afterWalk p) :=
  next_of_running (p := { p with pass := .running t.frames }) rfl rfl fuel

/-- The next call for output walks on from these blocks. -/
def WalksOnFrom (s : Script ρ) (frames : List Frame) : Prop :=
  ∃ p, s.play = some p ∧ ∀ (η : Type) (host : Host η) (fuel : Nat) (game : η),
    s.next host fuel game =
      ((s.scene frames game).walk host p.root p.script s.stepLimit fuel s.stepLimit).map (s.afterWalk p)

theorem walksOnFrom_of_running {p : Play} {frames : List Frame} (play : s.play = some p)
    (pass : p.pass = .running frames) : s.WalksOnFrom frames :=
  ⟨p, play, fun _ _ fuel _ => next_of_running play pass fuel⟩

/-- **A call for output** shows what there is to show without a walk, or walks. -/
theorem exists_of_next (called : s.next host fuel game = some a) :
    (∃ result, s.still? = some result ∧ a = ⟨s, game, [], result⟩) ∨
      ∃ p frames r, s.play = some p ∧ p.pass = .running frames ∧
        (s.scene frames game).walk host p.root p.script s.stepLimit fuel s.stepLimit = some r ∧
          a = s.afterWalk p r := by
  cases shows : s.still? with
  | some result =>
    rw [next_of_still? shows] at called
    cases called
    exact .inl ⟨result, rfl, rfl⟩
  | none =>
    obtain ⟨p, frames, play, pass⟩ := exists_running_of_still? shows
    rw [next_of_running play pass, Option.map_eq_some_iff] at called
    obtain ⟨r, walked, same⟩ := called
    exact .inr ⟨p, frames, r, play, pass, walked, same.symm⟩

end Script

end Colloquy
