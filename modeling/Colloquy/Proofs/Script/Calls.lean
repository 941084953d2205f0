import Colloquy.Proofs.Script.Coherence
import Colloquy.Proofs.Script.Simulation

/-!
# What calls show is what the document means

A sitting is what a caller makes of a script: it asks for the next output as long as the pass runs, answers
each request with the next of its answers, and stops where nothing more can come.  Each call is some steps
of a performance, and what it shows is what those steps recorded; only the guard's fault stands for
nothing, since the walk goes on behind it where it was.  So the trace of a sitting is the trace of a
recital (`Script.start_shows_meaning`).

### What carries the proof

A call walks with one record of effects for the whole walk, and a performance takes the record out after
each iteration.  An iteration does not look at what is in the record or among the notices
(`Scene.tick_preceded`), so the induction along the walk (`Performance.exists_shows_after_walk`) starts
every iteration afresh.  That a caller keeps such a record at all makes no difference to the call
(`Script.next_logged`).

The steps behind a call are at least one, and those behind a number of calls at least as many.  So calls
come to whatever a recital tells, unless one of them does not return or the script's limit is zero.

## Main definitions

* `Sitting`, with `Sitting.call` and `Sitting.after`: a caller with its answers.
* `Sitting.Shows`: a sitting that is where a performance is.
* `Sitting.Enacts`: a sitting whose calls show what a content means.
-/

namespace Colloquy

namespace Stage

variable {ρ η : Type}

theorem recordAll_eq (s : Stage ρ η) (events : List Event) :
    s.recordAll events = { s with trace := s.trace ++ events.map fun event => ⟨event, s.scope⟩ } := by
  induction events generalizing s with
  | nil => rw [List.map_nil, List.append_nil, recordAll, List.foldl_nil]
  | cons event events ih =>
    have later : s.recordAll (event :: events) = (s.record event).recordAll events := rfl
    rw [later, ih, List.map_cons, List.append_cons]
    rfl

end Stage

/-- What an iteration comes to that ends a call with this result. -/
def Step.ofResult : Except Fault Output → Step
  | .ok output => .shown output
  | .error fault => .failed fault

/-- The script of this limit and document that is where the performance is. -/
def Performance.script {ρ η : Type} (q : Performance ρ η) (limit : Nat) (p : Play) : Script ρ :=
  ⟨q.stage.scope, q.stage.random, limit, some { p with pass := q.pass }⟩

/-! ## A caller with its answers -/

namespace Event

/-- What the result of a call is among what happens. -/
def ofResult : Except Fault Output → Event
  | .ok shown => .output shown
  | .error raised => .fault raised

/-- Whether something other than the guard's fault happened. -/
def isVisible : Event → Bool
  | .fault (.stepLimit _) => false
  | _ => true

/-- What happened apart from the guard's faults. -/
def visible (events : List Event) : List Event := events.filter isVisible

end Event

/-- What the stage has recorded apart from the guard's faults. -/
def Stage.visible {ρ η : Type} (s : Stage ρ η) : List Event := Event.visible (s.trace.map Moment.event)

/-- A script in the hands of a caller. -/
structure Sitting (ρ η : Type) where
  script : Script ρ
  game : η
  /-- The answers that have not been given yet. -/
  answers : List String
  /-- What the caller saw: the effects on its game and the results of its calls, in order. -/
  events : List Event

namespace Sitting

variable {ρ η : Type}

/-- The sitting behind a call for output. -/
def advanced (c : Sitting ρ η) (a : Advance ρ (η × List Effect)) : Sitting ρ η :=
  ⟨a.script, a.game.1, c.answers, c.events ++ a.game.2.map .effect ++ [.ofResult a.result]⟩

/-- One call: the next answer if the script waits for one, and else for the next output.  Behind the end,
behind a halt and without an answer there is nothing to call for. -/
def call [PatientSource ρ] (host : Host η) (fuel : Nat) (c : Sitting ρ η) : Option (Sitting ρ η) :=
  match c.script.state with
  | .unloaded | .done => some c
  | .awaitingInput =>
    match c.answers with
    | [] => some c
    | raw :: later =>
      match c.script.submit raw with
      | .ok script => some { c with script := script, answers := later }
      | .error fault => some { c with answers := later, events := c.events ++ [.fault fault] }
  | .normal =>
    if c.script.isIdle then some c
    else (c.script.next host.logged fuel (c.game, [])).map c.advanced

/-- The sitting after that many calls, unless one of them does not return. -/
def after [PatientSource ρ] (host : Host η) (fuel : Nat) (c : Sitting ρ η) : Nat → Option (Sitting ρ η)
  | 0 => some c
  | n + 1 => (after host fuel c n).bind (call host fuel)

/-- There is nothing more to call for. -/
def Rests (c : Sitting ρ η) : Prop :=
  c.script.isIdle = true ∨ c.script.state = .done ∨ c.script.state = .awaitingInput ∧ c.answers = []

/-- The pass in front of the content of a block, with the script, the game and the answers as they are in
the sitting. -/
def opening (c : Sitting ρ η) (block : Node) : Performance ρ η :=
  .inside ⟨c.script.scope, c.script.random, c.game, c.answers, []⟩ [.block block]

/-- The sitting is where the performance is, in a script of this limit and document, and the caller saw all
that happened. -/
structure Shows (limit : Nat) (p : Play) (c : Sitting ρ η) (q : Performance ρ η) : Prop where
  script : c.script = q.script limit p
  game : c.game = q.stage.game
  answers : c.answers = q.stage.answers
  events : Event.visible c.events = q.stage.visible

/-- Where there is nothing more to call for, the performance is at rest as well. -/
theorem Shows.fits_of_rests {limit : Nat} {p : Play} {c : Sitting ρ η} {q : Performance ρ η}
    (shows : c.Shows limit p q) (rests : c.Rests) : ∃ exit, q.Fits exit ∧ exit.worth 1 1 = 0 := by
  obtain ⟨s, pass⟩ := q
  have same := shows.script
  unfold Rests at rests
  rw [same] at rests
  cases pass with
  | idle => exact ⟨.halted, rfl, rfl⟩
  | done => exact ⟨.finished, rfl, rfl⟩
  | waiting request frames =>
    rcases rests with idle | ended | ⟨-, none⟩
    · cases idle
    · cases ended
    · exact ⟨.waiting request, ⟨shows.answers.symm.trans none, frames, rfl⟩, rfl⟩
  | running frames =>
    rcases rests with idle | ended | ⟨waits, -⟩
    · cases idle
    · cases ended
    · cases waits

end Sitting

/-! ## What one call shows -/

/-- What is recorded next is what is seen next. -/
theorem Stage.visible_recordAll {ρ η : Type} {s : Stage ρ η} {seen : List Event}
    (same : Event.visible seen = s.visible) (events : List Event) :
    Event.visible (seen ++ events) = (s.recordAll events).visible := by
  unfold Event.visible Stage.visible at same ⊢
  have told : (events.map fun event => (⟨event, s.scope⟩ : Moment)).map Moment.event = events := by
    rw [List.map_map]
    exact List.map_id events
  rw [recordAll_eq]
  dsimp only
  rw [List.map_append, told, Event.visible, List.filter_append, List.filter_append, same, Event.visible]

namespace Performance

variable {ρ η : Type}

/-- The scene of the next iteration of a walk is that of the stage behind this one, after what the walk
recorded before. -/
theorem preceded_behind (s : Stage ρ η) (t : Scene ρ (η × List Effect) × Step) (log : List Effect)
    (notices : List String) :
    t.1.preceded log notices =
      ((behind s t).stage.scene t.1.frames).preceded (log ++ t.1.game.2) (notices ++ t.1.notices) := by
  unfold behind
  dsimp only
  rw [Stage.recordAll_eq]
  unfold Scene.preceded Scene.carry Stage.scene
  dsimp only
  rw [List.append_nil, List.append_nil]

/-- What an iteration records is what is seen next. -/
theorem visible_behind {s : Stage ρ η} {seen : List Event} (same : Event.visible seen = s.visible)
    (t : Scene ρ (η × List Effect) × Step) :
    Event.visible (seen ++ (t.1.game.2.map Event.effect ++ t.2.events)) = (behind s t).stage.visible := by
  have begun : Event.visible seen =
      Stage.visible { s with scope := t.1.scope, random := t.1.random, game := t.1.game.1 } := same
  exact Stage.visible_recordAll begun (t.1.game.2.map .effect ++ t.2.events)

theorem answers_behind (s : Stage ρ η) (t : Scene ρ (η × List Effect) × Step) :
    (behind s t).stage.answers = s.answers := by
  unfold behind
  rw [Stage.recordAll_eq]

/-- An iteration that ends a call with a result leaves the caller where it leaves the performance. -/
theorem shows_behind {script : Script ρ} {p : Play} {c : Sitting ρ η} {s : Stage ρ η} {log : List Effect}
    {notices : List String} {t : Scene ρ (η × List Effect) × Step} {result : Except Fault Output}
    (answers : c.answers = s.answers) (seen : Event.visible (c.events ++ log.map .effect) = s.visible)
    (ends : t.2 = .ofResult result) :
    (c.advanced (script.afterWalk p (t.1.preceded log notices, result))).Shows script.stepLimit p
      (behind s t) := by
  obtain ⟨scene, step⟩ := t
  dsimp only at ends
  subst ends
  have recorded := visible_behind seen (scene, .ofResult result)
  rw [← List.append_assoc, List.append_assoc c.events, ← List.map_append] at recorded
  unfold behind at recorded ⊢
  rw [Stage.recordAll_eq] at recorded ⊢
  cases result with
  | ok shown => exact ⟨rfl, rfl, answers, recorded⟩
  | error raised => exact ⟨rfl, rfl, answers, recorded⟩

/-- The guard's fault stands for nothing. -/
theorem shows_guard {script : Script ρ} {p : Play} {c : Sitting ρ η} {s : Stage ρ η} {frames : List Frame}
    {log : List Effect} {notices : List String} {limit : Nat} (answers : c.answers = s.answers)
    (seen : Event.visible (c.events ++ log.map .effect) = s.visible) :
    (c.advanced (script.afterWalk p
      ((s.scene frames).preceded log notices, .error (.stepLimit limit)))).Shows script.stepLimit p
        (inside s frames) := by
  refine ⟨rfl, rfl, answers, ?_⟩
  have kept : log ++ (s.scene frames).game.2 = log := List.append_nil log
  show Event.visible ((c.events ++ (log ++ (s.scene frames).game.2).map .effect) ++
    [.fault (.stepLimit limit)]) = _
  rw [kept, Event.visible, List.filter_append]
  show Event.visible (c.events ++ log.map .effect) ++ [] = _
  rw [List.append_nil, seen]
  rfl

variable [PatientSource ρ] {host : Host η}

/-- **What a call shows is what some steps record**, and it is at least one step unless the limit is zero. -/
theorem exists_shows_after_walk (script : Script ρ) (p : Play) {c : Sitting ρ η} (fuel : Nat) :
    ∀ (left : Nat) (s : Stage ρ η) (frames : List Frame) (log : List Effect) (notices : List String)
      (r : Scene ρ (η × List Effect) × Except Fault Output), c.answers = s.answers →
      Event.visible (c.events ++ log.map .effect) = s.visible →
      Scene.walk host.logged p.root p.script script.stepLimit fuel left
        ((s.scene frames).preceded log notices) = some r →
      ∃ k, (c.advanced (script.afterWalk p r)).Shows script.stepLimit p
          ((inside s frames).after host p.root p.script k) ∧ (0 < left → 1 ≤ k) := by
  induction fuel with
  | zero =>
    intro left s frames log notices r answers seen walked
    cases left with
    | succ left => cases walked
    | zero =>
      cases walked
      exact ⟨0, shows_guard answers seen, fun no => absurd no (Nat.lt_irrefl 0)⟩
  | succ fuel ih =>
    intro left s frames log notices r answers seen walked
    cases left with
    | zero =>
      cases walked
      exact ⟨0, shows_guard answers seen, fun no => absurd no (Nat.lt_irrefl 0)⟩
    | succ left =>
      rw [Scene.walk, Scene.tick_preceded] at walked
      rcases ticked : (s.scene frames).tick host.logged p.root p.script with ⟨scene, step⟩
      rw [ticked] at walked
      have stepped : (inside s frames).step host p.root p.script = behind s (scene, step) :=
        congrArg (behind s) ticked
      -- The walk goes on with a count that is one less or set back; the steps are the same.
      have later : ∀ left, step.passAfter scene.frames = .running scene.frames → step.events = [] →
          Scene.walk host.logged p.root p.script script.stepLimit fuel left
            (scene.preceded log notices) = some r →
          ∃ k, (c.advanced (script.afterWalk p r)).Shows script.stepLimit p
            ((inside s frames).after host p.root p.script k) ∧ 1 ≤ k := by
        intro left runs silent walked
        have onward := preceded_behind s (scene, step) log notices
        have recorded := visible_behind seen (scene, step)
        have lands : behind s (scene, step) = inside (behind s (scene, step)).stage scene.frames :=
          congrArg (Performance.mk _) runs
        dsimp only at onward recorded
        rw [onward] at walked
        rw [silent, List.append_nil, List.append_assoc, ← List.map_append] at recorded
        obtain ⟨k, shows, -⟩ := ih left _ _ _ _ r
          (answers.trans (answers_behind s (scene, step)).symm) recorded walked
        refine ⟨k + 1, ?_, Nat.succ_le_succ (Nat.zero_le k)⟩
        rw [after, stepped, lands]
        exact shows
      cases step with
      | quiet =>
        obtain ⟨k, shows, one⟩ := later left rfl rfl walked
        exact ⟨k, shows, fun _ => one⟩
      | round =>
        obtain ⟨k, shows, one⟩ := later script.stepLimit rfl rfl walked
        exact ⟨k, shows, fun _ => one⟩
      | shown output =>
        cases walked
        refine ⟨1, ?_, fun _ => Nat.le_refl 1⟩
        rw [after, stepped]
        exact shows_behind answers seen rfl
      | failed fault =>
        cases walked
        refine ⟨1, ?_, fun _ => Nat.le_refl 1⟩
        rw [after, stepped]
        exact shows_behind answers seen rfl

end Performance

/-! ## What all calls show -/

namespace Sitting

variable {ρ η : Type} [PatientSource ρ] {host : Host η} {limit fuel : Nat} {p : Play} {c c' : Sitting ρ η}
  {q : Performance ρ η}

/-- An answer is a step. -/
theorem Shows.answer {request : Input.Request} {frames : List Frame} {raw : String} {later : List String}
    {s : Stage ρ η} (shows : c.Shows limit p ⟨s, .waiting request frames⟩)
    (more : c.answers = raw :: later) (called : c.call host fuel = some c') :
    c'.Shows limit p (Performance.step host p.root p.script ⟨s, .waiting request frames⟩) := by
  obtain ⟨script, game, answers, events⟩ := c
  obtain ⟨rfl, rfl, rfl, seen⟩ := shows
  dsimp only at more
  unfold call Script.submit at called
  unfold Performance.step
  dsimp only [Script.state, Performance.script] at called ⊢
  rw [more] at called ⊢
  dsimp only at called ⊢
  cases accepted : request.read raw with
  | ok v =>
    rw [accepted] at called
    cases called
    refine ⟨?_, rfl, rfl, seen⟩
    unfold Performance.inside Stage.accept Script.withPass Script.assign
    cases request.target with
    | none => rfl
    | some name => rfl
  | error fault =>
    rw [accepted] at called
    cases called
    refine ⟨rfl, rfl, rfl, ?_⟩
    have begun : Event.visible events = Stage.visible { s with answers := later } := seen
    exact Stage.visible_recordAll begun [.fault fault]

/-- Where there is nothing more to call for, calls change nothing. -/
theorem Rests.call (rests : c.Rests) : c.call host fuel = some c := by
  unfold Sitting.call
  rcases rests with idle | ended | ⟨waits, none⟩
  · rcases (Script.idle_at_rest idle).2 with unloaded | normal
    · rw [unloaded]
    · rw [normal]
      exact if_pos idle
  · rw [ended]
  · rw [waits]
    dsimp only
    rw [none]

/-- **Each call is some steps**, and at least one as long as there is anything to call for and a limit. -/
theorem Shows.call (shows : c.Shows limit p q) (called : c.call host fuel = some c') :
    ∃ k, c'.Shows limit p (q.after host p.root p.script k) ∧ (0 < limit → c'.Rests ∨ 1 ≤ k) := by
  obtain ⟨s, pass⟩ := q
  have same := shows.script
  -- No step is needed where the call changes nothing.
  have still : c.Rests → ∃ k, c'.Shows limit p (Performance.after host p.root p.script k ⟨s, pass⟩) ∧
      (0 < limit → c'.Rests ∨ 1 ≤ k) := by
    intro rests
    obtain rfl : c = c' := Option.some.inj (rests.call.symm.trans called)
    exact ⟨0, shows, fun _ => .inl rests⟩
  cases pass with
  | idle => exact still (.inl (by rw [same]; rfl))
  | done => exact still (.inr (.inl (by rw [same]; rfl)))
  | waiting request frames =>
    cases more : c.answers with
    | cons raw later => exact ⟨1, shows.answer more called, fun _ => .inr (Nat.le_refl 1)⟩
    | nil => exact still (.inr (.inr ⟨by rw [same]; rfl, more⟩))
  | running frames =>
    -- A call for output begins its walk with nothing recorded.
    have goes : (c.script.next host.logged fuel (c.game, [])).map c.advanced = some c' := by
      unfold Sitting.call at called
      rw [same] at called ⊢
      exact called
    obtain ⟨a, next, rfl⟩ := Option.map_eq_some_iff.mp goes
    have walks : (Scene.walk host.logged p.root p.script limit fuel limit
        ((s.scene frames).preceded [] [])).map
          (Script.afterWalk (Performance.script ⟨s, .running frames⟩ limit p) p) = some a := by
      rw [same, shows.game] at next
      exact next
    obtain ⟨r, walked, rfl⟩ := Option.map_eq_some_iff.mp walks
    have begun : Event.visible (c.events ++ ([] : List Effect).map .effect) = s.visible := by
      rw [List.map_nil, List.append_nil]
      exact shows.events
    have shown : ∃ k, (c.advanced (Script.afterWalk
        (Performance.script ⟨s, .running frames⟩ limit p) p r)).Shows limit p
          ((Performance.inside s frames).after host p.root p.script k) ∧ (0 < limit → 1 ≤ k) :=
      Performance.exists_shows_after_walk (Performance.script ⟨s, .running frames⟩ limit p) p fuel limit s
        frames [] [] r shows.answers begun walked
    obtain ⟨k, shown, one⟩ := shown
    exact ⟨k, shown, fun positive => .inr (one positive)⟩

/-- **Any number of calls is some steps**, at least as many as there are calls as long as there is anything
to call for and a limit. -/
theorem Shows.after (shows : c.Shows limit p q) (n : Nat) {c' : Sitting ρ η}
    (called : Sitting.after host fuel c n = some c') :
    ∃ k, c'.Shows limit p (q.after host p.root p.script k) ∧ (0 < limit → c'.Rests ∨ n ≤ k) := by
  induction n generalizing c' with
  | zero =>
    cases called
    exact ⟨0, shows, fun _ => .inr (Nat.le_refl 0)⟩
  | succ n ih =>
    rw [Sitting.after] at called
    obtain ⟨mid, reached, last⟩ := Option.bind_eq_some_iff.mp called
    obtain ⟨k, shown, enough⟩ := ih reached
    obtain ⟨j, shown', one⟩ := shown.call last
    refine ⟨k + j, ?_, fun positive => ?_⟩
    · rw [Performance.after_add]
      exact shown'
    · rcases enough positive with rests | enough
      · have same : mid = c' := Option.some.inj (rests.call.symm.trans last)
        exact .inl (same ▸ rests)
      · exact (one positive).imp id (Nat.add_le_add enough)

/-- What a recital of the content of the block tells with this fuel. -/
def recital (host : Host η) (p : Play) (block : Node) (c : Sitting ρ η) (fuel : Nat) : Exit × Stage ρ η :=
  recite host p.root p.script fuel block (c.opening block).stage

/-- The sitting, whose script stands in front of the content of a block, enacts what that content means. -/
structure Enacts (host : Host η) (p : Play) (block : Node) (c : Sitting ρ η) : Prop where
  /-- Any number of calls that return is some steps of the pass, at least as many as there are calls as long
  as there is anything to call for. -/
  calls : ∀ fuel n c', Sitting.after host fuel c n = some c' →
    ∃ k, c'.Shows c.script.stepLimit p ((c.opening block).after host p.root p.script k) ∧
      (0 < c.script.stepLimit → c'.Rests ∨ n ≤ k)
  /-- Some steps of the pass tell what a recital tells and come to where it leaves off, and if it was cut off
  those are at least as many as it had fuel. -/
  recitals : ∀ fuel, ∃ k,
    ((c.opening block).after host p.root p.script k).stage = (c.recital host p block fuel).2 ∧
    ((c.opening block).after host p.root p.script k).Fits (c.recital host p block fuel).1 ∧
    ((c.recital host p block fuel).1 = .cut → fuel ≤ k)
  /-- A recital with enough fuel tells whatever the pass comes to. -/
  covered : ∀ k, ∃ fuel, ((c.opening block).after host p.root p.script k).stage.trace <+:
    (c.recital host p block fuel).2.trace
  /-- Calls that come to where there is nothing more to call for leave everything as a recital leaves it that
  was not cut off. -/
  settled : ∀ fuel n c', Sitting.after host fuel c n = some c' → c'.Rests → ∃ depth pass,
    c'.Shows c.script.stepLimit p ⟨(c.recital host p block depth).2, pass⟩ ∧
    Performance.Fits ⟨(c.recital host p block depth).2, pass⟩ (c.recital host p block depth).1 ∧
    (c.recital host p block depth).1 ≠ .cut

/-- A script in front of the content of a block enacts what that means. -/
theorem enacts_of_started {block : Node}
    (started : c.script.play = some { p with pass := .running [.block block] }) (unseen : c.events = []) :
    c.Enacts host p block := by
  have opens : c.Shows c.script.stepLimit p (c.opening block) := by
    refine ⟨?_, rfl, rfl, ?_⟩
    · unfold Performance.script opening Performance.inside
      dsimp only
      rw [← started]
    · rw [unseen]
      rfl
  refine ⟨fun _ n _ called => opens.after n called, fun depth => Performance.exists_after_recite depth block _,
    fun k => Performance.exists_recite_of_after k block _, ?_⟩
  intro fuel n c' called rests
  obtain ⟨k, shows, -⟩ := opens.after n called
  obtain ⟨exit, fits, free⟩ := shows.fits_of_rests rests
  have told : ∃ depth, (c.recital host p block depth).1 ≠ .cut ∧
      ((c.opening block).after host p.root p.script k).stage = (c.recital host p block depth).2 ∧
      ((c.opening block).after host p.root p.script k).Fits (c.recital host p block depth).1 :=
    Performance.exists_recite_of_rests fits free
  obtain ⟨depth, uncut, same, left⟩ := told
  refine ⟨depth, ((c.opening block).after host p.root p.script k).pass, ?_, ?_, uncut⟩
  · rw [← same]
    exact shows
  · rw [← same]
    exact left

end Sitting

namespace Script

variable {ρ η : Type} [PatientSource ρ]

/-- **What is shown from a start on is what the document means.**  A start at a label that is not there
fails.  Behind any other start, whatever the calls show is told by a recital of the element of that label:
the effects, outputs and faults in their order, with the variables and the focus behind each. -/
theorem start_shows_meaning (s : Script ρ) {p : Play} (loaded : s.play = some p) (label : String)
    (host : Host η) (game : η) (answers : List String) :
    match p.script.findBelow? (.byId label none) with
    | none => s.start label = .error (.noLabel label p.script.describe)
    | some block => s.start label = .ok (s.withPass (.running [.block block])) ∧
        (⟨s.withPass (.running [.block block]), game, answers, []⟩ : Sitting ρ η).Enacts host p block := by
  cases found : p.script.findBelow? (.byId label none) with
  | none =>
    unfold start
    rw [loaded]
    dsimp only
    rw [found]
  | some block =>
    refine ⟨?_, Sitting.enacts_of_started ?_ rfl⟩
    · unfold start
      rw [loaded]
      dsimp only
      rw [found]
    · unfold withPass
      rw [loaded]
      rfl

/-- A text and the end, seen in two calls. -/
theorem start_shows_meaning_of_greeting :
    ∃ (root block : Node) (s : Script Listed), (Script.new ⟨[]⟩ 10).load root "s" none = .ok s ∧
      s.start "a" = .ok (s.withPass (.running [.block block])) ∧
      (∃ c, Sitting.after Host.obliging 10 ⟨s.withPass (.running [.block block]), (), [], []⟩ 2 = some c ∧
        c.events = [.output (.text "Hello"), .output .finished] ∧ c.Rests) ∧
      (⟨s.withPass (.running [.block block]), (), [], []⟩ : Sitting Listed Unit).Enacts Host.obliging
        ⟨root, root, .idle⟩ block := by
  let block : Node := .element 1 none "a" [] [.text 2 none "Hello"]
  let root : Node := .element 0 none "script" [("id", "s")] [block]
  let s : Script Listed := ⟨{ Scope.initial with focus := [root] }, ⟨[]⟩, 10, some ⟨root, root, .idle⟩⟩
  have meant := start_shows_meaning s rfl "a" Host.obliging () []
  exact ⟨root, block, s, rfl, meant.1, ⟨_, rfl, rfl, .inr (.inl rfl)⟩, meant.2⟩

end Script

end Colloquy
