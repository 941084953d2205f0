import Colloquy.Proofs.Script.InPlace
import Colloquy.Proofs.Slate.Text

/-!
# Calls in place

A call on the fields of a script leaves the fields of what the call makes of the script, and its answer is the
same (`Slate.Call.run_work`).  A call on any fields at all, whether they are those of a script or not, leaves them as
they are if it fails, unless it translates a text (`Slate.Call.unchanged_of_failed`).

### What is load-bearing

Both say that the checks of a call come before its first write, but the first one says more: a call that writes must
write every field that another call has left behind.

## Main definitions

* `Slate.World.of`: the fields of a script with the game around it.
* `Slate.Call.onScript`: what a call does to a script.
-/

namespace Colloquy.Slate

variable {ρ η α : Type}

/-- The fields of a script with the game around it. -/
def World.of (s : Script ρ) (game : η) (notices : List String) : World ρ η := ⟨.of s, game, notices⟩

/-- What a call comes to in place that comes to this for a script; if it fails the fields stay those of the script. -/
def World.answered (s : Script ρ) (game : η) (notices : List String) :
    Except Fault (α × Script ρ) → Except Fault α × World ρ η
  | .ok (a, s') => (.ok a, .of s' game notices)
  | .error fault => (.error fault, .of s game notices)

/-- Of a script without a document nothing is in focus, and of one with a document something is. -/
theorem isPlaced_of {s : Script ρ} (sound : s.Sound) : (of s).IsPlaced := by
  refine Option.map_eq_none_iff.trans ⟨sound.unloaded, fun focus => ?_⟩
  cases play : s.play with
  | none => rfl
  | some p => exact absurd focus (sound.loaded p play).focused.ne_nil

/-! ## Each call -/

section Refinement

variable (s : Script ρ) (game : η) (notices : List String)

theorem run_load (root : Node) (id : String) (sub : Option (String × String)) :
    (load root id sub).run.run (World.of s game notices) =
      World.answered s game notices ((s.load root id sub).map ((), ·)) := by
  unfold load Script.load
  cases Script.findScript? root id with
  | none => rfl
  | some script =>
    cases sub with
    | none => rfl
    | some sub =>
      dsimp only
      cases root.findBelow? (.byId sub.1 (some sub.2)) <;> rfl

theorem run_start (label : String) :
    (start label).run.run (World.of s game notices) = World.answered s game notices ((s.start label).map ((), ·)) := by
  rcases s with ⟨scope, random, limit, _ | p⟩
  · rfl
  · show (need (p.script.findBelow? (.byId label none)) _ >>= fun block => _ : Work ρ η Unit).run.run _ = _
    unfold Script.start
    dsimp only
    cases p.script.findBelow? (.byId label none) <;> rfl

theorem run_submit (raw : String) :
    (submit raw).run.run (World.of s game notices) = World.answered s game notices ((s.submit raw).map ((), ·)) := by
  rcases s with ⟨scope, random, limit, _ | ⟨root, script, pass⟩⟩
  · rfl
  · cases pass with
    | idle | running | done => rfl
    | waiting request frames =>
      show ((liftM (request.read raw) : Work ρ η Value) >>= fun v => _ : Work ρ η Unit).run.run _ = _
      unfold Script.submit
      dsimp only
      cases request.read raw with
      | error fault => rfl
      | ok v => cases request.target <;> rfl

/-- Of a script without a document nothing is in focus, so that both say that there is none. -/
theorem run_pushContext (sound : s.Sound) (label : String) (id : Option String) :
    (pushContext label id).run.run (World.of s game notices) =
      World.answered s game notices (s.pushContext label id) := by
  rcases s with ⟨⟨store, providers, focus⟩, random, limit, play⟩
  cases play with
  | none =>
    obtain rfl : focus = [] := sound.unloaded rfl
    rfl
  | some p =>
    cases focus with
    | nil => rfl
    | cons current outer =>
      show (need (current.findBelow? (.byId label id)) _ >>= fun found => _ : Work ρ η Node).run.run _ = _
      unfold Script.pushContext Scope.narrower?
      dsimp only
      cases current.findBelow? (.byId label id) <;> rfl

theorem run_popContext :
    popContext.run.run (World.of s game notices) = World.answered s game notices s.popContext := by
  rcases s with ⟨⟨store, providers, _ | ⟨inner, _ | ⟨n, outer⟩⟩⟩, random, limit, play⟩ <;> rfl

theorem run_translate [PatientSource ρ] (sound : s.Sound) (text : String) :
    (translate text).run.run (World.of s game notices) =
      ((s.translate text).1, World.of (s.translate text).2 game notices) :=
  follows_translate (w := World.of s game notices) (isPlaced_of sound) text s.random

theorem run_evaluate (text : String) :
    (evaluate text).run.run (World.of s game notices) = (s.evaluate text, World.of s game notices) := rfl

end Refinement

/-! ## All calls -/

namespace Call

variable [PatientSource ρ]

/-- What the call does to a script. -/
def onScript (s : Script ρ) : Call → Except Fault Unit × Script ρ
  | load root id sub => Script.Effort.ofResult s (s.load root id sub)
  | unload => (.ok (), s.unload)
  | start label => Script.Effort.ofResult s (s.start label)
  | submit raw => Script.Effort.ofResult s (s.submit raw)
  | pushContext label id => Script.Effort.ofResult s ((s.pushContext label id).map Prod.snd)
  | popContext => Script.Effort.ofResult s (s.popContext.map Prod.snd)
  | assign name v => (.ok (), s.assign name v)
  | forget name => (.ok (), s.forget name)
  | translate text => ((s.translate text).1.map fun _ => (), (s.translate text).2)
  | evaluate text => ((s.evaluate text).map fun _ => (), s)
  | provide qualifier provider => (.ok (), s.withProvider qualifier provider)

omit [PatientSource ρ] in
/-- What a call gives does not matter for what it leaves. -/
theorem run_discard {c : Work ρ η α} {w w' : World ρ η} {result : Except Fault α} (runs : c.run.run w = (result, w')) :
    (c >>= fun _ => pure () : Work ρ η Unit).run.run w = (result.map fun _ => (), w') := by
  rw [Draw.run_bind, runs]
  cases result <;> rfl

omit [PatientSource ρ] in
theorem answered_eq (s : Script ρ) (game : η) (notices : List String) (result : Except Fault (α × Script ρ)) :
    ((World.answered s game notices result).1.map fun _ => (), (World.answered s game notices result).2) =
      ((Script.Effort.ofResult s (result.map Prod.snd)).1,
        World.of (Script.Effort.ofResult s (result.map Prod.snd)).2 game notices) := by
  cases result <;> rfl

omit [PatientSource ρ] in
theorem answered_unit (s : Script ρ) (game : η) (notices : List String) (result : Except Fault (Script ρ)) :
    World.answered s game notices (result.map ((), ·)) =
      ((Script.Effort.ofResult s result).1, World.of (Script.Effort.ofResult s result).2 game notices) := by
  cases result <;> rfl

/-- **A call in place** leaves the fields of what it makes of the script. -/
theorem run_work {s : Script ρ} (sound : s.Sound) (c : Call) (game : η) (notices : List String) :
    c.work.run.run (World.of s game notices) = ((c.onScript s).1, World.of (c.onScript s).2 game notices) := by
  cases c with
  | load root id sub => exact (run_load s game notices root id sub).trans (answered_unit s game notices _)
  | start label => exact (run_start s game notices label).trans (answered_unit s game notices _)
  | submit raw => exact (run_submit s game notices raw).trans (answered_unit s game notices _)
  | pushContext label id =>
    exact (run_discard (run_pushContext s game notices sound label id)).trans (answered_eq s game notices _)
  | popContext => exact (run_discard (run_popContext s game notices)).trans (answered_eq s game notices _)
  | translate text => exact run_discard (run_translate s game notices sound text)
  | evaluate text => exact run_discard (run_evaluate s game notices text)
  | unload | assign | forget | provide => rfl

end Call

/-! ## Failing calls -/

/-- The step looks at the world and leaves it as it is, whether it fails or not. -/
def Looks (c : Work ρ η α) : Prop := ∀ w, (c.run.run w).2 = w

/-- The step leaves the world as it is if it fails. -/
def IsChecked (c : Work ρ η α) : Prop := ∀ w w' fault, c.run.run w = (.error fault, w') → w' = w

section Checks

variable {β : Type} {c : Work ρ η α} {f : α → Work ρ η β}

theorem looks_need (found : Option α) (fault : Fault) : Looks (need found fault : Work ρ η α) := by
  intro w
  cases found <;> rfl

theorem looks_lift (e : Except Fault α) : Looks (liftM e : Work ρ η α) := fun _ => rfl

theorem Looks.bind (first : Looks c) (next : ∀ a, Looks (f a)) : Looks (c >>= f) := by
  intro w
  have same := first w
  rw [Draw.run_bind]
  rcases given : c.run.run w with ⟨_ | a, v⟩ <;> rw [given] at same
  · exact same
  · exact (next a v).trans same

theorem looks_tree : Looks (tree : Work ρ η Node) :=
  Looks.bind (c := look) (fun _ => rfl) fun s => looks_need s.root _

theorem looks_narrower (label : String) (id : Option String) : Looks (narrower label id : Work ρ η Node) := by
  refine looks_tree.bind fun _ => Looks.bind (c := look) (fun _ => rfl) fun s => ?_
  exact (looks_need s.scope.focus.head? _).bind fun current => looks_need _ _

theorem Looks.isChecked (looks : Looks c) : IsChecked c := by
  intro w w' fault failed
  rw [← looks w, failed]

/-- Looking in front of a step changes nothing for the step to leave. -/
theorem Looks.isChecked_bind (first : Looks c) (next : ∀ a, IsChecked (f a)) : IsChecked (c >>= f) := by
  intro w w' fault failed
  have same := first w
  rw [Draw.run_bind] at failed
  rcases given : c.run.run w with ⟨_ | a, v⟩
  · rw [given] at failed same
    cases failed
    exact same
  · rw [given] at failed same
    obtain rfl : v = w := same
    exact next a _ _ _ failed

theorem isChecked_discard (checked : IsChecked c) : IsChecked (c >>= fun _ => pure () : Work ρ η Unit) := by
  intro w w' fault failed
  rw [Draw.run_bind] at failed
  rcases given : c.run.run w with ⟨raised | a, v⟩
  · rw [given] at failed
    cases failed
    exact checked w _ _ given
  · rw [given] at failed
    cases failed

end Checks

theorem isChecked_load (root : Node) (id : String) (sub : Option (String × String)) :
    IsChecked (load root id sub : Work ρ η Unit) := by
  refine (looks_need _ _).isChecked_bind fun script => ?_
  -- Behind the two searches there are writes only, which do not fail.
  cases sub with
  | none =>
    intro w w' fault failed
    cases failed
  | some sub =>
    refine (looks_need _ _).isChecked_bind fun base => ?_
    intro w w' fault failed
    cases failed

theorem isChecked_start (label : String) : IsChecked (start label : Work ρ η Unit) := by
  refine looks_tree.isChecked_bind fun root => Looks.isChecked_bind (c := look) (fun _ => rfl) fun s => ?_
  refine (looks_need _ _).isChecked_bind fun script => (looks_need _ _).isChecked_bind fun block => ?_
  intro w w' fault failed
  cases failed

theorem isChecked_submit (raw : String) : IsChecked (submit raw : Work ρ η Unit) := by
  refine Looks.isChecked_bind (c := look) (fun _ => rfl) fun s => ?_
  refine (looks_need _ _).isChecked_bind fun request => (looks_lift _).isChecked_bind fun v => ?_
  intro w w' fault failed
  cases target : request.target with
  | none =>
    rw [target] at failed
    cases failed
  | some name =>
    rw [target] at failed
    cases failed

theorem isChecked_pushContext (label : String) (id : Option String) :
    IsChecked (pushContext label id : Work ρ η Node) := by
  refine (looks_narrower label id).isChecked_bind fun found => ?_
  intro w w' fault failed
  cases failed

/-- Behind the write there is one more check, which does not fail there. -/
theorem isChecked_popContext : IsChecked (popContext : Work ρ η Node) := by
  rintro ⟨⟨root, script, state, frames, ⟨store, providers, focus⟩, request, random, limit, idle⟩, game, notices⟩
    w' fault failed
  rcases focus with _ | ⟨inner, _ | ⟨n, outer⟩⟩ <;> cases failed <;> rfl

/-- **A call that fails changes nothing**, on whatever fields, unless it translates a text. -/
theorem Call.unchanged_of_failed [PatientSource ρ] {c : Call} (silent : ∀ text, c ≠ .translate text)
    {w w' : World ρ η} {fault : Fault} (failed : c.work.run.run w = (.error fault, w')) : w' = w := by
  cases c with
  | load root id sub => exact isChecked_load root id sub w w' fault failed
  | start label => exact isChecked_start label w w' fault failed
  | submit raw => exact isChecked_submit raw w w' fault failed
  | pushContext label id => exact isChecked_discard (isChecked_pushContext label id) w w' fault failed
  | popContext => exact isChecked_discard isChecked_popContext w w' fault failed
  | evaluate text =>
    have looks : Looks (Slate.evaluate text : Work ρ η Expr.Operand) := fun _ => rfl
    exact isChecked_discard looks.isChecked w w' fault failed
  | translate text => exact absurd rfl (silent text)
  | unload | assign | forget | provide => cases failed

end Colloquy.Slate
