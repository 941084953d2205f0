import Colloquy.Proofs.Script.Drawing
import Colloquy.Proofs.Slate.Walk

/-!
# A fault leaves the fields where they are

A call that fails changes nothing.  A call for output has to walk to the node at which it fails, and what it did on
the way stays done; but the failing node itself writes nothing on the slate.  Between the slate as it was when the
node was fetched and the one that the call leaves lie some draws and the one step of the block in progress past the
node (`Slate.PassesOver`), and the next call walks on from there.

### What is load-bearing

Both slates are slates in the middle of a walk in place, one iteration apart: the first is what the iterations of
`Slate.iterate` have made of the slate that was called, with all that they have written, and the second is what the
failing iteration leaves behind.  An action that wrote before its last check would leave that write in the second one.
That none does is `Slate.does_handle`: in place an action comes to what it has decided on before, and what fails has
decided on nothing.

## Main definitions

* `Slate.Strides`: iterations in place, one after another.
* `Slate.FailsAt`, `Slate.IsCutOff`: calls for output that fail at a node, and those that are cut off.
* `Slate.PassesOver`: slates that differ only in having passed over a node.
* `Slate.WalksOn`: slates from which a call for output walks on.
-/

namespace Colloquy.Slate

variable {ρ η : Type} [PatientSource ρ]

/-! ## The way to a fault -/

/-- From the first world iterations lead to the other one, none of which fails or has anything to show.  The two
numbers count the iterations since the call or the latest pass of a loop began. -/
inductive Strides (host : Host η) : Nat → World ρ η → Nat → World ρ η → Prop where
  | here (steps : Nat) (w : World ρ η) : Strides host steps w steps w
  | quiet {steps k : Nat} {w v u : World ρ η} (room : steps < w.slate.stepLimit)
      (passes : (iterate host).run.run w = (.ok .quiet, v)) (onward : Strides host (steps + 1) v k u) :
      Strides host steps w k u
  | round {steps k : Nat} {w v u : World ρ η} (room : steps < w.slate.stepLimit)
      (passes : (iterate host).run.run w = (.ok .round, v)) (onward : Strides host 0 v k u) : Strides host steps w k u

/-- The walk of the call comes to a node in the world `u`, and there the node fails and leaves `w'`. -/
def FailsAt (host : Host η) (w : World ρ η) (n : Node) (u : World ρ η) (fault : Fault) (w' : World ρ η) : Prop :=
  ∃ k, Strides host 0 w k u ∧ k < u.slate.stepLimit ∧
    (∃ f outer rest, u.slate.frames = f :: outer ∧ f.rest = n :: rest) ∧
    (iterate host).run.run u = (.error fault, w')

/-- The guard cuts the walk of the call off, in front of whatever would have been next. -/
def IsCutOff (host : Host η) (w : World ρ η) (fault : Fault) (w' : World ρ η) : Prop :=
  ∃ k, Strides host 0 w k w' ∧ w'.slate.stepLimit ≤ k ∧ fault = .stepLimit w'.slate.stepLimit

/-- The slate `t` is `u` with the block in progress behind its next node, and some numbers drawn. -/
def PassesOver (n : Node) (u t : Slate ρ) : Prop :=
  ∃ f outer before rest k, u.frames = f :: outer ∧ f.owner.children = before ++ n :: rest ∧ f.rest = n :: rest ∧
    t = { u with
      frames := { f with rest := rest } :: outer
      random := stateAfter RandomSource.next k u.random }

/-- A call for output walks on from the blocks in progress. -/
def WalksOn (s : Slate ρ) : Prop :=
  ∀ (η : Type) (host : Host η) (fuel : Nat) (game : η) (notices : List String),
    next host fuel ⟨s, game, notices⟩ = walk host fuel 0 ⟨s, game, notices⟩

variable {host : Host η} {w w' u : World ρ η} {fault : Fault} {fuel steps k : Nat}

/-- A walk that fails has been cut off, or an iteration of it has failed. -/
theorem exists_strides_of_walk (failed : walk host fuel steps w = some (.error fault, w')) :
    (∃ k, Strides host steps w k w' ∧ w'.slate.stepLimit ≤ k ∧ fault = .stepLimit w'.slate.stepLimit) ∨
      ∃ k u, Strides host steps w k u ∧ k < u.slate.stepLimit ∧ (iterate host).run.run u = (.error fault, w') := by
  induction fuel generalizing steps w with
  | zero =>
    unfold walk at failed
    split at failed
    · next full =>
      cases failed
      exact .inl ⟨steps, .here steps _, full, rfl⟩
    · cases failed
  | succ fuel ih =>
    unfold walk at failed
    split at failed
    · next full =>
      cases failed
      exact .inl ⟨steps, .here steps _, full, rfl⟩
    · next room =>
      rw [Nat.not_le] at room
      split at failed
      · next v passes =>
        rcases ih failed with ⟨k, onward, cut⟩ | ⟨k, u, onward, fails⟩
        · exact .inl ⟨k, .quiet room passes onward, cut⟩
        · exact .inr ⟨k, u, .quiet room passes onward, fails⟩
      · next v passes =>
        rcases ih failed with ⟨k, onward, cut⟩ | ⟨k, u, onward, fails⟩
        · exact .inl ⟨k, .round room passes onward, cut⟩
        · exact .inr ⟨k, u, .round room passes onward, fails⟩
      · cases failed
      · next raised v fails =>
        cases failed
        exact .inr ⟨steps, w, .here steps w, room, fails⟩

section Walking

variable {root script : Node} {limit : Nat} {t : Scene ρ η}

/-- What an iteration leaves that neither fails nor has anything to show is a scene inside the document again. -/
theorem Strides.exists_scene (placed : script ∈ root.subtree) (sound : t.Sound root)
    (strides : Strides host steps w k u) (there : w = .amid root script limit t) :
    ∃ t', t'.Sound root ∧ u = World.amid root script limit t' := by
  induction strides generalizing t with
  | here steps w => exact ⟨t, sound, there⟩
  | quiet room passes onward ih | round room passes onward ih =>
    subst there
    rw [run_iterate limit sound.focused.ne_nil] at passes
    have onto := sound.tick host placed
    generalize t.tick host root script = r at passes onto
    obtain ⟨t', step⟩ := r
    cases step <;> cases passes
    exact ih onto rfl

/-- **An iteration that fails passes over its node** and does nothing else but draw. -/
theorem passesOver_of_failed (sound : t.Sound root)
    (fails : (iterate host).run.run (World.amid root script limit t) = (.error fault, w')) :
    ∃ n, (∃ f outer rest, t.frames = f :: outer ∧ f.rest = n :: rest) ∧
      PassesOver n (World.amid root script limit t).slate w'.slate ∧ WalksOn w'.slate := by
  rw [run_iterate limit sound.focused.ne_nil] at fails
  cases step : (t.tick host root script).2 with
  | quiet | round | shown output =>
    rw [World.left, step] at fails
    cases fails
  | failed raised =>
    rw [World.left, step] at fails
    cases fails
    obtain ⟨n, here, random, game, left⟩ := Scene.exists_node_of_failed step
    obtain ⟨f, outer, rest, frames, content, past⟩ := Scene.exists_frames_of_node? here
    obtain ⟨before, whole⟩ := (sound.frames_sound f (by rw [frames]; exact List.mem_cons_self)).rest_suffix
    obtain ⟨k, drawn⟩ := (Scene.precedes_tick host root script t).random
    rw [left, past] at drawn ⊢
    refine ⟨n, ⟨f, outer, rest, frames, content⟩, ⟨f, outer, before, rest, k, frames, ?_, content, ?_⟩, ?_⟩
    · rw [← whole, content]
    · obtain rfl : random = stateAfter RandomSource.next k t.random := drawn
      rfl
    · intro η host fuel game notices
      rfl

end Walking

/-- **Faults change nothing.**  A call that fails leaves the slate as it was, unless it translates a text.  A call for
output that fails does so because nothing is loaded, or it was cut off, or it failed at a node: then nothing but draws
and the step past the node lies between the slate as the node was fetched and the one that is left, and the next call
walks on from there. -/
theorem unchanged_by_fault (s : Slate ρ) :
    (∀ c : Call, (∀ text, c ≠ .translate text) →
      ∀ (η : Type) (game : η) (notices : List String) (fault : Fault) (w : World ρ η),
        c.work.run.run ⟨s, game, notices⟩ = (.error fault, w) → w = ⟨s, game, notices⟩) ∧
    (s.Reachable → ∀ (η : Type) (host : Host η) (fuel : Nat) (game : η) (fault : Fault) (w : World ρ η),
      next host fuel ⟨s, game, []⟩ = some (.error fault, w) →
        (s.root = none ∧ w = ⟨s, game, []⟩) ∨ IsCutOff host ⟨s, game, []⟩ fault w ∨
        ∃ n u, FailsAt host ⟨s, game, []⟩ n u fault w ∧ PassesOver n u.slate w.slate ∧ WalksOn w.slate) := by
  refine ⟨fun c silent η game notices fault w => Call.unchanged_of_failed silent, ?_⟩
  intro reachable η host fuel game fault w called
  obtain ⟨t, before, rfl⟩ := reachable.exists_script
  have whole := before.sound
  rcases t with ⟨scope, random, limit, _ | ⟨root, script, pass⟩⟩
  · cases called
    exact .inl ⟨rfl, rfl⟩
  · have inside := whole.loaded _ rfl
    cases pass with
    | idle | waiting | done => cases called
    | running frames =>
      refine .inr ((exists_strides_of_walk called).imp id ?_)
      rintro ⟨k, u, strides, room, fails⟩
      obtain ⟨t, onto, rfl⟩ := strides.exists_scene inside.script_mem (whole.scene rfl rfl game) rfl
      obtain ⟨n, there, passes, walksOn⟩ := passesOver_of_failed onto fails
      exact ⟨n, _, ⟨k, strides, room, there, fails⟩, passes, walksOn⟩

/-- A redirect without a target inside an included block, and then a start at a block that there is not. -/
theorem unchanged_by_fault_inside_inclusion :
    ∃ (s : Slate Listed) (n : Node) (u w w' : World Listed Unit) (fault fault' : Fault),
      s.Reachable ∧ FailsAt Host.obliging ⟨s, (), []⟩ n u fault w ∧ fault.code = "SCRIPT_ATTRIBUTE_MISSING" ∧
      PassesOver n u.slate w.slate ∧ w.slate.frames.length = 2 ∧ WalksOn w.slate ∧
      (Call.start "c").work.run.run w = (.error fault', w') ∧ w' = w := by
  let inclusion : Node := .element 3 none "include" [("script", "s"), ("block", "b")] []
  let failing : Node := .element 5 none "b" [] [.element 6 none "redirect" [] [], .text 7 none "Hello"]
  let root : Node := .element 0 none "library" []
    [.element 1 none "script" [("id", "s")] [.element 2 none "a" [] [inclusion, .text 4 none "Farewell"], failing]]
  have fresh : (Slate.new (⟨[]⟩ : Listed) 10).Reachable := .new _ _
  have started := (fresh.call (.load root "s" none)).call (.start "a")
  have fails := (unchanged_by_fault _).2 started Unit Host.obliging 10 () _ _ rfl
  rcases fails with ⟨empty, -⟩ | ⟨k, -, -, cut⟩ | ⟨n, u, failed, passes, walksOn⟩
  · cases empty
  · cases cut
  · refine ⟨_, n, u, _, _, _, _, started, failed, rfl, passes, rfl, walksOn, rfl, ?_⟩
    exact (unchanged_by_fault _).1 (.start "c") nofun Unit () [] _ _ rfl

end Colloquy.Slate
