import Colloquy.Proofs.Slate.Action

/-!
# Walking in place

An iteration in place leaves the fields of what the iteration makes of the scene (`Slate.run_iterate`), so a call for
output in place answers what the script answers and leaves its fields (`Slate.next_of`).  Since the other calls do so
as well (`Slate.Call.run_work`), the slates that calls lead to are the fields of the scripts that calls lead to
(`Slate.Reachable.exists_script`).

### What is load-bearing

A slate can be in states that no script has, such as to wait for an answer to no request, and what a call for output
does then is not what it does for any script.  What is shown here is that calls do not lead there.

## Main definitions

* `Slate.World.upTo`: the fields that a walk leaves.
-/

namespace Colloquy.Slate

variable {ρ η : Type} [PatientSource ρ] {root script : Node} {host : Host η}

/-! ## One iteration -/

omit [PatientSource ρ] in
theorem run_look (w : World ρ η) : look.run.run w = (.ok w.slate, w) := rfl

omit [PatientSource ρ] in
theorem run_write (f : Slate ρ → Slate ρ) (w : World ρ η) :
    (write f).run.run w = (.ok (), { w with slate := f w.slate }) := rfl

omit [PatientSource ρ] in
theorem frames_amid (limit : Nat) (t : Scene ρ η) : (World.amid root script limit t).slate.frames = t.frames := rfl

/-- An element in place does what it does to the scene. -/
theorem run_execute (limit : Nat) {t : Scene ρ η} (focused : t.scope.focus ≠ []) (n : Node) :
    (execute host n >>= conclude).run.run (.amid root script limit t) =
      World.left root script limit (t.act host root script n) := by
  unfold execute Scene.act
  cases Action.ofLabel? n.label with
  | none => rfl
  | some action => exact does_handle focused n action t.random

theorem run_speak (limit : Nat) {t : Scene ρ η} (focused : t.scope.focus ≠ []) (raw : String) :
    (speak raw).run.run (.amid root script limit t) = World.left root script limit (t.speak raw) := by
  unfold speak Scene.speak
  dsimp only
  split
  · rfl
  · rw [Draw.run_bind, (follows_translate_amid focused (Text.trim raw)).run_amid]
    rcases (t.scope.translate (Text.trim raw)).run.run t.random with ⟨_ | text, random⟩ <;> rfl

omit [PatientSource ρ] in
/-- A block without a next node in place is left, or begins its next pass. -/
theorem run_closeFrame (limit : Nat) {t : Scene ρ η} {f : Frame} {outer : List Frame} (frames : t.frames = f :: outer) :
    (closeFrame >>= fun again => if again then pure .round else pure .quiet).run.run (.amid root script limit t) =
      World.left root script limit (t.close f outer) := by
  obtain ⟨scope, random, _, game, notices⟩ := t
  obtain rfl := frames
  obtain ⟨owner, rest, _ | l⟩ := f
  · rfl
  · unfold Scene.close
    dsimp only
    rw [closeFrame, bind_assoc, Draw.run_bind, run_look]
    dsimp only
    rw [frames_amid]
    dsimp only
    cases l.next? with
    | none => rfl
    | some number =>
      dsimp only
      cases l.iterator <;> rfl

/-- **An iteration in place** leaves the fields of what the iteration makes of the scene. -/
theorem run_iterate (limit : Nat) {t : Scene ρ η} (focused : t.scope.focus ≠ []) :
    (iterate host).run.run (.amid root script limit t) = World.left root script limit (t.tick host root script) := by
  obtain ⟨scope, random, frames, game, notices⟩ := t
  rw [iterate, Draw.run_bind, run_look]
  dsimp only
  rw [frames_amid]
  dsimp only
  rcases frames with _ | ⟨⟨owner, rest, loop⟩, outer⟩
  · rfl
  · cases rest with
    | nil => exact run_closeFrame limit (t := ⟨scope, random, _, game, notices⟩) rfl
    | cons n rest =>
      -- The block is behind the node before the node does anything, in place as well.
      let past : Scene ρ η := ⟨scope, random, ⟨owner, rest, loop⟩ :: outer, game, notices⟩
      dsimp only
      rw [Draw.run_bind, run_write]
      cases n with
      | text id parent raw => exact run_speak limit (t := past) focused raw
      | element id parent label attributes children =>
        exact run_execute limit (t := past) focused (.element id parent label attributes children)

/-! ## The whole walk -/

/-- The fields that a walk leaves which has come to this. -/
def World.upTo (root script : Node) (limit : Nat) (r : Scene ρ η × Except Fault Output) : World ρ η :=
  match r.2 with
  | .ok output => .during root script limit (output.passAfter r.1.frames) r.1
  | .error _ => .amid root script limit r.1

/-- A walk in place leaves the fields of what the walk makes of the scene. -/
theorem walk_amid (placed : script ∈ root.subtree) {limit steps : Nat} (room : steps ≤ limit) (fuel : Nat)
    {t : Scene ρ η} (sound : t.Sound root) :
    walk host fuel steps (.amid root script limit t) =
      (t.walk host root script limit fuel (limit - steps)).map fun r => (r.2, .upTo root script limit r) := by
  induction fuel generalizing steps t with
  | zero =>
    unfold walk Scene.walk
    rcases Nat.eq_or_lt_of_le room with rfl | less
    · rw [Nat.sub_self]
      exact if_pos (Nat.le_refl _)
    · obtain ⟨left, more⟩ : ∃ left, limit - steps = left + 1 := ⟨limit - steps - 1, by omega⟩
      rw [more]
      exact if_neg (Nat.not_le.mpr less)
  | succ fuel ih =>
    unfold walk Scene.walk
    rcases Nat.eq_or_lt_of_le room with rfl | less
    · rw [Nat.sub_self]
      exact if_pos (Nat.le_refl _)
    · obtain ⟨left, more⟩ : ∃ left, limit - steps = left + 1 := ⟨limit - steps - 1, by omega⟩
      rw [more]
      refine (if_neg (Nat.not_le.mpr less)).trans ?_
      rw [run_iterate limit sound.focused.ne_nil]
      dsimp only
      have onto := sound.tick host placed
      generalize t.tick host root script = r at onto ⊢
      obtain ⟨t, _ | _ | output | fault⟩ := r
      · have here : limit - (steps + 1) = left := by omega
        have onward := ih less onto
        rw [here] at onward
        exact onward
      · exact ih (Nat.zero_le limit) onto
      · rfl
      · rfl

/-! ## A call for output -/

/-- **A call for output in place** answers what the script answers and leaves its fields. -/
theorem next_of (fuel : Nat) {s : Script ρ} (sound : s.Sound) (game : η) :
    next host fuel (.of s game []) =
      (s.next host fuel game).map fun a => (a.result, World.of a.script a.game a.notices) := by
  rcases s with ⟨scope, random, limit, _ | ⟨root, script, pass⟩⟩
  · rfl
  · cases pass with
    | idle | waiting | done => rfl
    | running frames =>
      have placed := (sound.loaded _ rfl).script_mem
      refine (walk_amid placed (Nat.zero_le limit) fuel (sound.scene rfl rfl game)).trans ?_
      unfold Script.next
      rw [Option.map_map]
      congr 1
      funext r
      obtain ⟨t, _ | output⟩ := r <;> rfl

/-! ## All calls -/

/-- A call that fails leaves the script, and one that is done leads to another. -/
theorem reachable_ofResult {s : Script ρ} {result : Except Fault (Script ρ)} (reachable : s.Reachable)
    (leads : ∀ s', result = .ok s' → s'.Reachable) : (Script.Effort.ofResult s result).2.Reachable := by
  cases result with
  | error fault => exact reachable
  | ok s' => exact leads s' rfl

/-- What a call makes of a script that calls lead to is one that calls lead to. -/
theorem Call.reachable_onScript {s : Script ρ} (reachable : s.Reachable) (c : Call) :
    (c.onScript s).2.Reachable := by
  cases c with
  | load root id sub => exact reachable_ofResult reachable fun s' done => reachable.load done
  | unload => exact reachable.unload
  | start label => exact reachable_ofResult reachable fun s' done => reachable.start done
  | submit raw => exact reachable_ofResult reachable fun s' done => reachable.submit done
  | pushContext label id =>
    refine reachable_ofResult reachable fun s' done => ?_
    cases pushed : s.pushContext label id with
    | error fault =>
      rw [pushed] at done
      cases done
    | ok r =>
      rw [pushed] at done
      cases done
      exact reachable.pushContext pushed
  | popContext =>
    refine reachable_ofResult reachable fun s' done => ?_
    cases popped : s.popContext with
    | error fault =>
      rw [popped] at done
      cases done
    | ok r =>
      rw [popped] at done
      cases done
      exact reachable.popContext popped
  | assign name v => exact reachable.assign name v
  | forget name => exact reachable.forget name
  | translate text => exact reachable.translate text
  | evaluate text => exact reachable
  | provide qualifier provider => exact reachable.withProvider qualifier provider

/-- **The slates that calls lead to are the fields of scripts** that calls lead to. -/
theorem Reachable.exists_script {s : Slate ρ} (reachable : s.Reachable) : ∃ t : Script ρ, t.Reachable ∧ s = .of t := by
  induction reachable with
  | new random stepLimit => exact ⟨_, .new random stepLimit, rfl⟩
  | call c _ ih =>
    obtain ⟨t, before, rfl⟩ := ih
    refine ⟨_, c.reachable_onScript before, ?_⟩
    exact congrArg (fun r => r.2.slate) (c.run_work before.sound () [])
  | next _ called ih =>
    obtain ⟨t, before, rfl⟩ := ih
    obtain ⟨a, done, here⟩ := Option.map_eq_some_iff.mp ((next_of _ before.sound _).symm.trans called)
    cases here
    exact ⟨a.script, before.next done, rfl⟩
  | withRandom random _ ih =>
    obtain ⟨t, before, rfl⟩ := ih
    exact ⟨_, before.withRandom random, rfl⟩

end Colloquy.Slate
