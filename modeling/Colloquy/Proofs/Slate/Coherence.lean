import Colloquy.Proofs.Slate.Walk

/-!
# The fields stay coherent

Whatever is done with a slate, in whatever order, with whatever game around it and whether it fails or not, its
fields belong to one document and one pass, and the state that callers are told agrees with all of them
(`Slate.Reachable.coherent`).  So a slate that waits has a request to repeat, and the way out of `Slate.standing` for
one that has none is never taken.

### What is load-bearing

Nothing in `Slate` keeps the fields together: each of them can hold anything beside the others.  They are kept
together because each call and each action, in place, leaves the fields of a script (`Slate.Reachable.exists_script`),
whose parts belong together in more than their types (`Script.Reachable.sound`).

## Main definitions

* `Slate.Coherent`: fields that belong together.
-/

namespace Colloquy.Slate

variable {ρ : Type}

/-- Fields that belong together.  Each entry of the focus above the outermost is properly below the one before it
(`Focused`), and the cursor of a block is at the first of what is still to come of the block's own content, if
anything is; a loop in progress has a step other than zero and is not past its last pass (`Frame.Sound`). -/
structure Coherent (s : Slate ρ) : Prop where
  unloaded_iff_root : s.state = .unloaded ↔ s.root = none
  unloaded_iff_script : s.state = .unloaded ↔ s.script = none
  unloaded_iff_focus : s.state = .unloaded ↔ s.scope.focus = []
  unloaded_at_rest : s.state = .unloaded → s.frames = [] ∧ s.idle = true
  waiting_iff_request : s.request.isSome = true ↔ s.state = .awaitingInput
  /-- A call for output repeats the request: it does not come to the case of one that waits for nothing. -/
  repeats : s.state = .awaitingInput → ∃ request, s.request = some request ∧ ∀ (η : Type) (game : η) notices,
    standing.run.run ⟨s, game, notices⟩ = (.ok (some (.input request)), ⟨s, game, notices⟩)
  done_at_rest : s.state = .done → s.frames = [] ∧ s.idle = false
  idle_at_rest : s.idle = true → s.frames = [] ∧ (s.state = .unloaded ∨ s.state = .normal)
  focused : ∀ root, s.root = some root → Focused root s.scope.focus
  script_mem : ∀ root script, s.root = some root → s.script = some script → script ∈ root.subtree
  frames_sound : ∀ root, s.root = some root → ∀ f ∈ s.frames, f.Sound root

/-- A slate that waits for an answer to a request repeats the request. -/
theorem standing_of_request {η : Type} {s : Slate ρ} {request : Input.Request} (waits : s.state = .awaitingInput)
    (asked : s.request = some request) (game : η) (notices : List String) :
    standing.run.run ⟨s, game, notices⟩ = (.ok (some (.input request)), ⟨s, game, notices⟩) := by
  rw [standing, Draw.run_bind, run_look]
  dsimp only
  rw [waits]
  dsimp only
  rw [asked]
  rfl

theorem exists_play_of_root {t : Script ρ} {root : Node} (loaded : (of t).root = some root) :
    ∃ p, t.play = some p ∧ p.root = root := Option.map_eq_some_iff.mp loaded

/-- The fields of a script whose document, focus and frames belong together are coherent. -/
theorem coherent_of {t : Script ρ} (sound : t.Sound) : (of t).Coherent where
  unloaded_iff_root := Script.unloaded_iff.trans Option.map_eq_none_iff.symm
  unloaded_iff_script := Script.unloaded_iff.trans Option.map_eq_none_iff.symm
  unloaded_iff_focus := Script.unloaded_iff.trans (Option.map_eq_none_iff.symm.trans (isPlaced_of sound))
  unloaded_at_rest unloaded := by
    have play := Script.unloaded_iff.mp unloaded
    show t.frames = [] ∧ t.isIdle = true
    rw [Script.frames, Script.isIdle, play]
    exact ⟨rfl, rfl⟩
  waiting_iff_request := t.waiting_iff
  repeats waits := by
    obtain ⟨request, asked⟩ := Option.isSome_iff_exists.mp (t.waiting_iff.mpr waits)
    exact ⟨request, asked, fun _ => standing_of_request waits asked⟩
  done_at_rest := Script.done_at_rest
  idle_at_rest := Script.idle_at_rest
  focused root loaded := by
    obtain ⟨p, play, rfl⟩ := exists_play_of_root loaded
    exact (sound.loaded p play).focused
  script_mem root script loaded named := by
    obtain ⟨p, play, rfl⟩ := exists_play_of_root loaded
    obtain ⟨q, same, rfl⟩ := Option.map_eq_some_iff.mp named
    obtain rfl : p = q := Option.some.inj (play.symm.trans same)
    exact (sound.loaded p play).script_mem
  frames_sound root loaded := by
    obtain ⟨p, play, rfl⟩ := exists_play_of_root loaded
    show ∀ f ∈ t.frames, f.Sound p.root
    rw [Script.frames, play]
    exact (sound.loaded p play).frames_sound

/-- **Every slate that calls lead to is coherent.** -/
theorem Reachable.coherent [PatientSource ρ] {s : Slate ρ} (reachable : s.Reachable) : s.Coherent := by
  obtain ⟨t, before, rfl⟩ := reachable.exists_script
  exact coherent_of before.sound

/-- A slate in the middle of a block, after its first text. -/
theorem Reachable.coherent_after_text :
    ∃ s : Slate Listed, s.idle = false ∧ s.frames.length = 1 ∧ s.Coherent := by
  let root : Node := .element 0 none "script" [("id", "s")] [.element 1 none "a" [] [.text 2 none "Hello"]]
  have fresh : (Slate.new (⟨[]⟩ : Listed) 10).Reachable := .new _ _
  have started := (fresh.call (.load root "s" none)).call (.start "a")
  have spoken := started.next (show Slate.next Host.obliging 10 ⟨_, (), []⟩ = some (_, _) from rfl)
  exact ⟨_, rfl, rfl, spoken.coherent⟩

end Colloquy.Slate
