import Colloquy.Proofs.Script.Outcome
import Colloquy.Proofs.Script.Walk

/-!
# Scripts stay sound

Whatever is done with a script, in whatever order and with whatever game around it, what it stands in is
one document: the script's element, the focus and the blocks in progress are of the document that is loaded.

### What carries the induction

Of a script without a document only the focus could still hold something, and of one with a document
only the focus and the frames could belong to another tree, because a request and frames are parts of a pass
and a pass is part of a loaded document.  That the fields of a script, each written by itself, never come
apart is another matter, and is shown of the fields in `Colloquy.Proofs.Slate.Coherence`.

## Main definitions

* `Script.Reachable`: the scripts that calls lead to.
* `Script.Sound`: what every call preserves (`Script.Reachable.sound`).
-/

namespace Colloquy

/-! ## Calls -/

/-- The scripts that calls lead to, from a new one.  A call that fails leaves the script as it was, but
for `next`, whose fault comes with the script behind it.  The game of each call, the provider of each
name and the random source may be any. -/
inductive Script.Reachable : {ρ : Type} → [PatientSource ρ] → Script ρ → Prop where
  | new {ρ : Type} [PatientSource ρ] (random : ρ) (stepLimit : Nat) :
      Reachable (Script.new random stepLimit)
  | load {ρ : Type} [PatientSource ρ] {s s' : Script ρ} {root : Node} {id : String}
      {sub : Option (String × String)} (before : Reachable s) (done : s.load root id sub = .ok s') :
      Reachable s'
  | unload {ρ : Type} [PatientSource ρ] {s : Script ρ} (before : Reachable s) : Reachable s.unload
  | start {ρ : Type} [PatientSource ρ] {s s' : Script ρ} {label : String} (before : Reachable s)
      (done : s.start label = .ok s') : Reachable s'
  | next {ρ η : Type} [PatientSource ρ] {s : Script ρ} {host : Host η} {fuel : Nat} {game : η}
      {a : Advance ρ η} (before : Reachable s) (done : s.next host fuel game = some a) :
      Reachable a.script
  | submit {ρ : Type} [PatientSource ρ] {s s' : Script ρ} {raw : String} (before : Reachable s)
      (done : s.submit raw = .ok s') : Reachable s'
  | pushContext {ρ : Type} [PatientSource ρ] {s s' : Script ρ} {label : String} {id : Option String}
      {n : Node} (before : Reachable s) (done : s.pushContext label id = .ok (n, s')) : Reachable s'
  | popContext {ρ : Type} [PatientSource ρ] {s s' : Script ρ} {n : Node} (before : Reachable s)
      (done : s.popContext = .ok (n, s')) : Reachable s'
  | assign {ρ : Type} [PatientSource ρ] {s : Script ρ} (name : String) (v : Value)
      (before : Reachable s) : Reachable (s.assign name v)
  | forget {ρ : Type} [PatientSource ρ] {s : Script ρ} (name : String) (before : Reachable s) :
      Reachable (s.forget name)
  | translate {ρ : Type} [PatientSource ρ] {s : Script ρ} (text : String) (before : Reachable s) :
      Reachable (s.translate text).2
  | withProvider {ρ : Type} [PatientSource ρ] {s : Script ρ} (qualifier : String) (provider : Provider)
      (before : Reachable s) : Reachable (s.withProvider qualifier provider)
  | withRandom {ρ σ : Type} [PatientSource ρ] [PatientSource σ] {s : Script ρ} (random : σ)
      (before : Reachable s) : Reachable (s.withRandom random)

/-- What is loaded belongs together: the script's element and the blocks in progress are of the document,
and the focus is inside it. -/
structure Play.Sound (focus : List Node) (p : Play) : Prop where
  script_mem : p.script ∈ p.root.subtree
  focused : Focused p.root focus
  frames_sound : ∀ f ∈ p.pass.frames, f.Sound p.root

/-- What every call preserves. -/
structure Script.Sound {ρ : Type} (s : Script ρ) : Prop where
  unloaded : s.play = none → s.scope.focus = []
  loaded : ∀ p, s.play = some p → p.Sound s.scope.focus

namespace Script.Sound

variable {ρ : Type} {s : Script ρ}

/-- A script without a document is sound if nothing is in focus. -/
theorem of_unloaded (play : s.play = none) (focus : s.scope.focus = []) : s.Sound := by
  refine ⟨fun _ => focus, fun p some => ?_⟩
  rw [play] at some
  cases some

theorem of_loaded {p : Play} (play : s.play = some p) (sound : p.Sound s.scope.focus) : s.Sound := by
  refine ⟨fun none => ?_, fun q some => ?_⟩
  · rw [play] at none
    cases none
  · rw [play] at some
    cases some
    exact sound

/-- The document, the pass and the focus are all that counts. -/
theorem congr {σ : Type} {t : Script σ} (h : s.Sound) (play : t.play = s.play)
    (focus : t.scope.focus = s.scope.focus) : t.Sound := by
  refine ⟨fun none => ?_, fun p some => ?_⟩
  · rw [focus]
    exact h.unloaded (play ▸ none)
  · rw [focus]
    exact h.loaded p (play ▸ some)

/-- Another focus and another pass in the same document. -/
theorem of_narrowed {p : Play} {t : Script ρ} (h : s.Sound) (play : s.play = some p)
    (same : t.play = s.play) (focused : Focused p.root t.scope.focus) : t.Sound :=
  of_loaded (same.trans play) ⟨(h.loaded p play).script_mem, focused, (h.loaded p play).frames_sound⟩

theorem findScript?_mem {root script : Node} {id : String} (h : findScript? root id = some script) :
    script ∈ root.subtree := by
  unfold findScript? at h
  split at h
  · cases h
    exact root.mem_subtree_self
  · exact Node.mem_subtree_of_findBelow? root.mem_subtree_self h

theorem load {s' : Script ρ} {root : Node} {id : String} {sub : Option (String × String)}
    (done : s.load root id sub = .ok s') : s'.Sound := by
  obtain ⟨script, base, found, there, rfl⟩ := exists_of_load done
  have within := findScript?_mem found
  refine of_loaded rfl ⟨within, .base ?_, fun _ none => by cases none⟩
  rcases there with rfl | ⟨w, there⟩
  · exact within
  · exact Node.mem_subtree_of_findBelow? root.mem_subtree_self there

theorem start (h : s.Sound) {s' : Script ρ} {label : String} (done : s.start label = .ok s') :
    s'.Sound := by
  obtain ⟨p, block, play, found, rfl⟩ := exists_of_start done
  have sound := h.loaded p play
  refine of_loaded (p := { p with pass := .running [.block block] }) ?_
    ⟨sound.script_mem, sound.focused, fun f among => ?_⟩
  · rw [withPass, play]
    rfl
  · rw [List.mem_singleton.mp among]
    exact Frame.sound_block (Node.mem_subtree_of_findBelow? sound.script_mem found)

theorem frames_passAfter {root : Node} {frames : List Frame} (h : ∀ f ∈ frames, f.Sound root)
    (output : Output) : ∀ f ∈ (output.passAfter frames).frames, f.Sound root := by
  cases output with
  | text | input | wait => exact h
  | stopped | finished =>
    intro f none
    cases none

/-- A call for output begins its walk inside the document. -/
theorem scene (h : s.Sound) {p : Play} {frames : List Frame} (play : s.play = some p)
    (pass : p.pass = .running frames) {η : Type} (game : η) : (s.scene frames game).Sound p.root := by
  have frames_sound := (h.loaded p play).frames_sound
  rw [pass] at frames_sound
  exact ⟨(h.loaded p play).focused, frames_sound⟩

theorem next [PatientSource ρ] (h : s.Sound) {η : Type} {host : Host η} {fuel : Nat} {game : η}
    {a : Advance ρ η} (done : s.next host fuel game = some a) : a.script.Sound := by
  rcases exists_of_next done with ⟨result, -, rfl⟩ | ⟨p, frames, r, play, pass, walked, rfl⟩
  · exact h
  · obtain ⟨scene, result⟩ := r
    have sound := h.loaded p play
    have ended := (h.scene play pass game).walk host sound.script_mem walked
    refine of_loaded rfl ⟨sound.script_mem, ended.focused, ?_⟩
    cases result with
    | ok output => exact frames_passAfter ended.frames_sound output
    | error fault => exact ended.frames_sound

theorem submit (h : s.Sound) {s' : Script ρ} {raw : String} (done : s.submit raw = .ok s') :
    s'.Sound := by
  obtain ⟨p, request, frames, v, play, pass, -, rfl⟩ := exists_of_submit done
  have sound := h.loaded p play
  have frames_sound := sound.frames_sound
  rw [pass] at frames_sound
  refine of_loaded rfl ⟨sound.script_mem, ?_, frames_sound⟩
  rw [answeredScope_focus]
  exact sound.focused

theorem pushContext (h : s.Sound) {s' : Script ρ} {label : String} {id : Option String} {n : Node}
    (done : s.pushContext label id = .ok (n, s')) : s'.Sound := by
  obtain ⟨found, rfl⟩ := exists_of_pushContext done
  obtain ⟨m, outer, focus, below⟩ := Scope.mem_descendants_of_narrower? found
  cases play : s.play with
  | none =>
    rw [h.unloaded play] at focus
    cases focus
  | some p =>
    have focused := (h.loaded p play).focused
    refine h.of_narrowed play play.symm ?_
    rw [focus] at focused
    show Focused p.root (n :: s.scope.focus)
    rw [focus]
    exact .narrow below focused

theorem popContext (h : s.Sound) {s' : Script ρ} {n : Node}
    (done : s.popContext = .ok (n, s')) : s'.Sound := by
  obtain ⟨m, outer, focus, rfl⟩ := exists_of_popContext done
  cases play : s.play with
  | none =>
    rw [h.unloaded play] at focus
    cases focus
  | some p =>
    have focused := (h.loaded p play).focused
    rw [focus] at focused
    exact h.of_narrowed play play.symm focused.tail

end Script.Sound

/-- **Calls keep a script sound**, each of them and so any number of them. -/
theorem Script.Reachable.sound {ρ : Type} [PatientSource ρ] {s : Script ρ} (h : s.Reachable) :
    s.Sound := by
  induction h with
  | new random stepLimit => exact .of_unloaded rfl rfl
  | load _ done _ => exact .load done
  | unload _ _ => exact .of_unloaded rfl rfl
  | start _ done ih => exact ih.start done
  | next _ done ih => exact ih.next done
  | submit _ done ih => exact ih.submit done
  | pushContext _ done ih => exact ih.pushContext done
  | popContext _ done ih => exact ih.popContext done
  | assign _ _ _ ih | forget _ _ ih | translate _ _ ih | withProvider _ _ _ ih | withRandom _ _ ih =>
    exact ih.congr rfl rfl

/-! ## What callers see -/

namespace Script

variable {ρ : Type} {s : Script ρ}

theorem unloaded_iff : s.state = .unloaded ↔ s.play = none := by
  rcases s with ⟨scope, random, limit, _ | ⟨root, script, pass⟩⟩
  · exact iff_of_true rfl rfl
  · refine iff_of_false ?_ (Option.some_ne_none _)
    cases pass <;> exact nofun

theorem waiting_iff (s : Script ρ) : s.request?.isSome = true ↔ s.state = .awaitingInput := by
  rcases s with ⟨scope, random, limit, _ | ⟨root, script, pass⟩⟩
  · exact iff_of_false nofun nofun
  · cases pass with
    | waiting request frames => exact iff_of_true rfl rfl
    | idle | running | done => exact iff_of_false nofun nofun

theorem done_at_rest (h : s.state = .done) : s.frames = [] ∧ s.isIdle = false := by
  rcases s with ⟨scope, random, limit, _ | ⟨root, script, pass⟩⟩
  · cases h
  · cases pass with
    | done => exact ⟨rfl, rfl⟩
    | idle | running | waiting => cases h

theorem idle_at_rest (h : s.isIdle = true) :
    s.frames = [] ∧ (s.state = .unloaded ∨ s.state = .normal) := by
  rcases s with ⟨scope, random, limit, _ | ⟨root, script, pass⟩⟩
  · exact ⟨rfl, .inl rfl⟩
  · cases pass with
    | idle => exact ⟨rfl, .inr rfl⟩
    | running | waiting | done => cases h

end Script

end Colloquy
