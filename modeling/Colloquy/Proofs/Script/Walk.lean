import Colloquy.Proofs.Script.Deed
import Colloquy.Script.Walk

/-!
# A walk stays inside the document

While a script walks, the focus is a path down the loaded tree, and every block in progress is a block of
that tree with its cursor at one of its own children; every loop in progress has a pass in progress.

A walk changes focus and frames together, an iteration at a time.  `Scene.Sound.tick` is the step and
`Scene.Sound.walk` the run.  Both speak of a scene whatever its answer is, so a walk that ends in a fault
leaves a sound scene as well.

## Main definitions

* `Focused`: a focus inside a document.
* `Scene.Sound`: a scene inside a document.
-/

namespace Colloquy

/-- The nodes, innermost first, are a focus in the document: the outermost is any node of it, and each
other one is below the next. -/
inductive Focused (root : Node) : List Node → Prop where
  | base {n : Node} (within : n ∈ root.subtree) : Focused root [n]
  | narrow {n m : Node} {outer : List Node} (below : m ∈ n.descendants)
      (focused : Focused root (n :: outer)) : Focused root (m :: n :: outer)

namespace Focused

variable {root n : Node} {outer : List Node}

theorem ne_nil {focus : List Node} (h : Focused root focus) : focus ≠ [] := by
  cases h <;> exact List.cons_ne_nil _ _

/-- Without its innermost node a focus is still one, if any node is left. -/
theorem tail {m : Node} (h : Focused root (m :: n :: outer)) : Focused root (n :: outer) := by
  cases h with
  | narrow _ focused => exact focused

end Focused

/-- The next node of a block of the document is one of the document. -/
theorem Frame.Sound.mem_subtree {root n : Node} {f : Frame} {rest : List Node} (h : f.Sound root)
    (content : f.rest = n :: rest) : n ∈ root.subtree := by
  have child : n ∈ f.owner.children := h.rest_suffix.subset (by rw [content]; exact List.mem_cons_self)
  have below := Node.mem_descendants_of_mem_subtree h.owner_mem (Node.mem_descendants_of_mem_children child)
  exact Node.mem_subtree_of_mem_descendants below

/-! ## One iteration -/

/-- The focus and the blocks of the scene belong to the document. -/
structure Scene.Sound {ρ η : Type} (root : Node) (s : Scene ρ η) : Prop where
  focused : Focused root s.scope.focus
  frames_sound : ∀ f ∈ s.frames, f.Sound root

namespace Scene.Sound

variable {ρ η : Type} {root : Node} {s : Scene ρ η}

/-- The scene in other blocks of the document. -/
theorem withFrames (h : s.Sound root) {frames : List Frame} (sound : ∀ f ∈ frames, f.Sound root) :
    ({ s with frames := frames } : Scene ρ η).Sound root :=
  ⟨h.focused, sound⟩

theorem close (h : s.Sound root) {f : Frame} {outer : List Frame} (here : f.Sound root)
    (around : ∀ g ∈ outer, g.Sound root) : (s.close f outer).1.Sound root := by
  unfold Scene.close
  split
  · exact h.withFrames around
  · next l loop =>
    split
    · exact h.withFrames around
    · next number next =>
      -- The loop stands in front of its whole content again.
      have again : Frame.Sound root ⟨f.owner, f.owner.children, some { l with current := number }⟩ := by
        refine ⟨here.owner_mem, List.suffix_refl _, ?_⟩
        rintro l' ⟨⟩
        exact (here.loop_live l loop).next next
      refine ⟨?_, List.forall_mem_cons.mpr ⟨again, around⟩⟩
      cases l.iterator <;> exact h.focused

theorem enter (h : s.Sound root) {f : Frame} (sound : f.Sound root) : (s.enter f).Sound root := by
  refine ⟨?_, List.forall_mem_cons.mpr ⟨sound, h.frames_sound⟩⟩
  unfold Scene.enter
  dsimp only
  split <;> exact h.focused

theorem jump (h : s.Sound root) {target : Node} (within : target ∈ root.subtree) :
    (s.jump target).Sound root := by
  refine h.withFrames fun f among => ?_
  rw [List.mem_singleton] at among
  rw [among]
  exact Frame.sound_block within

theorem redraw (h : s.Sound root) (random : ρ) : ({ s with random := random } : Scene ρ η).Sound root :=
  ⟨h.focused, h.frames_sound⟩

theorem leave (h : s.Sound root) : ({ s with frames := [] } : Scene ρ η).Sound root :=
  h.withFrames fun _ none => by cases none

/-- Enacting a deed that stays inside the document keeps the scene there. -/
theorem enact (h : s.Sound root) (host : Host η) {deed : Deed}
    (within : deed.Within root s.scope.focus) : (s.enact host deed).1.Sound root := by
  cases deed with
  | proceed | assign | forget | pause | ask => exact ⟨h.focused, h.frames_sound⟩
  | enter f => exact h.enter within
  | jump target => exact h.jump within
  | narrow target =>
    obtain ⟨n, outer, focus, below⟩ := within
    refine ⟨?_, h.frames_sound⟩
    show Focused root (target :: s.scope.focus)
    rw [focus]
    refine .narrow below ?_
    rw [← focus]
    exact h.focused
  | widen =>
    unfold Scene.enact Scope.widen?
    dsimp only
    split
    · next widened =>
      split at widened
      · next m n outer focus =>
        cases widened
        refine ⟨?_, h.frames_sound⟩
        have focused := h.focused
        rw [focus] at focused
        exact focused.tail
      · cases widened
    · exact h
  | finish | halt => exact h.leave
  | perform effect refused =>
    unfold Scene.enact
    dsimp only
    split
    · exact ⟨h.focused, h.frames_sound⟩
    · exact ⟨h.focused, h.frames_sound⟩
    · split
      · exact ⟨h.focused, h.frames_sound⟩
      · exact ⟨h.focused, h.frames_sound⟩
      · next target =>
        have sound : ({ s with game := (host effect s.game).2 } : Scene ρ η).Sound root :=
          ⟨h.focused, h.frames_sound⟩
        exact sound.jump (within target rfl)

variable [PatientSource ρ]

theorem speak (h : s.Sound root) (raw : String) : (s.speak raw).1.Sound root := by
  unfold Scene.speak
  dsimp only
  split
  · exact h
  · split <;> exact ⟨h.focused, h.frames_sound⟩

theorem act (h : s.Sound root) (host : Host η) {script n : Node} (placed : script ∈ root.subtree)
    (within : n ∈ root.subtree) : (s.act host root script n).1.Sound root := by
  unfold Scene.act
  split
  · exact ⟨h.focused, h.frames_sound⟩
  · next action _ =>
    dsimp only
    split
    · next deed given =>
      have here : Site.Placed ⟨root, script, s.scope⟩ := ⟨placed⟩
      have stays : deed.Within root s.scope.focus := here.deed_gives within action _ _ given
      exact (h.redraw _).enact host stays
    · exact ⟨h.focused, h.frames_sound⟩

/-- **An iteration stays inside the document.** -/
theorem tick (h : s.Sound root) (host : Host η) {script : Node} (placed : script ∈ root.subtree) :
    (s.tick host root script).1.Sound root := by
  unfold Scene.tick
  split
  · exact h
  · next f outer frames =>
    have sound := h.frames_sound
    rw [frames, List.forall_mem_cons] at sound
    obtain ⟨here, around⟩ := sound
    split
    · exact h.close here around
    · next n rest content =>
      have within := here.mem_subtree content
      -- The block is behind the node before the node does anything.
      have behind : Frame.Sound root { f with rest := rest } := by
        refine ⟨here.owner_mem, ?_, here.loop_live⟩
        have shorter : rest <:+ f.rest := by rw [content]; exact List.suffix_cons n rest
        exact shorter.trans here.rest_suffix
      have advanced : ({ s with frames := { f with rest := rest } :: outer } : Scene ρ η).Sound root :=
        h.withFrames (List.forall_mem_cons.mpr ⟨behind, around⟩)
      dsimp only
      split
      · exact advanced.speak _
      · exact advanced.act host placed within

/-! ## A whole walk -/

/-- A walk stays inside the document, whatever it comes to. -/
theorem walk (h : s.Sound root) (host : Host η) {script : Node} (placed : script ∈ root.subtree)
    {limit fuel left : Nat} {r : Scene ρ η × Except Fault Output}
    (ends : s.walk host root script limit fuel left = some r) : r.1.Sound root := by
  induction fuel generalizing left s with
  | zero =>
    cases left with
    | zero =>
      cases ends
      exact h
    | succ left => cases ends
  | succ fuel ih =>
    cases left with
    | zero =>
      cases ends
      exact h
    | succ left =>
      have sound := h.tick host placed
      unfold Scene.walk at ends
      generalize s.tick host root script = t at ends sound
      obtain ⟨s', step⟩ := t
      cases step with
      | quiet => exact ih sound ends
      | round => exact ih sound ends
      | shown output =>
        cases ends
        exact sound
      | failed fault =>
        cases ends
        exact sound

end Scene.Sound

end Colloquy
