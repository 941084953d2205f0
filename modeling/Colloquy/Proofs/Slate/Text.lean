import Colloquy.Proofs.Script.Coherence
import Colloquy.Script.Slate.Walk

/-!
# Texts in place

A step that only looks at a slate and draws is a computation that draws (`Slate.Follows`), and to translate a text in
place is to translate it in the slate's scope (`Slate.follows_translate`), wherever nothing is in focus just if no
document is loaded.

### What is load-bearing

A noun in place asks for the document first and for the focus then, while a scope has the focus only, and takes an
empty one for no document.  On other slates the two differ.

## Main definitions

* `Slate.World.redraw`: a world with another random source.
* `Slate.Follows`: steps that only look and draw.
* `Slate.IsPlaced`: slates with a focus just if there is a document.
-/

namespace Colloquy.Slate

variable {ρ η α β : Type}

/-- The world with another random source. -/
def World.redraw (w : World ρ η) (random : ρ) : World ρ η := { w with slate := { w.slate with random := random } }

/-- In the world, whatever its random source is, the step comes to what the computation comes to, and leaves all but
the random source. -/
def Follows (w : World ρ η) (c : Work ρ η α) (d : Draw ρ α) : Prop :=
  ∀ random, c.run.run (w.redraw random) = ((d.run.run random).1, w.redraw (d.run.run random).2)

section Laws

variable {w : World ρ η} {c : Work ρ η α} {d : Draw ρ α} {f : α → Work ρ η β} {g : α → Draw ρ β}

theorem follows_pure (a : α) : Follows w (pure a) (pure a) := fun _ => rfl

theorem follows_throw (fault : Fault) : Follows w (throw fault : Work ρ η α) (throw fault) := fun _ => rfl

theorem follows_lift (e : Except Fault α) : Follows w (liftM e) (liftM e) := fun _ => rfl

theorem follows_draw (d : Draw ρ α) : Follows w (draw d) d := fun _ => rfl

theorem Follows.bind (first : Follows w c d) (next : ∀ a, Follows w (f a) (g a)) : Follows w (c >>= f) (d >>= g) := by
  intro random
  rw [Draw.run_bind, first random, Draw.run_bind]
  rcases d.run.run random with ⟨_ | a, random'⟩
  · rfl
  · exact next a random'

/-- Looking gives the slate with whatever random source it has. -/
theorem follows_look_bind {f : Slate ρ → Work ρ η β} {d : Draw ρ β}
    (next : ∀ random, Follows w (f (w.redraw random).slate) d) : Follows w (look >>= f) d :=
  fun random => next random random

end Laws

/-! ## Blocks -/

section Texts

variable [PatientSource ρ] {w : World ρ η}

/-- Nothing is in focus just if no document is loaded. -/
def IsPlaced (s : Slate ρ) : Prop := s.root = none ↔ s.scope.focus = []

omit [PatientSource ρ] in
theorem follows_noun (placed : w.slate.IsPlaced) (name : String) :
    Follows w (noun name) (liftM (w.slate.scope.noun name)) := by
  obtain ⟨⟨root, script, state, frames, ⟨store, providers, focus⟩, request, random, limit, idle⟩, game, notices⟩ := w
  cases root with
  | none =>
    obtain rfl : focus = [] := placed.mp rfl
    exact fun _ => rfl
  | some root =>
    cases focus with
    | nil => cases placed.mpr rfl
    | cons n outer =>
      intro random
      unfold Scope.noun
      show (need ((n :: outer).findSome? (Scope.nounAt? name)) _ : Work ρ η String).run.run _ = _
      dsimp only [List.isEmpty_cons]
      cases (n :: outer).findSome? (Scope.nounAt? name) <;> rfl

theorem follows_resolveBlock (placed : w.slate.IsPlaced) (block : List Char) :
    Follows w (resolveBlock block) (w.slate.scope.resolveBlock block) := by
  unfold resolveBlock
  split
  · exact follows_look_bind fun _ => follows_pure _
  · next other =>
    rw [Scope.resolveBlock.eq_2 _ _ other]
    cases Scope.call? block with
    | some call => exact follows_look_bind fun _ => follows_draw _
    | none =>
      dsimp only
      split
      · exact follows_look_bind fun _ => follows_lift _
      · exact follows_noun placed _

mutual

theorem follows_expand (placed : w.slate.IsPlaced) :
    ∀ f : Fragment, Follows w (expand f) (w.slate.scope.expand f)
  | .char c => by
    rw [expand, Scope.expand]
    exact follows_pure _
  | .block inside => by
    rw [expand, Scope.expand]
    exact (follows_expandAll placed inside).bind fun _ => (follows_resolveBlock placed _).bind fun _ => follows_pure _

theorem follows_expandAll (placed : w.slate.IsPlaced) :
    ∀ fs : List Fragment, Follows w (expandAll fs) (w.slate.scope.expandAll fs)
  | [] => by
    rw [expandAll, Scope.expandAll]
    exact follows_pure _
  | f :: fs => by
    rw [expandAll, Scope.expandAll]
    exact (follows_expand placed f).bind fun _ => (follows_expandAll placed fs).bind fun _ => follows_pure _

end

/-- **A text in place** is translated in the slate's scope. -/
theorem follows_translate (placed : w.slate.IsPlaced) (text : String) :
    Follows w (translate text) (w.slate.scope.translate text) := by
  refine (follows_expandAll placed _).bind fun cs => ?_
  split
  · exact follows_pure _
  · exact follows_throw _

end Texts

end Colloquy.Slate
