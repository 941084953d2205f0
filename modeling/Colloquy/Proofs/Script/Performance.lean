import Colloquy.Proofs.Script.Carry
import Colloquy.Proofs.Script.Recital

/-!
# A pass step by step

A performance is a pass in the middle of a document, with all that happened so far.  A step of it is one
iteration of the walk (`Scene.tick`) or, while a request waits, one answer; it keeps the same record of
moments that a recital does.

Whatever a call for output does is some steps of a performance (`Colloquy.Proofs.Script.Calls`), and
whatever a recital tells is what a performance comes to (`Colloquy.Proofs.Script.Simulation`).

### Reaching

`Performance.Reaches` is the statement that carries the comparison with recitals: from here, some number of
steps lead to where a recital with this result leaves off, inside these frames if it did not leave at all.
It composes like recitals do, because it says nothing about the frames further out.

## Main definitions

* `Performance`, with `Performance.step` and `Performance.after`.
* `Performance.Reaches`: where the steps lead.
-/

namespace Colloquy

namespace Step

/-- What the iteration is noticed by. -/
def events : Step → List Event
  | .quiet | .round => []
  | .shown output => [.output output]
  | .failed fault => [.fault fault]

/-- Where the pass stands behind the iteration, given the blocks it is inside. -/
def passAfter (frames : List Frame) : Step → Pass
  | .shown output => output.passAfter frames
  | _ => .running frames

end Step

namespace Stage

variable {ρ η : Type}

/-- The stage after several things happened. -/
def recordAll (s : Stage ρ η) (events : List Event) : Stage ρ η := events.foldl record s

/-- The scene of the stage, in which the game has not been asked for anything yet. -/
def scene (s : Stage ρ η) (frames : List Frame) : Scene ρ (η × List Effect) :=
  ⟨s.scope, s.random, frames, (s.game, []), []⟩

/-- What happened before stays in front. -/
theorem trace_prefix_recordAll (s : Stage ρ η) (events : List Event) :
    s.trace <+: (s.recordAll events).trace := by
  induction events generalizing s with
  | nil => exact List.prefix_refl _
  | cons event events ih => exact (List.prefix_append s.trace [⟨event, s.scope⟩]).trans (ih (s.record event))

end Stage

/-- A pass with all that happened. -/
structure Performance (ρ η : Type) where
  stage : Stage ρ η
  pass : Pass

/-- How many steps a recital that leaves in this way is worth at the least, if a jump is worth `first` and
being cut off is worth `least`. -/
def Exit.worth (first least : Nat) : Exit → Nat
  | .jump _ => first
  | .cut => least
  | _ => 0

namespace Performance

variable {ρ η : Type}

/-- The performance inside these blocks. -/
def inside (stage : Stage ρ η) (frames : List Frame) : Performance ρ η := ⟨stage, .running frames⟩

/-- The performance behind an iteration. -/
def behind (s : Stage ρ η) (t : Scene ρ (η × List Effect) × Step) : Performance ρ η :=
  ⟨Stage.recordAll { s with scope := t.1.scope, random := t.1.random, game := t.1.game.1 }
      (t.1.game.2.map .effect ++ t.2.events),
    t.2.passAfter t.1.frames⟩

theorem trace_prefix_behind (s : Stage ρ η) (t : Scene ρ (η × List Effect) × Step) :
    s.trace <+: (behind s t).stage.trace := by
  unfold behind
  exact Stage.trace_prefix_recordAll
    { s with scope := t.1.scope, random := t.1.random, game := t.1.game.1 } _

section

variable [PatientSource ρ] (host : Host η) (root script : Node)

/-- One iteration, or one answer to a request that waits.  A pass at rest stays there. -/
def step (p : Performance ρ η) : Performance ρ η :=
  match p.pass with
  | .running frames => behind p.stage ((p.stage.scene frames).tick host.logged root script)
  | .waiting request frames =>
    match p.stage.answers with
    | [] => p
    | raw :: later =>
      match request.read raw with
      | .ok v => inside (p.stage.accept request v later) frames
      | .error fault => ⟨p.stage.reject fault later, p.pass⟩
  | .idle | .done => p

/-- The performance after that many steps. -/
def after : Nat → Performance ρ η → Performance ρ η
  | 0, p => p
  | n + 1, p => after n (p.step host root script)

end

variable [PatientSource ρ] {host : Host η} {root script : Node}

theorem after_add (m n : Nat) (p : Performance ρ η) :
    p.after host root script (m + n) = (p.after host root script m).after host root script n := by
  induction m generalizing p with
  | zero => rw [Nat.zero_add, after]
  | succ m ih =>
    rw [Nat.succ_add, after, after]
    exact ih _

/-- The performance stands where a recital leaves that way. -/
def Fits (p : Performance ρ η) : Exit → Prop
  | .jump target => p.pass = .running [.block target]
  | .finished => p.pass = .done
  | .halted => p.pass = .idle
  | .waiting request => p.stage.answers = [] ∧ ∃ frames, p.pass = .waiting request frames
  | .cut => ∃ frames, p.pass = .running frames

/-- From the performance, some steps lead to where a recital with this result leaves off: inside the frames
if it came to its end, and else to where it left, in as many steps as the exit is worth. -/
def Reaches (host : Host η) (root script : Node) (first least : Nat) (p : Performance ρ η)
    (frames : List Frame) : Except Exit Unit × Stage ρ η → Prop
  | (.ok _, s) => ∃ k, p.after host root script k = inside s frames
  | (.error exit, s) => ∃ k, (p.after host root script k).stage = s ∧
      (p.after host root script k).Fits exit ∧ exit.worth first least ≤ k

section

variable {p : Performance ρ η} {s : Stage ρ η} {frames mid : List Frame} {first least : Nat}
  {r : Except Exit Unit × Stage ρ η}

theorem reaches_skip : (inside s frames).Reaches host root script first least frames (.ok (), s) :=
  ⟨0, rfl⟩

theorem reaches_leave {exit : Exit} (fits : p.Fits exit) (free : exit.worth first least = 0) :
    p.Reaches host root script first least frames (.error exit, p.stage) :=
  ⟨0, rfl, fits, Nat.le_of_eq free⟩

/-- A step on the way counts. -/
theorem Reaches.step (h : (p.step host root script).Reaches host root script first least frames r) :
    p.Reaches host root script (first + 1) (least + 1) frames r := by
  obtain ⟨exit | _, s⟩ := r
  · obtain ⟨k, comes, fits, enough⟩ := h
    refine ⟨k + 1, comes, fits, ?_⟩
    cases exit with
    | jump | cut => exact Nat.succ_le_succ enough
    | finished | halted | waiting => exact Nat.zero_le _
  · obtain ⟨k, comes⟩ := h
    exact ⟨k + 1, comes⟩

theorem Reaches.mono {first' least' : Nat} (h : p.Reaches host root script first least frames r)
    (le : first' ≤ first) (le' : least' ≤ least) :
    p.Reaches host root script first' least' frames r := by
  obtain ⟨exit | _, s⟩ := r
  · obtain ⟨k, comes, fits, enough⟩ := h
    refine ⟨k, comes, fits, ?_⟩
    cases exit with
    | jump => exact Nat.le_trans le enough
    | cut => exact Nat.le_trans le' enough
    | finished | halted | waiting => exact Nat.zero_le _
  · exact h

/-- A step on the way may be left uncounted. -/
theorem Reaches.of_step (h : (p.step host root script).Reaches host root script first least frames r) :
    p.Reaches host root script first least frames r := h.step.mono (Nat.le_succ _) (Nat.le_succ _)

/-- What comes first reaches the frames in which the rest begins. -/
theorem Reaches.bind {c d : Recital ρ η Unit} (begins : p.Reaches host root script first least mid (c s))
    (next : ∀ s, (inside s mid).Reaches host root script first least frames (d s)) :
    p.Reaches host root script first least frames ((c >>= fun _ => d) s) := by
  rw [Recital.bind_apply]
  rcases result : c s with ⟨_ | _, s'⟩
  · -- Who leaves early leaves the rest out.
    rw [result] at begins
    exact begins
  · rw [result] at begins
    obtain ⟨k, comes⟩ := begins
    have rest := next s'
    dsimp only
    rcases ends : d s' with ⟨_ | _, s''⟩
    · rw [ends] at rest
      obtain ⟨j, comes', fits, enough⟩ := rest
      refine ⟨k + j, ?_, ?_, Nat.le_add_left_of_le enough⟩
      · rw [after_add, comes, comes']
      · rw [after_add, comes]
        exact fits
    · rw [ends] at rest
      obtain ⟨j, comes'⟩ := rest
      refine ⟨k + j, ?_⟩
      rw [after_add, comes, comes']

/-! ## Records only grow -/

theorem trace_prefix_step (p : Performance ρ η) :
    p.stage.trace <+: (p.step host root script).stage.trace := by
  unfold Performance.step
  split
  · exact trace_prefix_behind p.stage _
  · split
    · exact List.prefix_refl _
    · split
      · exact List.prefix_refl _
      · exact List.prefix_append _ _
  · exact List.prefix_refl _
  · exact List.prefix_refl _

theorem trace_prefix_after (p : Performance ρ η) {j k : Nat} (le : j ≤ k) :
    (p.after host root script j).stage.trace <+: (p.after host root script k).stage.trace := by
  obtain ⟨more, rfl⟩ := Nat.exists_eq_add_of_le le
  clear le
  rw [after_add]
  generalize p.after host root script j = q
  induction more generalizing q with
  | zero => exact List.prefix_refl _
  | succ more ih => exact (trace_prefix_step q).trans (ih (q.step host root script))

/-- A pass that came to its end, was halted or waits for an answer that there is not stays as it is. -/
theorem Fits.after_eq {exit : Exit} (fits : p.Fits exit) (rests : exit.worth 1 1 = 0) (k : Nat) :
    p.after host root script k = p := by
  have still : p.step host root script = p := by
    obtain ⟨s, pass⟩ := p
    cases exit with
    | jump | cut => cases rests
    | finished =>
      cases fits
      rfl
    | halted =>
      cases fits
      rfl
    | waiting request =>
      obtain ⟨none, frames, same⟩ := fits
      cases same
      unfold Performance.step
      dsimp only at none ⊢
      rw [none]
  induction k with
  | zero => rfl
  | succ k ih =>
    rw [after, still]
    exact ih

end

end Performance

end Colloquy
