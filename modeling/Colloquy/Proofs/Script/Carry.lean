import Colloquy.Script.Walk

/-!
# A walk knows its game by its replies

A script never looks at the game: it asks for effects and goes on with what the host replies.  So two games
that reply alike are the same to it, and so are two records of what was noticed or asked for before.

`Host.Follows` says that one host does with the image of a game what another does with the game.  Then an
iteration, a walk and a call with the one host are the images of those with the other
(`Scene.tick_carry`, `Scene.walk_carry`, `Script.next_carry`).  The two uses of this are that a record of
the effects may be kept without changing anything (`Script.next_logged`), and that what is in it does not
matter for what is added (`Scene.tick_preceded`).

## Main definitions

* `Host.Follows`: hosts that do the same with different games.
* `Scene.carry`: a scene with another game.
* `Host.logged`: a host that keeps a record.
-/

namespace Colloquy

/-- The game together with the effects that it was asked for. -/
def Host.logged {η : Type} (host : Host η) : Host (η × List Effect) := fun effect game =>
  let answered := host effect game.1
  (answered.1, answered.2, game.2 ++ [effect])

/-- The other host replies to the image of a game as the host replies to the game, and leaves the image of
what the host leaves. -/
def Host.Follows {η θ : Type} (host : Host η) (other : Host θ) (image : η → θ) : Prop :=
  ∀ effect game, other effect (image game) = ((host effect game).1, image (host effect game).2)

namespace Scene

variable {ρ η θ : Type} {host : Host η} {other : Host θ} {image : η → θ} {notices : List String}

/-- The scene with the image of its game, and with earlier notices in front of its own. -/
def carry (image : η → θ) (notices : List String) (s : Scene ρ η) : Scene ρ θ :=
  ⟨s.scope, s.random, s.frames, image s.game, notices ++ s.notices⟩

theorem close_carry (s : Scene ρ η) (f : Frame) (outer : List Frame) :
    (s.carry image notices).close f outer =
      ((s.close f outer).1.carry image notices, (s.close f outer).2) := by
  unfold close
  split
  · rfl
  · split
    · rfl
    · rfl

theorem enact_carry (follows : host.Follows other image) (s : Scene ρ η) (deed : Deed) :
    (s.carry image notices).enact other deed =
      ((s.enact host deed).1.carry image notices, (s.enact host deed).2) := by
  cases deed with
  | proceed | enter | jump | assign | forget | narrow | finish | halt | pause | ask => rfl
  | widen =>
    unfold enact
    dsimp only [carry]
    split
    · rfl
    · rfl
  | perform effect refused =>
    unfold enact
    dsimp only [carry]
    rw [follows]
    rcases host effect s.game with ⟨_ | reply, game⟩
    · rfl
    · cases reply with
      | done => rfl
      | refused =>
        rcases refused with _ | _ | target
        · rfl
        · rfl
        · rfl

variable [PatientSource ρ]

theorem speak_carry (s : Scene ρ η) (raw : String) :
    (s.carry image notices).speak raw = ((s.speak raw).1.carry image notices, (s.speak raw).2) := by
  unfold speak
  dsimp only [carry]
  split
  · rfl
  · rcases (s.scope.translate (Text.trim raw)).run.run s.random with ⟨_ | text, random⟩
    · rfl
    · rfl

theorem act_carry (follows : host.Follows other image) (root script : Node) (s : Scene ρ η) (n : Node) :
    (s.carry image notices).act other root script n =
      ((s.act host root script n).1.carry image notices, (s.act host root script n).2) := by
  unfold act
  cases Action.ofLabel? n.label with
  | none =>
    dsimp only [carry]
    rw [List.append_assoc]
  | some action =>
    dsimp only
    have scope : (s.carry image notices).scope = s.scope := rfl
    have random : (s.carry image notices).random = s.random := rfl
    rw [scope, random]
    rcases (Site.deed ⟨root, script, s.scope⟩ n action).run.run s.random with ⟨_ | deed, random⟩
    · rfl
    · exact enact_carry follows { s with random := random } deed

/-- **An iteration knows its game by its replies.** -/
theorem tick_carry (follows : host.Follows other image) (root script : Node) (s : Scene ρ η) :
    (s.carry image notices).tick other root script =
      ((s.tick host root script).1.carry image notices, (s.tick host root script).2) := by
  unfold tick
  have frames : (s.carry image notices).frames = s.frames := rfl
  rw [frames]
  cases s.frames with
  | nil => rfl
  | cons f outer =>
    dsimp only
    cases f.rest with
    | nil => exact close_carry s f outer
    | cons n rest =>
      cases n with
      | text index origin raw => exact speak_carry { s with frames := { f with rest := rest } :: outer } raw
      | element index origin label attributes children =>
        exact act_carry follows root script { s with frames := { f with rest := rest } :: outer } _

theorem walk_carry (follows : host.Follows other image) (root script : Node) (limit fuel left : Nat)
    (s : Scene ρ η) :
    (s.carry image notices).walk other root script limit fuel left =
      (s.walk host root script limit fuel left).map fun r => (r.1.carry image notices, r.2) := by
  induction fuel generalizing left s with
  | zero =>
    cases left with
    | zero => rfl
    | succ left => rfl
  | succ fuel ih =>
    cases left with
    | zero => rfl
    | succ left =>
      rw [walk, walk, tick_carry follows]
      rcases s.tick host root script with ⟨s', step⟩
      cases step with
      | quiet => exact ih left s'
      | round => exact ih limit s'
      | shown output => rfl
      | failed fault => rfl

end Scene

/-- **A call knows its game by its replies.** -/
theorem Script.next_carry {ρ η θ : Type} [PatientSource ρ] {host : Host η} {other : Host θ} {image : η → θ}
    (follows : host.Follows other image) (fuel : Nat) (s : Script ρ) (game : η) :
    s.next other fuel (image game) =
      (s.next host fuel game).map fun a => ⟨a.script, image a.game, a.notices, a.result⟩ := by
  unfold next
  split
  · rfl
  · next p play =>
    split
    · rfl
    · rfl
    · rfl
    · next frames pass =>
      have begun : (s.scene frames (image game) : Scene ρ θ) = (s.scene frames game).carry image [] := rfl
      rw [begun, Scene.walk_carry follows, Option.map_map, Option.map_map]
      rfl

/-! ## Records of effects -/

/-- **Keeping a record changes nothing else.** -/
theorem Script.next_logged {ρ η : Type} [PatientSource ρ] (host : Host η) (fuel : Nat) (s : Script ρ)
    (game : η) (log : List Effect) :
    s.next host fuel game =
      (s.next host.logged fuel (game, log)).map fun a => ⟨a.script, a.game.1, a.notices, a.result⟩ := by
  have follows : host.logged.Follows host Prod.fst := fun _ _ => rfl
  exact next_carry follows fuel s (game, log)

namespace Scene

variable {ρ η : Type}

/-- The scene with earlier effects and notices in front of its own. -/
def preceded (log : List Effect) (notices : List String) (s : Scene ρ (η × List Effect)) :
    Scene ρ (η × List Effect) :=
  s.carry (fun game => (game.1, log ++ game.2)) notices

/-- **An iteration does not look at the records**; it only adds to them. -/
theorem tick_preceded [PatientSource ρ] (host : Host η) (root script : Node) (log : List Effect)
    (notices : List String) (s : Scene ρ (η × List Effect)) :
    (s.preceded log notices).tick host.logged root script =
      ((s.tick host.logged root script).1.preceded log notices,
        (s.tick host.logged root script).2) := by
  have follows : host.logged.Follows host.logged fun game => (game.1, log ++ game.2) := by
    intro effect game
    unfold Host.logged
    dsimp only
    rw [List.append_assoc]
  exact tick_carry follows root script s

end Scene

end Colloquy
