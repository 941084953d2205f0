import Colloquy.Proofs.Script.Carry
import Colloquy.Proofs.Script.Drawing
import Colloquy.Proofs.Script.Ending

/-!
# The guard only interrupts

A script's step limit decides where a walk is cut off and nothing else.  The guard cuts a call off behind a
lull of as many iterations as the limit, and a call that is not cut off comes to the same whatever the limit
is; so a caller who insists, by asking again whenever the guard cut the call off, gets under any limit what one
call gives under a limit that does not interfere (`Script.guard_only_interrupts`).

A call leaves the game and the random source as they are then, and both are arbitrary.  A game that keeps a
record of its effects (`Host.logged`) and a source that keeps one of its words (`Recorded`) are among them, so
the effects and the draws on the way are the same, too.

### What is load-bearing

A call that was cut off is resumed at the very scene that it had come to.  Only the notices are not there any
more, since each call has its own, and an iteration does not look at them (`Scene.after_carry`).  With every
call at least one iteration is behind, so the induction is on the silent iterations in front of the result.

## Main definitions

* `Advance.isCutOff`: calls that failed with the guard's code.
* `Script.insist`: calls until one is not cut off.
* `Scene.Relays`: walks that fail with the guard's code although the guard does nothing.
* `Recorded`: a random source that keeps a record.
-/

namespace Colloquy

/-! ## A source that keeps a record -/

/-- A random source with the words that were drawn from it, in order. -/
structure Recorded (ρ : Type) where
  source : ρ
  words : List UInt32

namespace Recorded

variable {ρ : Type} [PatientSource ρ]

/-- Draws a word and writes it down. -/
def next (r : Recorded ρ) : UInt32 × Recorded ρ :=
  let drawn := RandomSource.next r.source
  (drawn.1, ⟨drawn.2, r.words ++ [drawn.1]⟩)

theorem source_stateAfter (n : Nat) (r : Recorded ρ) :
    (stateAfter next n r).source = stateAfter RandomSource.next n r.source := by
  induction n generalizing r with
  | zero => rfl
  | succ n ih => rw [stateAfter_succ, stateAfter_succ, ih, next]

theorem low_word (r : Recorded ρ) :
    ∃ n, n ≤ PatientSource.patience r.source ∧ (drawAt next n r).toNat ≤ UInt32.size / 2 := by
  obtain ⟨n, le, low⟩ := PatientSource.low_word r.source
  refine ⟨n, le, ?_⟩
  rw [drawAt, next, source_stateAfter]
  exact low

instance : PatientSource (Recorded ρ) where
  next := next
  patience := fun r => PatientSource.patience r.source
  low_word := low_word

end Recorded

/-! ## Resumed walks -/

namespace Scene

variable {ρ η : Type} [PatientSource ρ] {host : Host η} {root script : Node} {limit n : Nat}

theorem after_carry (notices : List String) (n : Nat) (s : Scene ρ η) :
    (s.carry id notices).after host root script n = (s.after host root script n).carry id notices := by
  have follows : host.Follows host id := fun _ _ => rfl
  induction n generalizing s with
  | zero => rfl
  | succ n ih => rw [after, after, tick_carry follows, ih]

omit [PatientSource ρ] in
theorem carry_resumed (s : Scene ρ η) : s.resumed.carry id s.notices = s := by
  unfold resumed carry
  rw [List.append_nil]
  rfl

theorem after_resumed (n : Nat) (s : Scene ρ η) :
    s.after host root script n = (s.resumed.after host root script n).carry id s.notices := by
  rw [← after_carry, carry_resumed]

/-- **A resumed walk goes on as it would have gone**, but for the notices. -/
theorem after_add_resumed (m n : Nat) (s : Scene ρ η) :
    s.after host root script (m + n) =
      ((s.after host root script m).resumed.after host root script n).carry id
        (s.after host root script m).notices := by
  rw [after_add, after_resumed]

theorem stepAt_resumed (m n : Nat) (s : Scene ρ η) :
    (s.after host root script m).resumed.stepAt host root script n = s.stepAt host root script (m + n) := by
  have follows : host.Follows host id := fun _ _ => rfl
  rw [stepAt_add, stepAt, stepAt, after_resumed n (s.after host root script m), tick_carry follows]

/-- An iteration that the guard lets the walk come to fails with the guard's code: somebody outside the script
made that fault up. -/
def Relays (host : Host η) (root script : Node) (limit : Nat) (s : Scene ρ η) : Prop :=
  ∃ n fault, s.Goes host root script limit n ∧ s.sinceRound host root script n < limit ∧
    s.stepAt host root script n = .failed fault ∧ fault.isGuards = true ∧ fault.IsForeign host s.scope

end Scene

/-! ## Calls that are cut off -/

/-- The call failed with the guard's code. -/
def Advance.isCutOff {ρ η : Type} (a : Advance ρ η) : Bool :=
  match a.result with
  | .ok _ => false
  | .error fault => fault.isGuards

namespace Script

variable {ρ η : Type}

/-- The script with another step limit. -/
def withLimit (s : Script ρ) (limit : Nat) : Script ρ := { s with stepLimit := limit }

/-- Calls for output, one after another, as long as they are cut off, at most `tries` of them. -/
def insist [PatientSource ρ] (host : Host η) (fuel : Nat) :
    (tries : Nat) → Script ρ → η → Option (Advance ρ η)
  | 0, _, _ => none
  | tries + 1, s, game =>
    (s.next host fuel game).bind fun a =>
      if a.isCutOff then
        (insist host fuel tries a.script a.game).map fun b => { b with notices := a.notices ++ b.notices }
      else some a

variable [PatientSource ρ] {s : Script ρ} {host : Host η} {fuel tries : Nat} {game : η} {a b : Advance ρ η}

theorem insist_of_through (called : s.next host fuel game = some a) (through : a.isCutOff = false) :
    s.insist host fuel (tries + 1) game = some a := by
  rw [insist, called, Option.bind_some, through]
  rfl

theorem insist_of_cutOff (called : s.next host fuel game = some a) (cut : a.isCutOff = true)
    (later : a.script.insist host fuel tries a.game = some b) :
    s.insist host fuel (tries + 1) game = some { b with notices := a.notices ++ b.notices } := by
  rw [insist, called, Option.bind_some, cut, if_pos rfl, later]
  rfl

/-- **However often it is cut off**, a walk comes to its result. -/
theorem insist_amid (positive : 1 ≤ s.stepLimit) (p : Play) {n : Nat} {t : Scene ρ η}
    {result : Except Fault Output}
    (silent : ∀ m < n, (t.resumed.stepAt host p.root p.script m).isSilent = true)
    (comes : (t.resumed.stepAt host p.root p.script n).result? = some result)
    (through : (s.afterWalk p (t, result)).isCutOff = false) (enough : n < fuel) (patient : n < tries) :
    (s.amid p t).insist host fuel tries t.game =
      some (s.afterWalk p (t.resumed.after host p.root p.script (n + 1), result)) := by
  induction n using Nat.strongRecOn generalizing t tries with
  | ind n ih =>
    obtain ⟨tries, rfl⟩ := Nat.exists_eq_succ_of_ne_zero (Nat.ne_zero_of_lt patient)
    rcases Scene.goes_or_cut silent s.stepLimit with ⟨goes, room⟩ | ⟨m, le, goes, full⟩
    · obtain ⟨spare, rfl⟩ := Nat.exists_eq_add_of_le enough
      have walked := Scene.walk_of_result goes room comes spare
      have fuel_eq : n.succ + spare = spare + 1 + n := by omega
      rw [← fuel_eq] at walked
      refine insist_of_through ?_ through
      rw [next_amid, walked, Option.map_some]
    · -- What is left of the walk begins behind the iterations that were gone through.
      obtain ⟨k, rfl⟩ := Nat.exists_eq_add_of_le le
      let later := t.resumed.after host p.root p.script m
      have further := Scene.pos_of_full positive full
      obtain ⟨spare, rfl⟩ := Nat.exists_eq_add_of_le' (Nat.le_of_lt (Nat.lt_of_le_of_lt le enough))
      have called : (s.amid p t).next host (spare + m) t.game =
          some (s.afterWalk p (later, .error (.stepLimit s.stepLimit))) := by
        rw [next_amid, Scene.walk_of_full goes full spare, Option.map_some]
      have silent' : ∀ j < k, (later.resumed.stepAt host p.root p.script j).isSilent = true := by
        intro j less
        rw [Scene.stepAt_resumed]
        exact silent (m + j) (by omega)
      have comes' : (later.resumed.stepAt host p.root p.script k).result? = some result := by
        rw [Scene.stepAt_resumed]
        exact comes
      have rest := ih k (by omega) silent' comes' through (by omega) (show k < tries by omega)
      rw [insist_of_cutOff called rfl rest, Nat.add_assoc, Scene.after_add_resumed m (k + 1)]
      rfl

/-! ## Calls under different limits -/

/-- **A call that is not cut off** comes to the same as calls under any other limit that insist. -/
theorem insist_eq_of_next {least most : Nat} (positive : 1 ≤ least)
    (once : (s.withLimit most).next host fuel game = some a) (through : a.isCutOff = false) :
    ∃ enough, ∀ fuel ≥ enough, ∀ tries ≥ enough, (s.withLimit least).insist host fuel tries game =
      some { a with script := a.script.withLimit least } := by
  rcases exists_of_next once with ⟨result, shows, rfl⟩ | ⟨p, frames, r, play, pass, walked, rfl⟩
  · refine ⟨1, fun fuel enough tries patient => ?_⟩
    obtain ⟨tries, rfl⟩ := Nat.exists_eq_succ_of_ne_zero (Nat.ne_zero_of_lt patient)
    have shows' : (s.withLimit least).still? = some result := shows
    exact insist_of_through (next_of_still? shows') through
  · cases Scene.exists_walk_iff.mp ⟨fuel, walked⟩ with
    | cut => cases through
    | @loud n result goes room comes =>
      refine ⟨n + 1, fun fuel enough tries patient => ?_⟩
      have called := insist_amid (s := s.withLimit least) positive p (t := s.scene frames game)
        (fun m less => (goes m less).1) comes through enough patient
      have same : (s.withLimit least).amid p (s.scene frames game) = s.withLimit least :=
        amid_scene (s := s.withLimit least) play pass game
      rw [same] at called
      exact called

omit [PatientSource ρ] in
theorem isCutOff_of_still? {result : Except Fault Output} (shows : s.still? = some result) :
    (⟨s, game, [], result⟩ : Advance ρ η).isCutOff = false := by
  rcases s with ⟨scope, random, limit, _ | ⟨root, script, pass⟩⟩
  · cases shows
    rfl
  · cases pass with
    | idle | waiting | done =>
      cases shows
      rfl
    | running => cases shows

/-- **A call is cut off behind a lull**, and otherwise fails with that code only if it is told to. -/
theorem exists_cutOff_iff (host : Host η) (s : Script ρ) (game : η) :
    (∃ fuel a, s.next host fuel game = some a ∧ a.isCutOff = true) ↔
      ∃ p frames, s.play = some p ∧ p.pass = .running frames ∧
        ((∃ first, (s.scene frames game).Lull host p.root p.script s.stepLimit first) ∨
          (s.scene frames game).Relays host p.root p.script s.stepLimit) := by
  constructor
  · rintro ⟨fuel, a, called, cut⟩
    rcases exists_of_next called with ⟨result, shows, rfl⟩ | ⟨p, frames, r, play, pass, walked, rfl⟩
    · rw [isCutOff_of_still? shows] at cut
      cases cut
    · refine ⟨p, frames, play, pass, ?_⟩
      cases Scene.exists_walk_iff.mp ⟨fuel, walked⟩ with
      | @cut n goes full => exact .inl (Scene.exists_goes_iff_exists_lull.mp ⟨n, goes, full⟩)
      | @loud n result goes room comes =>
        cases result with
        | ok output => cases cut
        | error fault =>
          have failed := Step.eq_failed_of_result? comes
          have foreign := Scene.isForeign_of_tick failed cut
          exact .inr ⟨n, fault, goes, room, failed, cut, foreign.congr (Scene.precedes_after _ _ _ _ n).providers⟩
  · rintro ⟨p, frames, play, pass, ⟨first, lull⟩ | ⟨n, fault, goes, room, failed, guards, -⟩⟩
    · obtain ⟨n, goes, full⟩ := Scene.exists_goes_iff_exists_lull.mpr ⟨first, lull⟩
      obtain ⟨fuel, called⟩ := exists_next_of_ends play pass (.cut goes full)
      exact ⟨fuel, _, called, rfl⟩
    · have comes : ((s.scene frames game).stepAt host p.root p.script n).result? = some (.error fault) := by
        rw [failed]
        rfl
      obtain ⟨fuel, called⟩ := exists_next_of_ends play pass (.loud goes room comes)
      exact ⟨fuel, _, called, guards⟩

/-- **The guard only interrupts.**  A call fails with its code behind a lull of as many iterations as the limit,
and otherwise only if somebody outside the script makes such a fault up.  Under any limit but zero, calls that
insist come to what a call gives that is not cut off, whatever its limit: the result, the game and the notices
are the same, and so is the script but for the limit. -/
theorem guard_only_interrupts (host : Host η) (s : Script ρ) (game : η) :
    ((∃ fuel a, s.next host fuel game = some a ∧ a.isCutOff = true) ↔
      ∃ p frames, s.play = some p ∧ p.pass = .running frames ∧
        ((∃ first, (s.scene frames game).Lull host p.root p.script s.stepLimit first) ∨
          (s.scene frames game).Relays host p.root p.script s.stepLimit)) ∧
    ∀ (least most fuel : Nat) (a : Advance ρ η), 1 ≤ least → (s.withLimit most).next host fuel game = some a →
      a.isCutOff = false →
        ∃ enough, ∀ fuel ≥ enough, ∀ tries ≥ enough, (s.withLimit least).insist host fuel tries game =
          some { a with script := a.script.withLimit least } :=
  ⟨exists_cutOff_iff host s game, fun _ _ _ _ positive once through => insist_eq_of_next positive once through⟩

/-- Two effects and three elements that do nothing in front of a request, under limits of ten and of two. -/
theorem guard_only_interrupts_before_request :
    ∃ (s t : Script (Recorded Listed)) (enough : Nat), s.Reachable ∧
      (∃ a, (s.withLimit 2).next Host.recording 10 [] = some a ∧ a.isCutOff = true) ∧
      ∀ tries ≥ enough, (s.withLimit 2).insist Host.recording tries tries [] =
        some ⟨t.withLimit 2, [.sleep, .sleep], [], .ok (.input .keypress)⟩ := by
  let sleep (index : Nat) : Node := .element index none "sleep" [] []
  let otherwise (index : Nat) : Node := .element index none "else" [] []
  let block : Node := .element 1 none "a" []
    [sleep 2, otherwise 3, otherwise 4, sleep 5, otherwise 6, .element 7 none "wait_for_keypress" [] []]
  let root : Node := .element 0 none "script" [("id", "s")] [block]
  let s : Script (Recorded Listed) :=
    ⟨⟨.empty, .empty, [root]⟩, ⟨⟨[]⟩, []⟩, 10, some ⟨root, root, .running [.block block]⟩⟩
  have fresh : (Script.new (⟨⟨[]⟩, []⟩ : Recorded Listed) 10).Reachable := .new _ _
  have loaded := fresh.load (show (Script.new _ _).load root "s" none = .ok _ from rfl)
  have started : s.Reachable := loaded.start (show Script.start _ "a" = .ok _ from rfl)
  let t : Script (Recorded Listed) :=
    { s with play := some ⟨root, root, .waiting .keypress [⟨block, [], none⟩]⟩ }
  have once : (s.withLimit 10).next Host.recording 10 [] =
      some ⟨t, [.sleep, .sleep], [], .ok (.input .keypress)⟩ := rfl
  have cut : (s.withLimit 2).next Host.recording 10 [] =
      some ⟨(s.withLimit 2).withPass (.running [⟨block, block.children.drop 2, none⟩]), [.sleep], [],
        .error (.stepLimit 2)⟩ := rfl
  obtain ⟨enough, same⟩ := (guard_only_interrupts Host.recording s []).2 2 10 10 _ (by decide) once rfl
  exact ⟨s, t, enough, started, ⟨_, cut, rfl⟩, fun tries patient => same tries patient tries patient⟩

end Script

end Colloquy
