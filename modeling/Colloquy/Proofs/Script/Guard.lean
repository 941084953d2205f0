import Colloquy.Proofs.Expr.Meaning
import Colloquy.Proofs.Script.Coherence
import Colloquy.Proofs.Script.Straight

/-!
# When a call for output ends

A call for output ends unless it is `Scene.Endless`: no iteration of it shows anything, and loops begin
new passes so often that the count of the guard never comes to the limit.  A silent walk that is not
endless is cut off.

Nothing bounds how often a loop may begin anew.  Each loop has only finitely many passes, but a jump out
of it leads back in front of it, and the walk comes to the same loop with all its passes before it.  So
a block of two elements, `Carousel.block`, keeps a call from ever ending (`Script.exists_unanswered_call`).
It does take a redirect, a refused payment or an inclusion: a silent walk comes to such elements again and
again (`Scene.Silent.leads_again`).

### What carries the proof

`Scene.walk` counts down and is set back, while `Scene.Endless` looks at the iterations alone.  The two
meet in `Scene.GoesRound`: a walk with `left` iterations to go outlasts the count exactly if a loop
begins a pass within `left` iterations.  That is the one condition on the count that both inductions
carry, the one along the fuel and the one along the iterations.

## Main definitions

* `Scene.after`, `Scene.stepAt`: the iterations from a scene on.
* `Scene.Endless`: iterations that the guard never cuts off.
-/

namespace Colloquy

namespace Scene

variable {ρ η : Type} [PatientSource ρ]

section

variable (host : Host η) (root script : Node)

/-- The scene after that many iterations, whatever they come to. -/
def after : Nat → Scene ρ η → Scene ρ η
  | 0, s => s
  | n + 1, s => after n (s.tick host root script).1

/-- What the iteration comes to that `n` others precede. -/
def stepAt (n : Nat) (s : Scene ρ η) : Step := ((s.after host root script n).tick host root script).2

/-- A loop begins a new pass within that many iterations. -/
def GoesRound (within : Nat) (s : Scene ρ η) : Prop := ∃ j < within, s.stepAt host root script j = .round

/-- No iteration shows anything. -/
def Silent (s : Scene ρ η) : Prop := ∀ n, (s.stepAt host root script n).isSilent = true

/-- No iteration shows anything, and at no time do as many iterations as the limit pass without a loop
that begins a new pass. -/
structure Endless (limit : Nat) (s : Scene ρ η) : Prop where
  silent : s.Silent host root script
  rounds : ∀ n, (s.after host root script n).GoesRound host root script limit

end

variable {host : Host η} {root script : Node} {s : Scene ρ η} {limit left : Nat}

theorem after_add (m n : Nat) (s : Scene ρ η) :
    s.after host root script (m + n) = (s.after host root script m).after host root script n := by
  induction m generalizing s with
  | zero => rw [Nat.zero_add, after]
  | succ m ih =>
    rw [Nat.succ_add, after, after]
    exact ih _

theorem stepAt_add (m n : Nat) (s : Scene ρ η) :
    s.stepAt host root script (m + n) = (s.after host root script m).stepAt host root script n := by
  rw [stepAt, stepAt, after_add]

theorem Silent.tick (h : s.Silent host root script) :
    (s.tick host root script).1.Silent host root script := fun n => h (n + 1)

theorem Endless.tick (h : s.Endless host root script limit) :
    (s.tick host root script).1.Endless host root script limit :=
  ⟨h.silent.tick, fun n => h.rounds (n + 1)⟩

/-- A quiet first iteration leaves the round to the ones behind it. -/
theorem GoesRound.of_quiet (h : s.GoesRound host root script (left + 1))
    (quiet : (s.tick host root script).2 = .quiet) :
    (s.tick host root script).1.GoesRound host root script left := by
  obtain ⟨j, less, round⟩ := h
  cases j with
  | zero =>
    rw [stepAt, after, quiet] at round
    cases round
  | succ j => exact ⟨j, Nat.lt_of_succ_lt_succ less, round⟩

/-! ## Endless walks have no answer -/

theorem walk_eq_none_of_endless (h : s.Endless host root script limit)
    (round : s.GoesRound host root script left) (fuel : Nat) :
    s.walk host root script limit fuel left = none := by
  induction fuel generalizing s left with
  | zero =>
    obtain ⟨j, less, -⟩ := round
    cases left with
    | zero => cases less
    | succ left => rfl
  | succ fuel ih =>
    cases left with
    | zero =>
      obtain ⟨j, less, -⟩ := round
      cases less
    | succ left =>
      have silent := h.silent 0
      have rest := h.tick
      have soon := h.rounds 1
      have later := round.of_quiet
      rw [stepAt, after] at silent
      rw [after, after] at soon
      unfold walk
      generalize s.tick host root script = t at silent rest soon later
      obtain ⟨s', step⟩ := t
      cases step with
      | quiet => exact ih rest (later rfl)
      -- A round sets the count back, and from there the next round is within the limit.
      | round => exact ih rest soon
      | shown output => cases silent
      | failed fault => cases silent

/-! ## Walks without an answer are endless -/

/-- The walk has no answer, whatever the fuel. -/
def Unanswered (host : Host η) (root script : Node) (limit left : Nat) (s : Scene ρ η) : Prop :=
  ∀ fuel, s.walk host root script limit fuel left = none

/-- What an iteration of a walk without an answer comes to. -/
theorem Unanswered.tick (h : s.Unanswered host root script limit left) :
    ∃ less, left = less + 1 ∧
      ((s.tick host root script).2 = .quiet ∧
          (s.tick host root script).1.Unanswered host root script limit less ∨
        (s.tick host root script).2 = .round ∧
          (s.tick host root script).1.Unanswered host root script limit limit) := by
  cases left with
  | zero =>
    have no := h 0
    cases no
  | succ left =>
    refine ⟨left, rfl, ?_⟩
    have again : ∀ fuel, s.walk host root script limit (fuel + 1) (left + 1) = none := fun fuel => h _
    unfold walk at again
    generalize s.tick host root script = t at again
    obtain ⟨s', step⟩ := t
    cases step with
    | quiet => exact .inl ⟨rfl, again⟩
    | round => exact .inr ⟨rfl, again⟩
    | shown output => cases again 0
    | failed fault => cases again 0

theorem Unanswered.goesRound (h : s.Unanswered host root script limit left) :
    s.GoesRound host root script left := by
  induction left generalizing s with
  | zero =>
    obtain ⟨less, no, -⟩ := h.tick
    cases no
  | succ left ih =>
    obtain ⟨less, same, ⟨-, rest⟩ | ⟨round, -⟩⟩ := h.tick
    · cases same
      obtain ⟨j, less, round⟩ := ih rest
      exact ⟨j + 1, Nat.succ_lt_succ less, round⟩
    · exact ⟨0, Nat.succ_pos _, round⟩

/-- After any number of iterations the walk still has no answer. -/
theorem Unanswered.after (h : s.Unanswered host root script limit left) (le : left ≤ limit) (n : Nat) :
    ∃ left', left' ≤ limit ∧ (s.after host root script n).Unanswered host root script limit left' := by
  induction n generalizing s left with
  | zero => exact ⟨left, le, h⟩
  | succ n ih =>
    obtain ⟨less, rfl, ⟨-, rest⟩ | ⟨-, rest⟩⟩ := h.tick
    · exact ih rest (Nat.le_of_succ_le le)
    · exact ih rest (Nat.le_refl _)

theorem Unanswered.endless (h : s.Unanswered host root script limit limit) :
    s.Endless host root script limit := by
  refine ⟨fun n => ?_, fun n => ?_⟩
  · obtain ⟨left, -, still⟩ := h.after (Nat.le_refl _) n
    obtain ⟨_, -, ⟨quiet, -⟩ | ⟨round, -⟩⟩ := still.tick
    · rw [stepAt, quiet]
      rfl
    · rw [stepAt, round]
      rfl
  · obtain ⟨left, le, still⟩ := h.after (Nat.le_refl _) n
    obtain ⟨j, less, round⟩ := still.goesRound
    exact ⟨j, Nat.lt_of_lt_of_le less le, round⟩

/-- **A walk has no answer exactly if it is endless.** -/
theorem unanswered_iff_endless :
    s.Unanswered host root script limit limit ↔ s.Endless host root script limit :=
  ⟨Unanswered.endless, fun h => walk_eq_none_of_endless h (h.rounds 0)⟩

/-- A silent walk can only be cut off. -/
theorem Silent.cut_off (h : s.Silent host root script) {fuel : Nat}
    {r : Scene ρ η × Except Fault Output} (ends : s.walk host root script limit fuel left = some r) :
    r.2 = .error (.stepLimit limit) := by
  induction fuel generalizing s left with
  | zero =>
    cases left with
    | zero =>
      cases ends
      rfl
    | succ left => cases ends
  | succ fuel ih =>
    cases left with
    | zero =>
      cases ends
      rfl
    | succ left =>
      have silent := h 0
      have rest := h.tick
      rw [stepAt, Scene.after] at silent
      unfold walk at ends
      generalize s.tick host root script = t at silent rest ends
      obtain ⟨s', step⟩ := t
      cases step with
      | quiet => exact ih rest ends
      | round => exact ih rest ends
      | shown output => cases silent
      | failed fault => cases silent

/-! ## Silent walks lead elsewhere -/

theorem Silent.after (h : s.Silent host root script) (n : Nat) :
    (s.after host root script n).Silent host root script := by
  intro m
  rw [← stepAt_add]
  exact h (n + m)

theorem Sound.after (h : s.Sound root) (host : Host η) (placed : script ∈ root.subtree) (n : Nat) :
    (s.after host root script n).Sound root := by
  induction n generalizing s with
  | zero => exact h
  | succ n ih => exact ih (h.tick host placed)

/-- A silent walk comes to an element that can lead elsewhere, since whatever is straight before it ends. -/
theorem Silent.exists_leads (h : s.Silent host root script) (sound : s.Sound root)
    (placed : script ∈ root.subtree) : ∃ m, (s.after host root script m).Leads := by
  induction before : s.ahead using Nat.strongRecOn generalizing s with
  | ind before ih =>
    subst before
    by_cases leads : s.Leads
    · exact ⟨0, leads⟩
    · -- Going straight takes one from what is before the walk, which cannot go on for ever.
      have less := sound.tick_ahead_lt host script (ne_nil_of_silent (h 0)) (straight_of_not_leads leads)
      obtain ⟨m, later⟩ := ih _ less h.tick (sound.tick host placed) rfl
      exact ⟨m + 1, later⟩

/-- **A silent walk comes to such elements again and again.** -/
theorem Silent.leads_again (h : s.Silent host root script) (sound : s.Sound root)
    (placed : script ∈ root.subtree) (n : Nat) : ∃ m, n ≤ m ∧ (s.after host root script m).Leads := by
  obtain ⟨m, leads⟩ := (h.after n).exists_leads (sound.after host placed n) placed
  refine ⟨n + m, Nat.le_add_right n m, ?_⟩
  rw [after_add]
  exact leads

/-! ## Cycles -/

/-- Iterations that lead back to where they began go on as they began. -/
theorem stepAt_mod {period : Nat} (cycle : s.after host root script period = s) (n : Nat) :
    s.stepAt host root script n = s.stepAt host root script (n % period) := by
  induction n using Nat.strongRecOn with
  | ind n ih =>
    by_cases less : n < period
    · rw [Nat.mod_eq_of_lt less]
    · rcases Nat.eq_zero_or_pos period with rfl | positive
      · rw [Nat.mod_zero]
      · have split : n = period + (n - period) := by omega
        rw [Nat.mod_eq_sub_mod (Nat.le_of_not_lt less), ← ih (n - period) (by omega)]
        calc s.stepAt host root script n
            = s.stepAt host root script (period + (n - period)) := by rw [← split]
          _ = s.stepAt host root script (n - period) := by rw [stepAt_add, cycle]

/-- **A silent cycle through a loop is endless**, if it is no longer than the limit. -/
theorem endless_of_cycle {period round : Nat} (positive : 0 < period) (short : period ≤ limit)
    (cycle : s.after host root script period = s)
    (silent : ∀ n < period, (s.stepAt host root script n).isSilent = true) (within : round < period)
    (goes : s.stepAt host root script round = .round) : s.Endless host root script limit := by
  refine ⟨fun n => ?_, fun n => ?_⟩
  · rw [stepAt_mod cycle]
    exact silent _ (Nat.mod_lt n positive)
  · -- The round comes as long after iteration `n` as it takes to get from `n` to it along the cycle.
    refine ⟨(round + (period - n % period)) % period, Nat.lt_of_lt_of_le (Nat.mod_lt _ positive) short, ?_⟩
    have less := Nat.mod_lt n positive
    have comes : (n + (round + (period - n % period)) % period) % period = round := by
      rw [Nat.add_mod, Nat.mod_mod, ← Nat.add_mod]
      have whole := Nat.div_add_mod n period
      have sum : n + (round + (period - n % period)) = round + period * (n / period + 1) := by
        rw [Nat.mul_add, Nat.mul_one]
        omega
      rw [sum, Nat.add_mul_mod_self_left, Nat.mod_eq_of_lt within]
    rw [← stepAt_add, stepAt_mod cycle, comes, goes]

end Scene

/-! ## Calls -/

namespace Script

variable {ρ η : Type} [PatientSource ρ] {host : Host η} {s : Script ρ} {game : η} {p : Play}
  {frames : List Frame}

theorem unanswered_of_running (play : s.play = some p) (pass : p.pass = .running frames) :
    (∀ fuel, s.next host fuel game = none) ↔
      (s.scene frames game).Endless host p.root p.script s.stepLimit := by
  rw [← Scene.unanswered_iff_endless, Scene.Unanswered]
  refine forall_congr' fun fuel => ?_
  rw [next_of_running play pass, Option.map_eq_none_iff]

/-- Only a running pass keeps a call from ending. -/
theorem exists_running_of_unanswered (h : ∀ fuel, s.next host fuel game = none) :
    ∃ p frames, s.play = some p ∧ p.pass = .running frames := by
  refine exists_running_of_still? ?_
  cases shows : s.still? with
  | none => rfl
  | some result =>
    have never := h 0
    rw [next_of_still? shows] at never
    cases never

theorem Reachable.scene_sound (h : s.Reachable) (play : s.play = some p) (pass : p.pass = .running frames)
    (game : η) : (s.scene frames game).Sound p.root :=
  h.sound.scene play pass game

/-- **When a call for output ends.**  It never ends exactly if its pass is running and endless from where
it stands; if a silent pass is not endless, the call is cut off; and a silent pass comes to redirects,
payments and inclusions again and again. -/
theorem next_unanswered_iff (host : Host η) (s : Script ρ) (game : η) :
    ((∀ fuel, s.next host fuel game = none) ↔
      ∃ p frames, s.play = some p ∧ p.pass = .running frames ∧
        (s.scene frames game).Endless host p.root p.script s.stepLimit) ∧
    ∀ p frames, s.play = some p → p.pass = .running frames →
      (s.scene frames game).Silent host p.root p.script →
      (¬ (s.scene frames game).Endless host p.root p.script s.stepLimit →
        ∃ fuel a, s.next host fuel game = some a ∧ a.result = .error (.stepLimit s.stepLimit)) ∧
      (s.Reachable → ∀ n, ∃ m, n ≤ m ∧ ((s.scene frames game).after host p.root p.script m).Leads) := by
  refine ⟨⟨fun never => ?_, ?_⟩, fun p frames play pass silent => ⟨fun ends => ?_, fun reachable n => ?_⟩⟩
  · obtain ⟨p, frames, play, pass⟩ := exists_running_of_unanswered never
    exact ⟨p, frames, play, pass, (unanswered_of_running play pass).mp never⟩
  · rintro ⟨p, frames, play, pass, endless⟩
    exact (unanswered_of_running play pass).mpr endless
  · rw [← unanswered_of_running play pass, Classical.not_forall] at ends
    obtain ⟨fuel, some⟩ := ends
    rw [next_of_running play pass, Option.map_eq_none_iff, ← ne_eq, Option.ne_none_iff_exists'] at some
    obtain ⟨r, walked⟩ := some
    refine ⟨fuel, s.afterWalk p r, ?_, silent.cut_off walked⟩
    rw [next_of_running play pass, walked]
    rfl
  · exact silent.leads_again (reachable.scene_sound play pass game) (reachable.sound.loaded p play).script_mem n

end Script

/-! ## A carousel -/

namespace Carousel

open Colloquy.Expr

/-- A loop of two passes over nothing. -/
def loop : Node := .element 2 none "for" [("count", "2")] []

/-- A jump to the block that it stands in. -/
def jump : Node := .element 3 none "redirect" [("target", "a")] []

/-- The loop, and the jump back in front of it. -/
def block : Node := .element 1 none "a" [] [loop, jump]

/-- A document with that block. -/
def document : Node := .element 0 none "script" [("id", "s")] [block]

/-- The passes of the loop, the first of which is this one. -/
def passes (current : Int64) : Frame := ⟨loop, [], some ⟨none, current, 2, 1⟩⟩

/-- The block with the loop behind the walk. -/
def behindLoop : Frame := ⟨block, [jump], none⟩

theorem evaluate_two (scope : Scope) : scope.evaluate "2" = .ok (.int 2) := by
  have read : Token.readAll "2".toList = .ok (Phrase.ofSum (.chain (.number 2) .done)).tokens :=
    Token.readAll_of_next? rfl rfl (Token.readAll_of_blank rfl)
  rw [Scope.evaluate, evaluate, read]
  show evaluateTokens _ _ (Phrase.tokens _) = _
  rw [evaluateTokens_of_ne_nil (Phrase.tokens_ne_nil _), Phrase.ofTokens_tokens]
  rfl

theorem deed_loop (site : Site) :
    (site.deed loop .loop : Draw Listed Deed) = pure (.enter (passes 1)) := by
  have text : (site.text? loop "count" : Draw Listed _) = pure (some "2") := rfl
  have count : (site.integer? loop "count" : Draw Listed _) = pure (some 2) := by
    rw [Site.integer?, text, pure_bind]
    dsimp only
    rw [evaluate_two]
    rfl
  have iterator : (site.text? loop "var" : Draw Listed _) = pure none := rfl
  have start : (site.integerOrOne loop "start" : Draw Listed _) = pure 1 := rfl
  have step : (site.integerOrOne loop "step" : Draw Listed _) = pure 1 := rfl
  have last : (site.lastPass? loop 1 1 : Draw Listed _) = pure (some 2) := by
    rw [Site.lastPass?, count, pure_bind]
    rfl
  have found : (site.loop? loop : Draw Listed _) = pure (some ⟨none, 1, 2, 1⟩) := by
    rw [Site.loop?, iterator, pure_bind, start, pure_bind, step, pure_bind, last]
    rfl
  rw [Site.deed, found]
  rfl

/-- The scene inside these blocks of the carousel. -/
def inside (frames : List Frame) : Scene Listed Unit :=
  ⟨⟨.empty, .empty, [document]⟩, ⟨[]⟩, frames, (), []⟩

theorem tick_loop : (inside [.block block]).tick Host.obliging document document =
    (inside [passes 1, behindLoop], .quiet) := by
  show (inside [behindLoop]).act _ _ _ loop = _
  have action : Action.ofLabel? loop.label = some .loop := rfl
  rw [Scene.act, action]
  dsimp only
  rw [deed_loop]
  rfl

/-- Four iterations lead from the front of the block back to it. -/
theorem after_four : (inside [.block block]).after Host.obliging document document 4 =
    inside [.block block] := by
  rw [Scene.after, tick_loop]
  rfl

/-- Of the four, only the second is not quiet: there the loop begins its second pass. -/
theorem stepAt_eq {n : Nat} (h : n < 4) : (inside [.block block]).stepAt Host.obliging document document n =
    if n = 1 then .round else .quiet := by
  match n with
  | 0 =>
    rw [Scene.stepAt, Scene.after, tick_loop]
    rfl
  | 1 | 2 | 3 =>
    rw [Scene.stepAt, Scene.after, tick_loop]
    rfl

theorem silent : (inside [.block block]).Silent Host.obliging document document := by
  intro n
  rw [Scene.stepAt_mod after_four, stepAt_eq (Nat.mod_lt n (by decide))]
  split <;> rfl

theorem endless {limit : Nat} (h : 4 ≤ limit) :
    (inside [.block block]).Endless Host.obliging document document limit := by
  refine Scene.endless_of_cycle (by decide) h after_four (fun n _ => silent n) (by decide : 1 < 4) ?_
  rw [stepAt_eq (by decide)]
  rfl

/-- Under a limit below the length of the cycle the guard cuts the walk off. -/
theorem not_endless : ¬ (inside [.block block]).Endless Host.obliging document document 3 := by
  intro h
  obtain ⟨j, less, round⟩ := h.rounds 2
  rw [← Scene.stepAt_add, Scene.stepAt_mod after_four, stepAt_eq (Nat.mod_lt _ (by decide))] at round
  match j with
  | 0 | 1 | 2 => cases round

/-- A script that stands in front of the block. -/
theorem exists_started (limit : Nat) : ∃ s : Script Listed, s.Reachable ∧ s.stepLimit = limit ∧
    s.play = some ⟨document, document, .running [.block block]⟩ ∧
      s.scene [.block block] () = inside [.block block] := by
  have fresh : (Script.new (⟨[]⟩ : Listed) limit).Reachable := .new _ _
  have loaded := fresh.load (show (Script.new _ limit).load document "s" none = .ok _ from rfl)
  have started := loaded.start (show Script.start _ "a" = .ok _ from rfl)
  exact ⟨_, started, rfl, rfl, rfl⟩

end Carousel

namespace Script

/-- Under the limit that scripts have unless another is set, a call in a script that was just started
never ends. -/
theorem exists_unanswered_call : ∃ s : Script Listed, s.Reachable ∧ s.stepLimit = defaultStepLimit ∧
    ∀ fuel, s.next Host.obliging fuel () = none := by
  obtain ⟨s, reachable, limit, play, scene⟩ := Carousel.exists_started defaultStepLimit
  refine ⟨s, reachable, limit, (unanswered_of_running play rfl).mpr ?_⟩
  rw [scene, limit]
  exact Carousel.endless (by decide)

/-- The carousel is endless under a limit of four and cut off under a limit of three, and either way it comes
to a jump again and again. -/
theorem next_unanswered_iff_at_carousel :
    (∃ s : Script Listed, s.stepLimit = 4 ∧ ∀ fuel, s.next Host.obliging fuel () = none) ∧
    ∃ s : Script Listed, s.stepLimit = 3 ∧
      (∃ fuel a, s.next Host.obliging fuel () = some a ∧ a.result = .error (.stepLimit 3)) ∧
      ∀ n, ∃ m, n ≤ m ∧ ((s.scene [.block Carousel.block] ()).after Host.obliging Carousel.document
        Carousel.document m).Leads := by
  constructor
  · obtain ⟨s, -, limit, play, scene⟩ := Carousel.exists_started 4
    refine ⟨s, limit, (next_unanswered_iff Host.obliging s ()).1.mpr ⟨_, _, play, rfl, ?_⟩⟩
    rw [scene, limit]
    exact Carousel.endless (by decide)
  · obtain ⟨s, reachable, limit, play, scene⟩ := Carousel.exists_started 3
    refine ⟨s, limit, ?_⟩
    rw [← limit]
    have silent : (s.scene [.block Carousel.block] ()).Silent Host.obliging Carousel.document
        Carousel.document := by
      rw [scene]
      exact Carousel.silent
    obtain ⟨cut, leads⟩ := (next_unanswered_iff Host.obliging s ()).2 _ _ play rfl silent
    refine ⟨cut ?_, leads reachable⟩
    rw [scene, limit]
    exact Carousel.not_endless

end Script

end Colloquy
