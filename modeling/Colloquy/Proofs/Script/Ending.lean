import Colloquy.Proofs.Script.Guard
import Mathlib.Data.Nat.Find

/-!
# How a walk ends

A walk that ends has gone through some number of silent iterations and then either come to one with a result
or been cut off by the guard.  `Scene.Ends` says so about the iterations alone, without fuel and without a
count that goes down, and `Scene.exists_walk_iff` says that this is all that can be.

### What is load-bearing

The guard counts the iterations from the start of the walk or from the last new pass of a loop.  That number
(`Scene.sinceRound`) is what a walk under any limit has used up of it (`Scene.walk_of_goes`), so walks under
different limits differ only in where they are cut off.

## Main definitions

* `Step.result?`: what an iteration comes to, if it is anything for the caller.
* `Scene.sinceRound`: the iterations that the guard has counted.
* `Scene.Ends`: how a walk ends.
* `Scene.Lull`: iterations that the guard cuts a walk off behind.
-/

namespace Colloquy

/-- What the iteration means to the caller, if anything. -/
def Step.result? : Step → Option (Except Fault Output)
  | .quiet | .round => none
  | .shown output => some (.ok output)
  | .failed fault => some (.error fault)

namespace Step

theorem result?_eq_none_iff {step : Step} : step.result? = none ↔ step.isSilent = true := by
  cases step with
  | quiet | round => exact iff_of_true rfl rfl
  | shown | failed => exact iff_of_false nofun nofun

theorem eq_shown_of_result? {step : Step} {output : Output} (h : step.result? = some (.ok output)) :
    step = .shown output := by
  cases step with
  | quiet | round | failed => cases h
  | shown =>
    cases h
    rfl

theorem eq_failed_of_result? {step : Step} {fault : Fault} (h : step.result? = some (.error fault)) :
    step = .failed fault := by
  cases step with
  | quiet | round | shown => cases h
  | failed =>
    cases h
    rfl

end Step

namespace Scene

variable {ρ η : Type} [PatientSource ρ]

section

variable (host : Host η) (root script : Node)

/-- How many of the first `n` iterations have passed since the last one at which a loop began a new pass. -/
def sinceRound (s : Scene ρ η) : Nat → Nat
  | 0 => 0
  | n + 1 =>
    match s.stepAt host root script n with
    | .round => 0
    | _ => sinceRound s n + 1

/-- The first `n` iterations show nothing, and the guard does not cut the walk off in front of any of them. -/
def Goes (limit : Nat) (s : Scene ρ η) (n : Nat) : Prop :=
  ∀ m < n, (s.stepAt host root script m).isSilent = true ∧ s.sinceRound host root script m < limit

/-- How a walk comes to its end: it is cut off, or an iteration of it has a result. -/
inductive Ends (limit : Nat) (s : Scene ρ η) : Scene ρ η × Except Fault Output → Prop where
  | cut {n : Nat} (goes : s.Goes host root script limit n) (full : s.sinceRound host root script n = limit) :
      Ends limit s (s.after host root script n, .error (.stepLimit limit))
  | loud {n : Nat} {result : Except Fault Output} (goes : s.Goes host root script limit n)
      (room : s.sinceRound host root script n < limit)
      (comes : (s.stepAt host root script n).result? = some result) :
      Ends limit s (s.after host root script (n + 1), result)

end

variable {host : Host η} {root script : Node} {s : Scene ρ η} {limit n m : Nat}

theorem after_succ (n : Nat) (s : Scene ρ η) :
    s.after host root script (n + 1) = ((s.after host root script n).tick host root script).1 :=
  after_add n 1 s

theorem sinceRound_succ_of_quiet (quiet : s.stepAt host root script n = .quiet) :
    s.sinceRound host root script (n + 1) = s.sinceRound host root script n + 1 := by
  rw [sinceRound, quiet]

theorem sinceRound_succ_of_round (round : s.stepAt host root script n = .round) :
    s.sinceRound host root script (n + 1) = 0 := by
  rw [sinceRound, round]

theorem sinceRound_succ_le (n : Nat) :
    s.sinceRound host root script (n + 1) ≤ s.sinceRound host root script n + 1 := by
  rw [sinceRound]
  split
  · exact Nat.zero_le _
  · exact Nat.le_refl _

namespace Goes

theorem zero : s.Goes host root script limit 0 := fun _ no => by cases no

theorem mono (h : s.Goes host root script limit n) (le : m ≤ n) : s.Goes host root script limit m :=
  fun k less => h k (Nat.lt_of_lt_of_le less le)

theorem succ (h : s.Goes host root script limit n) (silent : (s.stepAt host root script n).isSilent = true)
    (room : s.sinceRound host root script n < limit) : s.Goes host root script limit (n + 1) := by
  intro m less
  rcases Nat.lt_succ_iff_lt_or_eq.mp less with less | rfl
  · exact h m less
  · exact ⟨silent, room⟩

theorem sinceRound_le (h : s.Goes host root script limit n) : s.sinceRound host root script n ≤ limit := by
  cases n with
  | zero => exact Nat.zero_le _
  | succ n =>
    have room := (h n (Nat.lt_succ_self n)).2
    exact Nat.le_trans (sinceRound_succ_le n) room

end Goes

/-- Silent iterations are gone through, unless the guard cuts the walk off among them. -/
theorem goes_or_cut (silent : ∀ m < n, (s.stepAt host root script m).isSilent = true) (limit : Nat) :
    s.Goes host root script limit n ∧ s.sinceRound host root script n < limit ∨
      ∃ m ≤ n, s.Goes host root script limit m ∧ s.sinceRound host root script m = limit := by
  induction n with
  | zero =>
    rcases Nat.eq_zero_or_pos limit with rfl | room
    · exact .inr ⟨0, Nat.le_refl _, .zero, rfl⟩
    · exact .inl ⟨.zero, room⟩
  | succ n ih =>
    rcases ih fun m less => silent m (Nat.lt_succ_of_lt less) with ⟨goes, room⟩ | ⟨m, le, goes, full⟩
    · have further := goes.succ (silent n (Nat.lt_succ_self n)) room
      rcases Nat.lt_or_eq_of_le further.sinceRound_le with room | full
      · exact .inl ⟨further, room⟩
      · exact .inr ⟨n + 1, Nat.le_refl _, further, full⟩
    · exact .inr ⟨m, Nat.le_succ_of_le le, goes, full⟩

/-- No iteration is behind a walk that was cut off only if the limit is zero. -/
theorem pos_of_full (positive : 1 ≤ limit) (full : s.sinceRound host root script n = limit) :
    0 < n := by
  cases n with
  | zero =>
    rw [sinceRound] at full
    omega
  | succ n => exact Nat.succ_pos n

/-! ## Walks by their iterations -/

/-- One iteration of a walk, from behind any number of others. -/
theorem walk_after_succ (fuel left : Nat) :
    (s.after host root script n).walk host root script limit (fuel + 1) (left + 1) =
      match s.stepAt host root script n with
      | .quiet => (s.after host root script (n + 1)).walk host root script limit fuel left
      | .round => (s.after host root script (n + 1)).walk host root script limit fuel limit
      | .shown output => some (s.after host root script (n + 1), .ok output)
      | .failed fault => some (s.after host root script (n + 1), .error fault) := by
  rw [walk, after_succ, stepAt]
  rcases (s.after host root script n).tick host root script with ⟨t, step⟩
  cases step <;> rfl

/-- Room is as much as one more iteration needs. -/
theorem exists_left (room : s.sinceRound host root script n < limit) :
    ∃ left, limit - s.sinceRound host root script n = left + 1 :=
  Nat.exists_eq_succ_of_ne_zero (Nat.sub_ne_zero_of_lt room)

/-- A silent iteration with room left takes a walk from one iteration to the next. -/
theorem walk_of_silent (silent : (s.stepAt host root script n).isSilent = true)
    (room : s.sinceRound host root script n < limit) (fuel : Nat) :
    (s.after host root script n).walk host root script limit (fuel + 1) (limit - s.sinceRound host root script n) =
      (s.after host root script (n + 1)).walk host root script limit fuel
        (limit - s.sinceRound host root script (n + 1)) := by
  obtain ⟨left, count⟩ := exists_left room
  rw [count, walk_after_succ]
  cases step : s.stepAt host root script n with
  | quiet =>
    have less : limit - s.sinceRound host root script (n + 1) = left := by
      rw [sinceRound_succ_of_quiet step]
      omega
    rw [less]
  | round => rw [sinceRound_succ_of_round step, Nat.sub_zero]
  | shown | failed =>
    rw [step] at silent
    cases silent

/-- An iteration with a result ends the walk with it. -/
theorem walk_of_loud {result : Except Fault Output} (room : s.sinceRound host root script n < limit)
    (comes : (s.stepAt host root script n).result? = some result) (fuel : Nat) :
    (s.after host root script n).walk host root script limit (fuel + 1) (limit - s.sinceRound host root script n) =
      some (s.after host root script (n + 1), result) := by
  obtain ⟨left, count⟩ := exists_left room
  rw [count, walk_after_succ]
  cases step : s.stepAt host root script n with
  | quiet | round =>
    rw [step] at comes
    cases comes
  | shown | failed =>
    rw [step] at comes
    cases comes
    rfl

/-- A walk goes through its silent iterations as long as there is room for them. -/
theorem walk_of_goes (h : s.Goes host root script limit n) (fuel : Nat) :
    s.walk host root script limit (fuel + n) limit =
      (s.after host root script n).walk host root script limit fuel
        (limit - s.sinceRound host root script n) := by
  induction n generalizing fuel with
  | zero => rfl
  | succ n ih =>
    obtain ⟨silent, room⟩ := h n (Nat.lt_succ_self n)
    have fuel_eq : fuel + (n + 1) = fuel + 1 + n := by omega
    rw [fuel_eq, ih (h.mono (Nat.le_succ n)), walk_of_silent silent room]

/-- A walk is cut off where the count is full. -/
theorem walk_of_full (goes : s.Goes host root script limit n) (full : s.sinceRound host root script n = limit)
    (fuel : Nat) :
    s.walk host root script limit (fuel + n) limit =
      some (s.after host root script n, .error (.stepLimit limit)) := by
  rw [walk_of_goes goes, full, Nat.sub_self]
  cases fuel <;> rfl

/-- A walk that comes to an iteration with a result ends there. -/
theorem walk_of_result {result : Except Fault Output} (goes : s.Goes host root script limit n)
    (room : s.sinceRound host root script n < limit) (comes : (s.stepAt host root script n).result? = some result)
    (fuel : Nat) :
    s.walk host root script limit (fuel + 1 + n) limit = some (s.after host root script (n + 1), result) := by
  rw [walk_of_goes goes, walk_of_loud room comes]

/-- A walk that ends gets there with fuel for its iterations. -/
theorem Ends.exists_walk {r : Scene ρ η × Except Fault Output} (h : s.Ends host root script limit r) :
    ∃ fuel, s.walk host root script limit fuel limit = some r := by
  cases h with
  | cut goes full => exact ⟨_, walk_of_full goes full 0⟩
  | loud goes room comes => exact ⟨_, walk_of_result goes room comes 0⟩

/-- A walk without room left is cut off. -/
theorem ends_of_full {fuel : Nat} {r : Scene ρ η × Except Fault Output} (goes : s.Goes host root script limit n)
    (full : limit ≤ s.sinceRound host root script n)
    (walked : (s.after host root script n).walk host root script limit fuel
      (limit - s.sinceRound host root script n) = some r) : s.Ends host root script limit r := by
  have all := Nat.le_antisymm goes.sinceRound_le full
  rw [all, Nat.sub_self] at walked
  cases fuel with
  | zero | succ =>
    cases walked
    exact .cut goes all

/-- A walk that has got as far as some iteration ends the way its iterations do. -/
theorem ends_of_walk {fuel : Nat} {r : Scene ρ η × Except Fault Output} (goes : s.Goes host root script limit n)
    (walked : (s.after host root script n).walk host root script limit fuel
      (limit - s.sinceRound host root script n) = some r) : s.Ends host root script limit r := by
  rcases Nat.lt_or_ge (s.sinceRound host root script n) limit with room | full
  · induction fuel generalizing n with
    | zero =>
      obtain ⟨left, count⟩ := exists_left room
      rw [count] at walked
      cases walked
    | succ fuel ih =>
      cases comes : (s.stepAt host root script n).result? with
      | some result =>
        rw [walk_of_loud room comes] at walked
        cases walked
        exact .loud goes room comes
      | none =>
        have silent := Step.result?_eq_none_iff.mp comes
        have further := goes.succ silent room
        rw [walk_of_silent silent room] at walked
        rcases Nat.lt_or_ge (s.sinceRound host root script (n + 1)) limit with room | full
        · exact ih further walked room
        · exact ends_of_full further full walked
  · exact ends_of_full goes full walked

/-- **A walk ends as its iterations do.** -/
theorem exists_walk_iff {r : Scene ρ η × Except Fault Output} :
    (∃ fuel, s.walk host root script limit fuel limit = some r) ↔ s.Ends host root script limit r :=
  ⟨fun ⟨_, walked⟩ => ends_of_walk (.zero : s.Goes host root script limit 0) walked, Ends.exists_walk⟩

/-! ## Lulls -/

/-- As many iterations as the limit, counted from the start of the walk or from a new pass of a loop, show
nothing and begin no new pass, and nothing was shown before them. -/
structure Lull (host : Host η) (root script : Node) (limit : Nat) (s : Scene ρ η) (first : Nat) : Prop where
  silent : ∀ m < first, (s.stepAt host root script m).isSilent = true
  counted : first = 0 ∨ ∃ m, first = m + 1 ∧ s.stepAt host root script m = .round
  quiet : ∀ j < limit, s.stepAt host root script (first + j) = .quiet

/-- The iterations that the guard has counted are the last ones. -/
theorem exists_counted (host : Host η) (root script : Node) (s : Scene ρ η) (n : Nat) :
    ∃ first, n = first + s.sinceRound host root script n ∧
      (first = 0 ∨ ∃ m, first = m + 1 ∧ s.stepAt host root script m = .round) ∧
      ∀ j < s.sinceRound host root script n, s.stepAt host root script (first + j) ≠ .round := by
  induction n with
  | zero => exact ⟨0, rfl, .inl rfl, fun _ no => by cases no⟩
  | succ n ih =>
    obtain ⟨first, same, counted, apart⟩ := ih
    by_cases round : s.stepAt host root script n = .round
    · refine ⟨n + 1, ?_, .inr ⟨n, rfl, round⟩, ?_⟩
      · rw [sinceRound_succ_of_round round]
      · rw [sinceRound_succ_of_round round]
        exact fun _ no => by cases no
    · have one : s.sinceRound host root script (n + 1) = s.sinceRound host root script n + 1 := by
        rw [sinceRound]
        split
        · next is => exact absurd is round
        · rfl
      refine ⟨first, by omega, counted, fun j less => ?_⟩
      rw [one] at less
      rcases Nat.lt_succ_iff_lt_or_eq.mp less with less | rfl
      · exact apart j less
      · rwa [← same]

namespace Lull

theorem sinceRound_first (h : s.Lull host root script limit n) : s.sinceRound host root script n = 0 := by
  rcases h.counted with rfl | ⟨m, rfl, round⟩
  · rfl
  · exact sinceRound_succ_of_round round

theorem sinceRound_add (h : s.Lull host root script limit n) {j : Nat} (le : j ≤ limit) :
    s.sinceRound host root script (n + j) = j := by
  induction j with
  | zero => exact h.sinceRound_first
  | succ j ih => rw [← Nat.add_assoc, sinceRound_succ_of_quiet (h.quiet j le), ih (Nat.le_of_succ_le le)]

theorem isSilent (h : s.Lull host root script limit n) (less : m < n + limit) :
    (s.stepAt host root script m).isSilent = true := by
  rcases Nat.lt_or_ge m n with before | within
  · exact h.silent m before
  · obtain ⟨j, rfl⟩ := Nat.exists_eq_add_of_le within
    rw [h.quiet j (by omega)]
    rfl

end Lull

/-- **The guard cuts a walk off behind a lull**, and only there. -/
theorem exists_goes_iff_exists_lull :
    (∃ n, s.Goes host root script limit n ∧ s.sinceRound host root script n = limit) ↔
      ∃ first, s.Lull host root script limit first := by
  constructor
  · rintro ⟨n, goes, full⟩
    obtain ⟨first, same, counted, apart⟩ := exists_counted host root script s n
    rw [full] at same apart
    refine ⟨first, fun m less => (goes m (by omega)).1, counted, fun j less => ?_⟩
    have silent := (goes (first + j) (by omega)).1
    have quiet := apart j less
    cases step : s.stepAt host root script (first + j) with
    | quiet => rfl
    | round => exact absurd step quiet
    | shown | failed =>
      rw [step] at silent
      cases silent
  · rintro ⟨first, lull⟩
    -- The walk is cut off as soon as the count is full, which may be before the lull.
    have fills : ∃ n, s.sinceRound host root script n = limit :=
      ⟨first + limit, lull.sinceRound_add (Nat.le_refl _)⟩
    have soonest : Nat.find fills ≤ first + limit := Nat.find_min' fills (lull.sinceRound_add (Nat.le_refl _))
    refine ⟨Nat.find fills, fun m less => ⟨lull.isSilent (Nat.lt_of_lt_of_le less soonest), ?_⟩,
      Nat.find_spec fills⟩
    induction m with
    | zero => exact Nat.lt_of_le_of_ne (Nat.zero_le _) (Nat.find_min fills less)
    | succ m ih =>
      have room := ih (Nat.lt_of_succ_lt less)
      exact Nat.lt_of_le_of_ne (Nat.le_trans (sinceRound_succ_le m) room) (Nat.find_min fills less)

end Scene

/-! ## Calls -/

/-- A call for output ends as its walk does. -/
theorem Script.exists_next_of_ends {ρ η : Type} [PatientSource ρ] {host : Host η} {s : Script ρ} {game : η}
    {p : Play} {frames : List Frame} {r : Scene ρ η × Except Fault Output} (play : s.play = some p)
    (pass : p.pass = .running frames)
    (ends : (s.scene frames game).Ends host p.root p.script s.stepLimit r) :
    ∃ fuel, s.next host fuel game = some (s.afterWalk p r) := by
  obtain ⟨fuel, walked⟩ := ends.exists_walk
  refine ⟨fuel, ?_⟩
  rw [next_of_running play pass, walked, Option.map_some]

end Colloquy
