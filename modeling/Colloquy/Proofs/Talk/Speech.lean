import Mathlib.Algebra.GroupWithZero.Nat
import Colloquy.Talk.Speech

/-!
# What is said is shown

Revealing neither loses nor repeats nor reorders what is said.  Whatever is said, revealed and skipped, the lines of
the transcript, the line that is being revealed and the lines that wait are together all lines in the order in which
they were said, and of a line that is being revealed at least one character is shown.  From any state a speech is
revealed by as many ticks as are left, and then stands where skipping would have taken it at once
(`Speech.revealing_keeps_lines`).

### What is load-bearing

`Speech.effort` goes down by one with each tick (`Speech.effort_of_tick`), and with no tick left there is nothing left
to reveal.  So the number of ticks needs no case analysis of its own; and where they lead follows from `all_tick`, since
a speech with nothing left to reveal is all in its transcript.

## Main definitions

* `Speech.Event`, `Speech.afterEvents`: what may happen to a speech, and what it comes to.
* `Speech.ticks`: a number of ticks that each reveal something.
* `Speech.effort`: how many ticks are left.
-/

namespace Colloquy.Speech

/-- What may happen to a speech. -/
inductive Event where
  | say (lines : List String)
  | tick
  | skip

/-- The speech behind an event; a tick with nothing left to reveal leaves it as it is. -/
def afterEvent (s : Speech) : Event → Speech
  | .say lines => s.say lines
  | .tick => s.tick.getD s
  | .skip => s.skip

/-- The speech behind events. -/
def afterEvents (s : Speech) (events : List Event) : Speech := events.foldl afterEvent s

/-- The lines that are said, in order. -/
def said (events : List Event) : List String :=
  events.flatMap fun
    | .say lines => lines
    | .tick | .skip => []

/-- A speech with nothing left to reveal. -/
def silent (transcript : List String) : Speech := ⟨transcript, none, []⟩

/-- Of the line that is being revealed, at least one character is shown. -/
def IsBegun (s : Speech) : Prop := ∀ line, s.current = some line → line.shown ≠ []

theorem isBegun_silent (transcript : List String) : (silent transcript).IsBegun := by
  rintro line ⟨⟩

/-- So many ticks, if each of them reveals something. -/
def ticks : Nat → Speech → Option Speech
  | 0, s => some s
  | n + 1, s => s.tick.bind (ticks n)

/-- How many ticks are left: for each line one more than it has characters left. -/
def effort (s : Speech) : Nat :=
  (s.queue.map fun line => line.length + 1).sum + (s.current.map fun line => line.hidden.length + 1).getD 0

variable {s t : Speech}

/-! ## One event -/

theorem tick_eq_none_iff : s.tick = none ↔ s.current = none ∧ s.queue = [] := by
  unfold tick
  split
  · next current => simp [current]
  · next current => simp [current]
  · next current =>
    split
    · next queue => simp [current, queue]
    · next queue => split <;> simp [queue]

theorem eq_silent_of_tick_eq_none (none : s.tick = none) : s = silent s.all := by
  obtain ⟨current, queue⟩ := tick_eq_none_iff.mp none
  obtain ⟨transcript, _, _⟩ := s
  cases current
  cases queue
  simp [silent, all]

/-- A tick is one tick less. -/
theorem effort_of_tick (step : s.tick = some t) : s.effort = t.effort + 1 := by
  unfold tick at step
  split at step
  · next current =>
    cases step
    simp [effort, current]
    omega
  · next current =>
    cases step
    simp [effort, current]
  · next current =>
    split at step
    · cases step
    · next line queue waits =>
      split at step
      · next empty =>
        -- An empty line goes to the transcript at once, which is the one tick that it has.
        cases step
        have length : line.length = 0 := by rw [← String.length_toList, empty]; rfl
        simp [effort, current, waits, length]
        omega
      · next c cs begins =>
        -- A line comes with its first character, and its last tick is the one that moves it on.
        cases step
        have length : line.length = cs.length + 1 := by rw [← String.length_toList, begins]; rfl
        simp [effort, waits, current, length]
        omega

theorem effort_eq_zero_iff : s.effort = 0 ↔ s.tick = none := by
  cases step : s.tick with
  | none =>
    rw [eq_silent_of_tick_eq_none step]
    exact iff_of_true rfl rfl
  | some t =>
    rw [effort_of_tick step]
    exact iff_of_false (Nat.succ_ne_zero _) nofun

theorem IsBegun.tick (begun : s.IsBegun) (step : s.tick = some t) : t.IsBegun := by
  unfold Speech.tick at step
  split at step
  · cases step
    rintro _ ⟨⟩
    exact List.append_ne_nil_of_right_ne_nil _ (List.cons_ne_nil _ _)
  · cases step
    exact nofun
  · next current =>
    split at step
    · cases step
    · split at step
      · cases step
        exact begun
      · cases step
        rintro _ ⟨⟩
        exact List.cons_ne_nil _ _

theorem IsBegun.afterEvent (begun : s.IsBegun) (event : Event) : (s.afterEvent event).IsBegun := by
  cases event with
  | say lines => exact begun
  | tick =>
    rw [Speech.afterEvent]
    cases step : s.tick with
    | none => exact begun
    | some t => exact begun.tick step
  | skip => exact isBegun_silent _

theorem all_afterEvent (s : Speech) (event : Event) : (s.afterEvent event).all = s.all ++ said [event] := by
  cases event with
  | say lines => rw [afterEvent, all_say]; simp [said]
  | tick =>
    rw [afterEvent]
    cases step : s.tick with
    | none => simp [said]
    | some t => simp [said, all_tick step]
  | skip => rw [afterEvent, all_skip]; simp [said]

/-! ## Many events -/

theorem IsBegun.afterEvents (begun : s.IsBegun) (events : List Event) : (s.afterEvents events).IsBegun := by
  induction events generalizing s with
  | nil => exact begun
  | cons event events ih => exact ih (begun.afterEvent event)

theorem all_afterEvents (s : Speech) (events : List Event) : (s.afterEvents events).all = s.all ++ said events := by
  induction events generalizing s with
  | nil => simp [afterEvents, said]
  | cons event events ih =>
    have later : (s.afterEvents (event :: events)).all = ((s.afterEvent event).afterEvents events).all := rfl
    have split : said (event :: events) = said [event] ++ said events := by simp [said]
    rw [later, ih, all_afterEvent, split, List.append_assoc]

/-! ## Many ticks -/

theorem ticks_succ (n : Nat) (step : s.tick = some t) : ticks (n + 1) s = ticks n t := by
  rw [ticks, step, Option.bind_some]

/-- Ticks that reveal something are as many ticks less, and lead to the same lines. -/
theorem effort_of_ticks {n : Nat} (steps : ticks n s = some t) : s.effort = t.effort + n ∧ t.all = s.all := by
  induction n generalizing s with
  | zero =>
    cases steps
    exact ⟨rfl, rfl⟩
  | succ n ih =>
    obtain ⟨u, step, later⟩ := Option.bind_eq_some_iff.mp steps
    obtain ⟨effort, all⟩ := ih later
    exact ⟨by rw [effort_of_tick step, effort, Nat.add_assoc], all.trans (all_tick step)⟩

/-- As long as ticks are left, each reveals something. -/
theorem exists_ticks {n : Nat} (within : n ≤ s.effort) : ∃ t, ticks n s = some t := by
  induction n generalizing s with
  | zero => exact ⟨s, rfl⟩
  | succ n ih =>
    cases step : s.tick with
    | none =>
      rw [effort_eq_zero_iff.mpr step] at within
      exact absurd within (Nat.not_succ_le_zero n)
    | some t =>
      rw [effort_of_tick step] at within
      rw [ticks_succ n step]
      exact ih (Nat.le_of_succ_le_succ within)

/-- **All ticks that are left reveal everything.** -/
theorem ticks_effort (s : Speech) : ticks s.effort s = some s.skip := by
  obtain ⟨t, steps⟩ := exists_ticks (Nat.le_refl s.effort)
  obtain ⟨effort, all⟩ := effort_of_ticks steps
  have none : t.tick = none := effort_eq_zero_iff.mp (by omega)
  rw [steps, eq_silent_of_tick_eq_none none, all]
  rfl

theorem ticks_eq_none_iff {n : Nat} : ticks n s = none ↔ s.effort < n := by
  constructor
  · intro none
    refine Nat.lt_of_not_le fun within => ?_
    obtain ⟨t, steps⟩ := exists_ticks within
    rw [none] at steps
    cases steps
  · intro beyond
    cases steps : ticks n s with
    | none => rfl
    | some t =>
      have effort := (effort_of_ticks steps).1
      omega

/-- **Revealing neither loses nor repeats nor reorders what is said.**  Behind any events the lines of the transcript,
the one that is being revealed and those that wait are the lines of the transcript before and all lines that were
said, in order.  A line that is being revealed is not empty; at least one of its characters is shown and at most all,
and what is shown is that much of its beginning.  In any state, a tick does nothing exactly if nothing is left to
reveal.  Ticks reveal something exactly as often as for each line that waits there are characters and one more, and
for the line that is being revealed there are characters left and one more; and so many ticks lead to where skipping
leads. -/
theorem revealing_keeps_lines :
    (∀ (transcript : List String) (events : List Event),
      ((silent transcript).afterEvents events).all = transcript ++ said events ∧
      ∀ line, ((silent transcript).afterEvents events).current = some line →
        line.whole ≠ "" ∧ 1 ≤ line.shown.length ∧ line.shown.length ≤ line.whole.length ∧
        ((silent transcript).afterEvents events).partial? =
          some (String.ofList (line.whole.toList.take line.shown.length))) ∧
    ∀ s : Speech,
      (s.tick = none ↔ s.isSpeaking = false) ∧ (s.tick = none → s.afterEvent .tick = s) ∧
      (∀ n, ticks n s = none ↔
        (s.queue.map fun line => line.length + 1).sum + (s.current.map fun line => line.hidden.length + 1).getD 0 < n) ∧
      ticks s.effort s = some s.skip := by
  refine ⟨fun transcript events => ⟨?_, fun line current => ?_⟩, fun s => ⟨?_, ?_, fun n => ticks_eq_none_iff,
    ticks_effort s⟩⟩
  · rw [all_afterEvents]
    simp [silent, all]
  · have shown := (isBegun_silent transcript).afterEvents events line current
    have positive := List.length_pos_iff.mpr shown
    have whole : line.whole.toList = line.shown ++ line.hidden := String.toList_ofList
    have length : line.whole.length = line.shown.length + line.hidden.length := by
      rw [← String.length_toList, whole, List.length_append]
    refine ⟨fun empty => ?_, positive, by omega, ?_⟩
    · rw [empty] at length
      have none : ("" : String).length = 0 := rfl
      omega
    · rw [partial?, current, whole, List.take_left]
      rfl
  · rw [tick_eq_none_iff]
    simp [isSpeaking]
  · intro none
    rw [afterEvent, none]
    rfl

/-- Two lines, of which the second is empty, are revealed by four ticks. -/
theorem revealing_keeps_lines_of_greeting :
    ((silent ["?"]).afterEvents [.say ["ab", ""], .tick]).all = ["?", "ab", ""] ∧
      ticks 4 ((silent ["?"]).say ["ab", ""]) = some (silent ["?", "ab", ""]) ∧
      ticks 5 ((silent ["?"]).say ["ab", ""]) = none := by
  obtain ⟨reached, all⟩ := revealing_keeps_lines
  obtain ⟨-, -, revealed, skipped⟩ := all ((silent ["?"]).say ["ab", ""])
  exact ⟨(reached ["?"] [.say ["ab", ""], .tick]).1, skipped, (revealed 5).mpr (by decide)⟩

end Colloquy.Speech
