/-!
# Speech as it is revealed

What a talker says is revealed line by line and character by character.  Every line is in one of three
places: it stands in the transcript, it is being revealed, or it waits.

## Main definitions

* `Speech`, with `Speech.all` for all lines in order.
* `Speech.say`, `Speech.tick`, `Speech.skip`: more is said, one character more is revealed, everything
  is revealed at once.

`all_say`, `all_tick`, and `all_skip` say what these do to the lines.
-/

namespace Colloquy

/-- A line that is being revealed: what is shown of it, and what is not yet. -/
structure Speech.Line where
  shown : List Char
  hidden : List Char
  deriving DecidableEq

/-- The whole line. -/
def Speech.Line.whole (l : Speech.Line) : String := String.ofList (l.shown ++ l.hidden)

/-- What has been said. -/
structure Speech where
  transcript : List String
  /-- The line that is being revealed. -/
  current : Option Speech.Line
  /-- The lines that wait. -/
  queue : List String
  deriving DecidableEq

namespace Speech

/-- Nothing has been said. -/
def empty : Speech := ⟨[], none, []⟩

/-- All lines in the order in which they were said. -/
def all (s : Speech) : List String :=
  s.transcript ++ (s.current.map Line.whole).toList ++ s.queue

/-- Whether there is something left to reveal. -/
def isSpeaking (s : Speech) : Bool := s.current.isSome || !s.queue.isEmpty

/-- The shown part of the line that is being revealed. -/
def partial? (s : Speech) : Option String := s.current.map fun l => String.ofList l.shown

/-- More lines wait. -/
def say (s : Speech) (lines : List String) : Speech := { s with queue := s.queue ++ lines }

/-- A line of somebody else goes into the transcript. -/
def record (s : Speech) (line : String) : Speech := { s with transcript := s.transcript ++ [line] }

/-- Reveals one character, or moves a line that has no more of them to the transcript; `none` if there
is nothing left to do. -/
def tick (s : Speech) : Option Speech :=
  match s.current with
  | some ⟨shown, c :: hidden⟩ => some { s with current := some ⟨shown ++ [c], hidden⟩ }
  | some ⟨shown, []⟩ =>
    some { s with transcript := s.transcript ++ [String.ofList shown], current := none }
  | none =>
    match s.queue with
    | [] => none
    | line :: queue =>
      match line.toList with
      | [] => some { s with transcript := s.transcript ++ [line], queue }
      | c :: cs => some { s with current := some ⟨[c], cs⟩, queue }

/-- Reveals everything. -/
def skip (s : Speech) : Speech := ⟨s.all, none, []⟩

theorem all_say (s : Speech) (lines : List String) : (s.say lines).all = s.all ++ lines := by
  simp [all, say]

theorem all_skip (s : Speech) : s.skip.all = s.all := by
  simp [skip, all]

/-- Revealing moves lines from place to place and keeps their order. -/
theorem all_tick {s t : Speech} (h : s.tick = some t) : t.all = s.all := by
  unfold tick at h
  split at h
  · next hc => cases h; simp [all, hc, Line.whole]
  · next hc => cases h; simp [all, hc, Line.whole]
  · next hc =>
    split at h
    · simp at h
    · next hq =>
      split at h
      · cases h; simp [all, hc, hq]
      · next line _ _ _ _ he =>
        cases h
        have whole : String.ofList line.toList = line := String.ofList_toList
        rw [he] at whole
        simp [all, hc, hq, Line.whole, whole]

end Speech

end Colloquy
