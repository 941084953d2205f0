import Colloquy.Proofs.Console
import Colloquy.Proofs.Talk.Exchange
import Colloquy.Talk.Session

/-!
# The course of a session with a talker

A session on a console whose input is a text, and in which neither reading nor writing fails, comes to its
end: it reads lines for as long as the talk is not over, and the last text it writes tells how the talk
came out (`Talk.Session.invariant`).

### What is load-bearing

Between two lines a session stands at a talk and nothing else, so its places are the talks behind the
exchanges (`Talk.Session.run_talking`), and what holds of every talk that has begun holds of every place.

## Main definitions

* `Talk.Session.heard`: the lines of a text as a session hears them.
* `Talk.Session.texts`: what a session writes from a talk on.
-/

namespace Colloquy

open Text

namespace Talk

variable {γ ρ : Type}

theorem hangUp_of_isDone {t : Talk γ ρ} (ended : t.isDone = true) : t.hangUp = t := if_pos ended

theorem state_hangUp (t : Talk γ ρ) :
    t.hangUp.state = if t.isDone then t.state else .done := by
  unfold hangUp
  split
  · rfl
  · exact Conversation.state_enter ..

theorem isDone_hangUp (t : Talk γ ρ) : t.hangUp.isDone = true := by
  unfold hangUp
  split
  · assumption
  · exact (isDone_iff _).mpr (.inl (Conversation.state_enter ..))

/-- Walking away from a talk is no attack. -/
theorem state_hangUp_eq_attack_iff (t : Talk γ ρ) :
    t.hangUp.state = .attack ↔ t.state = .attack := by
  rw [state_hangUp]
  split
  · rfl
  · next goes =>
    refine ⟨fun done => by simp at done, fun attack => ?_⟩
    exact absurd ((isDone_iff t).mpr (.inr attack)) goes

namespace Session

/-- The lines of a text as a session hears them. -/
def heard (lines : List (List Char)) : List String :=
  lines.map fun line => Tape.chomp (String.ofList line)

theorem closing_eq (t : Talk γ ρ) :
    closing t = if t.state = .attack then "RESULT:ATTACK\n" else "RESULT:DONE\n" := by
  unfold closing outcome
  split <;> rfl

variable [RandomSource ρ]

/-- The texts that a session writes from a talk on when it hears these lines. -/
def texts (t : Talk γ ρ) : List String → List String
  | [] => if t.isDone then [closing t] else [t.prompt, "\n", closing t.hangUp]
  | raw :: raws =>
    if t.isDone then [closing t]
    else t.prompt :: written (t.submit raw).lines :: texts (t.submit raw).talk raws

theorem texts_of_isDone {t : Talk γ ρ} (ended : t.isDone = true) (raws : List String) :
    texts t raws = [closing t] := by
  cases raws with
  | nil => exact if_pos ended
  | cons raw raws => exact if_pos ended

/-- The last text tells how the talk came out. -/
theorem getLast?_texts (t : Talk γ ρ) (raws : List String) :
    (texts t raws).getLast? = some (closing (t.afterLines raws).hangUp) := by
  induction raws generalizing t with
  | nil =>
    cases ended : t.isDone with
    | true =>
      rw [texts_of_isDone ended, afterLines_nil, hangUp_of_isDone ended]
      rfl
    | false =>
      rw [texts, if_neg (by simp [ended])]
      rfl
  | cons raw raws ih =>
    cases ended : t.isDone with
    | true =>
      rw [texts_of_isDone ended, afterLines_of_isDone ended, hangUp_of_isDone ended]
      rfl
    | false =>
      rw [texts, if_neg (by simp [ended]), List.getLast?_cons, List.getLast?_cons, ih]
      rfl

theorem length_exchanges_le (t : Talk γ ρ) (raws : List String) :
    (t.exchanges raws).length ≤ raws.length := by
  induction raws generalizing t with
  | nil => exact Nat.le_refl 0
  | cons raw raws ih =>
    unfold exchanges
    split
    · exact Nat.zero_le _
    · exact Nat.succ_le_succ (ih _)

/-! ## Turns -/

variable {tape : Tape}

theorem step_meeting (steady : tape.Steady) (t : Talk γ ρ) (cs : List Char)
    (before noticed : List String) :
    Tape.step turn (.meeting t) (tape.after cs before noticed) =
      (.inl (.talking t.begin.talk),
        tape.after cs (before ++ [written t.begin.lines]) (noticed ++ t.begin.notices)) :=
  Tape.follow_go steady ..

theorem step_of_isDone (steady : tape.Steady) {t : Talk γ ρ} (ended : t.isDone = true) (cs : List Char)
    (before noticed : List String) :
    Tape.step turn (.talking t) (tape.after cs before noticed) =
      (.inr (.ok ()), tape.after cs (before ++ [closing t]) noticed) := by
  have stops : turn (.talking t) = .move (.stop (closing t) [] (.ok ())) := if_pos ended
  simp only [Tape.step, stops, Tape.follow_stop steady, List.append_nil]

theorem turn_of_goes {t : Talk γ ρ} (goes : t.isDone = false) :
    turn (.talking t) = .ask t.prompt (receive t) :=
  if_neg (by simp [goes])

/-- A line is read and answered. -/
theorem step_line (steady : tape.Steady) {t : Talk γ ρ} (goes : t.isDone = false) {line : List Char}
    {lines : List (List Char)} (split : IsLines (line :: lines)) (before noticed : List String) :
    Tape.step turn (.talking t) (tape.after (line :: lines).flatten before noticed) =
      let e := t.submit (Tape.chomp (String.ofList line))
      (.inl (.talking e.talk),
        tape.after lines.flatten (before ++ [t.prompt, written e.lines]) (noticed ++ e.notices)) := by
  simp only [Tape.step, turn_of_goes goes, Tape.ask_line steady split, receive, present,
    Tape.follow_go steady, List.append_assoc, List.cons_append, List.nil_append]

/-- The player says nothing more. -/
theorem step_end (steady : tape.Steady) {t : Talk γ ρ} (goes : t.isDone = false)
    (before noticed : List String) :
    Tape.step turn (.talking t) (tape.after [] before noticed) =
      (.inr (.ok ()), tape.after [] (before ++ [t.prompt, "\n", closing t.hangUp]) noticed) := by
  simp only [Tape.step, turn_of_goes goes, Tape.ask_end steady, receive, Tape.follow_stop steady,
    List.append_assoc, List.cons_append, List.nil_append, List.append_nil]

/-- From a talk on, a session stands at the talks behind the exchanges, and leaves the lines unread that
come when the talk is over. -/
theorem run_talking (steady : tape.Steady) {lines : List (List Char)} (split : IsLines lines)
    (t : Talk γ ρ) (before noticed : List String) :
    Tape.Run turn (.talking t) (tape.after lines.flatten before noticed)
      (.talking t :: (t.exchanges (heard lines)).map (.talking ·.talk)) (.ok ())
      (tape.after (lines.drop (t.exchanges (heard lines)).length).flatten
        (before ++ texts t (heard lines))
        (noticed ++ (t.exchanges (heard lines)).flatMap (·.notices))) := by
  -- What was written before grows with each line, so it is general in the induction.
  induction lines generalizing t before noticed with
  | nil =>
    cases ended : t.isDone with
    | true =>
      rw [exchanges_of_isDone ended, texts_of_isDone ended]
      exact .last (by simpa using step_of_isDone steady ended [] before noticed)
    | false =>
      have last : texts t (heard []) = [t.prompt, "\n", closing t.hangUp] := if_neg (by simp [ended])
      rw [last]
      exact .last (by simpa [exchanges, heard] using step_end steady ended before noticed)
  | cons line lines ih =>
    cases ended : t.isDone with
    | true =>
      rw [exchanges_of_isDone ended, texts_of_isDone ended]
      exact .last (by simpa using step_of_isDone steady ended (line :: lines).flatten before noticed)
    | false =>
      have next := ih split.tail (t.submit (Tape.chomp (String.ofList line))).talk
        (before ++ [t.prompt, written (t.submit (Tape.chomp (String.ofList line))).lines])
        (noticed ++ (t.submit (Tape.chomp (String.ofList line))).notices)
      have hears : heard (line :: lines) = Tape.chomp (String.ofList line) :: heard lines := rfl
      have writes : texts t (heard (line :: lines)) =
          t.prompt :: written (t.submit (Tape.chomp (String.ofList line))).lines ::
            texts (t.submit (Tape.chomp (String.ofList line))).talk (heard lines) :=
        if_neg (by simp [ended])
      rw [writes, hears, exchanges_cons ended]
      refine .more (step_line steady ended split before noticed) ?_
      simpa using next

/-! ## Whole sessions -/

/-- A session that meets a talker comes to its end.  It stands at the talks behind the exchanges, and leaves
the lines unread that come when the talk is over. -/
theorem run_meeting (steady : tape.Steady) {lines : List (List Char)} (split : IsLines lines)
    (t : Talk γ ρ) :
    let exchanges := t.begin.talk.exchanges (heard lines)
    Tape.Run turn (.meeting t) (tape.after lines.flatten [] [])
      (.meeting t :: .talking t.begin.talk :: exchanges.map (.talking ·.talk)) (.ok ())
      (tape.after (lines.drop exchanges.length).flatten
        (written t.begin.lines :: texts t.begin.talk (heard lines))
        (t.begin.notices ++ exchanges.flatMap (·.notices))) :=
  .more (step_meeting steady ..) (run_talking steady split t.begin.talk ..)

/-- **A talk keeps to its states, and a session with it comes to its end.**  Whatever is said after the
meeting, the talk is orderly.  A session on a console with a text reads as many lines of the text as there
are exchanges, and the last text it writes tells whether the talk ended in an attack. -/
theorem invariant (d : Dialogue) (s : Shelf γ) (r : ρ) :
    (Talk.new d s r).begin.talk.random = r ∧
    (∀ raws, ((Talk.new d s r).begin.talk.afterLines raws).Orderly) ∧
    ∀ (tape : Tape) (text : List Char), tape.Steady →
      let t := Talk.new d s r
      let lines := splitLines text
      let exchanges := t.begin.talk.exchanges (heard lines)
      ∃ final : Tape,
        (∀ fuel, lines.length + 2 ≤ fuel →
          Tape.converse turn fuel (.meeting t) (tape.after text [] []) = some (.ok (), final)) ∧
        final.input = utf8 (lines.drop exchanges.length).flatten ∧
        final.written = tape.written ++
          (written t.begin.lines :: texts t.begin.talk (heard lines)).toArray ∧
        final.written.back? = some
          (if (t.begin.talk.afterLines (heard lines)).state = .attack then "RESULT:ATTACK\n"
            else "RESULT:DONE\n") := by
  refine ⟨random_begin _, fun raws => ((Sound.begin d s r).afterLines raws).orderly, ?_⟩
  intro tape text steady t lines exchanges
  have run := run_meeting steady (isLines_splitLines text) t
  rw [flatten_splitLines] at run
  refine ⟨_, fun fuel enough => run.converse ?_, rfl, rfl, ?_⟩
  · have few := length_exchanges_le t.begin.talk (heard lines)
    rw [heard, List.length_map] at few
    simp only [List.length_cons, List.length_map]
    exact Nat.le_trans (Nat.add_le_add_right few 2) enough
  · have last : (written t.begin.lines :: texts t.begin.talk (heard lines)).getLast? =
        some (closing (t.begin.talk.afterLines (heard lines)).hangUp) := by
      rw [List.getLast?_cons, getLast?_texts]
      rfl
    have told : (if (t.begin.talk.afterLines (heard lines)).state = .attack then "RESULT:ATTACK\n"
        else "RESULT:DONE\n") = closing (t.begin.talk.afterLines (heard lines)).hangUp := by
      rw [closing_eq]
      simp only [state_hangUp_eq_attack_iff]
    rw [told]
    simp only [lines] at last ⊢
    simp [Tape.after, last]

/-- Of a talker who attacks at the first word, the second of two lines is not read. -/
theorem invariant_of_attacker :
    let d : Dialogue := ⟨"Iolo", "He", "", ⟨0⟩, ⟨0⟩, ⟨0⟩, .empty, none, 200⟩
    let t : Talk Unit Listed := Talk.new d (.new ()) ⟨[0]⟩
    let tape : Tape := ⟨[], false, #[], [], none, []⟩
    tape.Steady ∧ ∃ final : Tape,
      Tape.converse turn 4 (.meeting t) (tape.after "name\nname\n".toList [] []) = some (.ok (), final) ∧
      final.input = utf8 "name\n".toList ∧ final.written.back? = some "RESULT:ATTACK\n" := by
  intro d t tape
  have steady : tape.Steady := ⟨rfl, rfl⟩
  obtain ⟨-, -, session⟩ := invariant d (.new ()) (⟨[0]⟩ : Listed)
  obtain ⟨final, ends, unread, -, last⟩ := session tape "name\nname\n".toList steady
  have heard : heard (splitLines "name\nname\n".toList) = ["name", "name"] := by decide +kernel
  have one : (t.begin.talk.exchanges ["name", "name"]).length = 1 := by decide +kernel
  have attacked : (t.begin.talk.afterLines ["name", "name"]).state = .attack := by decide +kernel
  refine ⟨steady, final, ends 4 (by decide), ?_, ?_⟩
  · rw [heard] at unread
    rw [unread, one]
    rfl
  · rw [heard, if_pos attacked] at last
    exact last

end Session

end Talk

end Colloquy
