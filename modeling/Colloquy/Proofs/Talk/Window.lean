import Colloquy.Proofs.Talk.Session
import Colloquy.Proofs.Text.Trim
import Colloquy.Talk.Window

/-!
# A window and a console

A window and a console lead the same talk.  Lines typed key by key into a window bring about what the same
lines bring about on a console: the talks behind them differ in nothing but what is remembered of the typing
(`Window.leads_as_console`).

### What is load-bearing

The window takes in as many characters as the state allows when they are typed, and the console cuts the
line to that number when it is submitted; no state changes in between.  The console also drops carriage
returns behind a line.  They are blanks, so nothing is heard of them in a window either (`said_chomp`).

## Main definitions

* `Window.feed`, `Window.course`: lines typed into a window.
* `Window.Event`, `Window.afterEvents`: anything that happens to a window.
-/

namespace Colloquy

open Text

namespace Tape

/-- Of a line with its line feed, nothing is dropped but blanks behind the line. -/
theorem chomp_feed (line : List Char) :
    ∃ blanks, (∀ b ∈ blanks, isBlank b = true) ∧
      line = (chomp (String.ofList (line ++ ['\n']))).toList ++ blanks := by
  let isEnd (c : Char) : Bool := c == '\n' || c == '\r'
  have blank : ∀ c, isEnd c = true → isBlank c = true := by
    intro c ends
    rcases Bool.or_eq_true_iff.mp ends with feed | return_
    · rw [eq_of_beq feed]
      decide
    · rw [eq_of_beq return_]
      decide
  have chomped : (chomp (String.ofList (line ++ ['\n']))).toList =
      (line.reverse.dropWhile isEnd).reverse := by
    simp [chomp, isEnd]
  refine ⟨(line.reverse.takeWhile isEnd).reverse, ?_, ?_⟩
  · intro b among
    exact blank b (List.all_eq_true.mp List.all_takeWhile b (List.mem_reverse.mp among))
  · rw [chomped, ← List.reverse_append, List.takeWhile_append_dropWhile, List.reverse_reverse]

end Tape

namespace Talk

variable {γ ρ : Type}

/-- The same is heard of a line that is cut to what may be typed. -/
theorem said_clip (t : Talk γ ρ) (line : String) :
    t.said (t.conversation.allowance.clip line) = t.said line := by
  have twice : t.conversation.allowance.clip (t.conversation.allowance.clip line) =
      t.conversation.allowance.clip line := by
    simp [Allowance.clip, List.take_take]
  rw [said, twice, said]

/-- The same is heard of a line on a console. -/
theorem said_chomp (t : Talk γ ρ) (line : String) :
    t.said (Tape.chomp (String.ofList (line.toList ++ ['\n']))) = t.said line := by
  obtain ⟨blanks, blank, split⟩ := Tape.chomp_feed line.toList
  have cut : ∀ b ∈ blanks.take (t.conversation.allowance.limit -
      (Tape.chomp (String.ofList (line.toList ++ ['\n']))).toList.length), isBlank b = true :=
    fun b among => blank b (List.mem_of_mem_take among)
  have heard := trimChars_append cut ((Tape.chomp (String.ofList (line.toList ++ ['\n']))).toList.take
    t.conversation.allowance.limit)
  rw [← List.take_append, ← split] at heard
  simp only [said, trim, Allowance.clip, String.toList_ofList, heard]

end Talk

/-! ## Typing a line -/

namespace Window

variable {γ ρ : Type}

/-- The window when nothing is done to it for a number of ticks. -/
def idle : Nat → Window γ ρ → Window γ ρ
  | 0, w => w
  | n + 1, w => idle n (w.tick.getD w)

variable [RandomSource ρ]

/-- The window after a key, if it stays open. -/
def strike (w : Window γ ρ) (code : Key.Code) : Window γ ρ := (w.press ⟨code, false, false⟩).2

/-- Types a line: what is being said is cut short, each character is typed, and the line is submitted. -/
def feed (w : Window γ ρ) (line : String) : Window γ ρ :=
  let w := if w.speech.isSpeaking then w.strike .enter else w
  (line.toList.foldl (fun w c => w.strike (.char c)) w).strike .enter

/-- The windows behind lines that are typed for as long as the talk is not over, each after a time. -/
def course (w : Window γ ρ) : List (Nat × String) → List (Window γ ρ)
  | [] => []
  | (time, line) :: rest =>
    if w.talk.isDone then [] else (idle time w).feed line :: ((idle time w).feed line).course rest

omit [RandomSource ρ] in
/-- Revealing is for the speech alone. -/
theorem idle_eq (time : Nat) (w : Window γ ρ) : ∃ speech, idle time w = { w with speech } := by
  induction time generalizing w with
  | zero => exact ⟨w.speech, rfl⟩
  | succ time ih =>
    obtain ⟨speech, later⟩ := ih (w.tick.getD w)
    refine ⟨speech, later.trans ?_⟩
    unfold tick
    cases w.speech.tick <;> rfl

omit [RandomSource ρ] in
theorem queue_of_not_isSpeaking {s : Speech} (silent : s.isSpeaking = false) : s.queue = [] := by
  simpa [Speech.isSpeaking] using (Bool.or_eq_false_iff.mp silent).2

theorem press_enter {w : Window γ ρ} (goes : w.talk.isDone = false) :
    w.press ⟨.enter, false, false⟩ =
      (false, if w.speech.isSpeaking then { w with speech := w.speech.skip } else w.submit) := by
  simp [press, Key.leaves, goes]

theorem press_char {w : Window γ ρ} (goes : w.talk.isDone = false) (c : Char) :
    w.press ⟨.char c, false, false⟩ = (false, w.add c) := by
  simp [press, Key.leaves, goes]

/-- The window in which this has been typed, as far as it may be. -/
def withTyped (w : Window γ ρ) (cs : List Char) : Window γ ρ :=
  { w with typed := w.talk.conversation.allowance.clip (String.ofList cs) }

omit [RandomSource ρ] in
theorem length_withTyped (w : Window γ ρ) (cs : List Char) :
    (w.withTyped cs).typed.length = min w.talk.conversation.allowance.limit cs.length := by
  rw [withTyped, Allowance.clip, String.length_ofList, String.toList_ofList, List.length_take]

omit [RandomSource ρ] in
theorem add_withTyped (w : Window γ ρ) (cs : List Char) (c : Char) :
    (w.withTyped cs).add c = w.withTyped (cs ++ [c]) := by
  have few := w.length_withTyped cs
  have limit : (w.withTyped cs).talk.conversation.allowance.limit = w.talk.conversation.allowance.limit :=
    rfl
  rw [add, limit, few]
  by_cases room : cs.length < w.talk.conversation.allowance.limit
  · have typed : (w.withTyped cs).typed.push c = (w.withTyped (cs ++ [c])).typed := by
      apply String.toList_inj.mp
      simp [withTyped, Allowance.clip, List.take_of_length_le, Nat.le_of_lt room, Nat.succ_le_of_lt room]
    rw [if_pos (by omega), typed]
    rfl
  · have typed : (w.withTyped cs).typed = (w.withTyped (cs ++ [c])).typed := by
      simp [withTyped, Allowance.clip, List.take_append_of_le_length (Nat.le_of_not_lt room)]
    rw [if_neg (by omega), withTyped, withTyped]
    exact congrArg (fun typed => ({ w with typed } : Window γ ρ)) typed

/-- Characters are typed one by one. -/
theorem foldl_strike {w : Window γ ρ} (goes : w.talk.isDone = false) (line cs : List Char) :
    line.foldl (fun w c => w.strike (.char c)) (w.withTyped cs) = w.withTyped (cs ++ line) := by
  induction line generalizing cs with
  | nil => rw [List.append_nil, List.foldl_nil]
  | cons c line ih =>
    have typed : (w.withTyped cs).strike (.char c) = w.withTyped (cs ++ [c]) := by
      rw [strike, press_char (w := w.withTyped cs) goes, add_withTyped]
    rw [List.foldl_cons, typed, ih, List.append_assoc]
    rfl

/-- What a line comes to that is typed into an empty window. -/
theorem feed_eq {w : Window γ ρ} (goes : w.talk.isDone = false) (blank : w.typed = "") (line : String) :
    (w.feed line).talk = (w.talk.submit (w.talk.conversation.allowance.clip line)).talk ∧
      (w.feed line).speech.queue = (w.talk.submit (w.talk.conversation.allowance.clip line)).lines ∧
      (w.feed line).typed = "" := by
  obtain ⟨speech, silent, begins⟩ : ∃ speech : Speech, speech.isSpeaking = false ∧
      (if w.speech.isSpeaking then w.strike .enter else w) = { w with speech } := by
    cases speaks : w.speech.isSpeaking with
    | true =>
      refine ⟨w.speech.skip, rfl, ?_⟩
      rw [if_pos rfl, strike, press_enter goes, if_pos speaks]
    | false => exact ⟨w.speech, speaks, if_neg Bool.false_ne_true⟩
  have empty : ({ w with speech } : Window γ ρ) = ({ w with speech } : Window γ ρ).withTyped [] := by
    simp [withTyped, Allowance.clip, blank]
  have typed := foldl_strike (w := { w with speech }) goes line.toList []
  rw [← empty, List.nil_append] at typed
  have fed : w.feed line = (({ w with speech } : Window γ ρ).withTyped line.toList).submit := by
    rw [feed, begins, typed, strike, press_enter (w := ({ w with speech } : Window γ ρ).withTyped line.toList) goes]
    exact if_neg (by simp [withTyped, silent])
  have queue := queue_of_not_isSpeaking silent
  rw [fed]
  refine ⟨?_, ?_, rfl⟩
  · simp [submit, withTyped]
  · simp [submit, withTyped, Speech.say, Speech.record, queue]

/-! ## Typing many lines -/

/-- The lines that are typed, as a console reads them. -/
def typedLines (inputs : List (Nat × String)) : List (List Char) :=
  inputs.map fun input => input.2.toList ++ ['\n']

theorem isLines_typedLines {inputs : List (Nat × String)}
    (whole : ∀ input ∈ inputs, '\n' ∉ input.2.toList) : IsLines (typedLines inputs) := by
  induction inputs with
  | nil => exact .nil
  | cons input inputs ih =>
    exact .cons (whole input (List.mem_cons_self ..))
      (ih fun input among => whole input (List.mem_cons_of_mem _ among))

/-- A line that is typed into an empty window does what it does on a console. -/
theorem feed_alike {w : Window γ ρ} {t : Talk γ ρ} (alike : w.talk.unheard = t.unheard) (sound : t.Sound)
    (goes : t.isDone = false) (blank : w.typed = "") (time : Nat) (line : String) :
    let fed := (idle time w).feed line
    let e := t.submit (Tape.chomp (String.ofList (line.toList ++ ['\n'])))
    fed.talk.unheard = e.talk.unheard ∧ fed.speech.queue = e.lines ∧ fed.typed = "" := by
  intro fed e
  obtain ⟨speech, waited⟩ := idle_eq time w
  have quiet : w.talk.conversation.replies = [] :=
    (congrArg (fun t => t.conversation.replies) alike).trans sound.quiet
  have allowance := Talk.allowance_of_unheard alike
  have same : w.talk.said (w.talk.conversation.allowance.clip line) =
      t.said (Tape.chomp (String.ofList (line.toList ++ ['\n']))) := by
    rw [Talk.said_clip, Talk.said_chomp, Talk.said, Talk.said, allowance]
  have submitted := Talk.unheard_submit alike quiet same
  have goes' : (idle time w).talk.isDone = false := by
    rw [waited]
    exact (Talk.isDone_of_unheard alike).trans goes
  have blank' : (idle time w).typed = "" := by
    rw [waited]
    exact blank
  have talk : (idle time w).talk = w.talk := by rw [waited]
  obtain ⟨talks, queue, typed⟩ := feed_eq goes' blank' line
  rw [talk] at talks queue
  refine ⟨?_, ?_, typed⟩
  · rw [talks]
    exact congrArg Talk.Exchange.talk submitted
  · have lines : (w.talk.submit (w.talk.conversation.allowance.clip line)).unheard.lines =
        e.unheard.lines := by rw [submitted]
    exact queue.trans lines

/-- Lines that are typed into a window do what they do on a console. -/
theorem course_alike {w : Window γ ρ} {t : Talk γ ρ} (alike : w.talk.unheard = t.unheard) (sound : t.Sound)
    (blank : w.typed = "") (inputs : List (Nat × String)) :
    let exchanges := t.exchanges (Talk.Session.heard (typedLines inputs))
    (w.course inputs).map (·.talk.unheard) = exchanges.map (·.talk.unheard) ∧
      (w.course inputs).map (·.speech.queue) = exchanges.map (·.lines) := by
  -- Behind a line the two talks are alike again and nothing is typed, which is what the next line needs.
  induction inputs generalizing w t with
  | nil => exact ⟨rfl, rfl⟩
  | cons input inputs ih =>
    obtain ⟨time, line⟩ := input
    have ended := Talk.isDone_of_unheard alike
    cases done : t.isDone with
    | true =>
      have none : w.course ((time, line) :: inputs) = [] := if_pos (ended.trans done)
      rw [none, Talk.exchanges_of_isDone done]
      exact ⟨rfl, rfl⟩
    | false =>
      obtain ⟨talk, queue, typed⟩ := feed_alike alike sound done blank time line
      obtain ⟨talks, queues⟩ := ih talk (sound.submit _) typed
      have first : w.course ((time, line) :: inputs) =
          (idle time w).feed line :: ((idle time w).feed line).course inputs :=
        if_neg (by simp [ended.trans done])
      have hears : Talk.Session.heard (typedLines ((time, line) :: inputs)) =
          Tape.chomp (String.ofList (line.toList ++ ['\n'])) :: Talk.Session.heard (typedLines inputs) := rfl
      rw [first, hears, Talk.exchanges_cons done]
      simp only [List.map_cons, talk, queue, talks, queues, and_self]

/-! ## Room for what is typed -/

/-- What may happen to a window. -/
inductive Event where
  | key (k : Key)
  | tick

/-- The window behind an event. -/
def afterEvent (w : Window γ ρ) : Event → Window γ ρ
  | .key k => (w.press k).2
  | .tick => w.tick.getD w

/-- The window behind events. -/
def afterEvents (w : Window γ ρ) (events : List Event) : Window γ ρ := events.foldl afterEvent w

/-- As long as the talk is not over, no more is typed than the state allows. -/
def Fits (w : Window γ ρ) : Prop :=
  w.talk.isDone = false → w.typed.length ≤ w.talk.conversation.allowance.limit

omit [RandomSource ρ] in
theorem Fits.add {w : Window γ ρ} (fits : w.Fits) (c : Char) : (w.add c).Fits := by
  unfold Window.add
  split
  · next room =>
    intro _
    rw [String.length_push]
    exact room
  · exact fits

omit [RandomSource ρ] in
theorem Fits.erase {w : Window γ ρ} (fits : w.Fits) : w.erase.Fits := by
  intro goes
  have before := fits goes
  rw [← String.length_toList] at before
  rw [Window.erase, String.length_ofList, List.length_dropLast]
  exact Nat.le_trans (Nat.sub_le ..) before

theorem Fits.press {w : Window γ ρ} (fits : w.Fits) (k : Key) : (w.press k).2.Fits := by
  unfold Window.press
  split
  · intro goes
    exact absurd w.talk.isDone_hangUp (by simp [goes])
  · split
    · exact fits
    · split
      · exact fits.erase
      · exact fits.erase
      · dsimp only
        split
        · exact fits
        · exact fun _ => Nat.zero_le _
      · dsimp only
        split
        · exact fits
        · exact fits.add _
      · exact fits
      · exact fits

theorem Fits.afterEvents {w : Window γ ρ} (fits : w.Fits) (events : List Event) :
    (w.afterEvents events).Fits := by
  induction events generalizing w with
  | nil => exact fits
  | cons event events ih =>
    refine ih ?_
    cases event with
    | key k => exact fits.press k
    | tick =>
      rw [afterEvent, tick]
      cases w.speech.tick with
      | none => exact fits
      | some speech => exact fits

/-- **A window leads the same talk as a console**, and takes in no more than the state allows.

Lines are typed, each after a time in which what is said is being revealed.  At every line the talk in the
window differs from the talk on the console in nothing but what is remembered of the typing, so it is in the
same state and has drawn the same words; and what the talker says in the window is what the console shows. -/
theorem leads_as_console (d : Dialogue) (s : Shelf γ) (r : ρ) :
    let t := Talk.new d s r
    (∀ (inputs : List (Nat × String)) (tape : Tape), (∀ input ∈ inputs, '\n' ∉ input.2.toList) →
      tape.Steady →
      let raws := Talk.Session.heard (typedLines inputs)
      let exchanges := t.begin.talk.exchanges raws
      (∃ final : Tape,
        Tape.Run Talk.Session.turn (.meeting t) (tape.after (typedLines inputs).flatten [] [])
          (.meeting t :: .talking t.begin.talk :: exchanges.map (.talking ·.talk)) (.ok ()) final ∧
        final.written = tape.written ++
          (Talk.Session.written t.begin.lines :: Talk.Session.texts t.begin.talk raws).toArray) ∧
      (new t).talk = t.begin.talk ∧
      ((new t).course inputs).map (·.talk.unheard) = exchanges.map (·.talk.unheard) ∧
      (new t).speech.queue = t.begin.lines ∧
      ((new t).course inputs).map (·.speech.queue) = exchanges.map (·.lines)) ∧
    ∀ events, ((new t).afterEvents events).Fits := by
  intro t
  refine ⟨fun inputs tape whole steady => ?_, Fits.afterEvents fun _ => Nat.zero_le _⟩
  obtain ⟨talks, queues⟩ := course_alike (w := new t) (t := t.begin.talk) rfl (.begin d s r) rfl inputs
  have run := Talk.Session.run_meeting steady (isLines_typedLines whole) t
  exact ⟨⟨_, run, rfl⟩, rfl, talks, rfl, queues⟩

/-- A talker who attacks at the first word hears it in either case. -/
theorem leads_as_console_of_attacker :
    let d : Dialogue := ⟨"Iolo", "He", "", ⟨0⟩, ⟨0⟩, ⟨0⟩, .empty, none, 200⟩
    let t : Talk Unit Listed := Talk.new d (.new ()) ⟨[0]⟩
    let tape : Tape := ⟨[], false, #[], [], none, []⟩
    let inputs := [(3, "name"), (0, "name")]
    (∀ input ∈ inputs, '\n' ∉ input.2.toList) ∧ tape.Steady ∧
      ((new t).course inputs).map (·.speech.queue) = [["He attacks!"]] := by
  intro d t tape inputs
  have whole : ∀ input ∈ inputs, '\n' ∉ input.2.toList := by decide
  have steady : tape.Steady := ⟨rfl, rfl⟩
  obtain ⟨session, -⟩ := leads_as_console d (.new ()) (⟨[0]⟩ : Listed)
  obtain ⟨-, -, -, -, queues⟩ := session inputs tape whole steady
  refine ⟨whole, steady, queues.trans ?_⟩
  decide +kernel

end Window

end Colloquy
