import Colloquy.Proofs.Console
import Colloquy.Proofs.Script.Calls
import Colloquy.Script.Session

/-!
# What a session with a script reports

A session on a console writes a line for each effect that the script applies, in order and in front of the
output that follows it.  It writes them when the call for output has shown something.  A call that fails has
shown nothing, so the effects that it had applied before it failed are reported nowhere: what is written tells
all that happened but for the last call, if that one fails (`Script.Session.tells_all_but_failure`).

### What is load-bearing

A session makes one call for output at each place where it walks, and a call that fails is the last thing it
does.  So what is missing from the report is the whole of what happened at one place, and it is the last.

What was written is one text, and a script may show a text that looks like the line of an effect.  So the
comparison is not by lines but by pieces: what each part of the text was written for.

## Main definitions

* `Script.Session.Piece`: what a part of the output was written for.
* `Script.Session.events`, `Script.Session.unreported`: what happens at a place of a session, and what of it
  is not written.
-/

namespace Colloquy

/-- The texts written, put together. -/
def Tape.text (t : Tape) : String := String.join t.written.toList

/-- The text that the move writes. -/
def Move.text {σ : Type} : Move σ → String
  | go text _ _ | stop text _ _ => text

/-- Where the session stands behind the move, or how it ended. -/
def Move.outcome {σ : Type} : Move σ → σ ⊕ Except Fault Unit
  | go _ _ next => .inl next
  | stop _ _ result => .inr result

/-- The effect, if it is one that happened. -/
def Event.effect? : Event → Option Effect
  | .effect e => some e
  | _ => none

namespace Script.Session

/-- What a part of the output of a session was written for. -/
inductive Piece where
  | effect (effect : Effect)
  /-- An output of the script.  A request shows in its prompts only. -/
  | output (output : Output)
  | prompt (request : Input.Request)
  /-- Why an answer was refused. -/
  | complaint (fault : Fault)
  /-- The end of the line of a prompt at which the input ended. -/
  | unanswered
  /-- The end of a session whose input ended. -/
  | abandoned

namespace Piece

/-- The text of the piece. -/
def text : Piece → String
  | effect e => e.line
  | output (.text text) => text ++ "\n"
  | output (.wait millis) => "(wait " ++ Text.Decimal.write millis ++ "ms)\n"
  | output (.input _) => ""
  | output .stopped => "RESULT:STOPPED\n"
  | output .finished => "RESULT:END\n"
  | prompt request => request.prompt
  | complaint fault => fault.message ++ "\n"
  | unanswered => "\n"
  | abandoned => "RESULT:EOF\n"

/-- What happened that the piece tells of.  Questions and answers are between the session and the console. -/
def event? : Piece → Option Event
  | effect e => some (.effect e)
  | output o => some (.output o)
  | _ => none

/-- The text of several pieces. -/
def all (pieces : List Piece) : String := String.join (pieces.map text)

/-- The effects that the pieces tell of, in order. -/
def effects (pieces : List Piece) : List Effect := (pieces.filterMap event?).filterMap Event.effect?

theorem all_append (pieces more : List Piece) : all (pieces ++ more) = all pieces ++ all more := by
  simp [all]

theorem all_map_effect (effects : List Effect) :
    all (effects.map effect) = String.join (effects.map Effect.line) := by
  simp only [all, List.map_map]
  rfl

/-- Where an effect is told of, the text is not empty. -/
theorem all_ne_of_mem {pieces : List Piece} {e : Effect} (among : e ∈ effects pieces) :
    all pieces ≠ "" := by
  obtain ⟨event, told, same⟩ := List.mem_filterMap.mp among
  obtain ⟨piece, here, tells⟩ := List.mem_filterMap.mp told
  obtain ⟨before, behind, rfl⟩ := List.append_of_mem here
  intro blank
  have blank := congrArg String.toList blank
  cases piece with
  | effect shown => simp [all, text, Effect.line] at blank
  | output shown =>
    cases tells
    cases same
  | prompt _ | complaint _ | unanswered | abandoned => cases tells

theorem filterMap_event?_map_effect (effects : List Effect) :
    (effects.map effect).filterMap event? = effects.map Event.effect := by
  rw [List.filterMap_map]
  exact congrFun List.filterMap_eq_map effects

end Piece

/-- The tape has room left and these pieces written behind what it had. -/
structure Gains (t t' : Tape) (pieces : List Piece) : Prop where
  free : t'.room = none
  text : t'.text = t.text ++ Piece.all pieces

namespace Gains

variable {t t' t'' : Tape} {pieces more : List Piece}

theorem trans (first : Gains t t' pieces) (later : Gains t' t'' more) : Gains t t'' (pieces ++ more) where
  free := later.free
  text := by rw [later.text, first.text, Piece.all_append, String.append_assoc]

end Gains

/-! ## What happens at a place -/

section

variable {ρ : Type} [PatientSource ρ]

/-- The call for output that the session makes where it stands, if it makes one. -/
def call? (fuel : Nat) : Session ρ → Option (Advance ρ (List Effect))
  | .walking script => script.next Host.recording fuel []
  | .waiting _ _ => none

/-- What happens where the session stands: the effects that a call applies, and then its result. -/
def events (fuel : Nat) (s : Session ρ) : List Event :=
  match s.call? fuel with
  | some a => a.game.map .effect ++ [.ofResult a.result]
  | none => []

/-- What happens where the session stands and is not written: all that happens in a call that fails. -/
def unreported (fuel : Nat) (s : Session ρ) : List Event :=
  match s.call? fuel with
  | some ⟨_, applied, _, .error fault⟩ => applied.map .effect ++ [.fault fault]
  | _ => []

end

/-! ## Turns -/

variable {ρ : Type} {fuel : Nat} {t t' : Tape} {pieces : List Piece}

/-- A text is written that is the text of these pieces. -/
theorem exists_gains_write (free : t.room = none) {text : String} (told : text = Piece.all pieces) :
    ∃ t', t.write text = (.ok (), t') ∧ Gains t t' pieces := by
  refine ⟨_, Tape.write_of_free free text, free, ?_⟩
  subst told
  simp [Tape.text]

/-- A move writes its text and does what it says. -/
theorem gains_follow {σ : Type} (free : t.room = none) {m : Move σ} (told : m.text = Piece.all pieces) :
    Gains t (t.follow m).2 pieces ∧ (t.follow m).1 = m.outcome := by
  have noted (notices : List String) : (t.note notices).room = none := free
  cases m with
  | go text notices next =>
    obtain ⟨t', written, gains⟩ := exists_gains_write (noted notices) told
    simp only [Move.text] at written
    simp only [Tape.follow, written]
    exact ⟨⟨gains.free, gains.text⟩, rfl⟩
  | stop text notices result =>
    obtain ⟨t', written, gains⟩ := exists_gains_write (noted notices) told
    simp only [Move.text] at written
    simp only [Tape.follow, written]
    exact ⟨⟨gains.free, gains.text⟩, rfl⟩

/-- Reading writes nothing. -/
theorem gains_readLine (free : t.room = none) : Gains t t.readLine.2 [] := by
  have keeps : t.readLine.2.room = t.room ∧ t.readLine.2.written = t.written := by
    unfold Tape.readLine
    split
    · exact ⟨rfl, rfl⟩
    · dsimp only
      split
      · exact ⟨rfl, rfl⟩
      · split <;> exact ⟨rfl, rfl⟩
  exact ⟨keeps.1.trans free, by simp [Tape.text, keeps.2, Piece.all]⟩

/-- A question writes its prompt, and the end of its line if the input ends there. -/
theorem gains_ask (free : t.room = none) (request : Input.Request) :
    Gains t (t.ask request.prompt).2
      (match (t.ask request.prompt).1 with
        | .ok none => [.prompt request, .unanswered]
        | _ => [.prompt request]) := by
  have shown : request.prompt = Piece.all [.prompt request] := by simp [Piece.all, Piece.text]
  obtain ⟨t₁, written, first⟩ := exists_gains_write free shown
  have read := gains_readLine first.free
  unfold Tape.ask
  rw [written]
  dsimp only
  rcases line : t₁.readLine with ⟨fault | _ | raw, t₂⟩ <;> rw [line] at read
  · exact first.trans read
  · have shown : "\n" = Piece.all [.unanswered] := rfl
    obtain ⟨t₃, fed, last⟩ := exists_gains_write read.free shown
    have fed : t₂.write "\n" = (.ok (), t₃) := fed
    simp only [fed]
    exact (first.trans read).trans last
  · exact first.trans read

/-- An output is told behind the effects that led to it. -/
theorem text_present (effects : List Effect) (notices : List String) (script : Script ρ) (output : Output) :
    (present (String.join (effects.map Effect.line)) notices script output).text =
      Piece.all (effects.map .effect ++ [.output output]) := by
  rw [Piece.all_append, Piece.all_map_effect]
  cases output <;> simp [present, Move.text, Piece.all, Piece.text, String.append_assoc]

/-- An answer is commented on if it is refused. -/
theorem exists_text_receive (request : Input.Request) (script : Script ρ) (line : Option String) :
    ∃ pieces, (receive request script line).text = Piece.all pieces ∧
      pieces.filterMap Piece.event? = [] := by
  cases line with
  | none => exact ⟨[.abandoned], rfl, rfl⟩
  | some raw =>
    unfold receive
    dsimp only
    split
    · exact ⟨[], rfl, rfl⟩
    · next fault _ => exact ⟨[.complaint fault], by simp [Move.text, Piece.all, Piece.text], rfl⟩

variable [PatientSource ρ]

/-- **A turn tells what happens at its place**, unless a call fails there; and with that the session ends. -/
theorem exists_gains_step (free : t.room = none) (s : Session ρ) :
    ∃ pieces, Gains t (t.step (turn fuel) s).2 pieces ∧
      pieces.filterMap Piece.event? ++ unreported fuel s = events fuel s ∧
      (unreported fuel s = [] ∨ ∃ (lost : List Effect) (fault : Fault),
        unreported fuel s = lost.map .effect ++ [.fault fault] ∧
        (t.step (turn fuel) s).1 = .inr (.error fault)) := by
  cases s with
  | waiting request script =>
    have asked := gains_ask free request
    have silent : unreported fuel (.waiting request script) = [] := rfl
    have still : events fuel (.waiting request script) = [] := rfl
    unfold Tape.step turn
    dsimp only
    rw [silent, still]
    rcases answered : t.ask request.prompt with ⟨fault | line, t₁⟩ <;> rw [answered] at asked
    · exact ⟨_, asked, rfl, .inl rfl⟩
    · obtain ⟨pieces, told, nothing⟩ := exists_text_receive request script line
      have heard := (gains_follow asked.free told).1
      refine ⟨_, asked.trans heard, ?_, .inl rfl⟩
      rw [List.filterMap_append, nothing]
      cases line <;> rfl
  | walking script =>
    unfold Tape.step turn unreported events call?
    dsimp only
    rcases script.next Host.recording fuel [] with _ | ⟨later, applied, notices, fault | output⟩
    · have told : (.go "" [] (.walking script) : Move (Session ρ)).text = Piece.all [] := rfl
      have moved := (gains_follow free told).1
      exact ⟨[], moved, rfl, .inl rfl⟩
    · have told : (.stop "" notices (.error fault) : Move (Session ρ)).text = Piece.all [] := rfl
      have moved := gains_follow free told
      exact ⟨[], moved.1, rfl, .inr ⟨applied, fault, rfl, moved.2⟩⟩
    · have moved := (gains_follow free (text_present applied notices later output)).1
      refine ⟨_, moved, ?_, .inl rfl⟩
      rw [List.append_nil, List.filterMap_append, Piece.filterMap_event?_map_effect]
      rfl

/-! ## Sessions -/

/-- Up to its last place, a session tells all that happens. -/
theorem exists_gains_run {s : Session ρ} {places : List (Session ρ)} {result : Except Fault Unit}
    (run : Tape.Run (turn fuel) s t places result t') (free : t.room = none) :
    ∃ before final pieces, places = before ++ [final] ∧ Gains t t' pieces ∧
      pieces.filterMap Piece.event? ++ unreported fuel final = places.flatMap (events fuel) ∧
      (unreported fuel final = [] ∨ ∃ (lost : List Effect) (fault : Fault),
        unreported fuel final = lost.map .effect ++ [.fault fault] ∧ result = .error fault) := by
  induction run with
  | @last s t t' result ends =>
    obtain ⟨pieces, gains, told, last⟩ := @exists_gains_step _ fuel _ _ free s
    rw [ends] at gains last
    refine ⟨[], s, pieces, rfl, gains, by simpa using told, ?_⟩
    rcases last with none | ⟨lost, fault, missing, same⟩
    · exact .inl none
    · cases same
      exact .inr ⟨lost, fault, missing, rfl⟩
  | @more s next t t₁ t' places result goes rest ih =>
    obtain ⟨pieces, gains, told, last⟩ := @exists_gains_step _ fuel _ _ free s
    rw [goes] at gains last
    -- Where the session goes on, no call has failed.
    have whole : unreported fuel s = [] := by
      rcases last with none | ⟨_, _, _, same⟩
      · exact none
      · cases same
    obtain ⟨before, final, more, rfl, later, rest, ends⟩ := ih gains.free
    refine ⟨s :: before, final, pieces ++ more, rfl, gains.trans later, ?_, ends⟩
    rw [whole, List.append_nil] at told
    rw [List.flatMap_cons, List.filterMap_append, List.append_assoc, told, rest]

/-- The effects that the script applies in these places, in order. -/
def applied (fuel : Nat) (places : List (Session ρ)) : List Effect :=
  (places.flatMap (events fuel)).filterMap Event.effect?

/-- **A session tells all that happens but for a call that fails.**  What it writes is made of pieces that
tell, in order, of every effect that the script applies and every output that it gives.  What they do not tell
of has happened at the last place, in a call with whose fault the session ends.  So every effect is told
exactly if that call, if there is one, had applied none. -/
theorem tells_all_but_failure {turns : Nat} {script : Script ρ} {result : Except Fault Unit}
    (free : t.room = none)
    (ends : Tape.converse (turn fuel) turns (.walking script) t = some (result, t')) :
    ∃ before final pieces, Tape.Run (turn fuel) (.walking script) t (before ++ [final]) result t' ∧
      t'.text = t.text ++ Piece.all pieces ∧
      pieces.filterMap Piece.event? ++ unreported fuel final = (before ++ [final]).flatMap (events fuel) ∧
      (unreported fuel final = [] ∨ ∃ (lost : List Effect) (fault : Fault),
        unreported fuel final = lost.map .effect ++ [.fault fault] ∧ result = .error fault) ∧
      (Piece.effects pieces = applied fuel (before ++ [final]) ↔
        (unreported fuel final).filterMap Event.effect? = []) := by
  obtain ⟨places, run⟩ := Tape.exists_run_of_converse ends
  obtain ⟨before, final, pieces, rfl, gains, told, last⟩ := exists_gains_run run free
  refine ⟨before, final, pieces, run, gains.text, told, last, ?_⟩
  unfold applied Piece.effects
  rw [← told, List.filterMap_append, List.self_eq_append_right]

/-- Where there is room, a session whose turn is its last ends as the turn says. -/
theorem exists_step_of_stop {s : Session ρ} {text : String} {notices : List String}
    {result : Except Fault Unit} (free : t.room = none)
    (stops : turn fuel s = .move (.stop text notices result)) :
    ∃ t', t.step (turn fuel) s = (.inr result, t') := by
  have noted : (t.note notices).room = none := free
  simp [Tape.step, stops, Tape.follow, Tape.write_of_free noted]

/-! ## A stumble -/

namespace Stumble

/-- An effect. -/
def sleep : Node := .element 2 none "sleep" [] []

/-- A text behind it. -/
def greeting : Node := .text 3 none "Hello"

/-- A jump that leads nowhere. -/
def jump : Node := .element 4 none "redirect" [("target", "b")] []

/-- A document with one block. -/
def document (content : List Node) : Node :=
  .element 0 none "script" [("id", "s")] [.element 1 none "a" [] content]

/-- A script that stands in the block, in front of what is still to come of it. -/
def standing (content rest : List Node) : Script Listed :=
  ⟨⟨.empty, .empty, [document content]⟩, ⟨[]⟩, defaultStepLimit,
    some ⟨document content, document content,
      .running [⟨.element 1 none "a" [] content, rest, none⟩]⟩⟩

theorem reachable_standing (content : List Node) : (standing content content).Reachable := by
  have fresh : (Script.new (⟨[]⟩ : Listed) defaultStepLimit).Reachable := .new _ _
  have loaded := fresh.load (show (Script.new _ _).load (document content) "s" none = .ok _ from rfl)
  exact loaded.start (show Script.start _ "a" = .ok _ from rfl)

/-- A tape with nothing to read and room for everything. -/
def tape : Tape := ⟨[], false, #[], [], none, []⟩

/-- The fault of the jump. -/
def fault : Fault := .noRedirect jump.describe "b" none

end Stumble

open Stumble in
/-- A script may stumble behind an effect, and then nothing at all is written of it. -/
theorem exists_unreported_effect : ∃ (s : Script Listed) (places : List (Session Listed)) (t' : Tape),
    s.Reachable ∧ tape.room = none ∧ Tape.Run (turn 9) (.walking s) tape places (.error fault) t' ∧
      applied 9 places = [.sleep] ∧
      ¬ ∃ pieces, t'.text = tape.text ++ Piece.all pieces ∧ Piece.effects pieces = applied 9 places := by
  refine ⟨_, _, _, reachable_standing [sleep, jump], rfl, .last rfl, rfl, ?_⟩
  rintro ⟨pieces, told, complete⟩
  have told : "" = Piece.all pieces := told
  have among : Effect.sleep ∈ Piece.effects pieces := complete ▸ List.mem_singleton_self _
  exact Piece.all_ne_of_mem among told.symm

open Stumble in
/-- What happened in front of the text is told, and what happened behind it is not. -/
theorem tells_all_but_failure_of_stumble : ∃ t' before final pieces,
    Tape.Run (turn 9) (.walking (standing [sleep, greeting, sleep, jump] [sleep, greeting, sleep, jump])) tape
      (before ++ [final]) (.error fault) t' ∧
    t'.text = tape.text ++ Piece.all pieces ∧
    pieces.filterMap Piece.event? ++ unreported 9 final =
      [.effect .sleep, .output (.text "Hello"), .effect .sleep, .fault fault] ∧
    unreported 9 final = [.effect .sleep, .fault fault] := by
  let content := [sleep, greeting, sleep, jump]
  -- One call shows the text, and the next one fails.
  have first : ∃ t₁, Tape.step (turn 9) (.walking (standing content content)) tape =
      (.inl (.walking (standing content [sleep, jump])), t₁) ∧ t₁.room = none := ⟨_, rfl, rfl⟩
  obtain ⟨t₁, first, free⟩ := first
  have second : ∃ t₂, Tape.step (turn 9) (.walking (standing content [sleep, jump])) t₁ =
      (.inr (.error fault), t₂) := exists_step_of_stop free rfl
  obtain ⟨t₂, second⟩ := second
  have known := Tape.Run.more first (.last second)
  obtain ⟨before, final, pieces, run, text, told, -⟩ :=
    tells_all_but_failure rfl (known.converse (Nat.le_refl 2))
  have same : before ++ [final] = [_] ++ [_] := (run.unique known).1
  obtain ⟨rfl, last⟩ := List.append_inj' same rfl
  obtain rfl := List.singleton_inj.mp last
  exact ⟨_, _, _, _, run, text, told, rfl⟩

end Script.Session

end Colloquy
