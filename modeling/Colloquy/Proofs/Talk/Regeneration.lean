import Colloquy.Proofs.Dialogue.Holding
import Colloquy.Proofs.Dialogue.Regeneration
import Colloquy.Proofs.Talk.Exchange

/-!
# Responses made anew in a talk

A talk runs the maker of a response once for each time that it shows it, and at no other time.  What it shows is the
introduction, and of each line that is heard one response or none (`Talk.chosen?`).

### What is load-bearing

The watched talk is the talk on a shelf whose makers are watched, with the log beside the game.  An answer either
shows the response that is chosen or touches no response (`Talk.reply_eq`), so the log grows by the runs of one
reading or stays as it is, and nothing else of the talk depends on it (`Talk.watched_submit`).

## Main definitions

* `Shelf.watched`, `Talk.watched`: a shelf and a talk whose makers are watched.
* `Talk.chosen?`: the response that answers what is heard.
* `Talk.showings`: the responses that are shown for some lines.
-/

namespace Colloquy

open Response (Call Run outermost outermost_append)
open Text

namespace Response

variable {γ : Type}

theorem isDynamic_read (r : Response γ) (game : γ) : (r.read game).2.1.isDynamic = r.isDynamic := by
  cases r <;> rfl

end Response

/-! ## A shelf that is watched -/

/-- What is held, with its makers watched. -/
def Held.watched {γ : Type} (t : Ticket) (h : Held γ) : Held (γ × List (Run Ticket γ)) :=
  { response := h.response.watched t 0, holders := h.holders }

namespace Shelf

variable {γ : Type} {s : Shelf γ} {t : Ticket}

/-- The shelf with the makers of its responses watched, each under its ticket. -/
def watched (log : List (Run Ticket γ)) (s : Shelf γ) : Shelf (γ × List (Run Ticket γ)) :=
  { held := s.held.map fun e => (e.1, e.2.watched e.1), fresh := s.fresh, game := (s.game, log) }

/-- The runs of makers when the response under the ticket is read. -/
def runs (s : Shelf γ) (t : Ticket) : List (Run Ticket γ) :=
  match s.get? t with
  | none => []
  | some h => h.response.runs t 0 s.game

/-- Whether there is a response under the ticket that is made anew. -/
def isDynamic (s : Shelf γ) (t : Ticket) : Bool :=
  match s.get? t with
  | none => false
  | some h => h.response.isDynamic

theorem get?_watched (log : List (Run Ticket γ)) (s : Shelf γ) (t : Ticket) :
    (s.watched log).get? t = (s.get? t).map (Held.watched t) :=
  lookup_map_val Held.watched s.held t

theorem watched_update (log : List (Run Ticket γ)) (s : Shelf γ) (t : Ticket) (r : Response γ) :
    (s.watched log).update t (fun h => { h with response := r.watched t 0 }) =
      (s.update t fun h => { h with response := r }).watched log := by
  simp only [watched, update, List.map_map, mk.injEq, and_true]
  refine List.map_congr_left fun e _ => ?_
  by_cases same : e.1 = t <;> simp [same, Held.watched]

/-- Reading from the watched shelf writes down the runs of the reading. -/
theorem watched_read (log : List (Run Ticket γ)) (s : Shelf γ) (t : Ticket) :
    (s.watched log).read t = ((s.read t).1, (s.read t).2.watched (log ++ s.runs t)) := by
  have game : (s.watched log).game = (s.game, log) := rfl
  unfold read runs
  rw [get?_watched]
  cases held : s.get? t with
  | none => simp
  | some h =>
    simp only [Option.map_some, Held.watched, game, h.response.watched_read t 0 s.game log]
    rw [watched_update]
    rfl

theorem isDynamic_read (s : Shelf γ) (t u : Ticket) : (s.read t).2.isDynamic u = s.isDynamic u := by
  unfold read
  cases held : s.get? t with
  | none => rfl
  | some h =>
    have updated (r : Response γ) (game : γ) :
        ({ s.update t (fun h => { h with response := r }) with game := game } : Shelf γ).get? u =
          if u = t then (s.get? u).map fun h => { h with response := r } else s.get? u :=
      get?_update s t (fun h => { h with response := r }) u
    simp only [isDynamic, updated]
    by_cases same : u = t
    · subst same
      simp [held, Response.isDynamic_read]
    · simp [same]

/-- Reading a response runs its own maker once, if it has one. -/
theorem outermost_runs (s : Shelf γ) (t : Ticket) :
    outermost (s.runs t) = if s.isDynamic t then [⟨t, 0, false, s.game⟩] else [] := by
  unfold runs isDynamic
  cases s.get? t with
  | none => rfl
  | some h => exact h.response.outermost_runs t s.game

theorem met_of_mem_runs (s : Shelf γ) (t : Ticket) : ∀ run ∈ s.runs t, run.met = false := by
  unfold runs
  cases s.get? t with
  | none => simp
  | some h => exact h.response.met_of_mem_runs t 0 s.game

end Shelf

namespace Talk

variable {γ ρ : Type}

/-! ## What is shown -/

/-- The response that answers what is heard, if one does. -/
def chosen? (t : Talk γ ρ) (said : String) : Option Ticket :=
  if t.state = .askYesNo then t.dialogue.question.bind fun q => q.answer? said
  else
    match t.dialogue.keyword? said with
    | some (_, response) => some response
    | none =>
      if said = "" ∨ sameIgnoringAsciiCase said byeWord then none
      else if sameIgnoringAsciiCase said lookWord then some t.dialogue.longIntro
      else some t.dialogue.defaultAnswer

/-- The talk that shows an answer: a question that is answered is open no more. -/
def listening (t : Talk γ ρ) : Talk γ ρ := if t.state = .askYesNo then t.enter .talk else t

/-- What comes of a line that no response answers. -/
def decline (t : Talk γ ρ) : Exchange γ ρ :=
  if t.state = .askYesNo then
    if t.dialogue.question.isSome then t.quietly ["Yes or no?"] else (t.enter .talk).quietly []
  else (t.enter .done).quietly [t.dialogue.name ++ " says: Bye."]

/-- **What is heard is answered with one response or with none.** -/
theorem reply_eq (t : Talk γ ρ) (said : String) :
    t.reply said =
      match t.chosen? said with
      | some response => t.listening.respond response
      | none => t.decline := by
  by_cases asked : t.state = .askYesNo
  · simp only [reply, chosen?, listening, decline, if_pos asked, answerReply]
    cases question : t.dialogue.question with
    | none => simp
    | some q => cases answer : q.answer? said <;> simp [answer]
  · simp only [reply, chosen?, listening, decline, if_neg asked, answer]
    cases keyword : t.dialogue.keyword? said with
    | some found => rfl
    | none =>
      dsimp only
      split
      · rfl
      · split <;> rfl

/-- The response that is shown for a line, if one is. -/
def shown? (t : Talk γ ρ) (raw : String) : Option Ticket :=
  if t.isDone then none else (t.typeIn raw).chosen? (t.said raw)

/-- The runs of makers for what is shown. -/
def runsFor (t : Talk γ ρ) (shown : Option Ticket) : List (Run Ticket γ) :=
  match shown with
  | some response => t.shelf.runs response
  | none => []

/-! ## A talk that is watched -/

/-- The talk with the makers of its responses watched. -/
def watched (log : List (Run Ticket γ)) (t : Talk γ ρ) : Talk (γ × List (Run Ticket γ)) ρ :=
  { dialogue := t.dialogue, shelf := t.shelf.watched log, random := t.random, conversation := t.conversation }

/-- What a move brings about, with the makers of the responses watched. -/
def Exchange.watched (log : List (Run Ticket γ)) (e : Exchange γ ρ) : Exchange (γ × List (Run Ticket γ)) ρ :=
  { talk := e.talk.watched log, lines := e.lines, notices := e.notices }

theorem watched_respond (t : Talk γ ρ) (log : List (Run Ticket γ)) (response : Ticket) :
    (t.watched log).respond response = (t.respond response).watched (log ++ t.shelf.runs response) := by
  simp only [respond, watched, Exchange.watched, Shelf.watched_read]

theorem watched_decline (t : Talk γ ρ) (log : List (Run Ticket γ)) :
    (t.watched log).decline = t.decline.watched log := by
  unfold decline
  simp only [apply_ite (Exchange.watched log)]
  rfl

theorem watched_listening (t : Talk γ ρ) (log : List (Run Ticket γ)) :
    (t.watched log).listening = t.listening.watched log := by
  unfold listening
  rw [apply_ite (Talk.watched log)]
  rfl

theorem shelf_decline (t : Talk γ ρ) : t.decline.talk.shelf = t.shelf := by
  unfold decline
  split
  · split <;> rfl
  · rfl

theorem shelf_listening (t : Talk γ ρ) : t.listening.shelf = t.shelf := by
  unfold listening
  split <;> rfl

theorem watched_reply (t : Talk γ ρ) (log : List (Run Ticket γ)) (said : String) :
    (t.watched log).reply said = (t.reply said).watched (log ++ t.runsFor (t.chosen? said)) := by
  have same : (t.watched log).chosen? said = t.chosen? said := rfl
  rw [reply_eq, reply_eq, same]
  cases t.chosen? said with
  | none => simp [watched_decline, runsFor]
  | some response =>
    dsimp only
    rw [watched_listening, watched_respond, shelf_listening, runsFor]

theorem watched_lose (t : Talk γ ρ) (log : List (Run Ticket γ)) (reaction : Command) :
    (t.watched log).lose reaction = (t.lose reaction).watched log := by
  cases reaction <;> rfl

theorem watched_begin (t : Talk γ ρ) (log : List (Run Ticket γ)) :
    (t.watched log).begin = t.begin.watched (log ++ t.shelf.runs t.dialogue.intro) := by
  have met : (t.watched log).respond (t.watched log).dialogue.intro = _ := t.watched_respond log t.dialogue.intro
  have state : ((t.respond t.dialogue.intro).watched (log ++ t.shelf.runs t.dialogue.intro)).talk.state =
      (t.respond t.dialogue.intro).talk.state := rfl
  unfold begin
  rw [met]
  dsimp only
  rw [state]
  by_cases stays : (t.respond t.dialogue.intro).talk.state = .intro
  · rw [if_pos stays, if_pos stays]
    rfl
  · rw [if_neg stays, if_neg stays]
    rfl

theorem shelf_begin (t : Talk γ ρ) : t.begin.talk.shelf = (t.shelf.read t.dialogue.intro).2 := by
  unfold begin
  dsimp only
  split <;> rfl

section

variable [RandomSource ρ]

theorem watched_react (t : Talk γ ρ) (log : List (Run Ticket γ)) :
    (t.watched log).react = t.react.watched log := by
  rw [react_eq, react_eq]
  exact watched_lose { t with random := (RandomSource.next t.random).2 } log _

theorem watched_hear (t : Talk γ ρ) (log : List (Run Ticket γ)) (said : String) :
    (t.watched log).hear said = (t.hear said).watched (log ++ t.runsFor (t.chosen? said)) := by
  have replied := t.watched_reply log said
  have tries : (t.watched log).Tries said ↔ t.Tries said := by
    rw [Tries, Tries, replied]
    rfl
  unfold hear
  simp only [tries]
  split
  · rw [Exchange.followedBy, replied]
    dsimp only [Exchange.watched]
    rw [watched_react]
    rfl
  · exact replied

/-- Watching a line writes down the runs for the response that is shown. -/
theorem watched_submit (t : Talk γ ρ) (log : List (Run Ticket γ)) (raw : String) :
    (t.watched log).submit raw = (t.submit raw).watched (log ++ t.runsFor (t.shown? raw)) := by
  have ended : (t.watched log).isDone = t.isDone := rfl
  cases goes : t.isDone with
  | true =>
    rw [submit_of_isDone (ended.trans goes), submit_of_isDone goes, shown?, if_pos goes, runsFor, List.append_nil]
    rfl
  | false =>
    rw [submit_eq (ended.trans goes), submit_eq goes, shown?, if_neg (by simp [goes])]
    exact watched_hear (t.typeIn raw) log (t.said raw)

/-! ## The shelf in the course of a talk -/

theorem shelf_react (t : Talk γ ρ) : t.react.talk.shelf = t.shelf := by
  rw [react_eq]
  generalize Dialogue.reactionTo _ _ = reaction
  cases reaction <;> rfl

theorem shelf_hear (t : Talk γ ρ) (said : String) : (t.hear said).talk.shelf = (t.reply said).talk.shelf := by
  unfold hear
  split
  · exact shelf_react _
  · rfl

/-- A line changes the shelf by reading the response that is shown, and not otherwise. -/
theorem shelf_submit (t : Talk γ ρ) (raw : String) :
    (t.submit raw).talk.shelf =
      match t.shown? raw with
      | some response => (t.shelf.read response).2
      | none => t.shelf := by
  cases goes : t.isDone with
  | true =>
    rw [submit_of_isDone goes, shown?, if_pos goes]
    rfl
  | false =>
    rw [submit_eq goes, shelf_hear, reply_eq, shown?, if_neg (by simp [goes])]
    cases (t.typeIn raw).chosen? (t.said raw) with
    | none => exact shelf_decline (t.typeIn raw)
    | some response =>
      have listens : (t.typeIn raw).listening.shelf = t.shelf := shelf_listening _
      exact congrArg (fun s => (s.read response).2) listens

theorem isDynamic_submit (t : Talk γ ρ) (raw : String) :
    (t.submit raw).talk.shelf.isDynamic = t.shelf.isDynamic := by
  funext u
  rw [shelf_submit]
  cases t.shown? raw with
  | none => rfl
  | some response => exact t.shelf.isDynamic_read response u

/-- The responses that are shown for the lines, in order. -/
def showings (t : Talk γ ρ) : List String → List Ticket
  | [] => []
  | raw :: raws => (t.shown? raw).toList ++ (t.submit raw).talk.showings raws

end

end Talk

/-- The log has one run of its own for each of these responses that is made anew, in order, and no maker met an
instance. -/
structure Shelf.Logs {γ : Type} (s : Shelf γ) (shown : List Ticket) (log : List (Run Ticket γ)) : Prop where
  once : (outermost log).map Run.who = shown.filter s.isDynamic
  unmet : ∀ run ∈ log, run.met = false

namespace Shelf

variable {γ : Type} {s : Shelf γ} {shown shown' : List Ticket} {log log' : List (Run Ticket γ)}

theorem logs_nil (s : Shelf γ) : s.Logs [] [] := ⟨rfl, by simp⟩

theorem logs_runs (s : Shelf γ) (t : Ticket) : s.Logs [t] (s.runs t) := by
  refine ⟨?_, s.met_of_mem_runs t⟩
  rw [outermost_runs, List.filter_singleton]
  cases s.isDynamic t <;> rfl

theorem Logs.append (before : s.Logs shown log) (behind : s.Logs shown' log') :
    s.Logs (shown ++ shown') (log ++ log') := by
  refine ⟨?_, fun run among => ?_⟩
  · rw [outermost_append, List.map_append, before.once, behind.once, List.filter_append]
  · exact (List.mem_append.mp among).elim (before.unmet run) (behind.unmet run)

theorem Logs.congr {s' : Shelf γ} (logs : s'.Logs shown log) (same : s'.isDynamic = s.isDynamic) :
    s.Logs shown log :=
  ⟨same ▸ logs.once, logs.unmet⟩

end Shelf

namespace Talk

variable {γ ρ : Type}

theorem logs_runsFor (t : Talk γ ρ) (shown : Option Ticket) : t.shelf.Logs shown.toList (t.runsFor shown) := by
  cases shown with
  | none => exact t.shelf.logs_nil
  | some response => exact t.shelf.logs_runs response

variable [RandomSource ρ]

/-- Watching a talk while lines are said writes down what is shown. -/
theorem exists_watched_afterLines (t : Talk γ ρ) (log : List (Run Ticket γ)) (raws : List String) :
    ∃ more, (t.watched log).afterLines raws = (t.afterLines raws).watched (log ++ more) ∧
      t.shelf.Logs (t.showings raws) more := by
  induction raws generalizing t log with
  | nil => exact ⟨[], by simp, t.shelf.logs_nil⟩
  | cons raw raws ih =>
    obtain ⟨more, same, logs⟩ := ih (t.submit raw).talk (log ++ t.runsFor (t.shown? raw))
    refine ⟨t.runsFor (t.shown? raw) ++ more, ?_, (t.logs_runsFor _).append (logs.congr (t.isDynamic_submit raw))⟩
    rw [afterLines_cons, afterLines_cons, watched_submit, Exchange.watched, same, List.append_assoc]

/-- **A talk runs a maker once for each time that it shows the response.** -/
theorem exists_watched_course (d : Dialogue) (s : Shelf γ) (r : ρ) (raws : List String) :
    ∃ log, (new d (s.watched []) r).begin.talk.afterLines raws = ((new d s r).begin.talk.afterLines raws).watched log ∧
      s.Logs (d.intro :: (new d s r).begin.talk.showings raws) log := by
  have met : (new d (s.watched []) r).begin = (new d s r).begin.watched ([] ++ s.runs d.intro) :=
    (new d s r).watched_begin []
  have begun : (new d s r).begin.talk.shelf.isDynamic = s.isDynamic := by
    funext u
    rw [shelf_begin]
    exact s.isDynamic_read d.intro u
  obtain ⟨more, same, logs⟩ := (new d s r).begin.talk.exists_watched_afterLines ([] ++ s.runs d.intro) raws
  refine ⟨s.runs d.intro ++ more, ?_, (s.logs_runs d.intro).append (logs.congr begun)⟩
  rw [met]
  exact same

end Talk

/-- **A response that is made anew is made anew once for each access.**  Whatever calls came before, and whatever the
maker does with the game: an access runs the maker once, in the game that the calls before have left and while no
instance is kept; it shows the instance that is then made, and keeps it; and a part that is appended is not taken and
runs nothing.  A talk answers what is heard by showing one response or none, and it runs a maker once for each time
that it shows the response. -/
theorem made_anew_once_per_access :
    (∀ {ι γ : Type} (who : ι) (param : String) (make : Bool → γ → Response γ) (change : Bool → γ → γ)
      (kept : Option (Response γ)) (game : γ) (calls : List Call), ∃ kept' game' log,
        Response.afterCalls calls (.dynamic param make change kept) game =
          (.dynamic param make change kept', game') ∧
        Response.afterCalls calls ((Response.dynamic param make change kept).watched who 0) (game, []) =
          ((Response.dynamic param make change kept').watched who 0, game', log) ∧
        (outermost log).length = (calls.filter Call.isAccess).length ∧ (∀ run ∈ log, run.met = false) ∧
        Response.MadeAnew who param make change kept' game') ∧
    (∀ {γ ρ : Type} (t : Talk γ ρ) (said : String), t.reply said =
      match t.chosen? said with
      | some response => t.listening.respond response
      | none => t.decline) ∧
    ∀ {γ ρ : Type} [RandomSource ρ] (d : Dialogue) (s : Shelf γ) (r : ρ) (raws : List String), ∃ log,
      (Talk.new d (s.watched []) r).begin.talk.afterLines raws =
        ((Talk.new d s r).begin.talk.afterLines raws).watched log ∧
      s.Logs (d.intro :: (Talk.new d s r).begin.talk.showings raws) log := by
  refine ⟨?_, Talk.reply_eq, Talk.exists_watched_course⟩
  intro ι γ who param make change kept game calls
  obtain ⟨kept', game', after⟩ := Response.exists_afterCalls_dynamic calls param make change kept game
  refine ⟨kept', game', Response.runsOfCalls who calls (.dynamic param make change kept) game, after, ?_, ?_, ?_, ?_⟩
  · rw [Response.watched_afterCalls, after]
    rfl
  · exact Response.length_outermost_runsOfCalls who calls param make change kept game
  · exact Response.met_of_mem_runsOfCalls who calls _ game
  · exact Response.madeAnew who param make change kept' game'

end Colloquy
