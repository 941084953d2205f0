import Colloquy.Talk

/-!
# Showing a response

What showing a response comes to does not depend on how its parts are delivered: every line is shown that
the parts stand for, in order, and the conversation goes where the commands among them say, in whatever
order they stand (`Talk.respond_eq`).

### What is load-bearing

In the course of a delivery a line is either shown already or waits in the conversation.  The two together,
`Delivery.told`, grow by the lines of each part (`told_utter`), and a flush moves lines from the one to the
other.  The commands leave marks that later texts do not touch, so they are read off the list of parts as a
whole (`Part.ending?`).

## Main definitions

* `Part.lines`: the lines that a part is shown as.
* `Conversation.afterParts`: where a conversation goes after a response.
-/

namespace Colloquy

open Text

/-! ## Parts -/

namespace Part

/-- The lines that the part is shown as.  Four commands are for the talk and not shown. -/
def lines : Part → List String
  | text said => splitOn '\n' said
  | command .none | command .ask | command .finish | command .attack => []
  | command c => ["[" ++ c.name ++ "]"]

/-- The state in which a response ends the conversation: an attack counts for more than an end. -/
def ending? (parts : List Part) : Option Conversation.State :=
  if .command .attack ∈ parts then some .attack
  else if .command .finish ∈ parts then some .done
  else none

theorem isTerminal_of_ending? {parts : List Part} {ending : Conversation.State}
    (h : ending? parts = some ending) : ending.isTerminal = true := by
  unfold ending? at h
  split at h
  · cases h
    rfl
  · split at h
    · cases h
      rfl
    · cases h

/-- Whether a response asks the question. -/
def asks (parts : List Part) : Bool := parts.contains (.command .ask)

theorem ending?_eq_none_iff {parts : List Part} :
    ending? parts = none ↔ .command .finish ∉ parts ∧ .command .attack ∉ parts := by
  unfold ending?
  split
  · next attack => exact iff_of_false (Option.some_ne_none _) fun none => none.2 attack
  · next peaceful =>
    rw [and_iff_left peaceful]
    split
    · next ends => exact iff_of_false (Option.some_ne_none _) fun none => none ends
    · next goes => exact iff_of_true rfl goes

theorem asks_iff {parts : List Part} : asks parts = true ↔ .command .ask ∈ parts := by
  rw [asks, List.contains_iff_mem]

end Part

namespace Conversation

variable {ρ : Type}

/-- A conversation in which these lines wait. -/
def withReplies (c : Conversation ρ) (lines : List String) : Conversation ρ := { c with replies := lines }

@[simp] theorem replies_withReplies (c : Conversation ρ) (lines : List String) :
    (c.withReplies lines).replies = lines := rfl

@[simp] theorem state_withReplies (c : Conversation ρ) (lines : List String) :
    (c.withReplies lines).state = c.state := rfl

@[simp] theorem withReplies_withReplies (c : Conversation ρ) (lines lines' : List String) :
    (c.withReplies lines).withReplies lines' = c.withReplies lines' := rfl

theorem withReplies_self {c : Conversation ρ} (quiet : c.replies = []) : c.withReplies [] = c := by
  rw [withReplies, ← quiet]

@[simp] theorem state_enter (c : Conversation ρ) (s : State) : (c.enter s).state = s := by
  unfold enter
  split <;> rfl

theorem replies_enter {c : Conversation ρ} (quiet : c.replies = []) (s : State) :
    (c.enter s).replies = [] := by
  unfold enter
  split
  · rfl
  · exact quiet

/-- A state that ends the conversation drops what waits. -/
theorem enter_withReplies (c : Conversation ρ) (lines : List String) {s : State}
    (ends : s.isTerminal = true) : (c.withReplies lines).enter s = c.enter s := by
  rw [enter, if_pos ends, enter, if_pos ends]
  rfl

/-- Where a conversation goes after a response with these parts. -/
def afterParts (c : Conversation ρ) (parts : List Part) (question : Option String) : Conversation ρ :=
  match Part.ending? parts with
  | some ending => c.enter ending
  | none => if Part.asks parts ∧ question.isSome then c.enter .askYesNo else c

/-- The state that a conversation goes to behind a response is read off the commands that there are in it. -/
theorem state_afterParts_eq (c : Conversation ρ) (parts : List Part) (question : Option String) :
    (c.afterParts parts question).state =
      if .command .attack ∈ parts then .attack
      else if .command .finish ∈ parts then .done
      else if .command .ask ∈ parts ∧ question.isSome = true then .askYesNo
      else c.state := by
  unfold afterParts Part.ending?
  by_cases attack : .command .attack ∈ parts
  · rw [if_pos attack, if_pos attack]
    exact state_enter ..
  rw [if_neg attack, if_neg attack]
  by_cases finish : .command .finish ∈ parts
  · rw [if_pos finish, if_pos finish]
    exact state_enter ..
  rw [if_neg finish, if_neg finish]
  simp only [Part.asks_iff]
  split
  · exact state_enter ..
  · rfl

end Conversation

/-! ## Deliveries -/

namespace Delivery

variable {ρ : Type}

/-- All lines in order, shown or waiting. -/
def told (d : Delivery ρ) : List String := d.lines ++ d.conversation.replies

theorem flush_eq (d : Delivery ρ) :
    d.flush = { d with conversation := d.conversation.withReplies [], lines := d.told } := rfl

/-- The conversation stays as it is but for the lines that wait. -/
theorem conversation_utter (d : Delivery ρ) (p : Part) :
    ∃ waiting, (d.utter p).conversation = d.conversation.withReplies waiting := by
  cases p with
  | text said => exact ⟨_, rfl⟩
  | command c => cases c <;> exact ⟨[], rfl⟩

theorem told_utter (d : Delivery ρ) (p : Part) : (d.utter p).told = d.told ++ p.lines := by
  cases p with
  | text said => exact (List.append_assoc ..).symm
  | command c => cases c <;> simp [utter, obey, flush_eq, told, Part.lines]

theorem asks_utter (d : Delivery ρ) (p : Part) :
    (d.utter p).asks = (d.asks || decide (p = .command .ask)) := by
  cases p with
  | text said => simp [utter]
  | command c => cases c <;> simp [utter, obey, flush_eq]

/-- The mark of an ending after one part. -/
theorem ending_utter (d : Delivery ρ) (p : Part) :
    (d.utter p).ending =
      if p = .command .attack then some .attack
      else if p = .command .finish then some (d.ending.getD .done)
      else d.ending := by
  cases p with
  | text said => simp [utter]
  | command c => cases c <;> simp [utter, obey, flush_eq]

theorem conversation_foldl_utter (parts : List Part) (d : Delivery ρ) :
    ∃ waiting, (parts.foldl utter d).conversation = d.conversation.withReplies waiting := by
  induction parts generalizing d with
  | nil => exact ⟨d.conversation.replies, rfl⟩
  | cons p parts ih =>
    obtain ⟨waiting, after⟩ := ih (d.utter p)
    obtain ⟨waiting', first⟩ := d.conversation_utter p
    exact ⟨waiting, by rw [List.foldl_cons, after, first, Conversation.withReplies_withReplies]⟩

theorem told_foldl_utter (parts : List Part) (d : Delivery ρ) :
    (parts.foldl utter d).told = d.told ++ parts.flatMap Part.lines := by
  induction parts generalizing d with
  | nil => simp
  | cons p parts ih => rw [List.foldl_cons, ih, told_utter, List.flatMap_cons, List.append_assoc]

theorem asks_foldl_utter (parts : List Part) (d : Delivery ρ) :
    (parts.foldl utter d).asks = (d.asks || Part.asks parts) := by
  induction parts generalizing d with
  | nil => simp [Part.asks]
  | cons p parts ih =>
    rw [List.foldl_cons, ih, asks_utter, Bool.or_assoc]
    simp [Part.asks, eq_comm]

theorem ending_foldl_utter (parts : List Part) (d : Delivery ρ) :
    (parts.foldl utter d).ending =
      if .command .attack ∈ parts then some .attack
      else if .command .finish ∈ parts then some (d.ending.getD .done)
      else d.ending := by
  induction parts generalizing d with
  | nil => simp
  | cons p parts ih =>
    rw [List.foldl_cons, ih, ending_utter]
    by_cases attack : p = .command .attack
    · subst attack
      simp
    · by_cases finish : p = .command .finish
      · subst finish
        simp
      · simp [attack, finish, Ne.symm attack, Ne.symm finish]

/-- What a delivery comes to: the lines that were told, then those of the question if it is asked. -/
theorem close_eq (d : Delivery ρ) (question : Option String)
    (terminal : ∀ ending, d.ending = some ending → ending.isTerminal = true) :
    (d.close question).lines =
        d.told ++ (if d.ending = none ∧ d.asks = true then
          (question.map (splitOn '\n')).getD [] else []) ∧
      (d.close question).conversation =
        match d.ending with
        | some ending => d.conversation.enter ending
        | none =>
          if d.asks = true ∧ question.isSome then (d.conversation.withReplies []).enter .askYesNo
          else d.conversation.withReplies [] := by
  unfold close
  cases ends : d.ending with
  | some ending =>
    refine ⟨?_, ?_⟩
    · simp [flush_eq]
    · exact Conversation.enter_withReplies _ _ (terminal ending ends)
  | none =>
    cases asks : d.asks <;> cases question <;>
      simp [flush_eq, told, Conversation.pushReply, Conversation.enter, Conversation.State.isTerminal,
        Conversation.withReplies]

/-- What a response that is delivered in an empty conversation comes to. -/
theorem close_foldl_utter {c : Conversation ρ} (quiet : c.replies = []) (parts : List Part)
    (question : Option String) :
    ((parts.foldl utter (start c)).close question).conversation = c.afterParts parts question ∧
      ((parts.foldl utter (start c)).close question).lines = parts.flatMap Part.lines ++
        if Part.ending? parts = none ∧ Part.asks parts = true then
          (question.map (splitOn '\n')).getD [] else [] := by
  obtain ⟨waiting, conversation⟩ := conversation_foldl_utter parts (start c)
  have told := told_foldl_utter parts (start c)
  have asks : (parts.foldl utter (start c)).asks = Part.asks parts := asks_foldl_utter parts (start c)
  have ending : (parts.foldl utter (start c)).ending = Part.ending? parts :=
    ending_foldl_utter parts (start c)
  generalize parts.foldl utter (start c) = d at conversation told asks ending ⊢
  obtain ⟨lines, conversation'⟩ := d.close_eq question fun e some => Part.isTerminal_of_ending? (ending ▸ some)
  have own : c.withReplies [] = c := Conversation.withReplies_self quiet
  rw [conversation', lines, told, asks, ending, conversation]
  refine ⟨?_, ?_⟩
  · unfold Conversation.afterParts
    cases ends : Part.ending? parts with
    | some e => exact Conversation.enter_withReplies _ _ (Part.isTerminal_of_ending? ends)
    | none =>
      show (if _ then _ else _) = _
      rw [start, Conversation.withReplies_withReplies, own]
  · simp [Delivery.told, start, quiet]

end Delivery

namespace Talk

variable {γ ρ : Type}

/-- The text of the question that the talker may ask. -/
def asked? (t : Talk γ ρ) : Option String := t.dialogue.question.map Question.text

/-- The lines that a response with these parts is shown as. -/
def linesOf (t : Talk γ ρ) (parts : List Part) : List String :=
  parts.flatMap Part.lines ++
    if Part.ending? parts = none ∧ Part.asks parts = true then (t.asked?.map (splitOn '\n')).getD [] else []

/-- What is noticed when a response with these parts is shown. -/
def noticesOf (t : Talk γ ρ) (parts : List Part) : List String :=
  if Part.ending? parts = none ∧ Part.asks parts = true ∧ t.dialogue.question = none then
    [t.dialogue.name ++ ": <ASK> without a question"]
  else []

/-- **Showing a response in an empty conversation.**  All lines are shown, and the commands decide where the
conversation goes. -/
theorem respond_eq {t : Talk γ ρ} (quiet : t.conversation.replies = []) (response : Ticket) :
    t.respond response =
      let read := t.shelf.read response
      { talk := { t with shelf := read.2, conversation := t.conversation.afterParts read.1 t.asked? }
        lines := t.linesOf read.1
        notices := t.noticesOf read.1 } := by
  obtain ⟨conversation, lines⟩ := Delivery.close_foldl_utter quiet (t.shelf.read response).1 t.asked?
  have asks := Delivery.asks_foldl_utter (t.shelf.read response).1 (Delivery.start t.conversation)
  have ending := Delivery.ending_foldl_utter (t.shelf.read response).1 (Delivery.start t.conversation)
  rw [asked?] at conversation lines
  simp only [respond, conversation, lines, asks, ending, linesOf, noticesOf, asked?]
  rfl

end Talk

end Colloquy
