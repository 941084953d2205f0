import Colloquy.Proofs.Talk.Response

/-!
# The course of a talk

Whatever is said in a talk that has begun, the talk is open, has a question open, or is over; no reply waits;
and a talk that is over stays so.  One word is drawn behind each answer that leaves the talk open, and none
at any other time (`Talk.Sound`, `Talk.random_submit`).

### What is load-bearing

A line is clipped and trimmed before it is heard, and only what is heard decides what comes of it:
`Talk.submit_eq` parts the two.  Of an answer, `Talk.respond_eq` tells everything but the response that is
chosen; so every move is a choice of a response and at most one word drawn.

## Main definitions

* `Talk.hear`, `Talk.reply`: a move of the player apart from the typing, and its answer apart from the
  reaction.
* `Talk.Sound`: what holds of every talk that has begun.
* `Talk.afterLines`: a talk after lines were said.
* `Talk.unheard`: a talk apart from what was typed last.
-/

namespace Colloquy

open Text

namespace Conversation

variable {ρ : Type}

theorem state_afterParts (c : Conversation ρ) (parts : List Part) (question : Option String) :
    (c.afterParts parts question).state = .attack ∨ (c.afterParts parts question).state = .done ∨
      ((c.afterParts parts question).state = .askYesNo ∧ question.isSome = true) ∨
      (c.afterParts parts question).state = c.state := by
  rw [state_afterParts_eq]
  split
  · exact .inl rfl
  · split
    · exact .inr (.inl rfl)
    · split
      · next asks => exact .inr (.inr (.inl ⟨rfl, asks.2⟩))
      · exact .inr (.inr (.inr rfl))

theorem replies_afterParts {c : Conversation ρ} (quiet : c.replies = []) (parts : List Part)
    (question : Option String) : (c.afterParts parts question).replies = [] := by
  unfold afterParts
  cases Part.ending? parts with
  | some ending => exact replies_enter quiet ending
  | none =>
    dsimp only
    split
    · exact replies_enter quiet _
    · exact quiet

/-- The conversation apart from what was typed last. -/
def unheard (c : Conversation ρ) : Conversation ρ := { c with input := "" }

theorem unheard_enter (c : Conversation ρ) (s : State) : (c.unheard.enter s).unheard = (c.enter s).unheard := by
  unfold enter
  split <;> rfl

theorem unheard_afterParts (c : Conversation ρ) (parts : List Part) (question : Option String) :
    (c.unheard.afterParts parts question).unheard = (c.afterParts parts question).unheard := by
  unfold afterParts
  cases Part.ending? parts with
  | some ending => exact unheard_enter c ending
  | none =>
    dsimp only
    split
    · exact unheard_enter c _
    · rfl

end Conversation

namespace Talk

variable {γ ρ : Type}

/-! ## Moves -/

/-- The talk with what the player typed. -/
def typeIn (t : Talk γ ρ) (raw : String) : Talk γ ρ :=
  { t with conversation := t.conversation.typeIn raw }

/-- What is heard of a line. -/
def said (t : Talk γ ρ) (raw : String) : String := trim (t.conversation.allowance.clip raw)

/-- The answer to what is heard, before the talker may lose patience. -/
def reply (t : Talk γ ρ) (said : String) : Exchange γ ρ :=
  if t.state = .askYesNo then t.answerReply said else t.answer said

/-- Whether the talker may lose patience over what is heard: it was no answer to the question, and its own
answer leaves the talk open. -/
def Tries (t : Talk γ ρ) (said : String) : Prop :=
  t.state ≠ .askYesNo ∧ (t.reply said).talk.state = .talk

instance (t : Talk γ ρ) (said : String) : Decidable (t.Tries said) := inferInstanceAs (Decidable (_ ∧ _))

/-- What comes of what is heard. -/
def hear [RandomSource ρ] (t : Talk γ ρ) (said : String) : Exchange γ ρ :=
  if t.Tries said then (t.reply said).followedBy react else t.reply said

/-- What comes of a word that is drawn. -/
def lose (t : Talk γ ρ) : Command → Exchange γ ρ
  | .finish => (t.enter .done).quietly [t.who ++ " turns away!"]
  | .attack => (t.enter .attack).quietly [t.who ++ " attacks!"]
  | _ => t.quietly []

theorem submit_of_isDone [RandomSource ρ] {t : Talk γ ρ} (ended : t.isDone = true) (raw : String) :
    t.submit raw = t.quietly [] :=
  if_pos ended

/-- A line is typed, and then heard. -/
theorem submit_eq [RandomSource ρ] {t : Talk γ ρ} (goes : t.isDone = false) (raw : String) :
    t.submit raw = (t.typeIn raw).hear (t.said raw) := by
  have typed : (t.typeIn raw).state = t.state := rfl
  unfold submit
  rw [if_neg (by simp [goes])]
  by_cases asked : t.state = .askYesNo
  · have answered : ¬ (t.typeIn raw).Tries (t.said raw) := fun tries => tries.1 asked
    rw [hear, if_neg answered, reply, typed, if_pos asked]
    exact if_pos asked
  · have reply : (t.typeIn raw).reply (t.said raw) = (t.typeIn raw).answer (t.said raw) :=
      if_neg asked
    have tries : (t.typeIn raw).Tries (t.said raw) ↔
        ((t.typeIn raw).answer (t.said raw)).talk.state = .talk := by
      rw [Tries, reply]
      exact and_iff_right asked
    rw [hear, reply]
    simp only [tries]
    exact if_neg asked

/-- A reaction is drawn with one word. -/
theorem react_eq [RandomSource ρ] (t : Talk γ ρ) :
    t.react = ({ t with random := (RandomSource.next t.random).2 } : Talk γ ρ).lose
      (Dialogue.reactionTo t.dialogue.turnAway.toNat
        ((RandomSource.next t.random).1 % Dialogue.reactionRange).toNat) := by
  simp only [react, Dialogue.reaction]
  generalize Dialogue.reactionTo _ _ = reaction
  cases reaction <;> rfl

/-! ## What a move leaves as it is -/

theorem random_reply (t : Talk γ ρ) (said : String) : (t.reply said).talk.random = t.random := by
  unfold reply answerReply answer
  repeat' split
  all_goals rfl

theorem dialogue_reply (t : Talk γ ρ) (said : String) :
    (t.reply said).talk.dialogue = t.dialogue := by
  unfold reply answerReply answer
  repeat' split
  all_goals rfl

theorem random_lose (t : Talk γ ρ) (reaction : Command) :
    (t.lose reaction).talk.random = t.random := by
  cases reaction <;> rfl

theorem random_hear [RandomSource ρ] (t : Talk γ ρ) (said : String) :
    (t.hear said).talk.random =
      if t.Tries said then (RandomSource.next t.random).2 else t.random := by
  unfold hear
  split
  · rw [Exchange.followedBy, react_eq, random_lose, random_reply]
  · exact random_reply t said

theorem random_begin (t : Talk γ ρ) : t.begin.talk.random = t.random := by
  unfold begin
  dsimp only
  split <;> rfl

/-! ## What holds of a talk that has begun -/

/-- What holds of a talk that has begun: it is open, has its question open, or is over; there is a question
to be open; and nothing waits to be shown. -/
structure Sound (t : Talk γ ρ) : Prop where
  state : t.state = .talk ∨ t.state = .askYesNo ∨ t.state = .done ∨ t.state = .attack
  asks : t.state = .askYesNo → t.dialogue.question.isSome = true
  quiet : t.conversation.replies = []

theorem isDone_iff (t : Talk γ ρ) : t.isDone = true ↔ t.state = .done ∨ t.state = .attack := by
  unfold isDone Conversation.isDone state
  cases t.conversation.state <;> simp [Conversation.State.isTerminal]

theorem Sound.of_enter {t : Talk γ ρ} (quiet : t.conversation.replies = []) {s : Conversation.State}
    (among : s = .talk ∨ s = .done ∨ s = .attack) : (t.enter s).Sound := by
  have entered : (t.enter s).state = s := Conversation.state_enter ..
  refine ⟨?_, ?_, Conversation.replies_enter quiet s⟩
  · rw [entered]
    exact among.imp_right .inr
  · rw [entered]
    rintro rfl
    simp at among

/-- Nothing waits behind a response, and it leaves the state as it is unless it leaves a sound talk. -/
theorem respond_sound_or {t : Talk γ ρ} (quiet : t.conversation.replies = []) (response : Ticket) :
    (t.respond response).talk.Sound ∨
      (t.respond response).talk.state = t.state ∧ (t.respond response).talk.conversation.replies = [] := by
  rw [respond_eq quiet]
  have quiet' := Conversation.replies_afterParts quiet (t.shelf.read response).1 t.asked?
  have asked : t.asked?.isSome = t.dialogue.question.isSome := Option.isSome_map
  rcases t.conversation.state_afterParts (t.shelf.read response).1 t.asked? with
    attack | done | ⟨asks, some⟩ | same
  · exact .inl ⟨.inr (.inr (.inr attack)), fun asks => absurd (attack.symm.trans asks) (by simp), quiet'⟩
  · exact .inl ⟨.inr (.inr (.inl done)), fun asks => absurd (done.symm.trans asks) (by simp), quiet'⟩
  · exact .inl ⟨.inr (.inl asks), fun _ => asked ▸ some, quiet'⟩
  · exact .inr ⟨same, quiet'⟩

theorem Sound.of_talk {t : Talk γ ρ} (talks : t.state = .talk) (quiet : t.conversation.replies = []) :
    t.Sound :=
  ⟨.inl talks, fun asks => absurd (talks.symm.trans asks) (by simp), quiet⟩

theorem Sound.of_respond {t : Talk γ ρ} (talks : t.state = .talk) (quiet : t.conversation.replies = [])
    (response : Ticket) : (t.respond response).talk.Sound := by
  rcases respond_sound_or quiet response with sound | ⟨same, quiet'⟩
  · exact sound
  · exact .of_talk (same.trans talks) quiet'

theorem Sound.begin (d : Dialogue) (s : Shelf γ) (r : ρ) : (new d s r).begin.talk.Sound := by
  have met : (new d s r).begin.talk =
      if ((new d s r).respond d.intro).talk.state = .intro then
        ((new d s r).respond d.intro).talk.enter .talk
      else ((new d s r).respond d.intro).talk := by
    exact apply_ite Exchange.talk _ _ _
  rw [met]
  -- The introduction may have a command of its own, and then the talk does not stay at it.
  rcases respond_sound_or (t := new d s r) rfl d.intro with sound | ⟨same, quiet⟩
  · have begun : ((new d s r).respond d.intro).talk.state ≠ .intro := by
      intro intro
      rcases sound.state with state | state | state | state <;> simp [intro] at state
    rw [if_neg begun]
    exact sound
  · have begins : ((new d s r).respond d.intro).talk.state = .intro := same
    rw [if_pos begins]
    exact .of_enter quiet (.inl rfl)

theorem Sound.answer {t : Talk γ ρ} (talks : t.state = .talk) (quiet : t.conversation.replies = [])
    (said : String) : (t.answer said).talk.Sound := by
  unfold Talk.answer
  split
  · exact .of_respond talks quiet _
  · split
    · exact .of_enter quiet (.inr (.inl rfl))
    · split
      · exact .of_respond talks quiet _
      · exact .of_respond talks quiet _

theorem Sound.answerReply {t : Talk γ ρ} (sound : t.Sound) (said : String) :
    (t.answerReply said).talk.Sound := by
  have talks : (t.enter .talk).state = .talk := Conversation.state_enter ..
  have quiet : (t.enter .talk).conversation.replies = [] := Conversation.replies_enter sound.quiet _
  unfold Talk.answerReply
  split
  · exact .of_talk talks quiet
  · split
    · exact .of_respond talks quiet _
    · exact sound

theorem Sound.reply {t : Talk γ ρ} (sound : t.Sound) (goes : t.isDone = false) (said : String) :
    (t.reply said).talk.Sound := by
  have open_ : ¬ (t.state = .done ∨ t.state = .attack) := by simp [← isDone_iff, goes]
  unfold Talk.reply
  split
  · exact sound.answerReply said
  · next unasked =>
    refine .answer ?_ sound.quiet said
    rcases sound.state with talks | asks | ended
    · exact talks
    · exact absurd asks unasked
    · exact absurd ended open_

theorem Sound.lose {t : Talk γ ρ} (sound : t.Sound) (reaction : Command) :
    (t.lose reaction).talk.Sound := by
  cases reaction with
  | finish => exact .of_enter sound.quiet (.inr (.inl rfl))
  | attack => exact .of_enter sound.quiet (.inr (.inr rfl))
  | _ => exact sound

theorem Sound.react [RandomSource ρ] {t : Talk γ ρ} (sound : t.Sound) : t.react.talk.Sound := by
  have drawn : ({ t with random := (RandomSource.next t.random).2 } : Talk γ ρ).Sound :=
    ⟨sound.state, sound.asks, sound.quiet⟩
  rw [react_eq]
  exact drawn.lose _

theorem Sound.submit [RandomSource ρ] {t : Talk γ ρ} (sound : t.Sound) (raw : String) :
    (t.submit raw).talk.Sound := by
  cases ended : t.isDone with
  | true =>
    rw [submit_of_isDone ended]
    exact sound
  | false =>
    have typed : (t.typeIn raw).Sound := ⟨sound.state, sound.asks, sound.quiet⟩
    have replied := typed.reply ended (t.said raw)
    rw [submit_eq ended, hear]
    split
    · exact replied.react
    · exact replied

/-! ## What is remembered of a line -/

/-- The talk apart from what was typed last. -/
def unheard (t : Talk γ ρ) : Talk γ ρ := { t with conversation := t.conversation.unheard }

/-- What a move brings about, apart from what was typed last. -/
def Exchange.unheard (e : Exchange γ ρ) : Exchange γ ρ := { e with talk := e.talk.unheard }

theorem isDone_of_unheard {t t' : Talk γ ρ} (alike : t.unheard = t'.unheard) : t.isDone = t'.isDone :=
  congrArg (fun t => t.isDone) alike

theorem allowance_of_unheard {t t' : Talk γ ρ} (alike : t.unheard = t'.unheard) :
    t.conversation.allowance = t'.conversation.allowance :=
  congrArg (fun t => t.conversation.allowance) alike

theorem unheard_enter (t : Talk γ ρ) (s : Conversation.State) :
    (t.unheard.enter s).unheard = (t.enter s).unheard := by
  have same := t.conversation.unheard_enter s
  simp only [unheard, enter, same]

theorem unheard_respond {t : Talk γ ρ} (quiet : t.conversation.replies = []) (response : Ticket) :
    (t.unheard.respond response).unheard = (t.respond response).unheard := by
  have same := t.conversation.unheard_afterParts (t.shelf.read response).1 t.asked?
  rw [respond_eq quiet, respond_eq (t := t.unheard) quiet]
  exact congrArg (fun c => (⟨{ t with shelf := (t.shelf.read response).2, conversation := c },
    t.linesOf (t.shelf.read response).1, t.noticesOf (t.shelf.read response).1⟩ : Exchange γ ρ)) same

theorem unheard_answer {t : Talk γ ρ} (quiet : t.conversation.replies = []) (said : String) :
    (t.unheard.answer said).unheard = (t.answer said).unheard := by
  have dialogue : t.unheard.dialogue = t.dialogue := rfl
  unfold answer
  rw [dialogue]
  split
  · exact unheard_respond quiet _
  · split
    · exact congrArg (fun t' => t'.quietly [t.dialogue.name ++ " says: Bye."]) (unheard_enter t .done)
    · split
      · exact unheard_respond quiet _
      · exact unheard_respond quiet _

theorem unheard_answerReply {t : Talk γ ρ} (quiet : t.conversation.replies = []) (said : String) :
    (t.unheard.answerReply said).unheard = (t.answerReply said).unheard := by
  have dialogue : t.unheard.dialogue = t.dialogue := rfl
  have talks : (t.enter .talk).conversation.replies = [] := Conversation.replies_enter quiet _
  unfold answerReply
  rw [dialogue]
  split
  · rfl
  · split
    · exact unheard_respond talks _
    · rfl

theorem unheard_reply {t : Talk γ ρ} (quiet : t.conversation.replies = []) (said : String) :
    (t.unheard.reply said).unheard = (t.reply said).unheard := by
  have state : t.unheard.state = t.state := rfl
  unfold reply
  rw [state]
  split
  · exact unheard_answerReply quiet said
  · exact unheard_answer quiet said

theorem unheard_lose (t : Talk γ ρ) (reaction : Command) :
    (t.unheard.lose reaction).unheard = (t.lose reaction).unheard := by
  cases reaction with
  | finish => exact congrArg (fun t' => t'.quietly [t.who ++ " turns away!"]) (unheard_enter t .done)
  | attack => exact congrArg (fun t' => t'.quietly [t.who ++ " attacks!"]) (unheard_enter t .attack)
  | _ => rfl

theorem unheard_react [RandomSource ρ] (t : Talk γ ρ) : t.unheard.react.unheard = t.react.unheard := by
  rw [react_eq, react_eq]
  exact unheard_lose { t with random := (RandomSource.next t.random).2 } _

theorem unheard_followedBy [RandomSource ρ] {e e' : Exchange γ ρ} (alike : e.unheard = e'.unheard) :
    (e.followedBy react).unheard = (e'.followedBy react).unheard := by
  have talks : e.talk.unheard = e'.talk.unheard := congrArg Exchange.talk alike
  have lines : e.unheard.lines = e'.unheard.lines := by rw [alike]
  have notices : e.unheard.notices = e'.unheard.notices := by rw [alike]
  have reacts : e.talk.react.unheard = e'.talk.react.unheard := by
    rw [← unheard_react, talks, unheard_react]
  simp only [Exchange.unheard, Exchange.mk.injEq] at lines notices reacts
  simp only [Exchange.unheard, Exchange.followedBy, lines, notices, reacts]

theorem unheard_hear [RandomSource ρ] {t : Talk γ ρ} (quiet : t.conversation.replies = [])
    (said : String) : (t.unheard.hear said).unheard = (t.hear said).unheard := by
  have reply := unheard_reply quiet said
  have state : (t.unheard.reply said).talk.state = (t.reply said).talk.state :=
    congrArg (fun e => e.talk.state) reply
  have tries : t.unheard.Tries said ↔ t.Tries said := by
    rw [Tries, Tries, state]
    rfl
  unfold hear
  simp only [tries]
  split
  · exact unheard_followedBy reply
  · exact reply

/-- **Only what is heard decides.**  Two lines of which the same is heard bring about the same in talks that
differ in nothing but what was typed last. -/
theorem unheard_submit [RandomSource ρ] {t t' : Talk γ ρ} (alike : t.unheard = t'.unheard)
    (quiet : t.conversation.replies = []) {raw raw' : String} (same : t.said raw = t'.said raw') :
    (t.submit raw).unheard = (t'.submit raw').unheard := by
  have ended' : t'.isDone = t.isDone := (isDone_of_unheard alike).symm
  have quiet' : t'.conversation.replies = [] := (congrArg (fun t => t.conversation.replies) alike).symm.trans quiet
  cases ended : t.isDone with
  | true =>
    rw [submit_of_isDone ended, submit_of_isDone (ended'.trans ended)]
    exact congrArg (fun t => t.quietly []) alike
  | false =>
    have typed : (t.typeIn raw).unheard = (t'.typeIn raw').unheard := alike
    rw [submit_eq ended, submit_eq (ended'.trans ended), ← unheard_hear (t := t.typeIn raw) quiet, typed, same,
      unheard_hear (t := t'.typeIn raw') quiet']

/-! ## Many lines -/

variable [RandomSource ρ]

/-- The talk after lines were said. -/
def afterLines (t : Talk γ ρ) (raws : List String) : Talk γ ρ :=
  raws.foldl (fun t raw => (t.submit raw).talk) t

/-- What comes of lines that are said for as long as the talk is not over. -/
def exchanges (t : Talk γ ρ) : List String → List (Exchange γ ρ)
  | [] => []
  | raw :: raws => if t.isDone then [] else t.submit raw :: (t.submit raw).talk.exchanges raws

/-- Whether a line makes the talker draw. -/
def Draws (t : Talk γ ρ) (raw : String) : Prop :=
  t.isDone = false ∧ (t.typeIn raw).Tries (t.said raw)

instance (t : Talk γ ρ) (raw : String) : Decidable (t.Draws raw) := inferInstanceAs (Decidable (_ ∧ _))

/-- How many of the lines make the talker draw. -/
def draws (t : Talk γ ρ) : List String → Nat
  | [] => 0
  | raw :: raws => (t.submit raw).talk.draws raws + if t.Draws raw then 1 else 0

@[simp] theorem afterLines_nil (t : Talk γ ρ) : t.afterLines [] = t := rfl

@[simp] theorem afterLines_cons (t : Talk γ ρ) (raw : String) (raws : List String) :
    t.afterLines (raw :: raws) = (t.submit raw).talk.afterLines raws := rfl

theorem afterLines_of_isDone {t : Talk γ ρ} (ended : t.isDone = true) (raws : List String) :
    t.afterLines raws = t := by
  induction raws with
  | nil => rfl
  | cons raw raws ih => rw [afterLines_cons, submit_of_isDone ended, quietly, ih]

theorem exchanges_of_isDone {t : Talk γ ρ} (ended : t.isDone = true) (raws : List String) :
    t.exchanges raws = [] := by
  cases raws with
  | nil => rfl
  | cons raw raws => exact if_pos ended

theorem exchanges_cons {t : Talk γ ρ} (goes : t.isDone = false) (raw : String) (raws : List String) :
    t.exchanges (raw :: raws) = t.submit raw :: (t.submit raw).talk.exchanges raws :=
  if_neg (by simp [goes])

theorem Sound.afterLines {t : Talk γ ρ} (sound : t.Sound) (raws : List String) :
    (t.afterLines raws).Sound := by
  induction raws generalizing t with
  | nil => exact sound
  | cons raw raws ih => exact ih (sound.submit raw)

/-- **One word is drawn** for a line that is heard in an open talk and answered so that the talk stays open,
and none for any other line. -/
theorem random_submit (t : Talk γ ρ) (raw : String) :
    (t.submit raw).talk.random = if t.Draws raw then (RandomSource.next t.random).2 else t.random := by
  cases ended : t.isDone with
  | true =>
    rw [submit_of_isDone ended, if_neg (by simp [Draws, ended])]
    rfl
  | false =>
    rw [submit_eq ended, random_hear]
    simp only [Draws, ended, true_and]
    rfl

theorem random_afterLines (t : Talk γ ρ) (raws : List String) :
    (t.afterLines raws).random = stateAfter RandomSource.next (t.draws raws) t.random := by
  induction raws generalizing t with
  | nil => rfl
  | cons raw raws ih =>
    rw [afterLines_cons, ih, random_submit, draws]
    split
    · rfl
    · rfl

/-- What holds of a talk, whatever line comes next: it is sound; nothing comes of the line once the talk is
over; and it takes one word to see whether the talker loses patience, drawn behind an answer that leaves the
talk open and at no other time. -/
structure Orderly (t : Talk γ ρ) : Prop where
  sound : t.Sound
  ended : t.isDone = true → ∀ raw, t.submit raw = t.quietly []
  answered : t.isDone = false → ∀ raw, ¬ t.Draws raw → t.submit raw = (t.typeIn raw).reply (t.said raw)
  tried : ∀ raw, t.Draws raw →
    t.submit raw = ((t.typeIn raw).reply (t.said raw)).followedBy fun t' =>
      ({ t' with random := (RandomSource.next t.random).2 } : Talk γ ρ).lose
        (Dialogue.reactionTo t.dialogue.turnAway.toNat
          ((RandomSource.next t.random).1 % Dialogue.reactionRange).toNat)
  drawn : ∀ raw, (t.submit raw).talk.random =
    if t.Draws raw then (RandomSource.next t.random).2 else t.random

theorem Sound.orderly {t : Talk γ ρ} (sound : t.Sound) : t.Orderly where
  sound := sound
  ended := submit_of_isDone
  answered goes raw undrawn := by
    rw [submit_eq goes, hear, if_neg fun tries => undrawn ⟨goes, tries⟩]
  tried raw draws := by
    rw [submit_eq draws.1, hear, if_pos draws.2, Exchange.followedBy, Exchange.followedBy, react_eq,
      random_reply, dialogue_reply]
    rfl
  drawn := random_submit t

end Talk

end Colloquy
