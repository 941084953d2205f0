import Colloquy.Script.Inspect

/-!
# Conversations

A conversation is the state of one meeting: what it is about, what the player has typed, what is still
to be shown, and the script that is being played in it, if there is one.

What the player may type depends on the state alone, and is cut to it.  The two states that end a
conversation leave nothing behind: no input, no reply, no script.

## Main definitions

* `Conversation.State`, with `State.code`, `State.ofCode?` and `State.allowance`.
* `Allowance`: how much may be typed.
* `Conversation`, with `Conversation.enter` for a change of state.
-/

namespace Colloquy

open Text

/-- How much a player may type. -/
inductive Allowance where
  | nothing
  | character
  | text (most : Nat)
  deriving DecidableEq

namespace Allowance

/-- The most characters that may be typed. -/
def limit : Allowance → Nat
  | nothing => 0
  | character => 1
  | text most => most

/-- The part of an input that may be typed. -/
def clip (a : Allowance) (input : String) : String := String.ofList (input.toList.take a.limit)

theorem length_clip_le (a : Allowance) (input : String) : (a.clip input).length ≤ a.limit := by
  rw [clip, ← String.length_toList, String.toList_ofList]
  exact List.length_take_le a.limit input.toList

end Allowance

/-- What a conversation is about. -/
inductive Conversation.State where
  | intro | talk | ask | askYesNo | vendorQuestion | buyItem | sellItem | buyQuantity | sellQuantity
  | buyPrice | confirmation | continueQuestion | topic | player | fullHeal | advanceLevels
  | giveBeggar | attack | done
  deriving DecidableEq, Inhabited

namespace Conversation.State

/-- All states in the order of their codes. -/
def all : List State :=
  [intro, talk, ask, askYesNo, vendorQuestion, buyItem, sellItem, buyQuantity, sellQuantity, buyPrice,
   confirmation, continueQuestion, topic, player, fullHeal, advanceLevels, giveBeggar, attack, done]

/-- The name of the state. -/
def name : State → String
  | intro => "Intro"
  | talk => "Talk"
  | ask => "Ask"
  | askYesNo => "AskYesNo"
  | vendorQuestion => "VendorQuestion"
  | buyItem => "BuyItem"
  | sellItem => "SellItem"
  | buyQuantity => "BuyQuantity"
  | sellQuantity => "SellQuantity"
  | buyPrice => "BuyPrice"
  | confirmation => "Confirmation"
  | continueQuestion => "ContinueQuestion"
  | topic => "Topic"
  | player => "Player"
  | fullHeal => "FullHeal"
  | advanceLevels => "AdvanceLevels"
  | giveBeggar => "GiveBeggar"
  | attack => "Attack"
  | done => "Done"

/-- The code of the state: its place among all. -/
def code (s : State) : Nat := all.idxOf s

/-- The state with this code. -/
def ofCode? (code : Int) : Except Fault State :=
  match (if 0 ≤ code then all[code.toNat]? else none) with
  | some s => .ok s
  | none => .error (.conversationCode code)

theorem ofCode?_code (s : State) : ofCode? s.code = .ok s := by
  cases s <;> rfl

/-- The most characters of a topic or a price. -/
def topicLimit : Nat := 16

/-- The most characters of a quantity or a gift. -/
def quantityLimit : Nat := 2

/-- The most characters of a yes or a no. -/
def answerLimit : Nat := 3

/-- What a player may type in the state. -/
def allowance : State → Allowance
  | intro | attack | done | fullHeal | advanceLevels => .nothing
  | vendorQuestion | buyItem | sellItem | confirmation | continueQuestion | player => .character
  | buyQuantity | sellQuantity | giveBeggar => .text quantityLimit
  | talk | buyPrice | topic => .text topicLimit
  | ask | askYesNo => .text answerLimit

/-- Whether the state ends the conversation. -/
def isTerminal : State → Bool
  | attack | done => true
  | _ => false

end Conversation.State

/-- One meeting. -/
structure Conversation (ρ : Type) where
  state : Conversation.State
  /-- What the player has typed. -/
  input : String
  /-- The lines that are still to be shown, in order. -/
  replies : List String
  script : Option (Script ρ)
  quantity : Int64
  player : Int64
  price : Int64

namespace Conversation

variable {ρ : Type}

/-- A conversation that has not begun. -/
def new : Conversation ρ := ⟨.intro, "", [], none, 0, 0, 0⟩

/-- A conversation that has not begun, with a script. -/
def withScript (script : Script ρ) : Conversation ρ := ⟨.intro, "", [], some script, 0, 0, 0⟩

/-- What the player may type now. -/
def allowance (c : Conversation ρ) : Allowance := c.state.allowance

/-- Whether the conversation is over. -/
def isDone (c : Conversation ρ) : Bool := c.state.isTerminal

/-- Goes over to a state.  One that ends the conversation clears it. -/
def enter (c : Conversation ρ) (s : State) : Conversation ρ :=
  if s.isTerminal then { c with state := s, input := "", replies := [], script := none }
  else { c with state := s }

/-- Ends the conversation. -/
def finish (c : Conversation ρ) : Conversation ρ := c.enter .done

/-- Takes in what the player types, as far as it may be typed. -/
def typeIn (c : Conversation ρ) (input : String) : Conversation ρ :=
  { c with input := c.allowance.clip input }

/-- Adds a reply, line by line. -/
def pushReply (c : Conversation ρ) (reply : String) : Conversation ρ :=
  { c with replies := c.replies ++ splitOn '\n' reply }

/-- Takes the first line off the replies. -/
def popReply (c : Conversation ρ) : Option String × Conversation ρ :=
  match c.replies with
  | [] => (none, c)
  | line :: lines => (some line, { c with replies := lines })

/-- Takes all lines off the replies. -/
def drainReplies (c : Conversation ρ) : List String × Conversation ρ :=
  (c.replies, { c with replies := [] })

/-- Whether there is a reply to be shown. -/
def hasReply (c : Conversation ρ) : Bool := !c.replies.isEmpty

/-- Plays a script in the conversation from now on. -/
def attach (c : Conversation ρ) (script : Script ρ) : Conversation ρ :=
  { c with script := some script }

/-- The conversation by its fields; of the script only the state is shown. -/
def inspect (c : Conversation ρ) : String :=
  Printed.record "Conversation"
    [("state", c.state.name), ("player_input", quote c.input),
     ("reply", Printed.sequence (c.replies.map quote)),
     ("script", Printed.optional (c.script.map fun s => s.state.title)),
     ("quant", Decimal.write c.quantity), ("player", Decimal.write c.player),
     ("price", Decimal.write c.price)]

end Conversation

end Colloquy
