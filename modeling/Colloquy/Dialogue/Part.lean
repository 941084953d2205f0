import Colloquy.Fault
import Colloquy.Text.Lowercase
import Colloquy.Text.Printed

/-!
# Parts of a response

What a talker says is made of texts, and of commands between them that the game carries out.

## Main definitions

* `Command`, with `Command.name` and `Command.read`.
* `Part`: a text or a command.
-/

namespace Colloquy

open Text

/-- What a response can ask for besides being shown. -/
inductive Command where
  | none | ask | finish | attack | bragged | humble | advanceLevels | healConfirm | startMusicLb
  | startMusicHw | stopMusic | hawkwind
  deriving DecidableEq, Inhabited

namespace Command

/-- All commands in the order in which they are declared. -/
def all : List Command :=
  [none, ask, finish, attack, bragged, humble, advanceLevels, healConfirm, startMusicLb,
   startMusicHw, stopMusic, hawkwind]

/-- The name of the command in documents. -/
def name : Command → String
  | none => "NONE"
  | ask => "ASK"
  | finish => "END"
  | attack => "ATTACK"
  | bragged => "BRAGGED"
  | humble => "HUMBLE"
  | advanceLevels => "ADVANCELEVELS"
  | healConfirm => "HEALCONFIRM"
  | startMusicLb => "STARTMUSIC_LB"
  | startMusicHw => "STARTMUSIC_HW"
  | stopMusic => "STOPMUSIC"
  | hawkwind => "HAWKWIND"

/-- The name of the command in a printed state. -/
def title : Command → String
  | none => "None"
  | ask => "Ask"
  | finish => "End"
  | attack => "Attack"
  | bragged => "Bragged"
  | humble => "Humble"
  | advanceLevels => "AdvanceLevels"
  | healConfirm => "HealConfirm"
  | startMusicLb => "StartMusicLb"
  | startMusicHw => "StartMusicHw"
  | stopMusic => "StopMusic"
  | hawkwind => "Hawkwind"

/-- The command with exactly this name. -/
def ofName? (name : String) : Option Command := all.find? (·.name == name)

/-- The command of this name in any ASCII case. -/
def ofWord? (word : String) : Option Command := all.find? fun c => sameIgnoringAsciiCase c.name word

/-- The command of this name in any ASCII case and with blanks around it. -/
def read (raw : String) : Except Fault Command :=
  match ofWord? (trim raw) with
  | some c => .ok c
  | .none => .error (.unknownCommand (trim raw))

/-- The command as a line of its own shows it. -/
def tag (c : Command) : String := "<" ++ c.name ++ ">"

theorem ofName?_name (c : Command) : ofName? c.name = some c := by
  cases c <;> decide

end Command

/-- A part of a response. -/
inductive Part where
  | text (text : String)
  | command (command : Command)
  deriving DecidableEq, Inhabited

namespace Part

/-- Whether the part is a command. -/
def isCommand : Part → Bool
  | text _ => false
  | command _ => true

/-- What the part contributes to the text of a response; commands contribute nothing. -/
def shown : Part → String
  | text s => s
  | command _ => ""

/-- The command, if the part is one. -/
def command? : Part → Option Command
  | text _ => none
  | command c => some c

/-- The part as a printed state shows it. -/
def inspect : Part → String
  | text s => Printed.tagged "Text" (quote s)
  | command c => Printed.tagged "Command" c.title

end Part

/-- The text of a list of parts. -/
def Part.textOf (parts : List Part) : String := String.join (parts.map Part.shown)

/-- The commands of a list of parts. -/
def Part.commandsOf (parts : List Part) : List Command := parts.filterMap Part.command?

end Colloquy
