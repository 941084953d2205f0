import Colloquy.Talk
import Colloquy.Talk.Speech
import Colloquy.Text.Wrap

/-!
# Talking in a window

In a window the player types a line key by key while the talker's lines are being revealed.  The
window shows the end of the transcript between a header and the line that is being typed.

## Main definitions

* `Key`, `Window`, with `Window.press` for a key and `Window.tick` for the passing of time.
* `Window.rows`: what the window shows.
-/

namespace Colloquy

open Text

/-- What a key is. -/
inductive Key.Code where
  | enter | escape | backspace | delete
  | char (c : Char)
  | other
  deriving DecidableEq

/-- A key that is pressed, alone or with others held down. -/
structure Key where
  code : Key.Code
  ctrl : Bool := false
  alt : Bool := false
  deriving DecidableEq

/-- Whether the key closes the window at any time. -/
def Key.leaves (k : Key) : Bool := k.code == .escape || (k.code == .char 'c' && k.ctrl)

/-- A window with a talk. -/
structure Window (γ ρ : Type) where
  talk : Talk γ ρ
  speech : Speech
  /-- What has been typed of the next line. -/
  typed : String
  status : String

namespace Window

variable {γ ρ : Type}

/-- The window of a talk that is about to begin. -/
def new (talk : Talk γ ρ) : Window γ ρ :=
  let e := talk.begin
  { talk := e.talk, speech := Speech.empty.say e.lines, typed := "", status := "talking" }

/-- Reveals a character if there is one to reveal. -/
def tick (w : Window γ ρ) : Option (Window γ ρ) := w.speech.tick.map fun speech => { w with speech }

/-- What the window says about the talk after a line. -/
def statusOf (t : Talk γ ρ) : String :=
  if t.isDone then "conversation over (" ++ t.outcome ++ "), enter to close"
  else "state " ++ t.state.name

/-- Says the line that was typed. -/
def submit [RandomSource ρ] (w : Window γ ρ) : Window γ ρ :=
  let e := w.talk.submit w.typed
  { talk := e.talk
    speech := (w.speech.record (w.talk.prompt ++ w.typed)).say e.lines
    typed := ""
    status := statusOf e.talk }

/-- Adds a character to the line, if it has room. -/
def add (w : Window γ ρ) (c : Char) : Window γ ρ :=
  if w.typed.length < w.talk.conversation.allowance.limit then { w with typed := w.typed.push c }
  else w

/-- Takes the last character off the line. -/
def erase (w : Window γ ρ) : Window γ ρ := { w with typed := String.ofList w.typed.toList.dropLast }

/-- Whether the window closes on a key, and the window behind the key. -/
def press [RandomSource ρ] (w : Window γ ρ) (k : Key) : Bool × Window γ ρ :=
  if k.leaves then (true, { w with talk := w.talk.hangUp })
  else if w.talk.isDone then (k.code == .enter || k.code == .char 'q', w)
  else
    match k.code with
    | .backspace | .delete => (false, w.erase)
    | .enter => (false, if w.speech.isSpeaking then { w with speech := w.speech.skip } else w.submit)
    | .char c => (false, if k.ctrl || k.alt then w else w.add c)
    | .escape | .other => (false, w)

/-! ## What the window shows -/

/-- How wide the content is at least. -/
def leastWidth : Nat := 16

/-- How wide the content of a window is. -/
def contentWidth (width : Nat) : Nat := max (width - 2) leastWidth

/-- How many rows are not for speech: header, status, divider, line, and keys. -/
def reservedRows : Nat := 5

/-- The rows of speech that the window has room for: the last ones. -/
def speechRows (w : Window γ ρ) (width height : Nat) : List String :=
  let shown := w.speech.transcript ++ w.speech.partial?.toList
  let rows := shown.flatMap (wrap (contentWidth width))
  let room := max (height - reservedRows) 1
  rows.drop (rows.length - room)

/-- The line that is being typed; it is blank as long as nothing can be typed. -/
def inputLine (w : Window γ ρ) (width : Nat) : String :=
  if w.talk.isDone || w.speech.isSpeaking then " "
  else truncate (contentWidth width) (w.talk.prompt ++ w.typed)

/-- What the window tells about its keys. -/
def keyHelp : String := "keys: type+backspace input | enter submit/skip | esc leave"

/-- The lines of the window, top down. -/
def lines (w : Window γ ρ) (width height : Nat) : List String :=
  let fit := truncate (contentWidth width)
  let header := "talking to " ++ w.talk.dialogue.name ++ " | " ++ w.talk.state.name
  [fit header, fit ("status: " ++ w.status)] ++ w.speechRows width height ++
    ["".pushn '─' (contentWidth width), w.inputLine width, fit keyHelp]

/-- A blank at which a row may be broken. -/
def isBreak (c : Char) : Bool := isBlank c && c != '\u00a0'

/-- The rows that a line takes.  A line of nothing but blanks is broken behind them, so it takes two
rows. -/
def rowsOf (line : String) : List String :=
  if !line.isEmpty && line.toList.all isBreak then ["", line] else [line]

/-- All rows of the window: its lines from the top, as far as they have room. -/
def rows (w : Window γ ρ) (width height : Nat) : List String :=
  let shown := ((w.lines width height).flatMap rowsOf).take height
  shown ++ List.replicate (height - shown.length) ""

end Window

end Colloquy
