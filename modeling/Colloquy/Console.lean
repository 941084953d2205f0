import Colloquy.Fault

/-!
# Sessions on a console

A session writes texts and asks for lines until it is over.  What it does next is a function of where it
stands, its `Turn`; how texts reach a terminal and where lines come from is not its concern.

Here lines come from a tape of bytes that may be cut short, and texts go to a tape that may run out of
room, so everything a session does can be computed and looked at.

## Main definitions

* `Move`, `Turn`: what a session does next; `Turn.map` makes one session part of another.
* `Tape`: input and output, with `Tape.write` and `Tape.readLine`.
* `Tape.converse`: a whole session.
-/

namespace Colloquy

/-- Writes a text and goes on, or writes a last text and is over.  What was noticed on the way is not
written but kept apart. -/
inductive Move (σ : Type) where
  | go (text : String) (notices : List String) (next : σ)
  | stop (text : String) (notices : List String) (result : Except Fault Unit)

/-- What a session does next: a move, or a question, after which the line read decides on the move.
There is no line once the input has ended. -/
inductive Turn (σ : Type) where
  | move (m : Move σ)
  | ask (prompt : String) (resume : Option String → Move σ)

/-- A move of a session that is part of a larger one. -/
def Move.map {σ τ : Type} (f : σ → τ) : Move σ → Move τ
  | go text notices next => .go text notices (f next)
  | stop text notices result => .stop text notices result

/-- A turn of a session that is part of a larger one. -/
def Turn.map {σ τ : Type} (f : σ → τ) : Turn σ → Turn τ
  | move m => .move (m.map f)
  | ask prompt resume => .ask prompt fun line => (resume line).map f

/-- Input and output of a session. -/
structure Tape where
  /-- The bytes still to be read. -/
  input : List UInt8
  /-- Whether reading beyond those bytes fails instead of meeting the end. -/
  cut : Bool
  /-- The texts written, in order. -/
  written : Array String
  /-- The first bytes of a text that did not fit as a whole. -/
  torn : List UInt8
  /-- How many more bytes fit, if there is a limit. -/
  room : Option Nat
  /-- What was noticed, in order. -/
  noticed : List String

namespace Tape

/-- Writes a text.  Of one that does not fit, what fits is written. -/
def write (t : Tape) (text : String) : Except Fault Unit × Tape :=
  match t.room with
  | none => (.ok (), { t with written := t.written.push text })
  | some room =>
    if text.utf8ByteSize ≤ room then
      (.ok (), { t with written := t.written.push text, room := some (room - text.utf8ByteSize) })
    else
      (.error (.stream "write refused"),
        { t with torn := text.toUTF8.toList.take room, room := some 0 })

/-- The bytes up to and including the first line feed, and the bytes behind it. -/
def splitLine? : List UInt8 → Option (List UInt8 × List UInt8)
  | [] => none
  | b :: bs =>
    if b = 10 then some ([b], bs) else (splitLine? bs).map fun parts => (b :: parts.1, parts.2)

/-- A text without line feeds and carriage returns at its end. -/
def chomp (s : String) : String :=
  String.ofList (s.toList.reverse.dropWhile fun c => c == '\n' || c == '\r').reverse

/-- The text that bytes are, without its line end. -/
def lineOf (bytes : List UInt8) : Except Fault (Option String) :=
  match String.fromUTF8? (ByteArray.mk bytes.toArray) with
  | some text => .ok (some (chomp text))
  | none => .error (.stream "stream did not contain valid UTF-8")

/-- Keeps what was noticed. -/
def note (t : Tape) (notices : List String) : Tape := { t with noticed := t.noticed ++ notices }

/-- Reads a line; the last one may lack its line feed.  There is none at the end of the input. -/
def readLine (t : Tape) : Except Fault (Option String) × Tape :=
  match splitLine? t.input with
  | some (line, rest) => (lineOf line, { t with input := rest })
  | none =>
    let t' := { t with input := [] }
    if t.cut then (.error (.stream "read refused"), t')
    else if t.input.isEmpty then (.ok none, t')
    else (lineOf t.input, t')

/-- Asks for a line.  When the input has ended, the line of the prompt is ended in its place. -/
def ask (t : Tape) (prompt : String) : Except Fault (Option String) × Tape :=
  match t.write prompt with
  | (.error fault, t) => (.error fault, t)
  | (.ok (), t) =>
    match t.readLine with
    | (.ok none, t) =>
      match t.write "\n" with
      | (.error fault, t) => (.error fault, t)
      | (.ok (), t) => (.ok none, t)
    | read => read

/-- How a session came to an end and what was written; `none` if the fuel ran out before. -/
def converse {σ : Type} (turn : σ → Turn σ) : Nat → σ → Tape → Option (Except Fault Unit × Tape)
  | 0, _, _ => none
  | fuel + 1, s, t =>
    let follow (m : Move σ) (t : Tape) : Option (Except Fault Unit × Tape) :=
      match m with
      | .go text notices next =>
        match (t.note notices).write text with
        | (.ok (), t) => converse turn fuel next t
        | (.error fault, t) => some (.error fault, t)
      | .stop text notices result =>
        match (t.note notices).write text with
        | (.ok (), t) => some (result, t)
        | (.error fault, t) => some (.error fault, t)
    match turn s with
    | .move m => follow m t
    | .ask prompt resume =>
      match t.ask prompt with
      | (.ok line, t) => follow (resume line) t
      | (.error fault, t) => some (.error fault, t)

end Tape

end Colloquy
