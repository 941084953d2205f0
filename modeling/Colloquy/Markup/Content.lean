import Colloquy.Markup.Chars
import Colloquy.Text.Trim

/-!
# Character data

Text and attribute values are written with references to characters, and their line ends and blanks
are made uniform.  What a reference brings in is exempt from that: `Piece` keeps apart what was written
and what was referred to until it is done.

## Main definitions

* `Piece`, `pieces?`: the characters of a text with its references replaced.
* `textOf`: a text with uniform line ends.
* `valueOf`: an attribute value with uniform blanks.
-/

namespace Colloquy.Markup

open Text

/-- A character that stands for itself, or one that a reference stands for. -/
inductive Piece where
  | plain (c : Char)
  | referred (c : Char)
  deriving DecidableEq

/-- The value of a run of digits of a base up to sixteen; `none` if there is none or one is no digit. -/
def numeral? (base : Nat) (cs : List Char) : Option Nat :=
  let digit? (c : Char) : Option Nat :=
    let d :=
      if c.isDigit then c.toNat - '0'.toNat
      else if 'a' ≤ c ∧ c ≤ 'f' then c.toNat - 'a'.toNat + 10
      else if 'A' ≤ c ∧ c ≤ 'F' then c.toNat - 'A'.toNat + 10
      else base
    if d < base then some d else none
  if cs.isEmpty then none
  else cs.foldl (fun acc c => acc.bind fun n => (digit? c).map fun d => n * base + d) (some 0)

/-- The character with this number.  A 32-bit number that no character has stands for the replacement
character; a character that a document may not hold cannot be referred to either. -/
def numbered? (n : Nat) : Option Char :=
  if n < UInt32.size then
    let c := if n.isValidChar then Char.ofNat n else '\ufffd'
    if isAllowed c then some c else none
  else none

/-- The character that a reference stands for, given by what is between `&` and `;`. -/
def referred? : List Char → Option Char
  | '#' :: 'x' :: cs => (numeral? 16 cs).bind numbered?
  | '#' :: cs => (numeral? 10 cs).bind numbered?
  | cs => [("quot", '"'), ("amp", '&'), ("apos", '\''), ("lt", '<'), ("gt", '>')].lookup
      (String.ofList cs)

/-- What stands behind one `&` and before the next: a reference up to its `;`, and plain text. -/
def afterMark? (cs : List Char) : Option (List Piece) := do
  let (name, rest) ← cut? ';' cs
  let c ← referred? name
  return .referred c :: rest.map .plain

/-- The characters of a text with its references replaced. -/
def pieces? (cs : List Char) : Option (List Piece) :=
  match splitWhere (· == '&') cs with
  | [] => some []
  | first :: marked => do
    let rest ← marked.mapM afterMark?
    return first.map .plain ++ rest.flatten

/-- Puts a written character behind `done`, which is held in reverse.  A carriage return becomes a
line feed as soon as it is known not to be followed by one, and vanishes if it is. -/
def putPlain (done : List Char) (c : Char) (isLast : Bool) : List Char :=
  let c' := if isLast && c == '\r' then '\n' else c
  match done with
  | '\r' :: done => if c = '\n' then '\n' :: done else c' :: '\n' :: done
  | done => c' :: done

/-- Puts pieces behind `done`, which is held in reverse.  The character behind a reference is put
there as it is, like the referred one. -/
def putAll (done : List Char) (asIs : Bool) : List Piece → List Char
  | [] => done
  | .referred c :: ps => putAll (c :: done) true ps
  | .plain c :: ps =>
    if asIs then putAll (c :: done) false ps
    else putAll (putPlain done c ps.isEmpty) false ps

/-- A text with every line end a line feed, except where references meet it. -/
def textOf (ps : List Piece) : List Char := (putAll [] false ps).reverse

/-- An attribute value with every written blank a space, and one for both characters of a line end. -/
def valueOf : List Piece → List Char
  | [] => []
  | .referred c :: ps => c :: valueOf ps
  | .plain '\r' :: .plain '\n' :: ps => ' ' :: valueOf ps
  | .plain c :: ps => (if isSpace c then ' ' else c) :: valueOf ps

end Colloquy.Markup
