import Colloquy.Json.Numeral

/-!
# Tokens of structured data

The text of structured data is a list of tokens with blanks between them: the six marks, and values
without parts.  Only the four blanks of the notation separate; the marks need none around them.

## Main definitions

* `Token`: the tokens, with `Token.next?` for the one at the front of a text.
* `Piece`: what stands between quotes, with `Piece.join?` for the text that it spells.
* `Token.readAll?`: the tokens of a whole text.
-/

namespace Colloquy.Json

open Text

/-- A token.  A text with half a character is a text without value. -/
inductive Token where
  | openList
  | closeList
  | openObject
  | closeObject
  | comma
  | colon
  | atom (value : Json)
  | text (value : Option String)

/-! ## Texts -/

/-- A piece of what stands between quotes: a character, or a unit of sixteen bits given by number. -/
inductive Piece where
  | char (c : Char)
  | unit (n : Nat)

namespace Piece

/-- The characters that pieces spell: two units make a character if the first is a high half and the
second a low one, and no half stands alone. -/
def join? : List Piece → Option (List Char)
  | [] => some []
  | .char c :: ps => (join? ps).map (c :: ·)
  | .unit high :: .unit low :: ps =>
    if 0xD800 ≤ high ∧ high < 0xDC00 then
      if 0xDC00 ≤ low ∧ low < 0xE000 then
        (join? ps).map (Char.ofNat (0x10000 + (high - 0xD800) * 0x400 + (low - 0xDC00)) :: ·)
      else none
    else if 0xDC00 ≤ high ∧ high < 0xE000 then none
    else (join? (.unit low :: ps)).map (Char.ofNat high :: ·)
  | .unit n :: ps =>
    if 0xD800 ≤ n ∧ n < 0xE000 then none else (join? ps).map (Char.ofNat n :: ·)

/-- The value of a hexadecimal digit. -/
def hex? (c : Char) : Option Nat :=
  if c.isDigit then some (c.toNat - '0'.toNat)
  else if 'a' ≤ c ∧ c ≤ 'f' then some (c.toNat - 'a'.toNat + 10)
  else if 'A' ≤ c ∧ c ≤ 'F' then some (c.toNat - 'A'.toNat + 10)
  else none

/-- The unit with these four digits. -/
def unit? (a b c d : Char) : Option Piece := do
  return .unit ((((← hex? a) * 16 + (← hex? b)) * 16 + (← hex? c)) * 16 + (← hex? d))

/-- The character that a letter behind a backslash stands for. -/
def escaped? (c : Char) : Option Char :=
  [('"', '"'), ('\\', '\\'), ('/', '/'), ('b', '\x08'), ('f', '\x0c'), ('n', '\n'), ('r', '\r'),
    ('t', '\t')].lookup c

/-- The pieces before the closing quote, and what follows it. -/
def readAll? : List Char → Option (List Piece × List Char)
  | '"' :: cs => some ([], cs)
  | '\\' :: 'u' :: a :: b :: c :: d :: cs => do
    let piece ← unit? a b c d
    let (pieces, rest) ← readAll? cs
    return (piece :: pieces, rest)
  | '\\' :: c :: cs => do
    let escaped ← escaped? c
    let (pieces, rest) ← readAll? cs
    return (.char escaped :: pieces, rest)
  | c :: cs =>
    if c.toNat < 32 ∨ c = '\\' then none
    else (readAll? cs).map fun read => (.char c :: read.1, read.2)
  | [] => none

end Piece

/-! ## Whole texts -/

/-- A blank of the notation. -/
def isBlank (c : Char) : Bool := c == ' ' || c == '\t' || c == '\n' || c == '\r'

namespace Token

/-- The token at the front of a text that does not begin with a blank, and what follows it. -/
def next? : List Char → Option (Token × List Char)
  | '[' :: cs => some (.openList, cs)
  | ']' :: cs => some (.closeList, cs)
  | '\x7b' :: cs => some (.openObject, cs)
  | '\x7d' :: cs => some (.closeObject, cs)
  | ',' :: cs => some (.comma, cs)
  | ':' :: cs => some (.colon, cs)
  | '"' :: cs =>
    (Piece.readAll? cs).map fun read => (.text ((Piece.join? read.1).map String.ofList), read.2)
  | 'n' :: 'u' :: 'l' :: 'l' :: cs => some (.atom .null, cs)
  | 't' :: 'r' :: 'u' :: 'e' :: cs => some (.atom (.bool true), cs)
  | 'f' :: 'a' :: 'l' :: 's' :: 'e' :: cs => some (.atom (.bool false), cs)
  | cs => (Numeral.read? cs).map fun read => (.atom read.1.value, read.2)

/-- The tokens of a text.  The fuel is the length of the text. -/
def list? : Nat → List Char → Option (List Token)
  | fuel, cs =>
    match fuel, cs.dropWhile isBlank with
    | _, [] => some []
    | 0, _ => none
    | fuel + 1, cs => do
      let (token, rest) ← next? cs
      let others ← list? fuel rest
      return token :: others

/-- The tokens of a whole text. -/
def readAll? (cs : List Char) : Option (List Token) := list? cs.length cs

end Token

end Colloquy.Json
