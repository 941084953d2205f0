import Colloquy.Text.CharClass

/-!
# Characters and names of markup

Which characters a document may hold at all, which ones separate markup, and which ones make up names.
The classes of name characters are those of the fifth edition of the format.

## Main definitions

* `isAllowed`, `isSpace`, `isNameStart`, `isNameChar`: the classes.
* `Name`: a name in two parts, with `Name.read?`.
-/

namespace Colloquy.Markup

open Text

/-- The blanks of markup, of which there are only four. -/
def isSpace (c : Char) : Bool := c == ' ' || c == '\t' || c == '\n' || c == '\r'

/-- Whether a document may hold the character: controls other than blanks and two noncharacters are
ruled out. -/
def isAllowed (c : Char) : Bool :=
  if c.toNat < 32 then isSpace c else c.toNat != 0xFFFE && c.toNat != 0xFFFF

/-- The characters beyond ASCII that begin a name. -/
def nameStarts : CharClass :=
  [(0xC0, 0xD6), (0xD8, 0xF6), (0xF8, 0x2FF), (0x370, 0x37D), (0x37F, 0x1FFF), (0x200C, 0x200D),
   (0x2070, 0x218F), (0x2C00, 0x2FEF), (0x3001, 0xD7FF), (0xF900, 0xFDCF), (0xFDF0, 0xFFFD),
   (0x10000, 0xEFFFF)]

/-- The characters beyond ASCII that continue a name and begin none. -/
def nameMarks : CharClass := [(0xB7, 0xB7), (0x300, 0x36F), (0x203F, 0x2040)]

/-- Whether a name may begin with the character. -/
def isNameStart (c : Char) : Bool := c.isAlpha || c == ':' || c == '_' || nameStarts.has c

/-- Whether a name may hold the character. -/
def isNameChar (c : Char) : Bool :=
  isNameStart c || c.isDigit || c == '-' || c == '.' || nameMarks.has c

/-- Without the blanks in front. -/
def skipSpaces (cs : List Char) : List Char := cs.dropWhile isSpace

/-- A name: its own part, and before a colon the name of the space it belongs to. -/
structure Name where
  space : String
  own : String
  deriving DecidableEq

/-- Whether a part of a name begins as a name has to. -/
def beginsName : List Char → Bool
  | [] => false
  | c :: _ => isNameStart c

/-- The name that the characters are.  There is at most one colon, and nothing need stand in front of
it. -/
def Name.ofChars? (cs : List Char) : Option Name :=
  match cs.span (· ≠ ':') with
  | (own, []) => if beginsName own then some ⟨"", String.ofList own⟩ else none
  | (space, _ :: own) =>
    if (space.isEmpty || beginsName space) && beginsName own && !own.contains ':' then
      some ⟨String.ofList space, String.ofList own⟩
    else none

/-- The name at the front of a text, and the text behind it. -/
def Name.read? (cs : List Char) : Option (Name × List Char) :=
  (Name.ofChars? (cs.takeWhile isNameChar)).map fun name => (name, cs.dropWhile isNameChar)

/-- What stands behind `lead`, if the text begins with it. -/
def after? : (lead : List Char) → List Char → Option (List Char)
  | [], cs => some cs
  | _ :: _, [] => none
  | l :: ls, c :: cs => if l = c then after? ls cs else none

/-- The text before and behind the first occurrence of `stop`. -/
def splitAt? (stop : List Char) : List Char → Option (List Char × List Char)
  | [] => (after? stop []).map fun rest => ([], rest)
  | c :: cs =>
    match after? stop (c :: cs) with
    | some rest => some ([], rest)
    | none => (splitAt? stop cs).map fun parts => (c :: parts.1, parts.2)

/-- Whether `part` occurs in the text. -/
def occursIn (part cs : List Char) : Bool := (splitAt? part cs).isSome

end Colloquy.Markup
