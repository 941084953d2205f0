import Colloquy.Markup.Chars

/-!
# Tokens of markup

A document's text is a list of tokens: tags, runs of character data, and what only separates them.
Each token knows where it begins.  Whether tags match is not a question of tokens.

## Main definitions

* `Token`: the tokens, with `Token.next?` for the one at the front of a text.
* `Place`: a line and a column, moved on by characters.
* `Token.readAll?`: the tokens of a whole document.
-/

namespace Colloquy.Markup

/-- An attribute as it is written: its name and the characters between the quotes. -/
abbrev RawAttribute := Name × List Char

/-- A token. -/
inductive Token where
  | openTag (name : Name) (attributes : List RawAttribute) (closed : Bool)
  | closeTag (name : Name)
  | text (raw : List Char)
  /-- Character data without references or markup. -/
  | verbatim (raw : List Char)
  /-- A comment or an instruction. -/
  | gap

/-- The value between quotes of either kind at the front of a text, and what follows. -/
def quoted? : List Char → Option (List Char × List Char)
  | [] => none
  | q :: cs =>
    if q = '"' ∨ q = '\'' then
      let value := cs.takeWhile fun c => c ≠ q ∧ c ≠ '<'
      match cs.dropWhile fun c => c ≠ q ∧ c ≠ '<' with
      | c :: rest => if c = q ∧ value.all isAllowed then some (value, rest) else none
      | [] => none
    else none

/-- The attribute at the front of a text, and what follows. -/
def attribute? (cs : List Char) : Option (RawAttribute × List Char) := do
  let (name, rest) ← Name.read? cs
  let rest ← after? ['='] (skipSpaces rest)
  let (value, rest) ← quoted? (skipSpaces rest)
  return ((name, value), rest)

/-- The attributes of a tag up to its end, and whether the tag closes its element as well.  Before
each attribute there is a blank.  The fuel is the length of the text. -/
def attributes? : Nat → List Char → Option ((List RawAttribute × Bool) × List Char)
  | 0, _ => none
  | fuel + 1, cs =>
    match skipSpaces cs with
    | '/' :: '>' :: rest => some (([], true), rest)
    | '>' :: rest => some (([], false), rest)
    | inner => do
      let c ← cs.head?
      if isSpace c then
        let (first, rest) ← attribute? inner
        let ((others, closed), rest) ← attributes? fuel rest
        return ((first :: others, closed), rest)
      else none

namespace Token

/-- The rest of a comment behind its opening, and the text that follows it. -/
def comment? (cs : List Char) : Option (Token × List Char) := do
  let (body, rest) ← splitAt? "-->".toList cs
  if body.all isAllowed && !occursIn "--".toList body && body.getLast? != some '-' then
    return (.gap, rest)
  else none

/-- The rest of character data without markup behind its opening, and the text that follows. -/
def verbatim? (cs : List Char) : Option (Token × List Char) := do
  let (body, rest) ← splitAt? "]]>".toList cs
  if body.all isAllowed then return (.verbatim body, rest) else none

/-- The rest of an instruction behind its opening, and the text that follows it.  What is written
like the declaration of the document is none. -/
def instruction? (cs : List Char) : Option (Token × List Char) :=
  if (after? "xml ".toList cs).isSome || !beginsName cs then none
  else do
    let (body, rest) ← splitAt? "?>".toList (skipSpaces (cs.dropWhile isNameChar))
    if body.all isAllowed then return (.gap, rest) else none

/-- The rest of a closing tag behind its opening, and the text that follows it. -/
def close? (cs : List Char) : Option (Token × List Char) := do
  let (name, rest) ← Name.read? cs
  let rest ← after? ['>'] (skipSpaces rest)
  return (.closeTag name, rest)

/-- The rest of an opening tag behind its opening, and the text that follows it. -/
def open? (cs : List Char) : Option (Token × List Char) := do
  let (name, rest) ← Name.read? cs
  let ((attributes, closed), rest) ← attributes? cs.length rest
  return (.openTag name attributes closed, rest)

/-- The token at the front of a text, and the text that follows it. -/
def next? : List Char → Option (Token × List Char)
  | '<' :: '!' :: '-' :: '-' :: cs => comment? cs
  | '<' :: '!' :: '[' :: 'C' :: 'D' :: 'A' :: 'T' :: 'A' :: '[' :: cs => verbatim? cs
  | '<' :: '!' :: _ => none
  | '<' :: '?' :: cs => instruction? cs
  | '<' :: '/' :: cs => close? cs
  | '<' :: cs => open? cs
  | cs =>
    let raw := cs.takeWhile (· ≠ '<')
    if raw.all isAllowed && !occursIn "]]>".toList raw then
      some (.text raw, cs.dropWhile (· ≠ '<'))
    else none

end Token

/-- A line and a column, both counted from one. -/
structure Place where
  line : Nat
  column : Nat
  deriving DecidableEq

namespace Place

/-- Where a text begins. -/
def start : Place := ⟨1, 1⟩

/-- The place behind one more character. -/
def next (p : Place) (c : Char) : Place :=
  if c = '\n' then ⟨p.line + 1, 1⟩ else ⟨p.line, p.column + 1⟩

/-- The place behind more characters. -/
def advance (p : Place) (cs : List Char) : Place := cs.foldl next p

/-- The place where `rest` begins, which is an end of the text `cs` that begins here. -/
def upTo (p : Place) (cs rest : List Char) : Place :=
  p.advance (cs.take (cs.length - rest.length))

end Place

/-- The tokens of a text that begins at `p`, each with its place.  The fuel is the length of the
text. -/
def tokens? : Nat → Place → List Char → Option (List (Place × Token))
  | _, _, [] => some []
  | 0, _, _ => none
  | fuel + 1, p, cs => do
    let (token, rest) ← Token.next? cs
    let others ← tokens? fuel (p.upTo cs rest) rest
    return (p, token) :: others

/-- What stands behind an optional part of the declaration that begins with `word`. -/
def declarationPart? (word : String) (cs : List Char) : Option (List Char) :=
  if (after? word.toList cs).isSome then (attribute? cs).map (·.2) else some cs

/-- What stands behind blanks, which may be missing only before the end of the declaration. -/
def declarationSpaces? (cs : List Char) : Option (List Char) :=
  match cs with
  | c :: _ =>
    if isSpace c || (after? "?>".toList cs).isSome then some (skipSpaces cs) else none
  | [] => some []

/-- What stands behind the declaration of a document, of which `cs` is the part behind its first
word. -/
def declaration? (cs : List Char) : Option (List Char) := do
  let cs := skipSpaces cs
  let _ ← after? "version".toList cs
  let cs ← declarationPart? "version" cs
  let cs ← declarationSpaces? cs
  let cs ←
    if (after? "encoding".toList cs).isSome then
      (declarationPart? "encoding" cs).bind declarationSpaces?
    else some cs
  let cs ← declarationPart? "standalone" cs
  after? "?>".toList (skipSpaces cs)

/-- The tokens of a document behind its declaration, if it has one.  A byte order mark is skipped; it
takes a column all the same. -/
def Token.readAll? (cs : List Char) : Option (List (Place × Token)) := do
  let body :=
    match cs with
    | '\ufeff' :: body => body
    | _ => cs
  let body ←
    match after? "<?xml ".toList body with
    | some inner => declaration? inner
    | none => some body
  tokens? body.length (Place.start.upTo cs body) body

end Colloquy.Markup
