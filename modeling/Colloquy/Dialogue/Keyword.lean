import Colloquy.Text.Lowercase
import Colloquy.Text.Trim

/-!
# Keywords

A talker listens for keywords.  A keyword is found by its whole text or by its first four characters,
whatever the case of the letters and whatever the player says after them.

The empty keyword is what a talker hears when nothing is said, and is found by nothing else.

## Main definitions

* `normalizeKeyword`: the form in which keywords are kept.
* `matchesKeyword`: whether input begins like a keyword.
* `Keywords`: a table of keywords, in the order of their latest registration.
* `Keywords.find?`: the keyword that input means.
-/

namespace Colloquy

open Text

/-- The lower-case form without outer blanks. -/
def normalizeKeyword (raw : String) : String := lower (trim raw)

/-- How many characters of a keyword have to be said. -/
def keywordReach : Nat := 4

/-- The characters that the input has to begin with for a keyword in its kept form. -/
def keywordStem (keyword : String) : List Char := keyword.toList.take keywordReach

/-- Whether input begins like a keyword in its kept form.  The characters of the input are
lower-cased one by one. -/
def matchesKeyword (keyword input : String) : Bool :=
  let stem := keywordStem keyword
  if stem.isEmpty then input.toList.isEmpty
  else stem.isPrefixOf (input.toList.flatMap lowerChar)

/-- Keywords in their kept form with what is registered for them, in the order of their latest
registration. -/
structure Keywords (α : Type) where
  entries : List (String × α)

namespace Keywords

variable {α : Type}

/-- No keywords. -/
def empty : Keywords α := ⟨[]⟩

/-- What is registered for a keyword in its kept form. -/
def get? (k : Keywords α) (key : String) : Option α := k.entries.lookup key

/-- The keywords without one, given in its kept form. -/
def without (k : Keywords α) (key : String) : Keywords α := ⟨k.entries.filter (·.1 ≠ key)⟩

/-- Registers a keyword behind all others; what was registered for it before is replaced. -/
def register (k : Keywords α) (raw : String) (a : α) : Keywords α :=
  let key := normalizeKeyword raw
  ⟨(k.without key).entries ++ [(key, a)]⟩

/-- Removes a keyword. -/
def remove (k : Keywords α) (raw : String) : Keywords α := k.without (normalizeKeyword raw)

/-- The entry that input means: the keyword that the input is, and else the first that the input
begins like.  Input that is nothing but blanks is not the empty keyword. -/
def find? (k : Keywords α) (input : String) : Option (String × α) :=
  let key := normalizeKeyword input
  let exact :=
    if input.toList.isEmpty == key.toList.isEmpty then (k.get? key).map fun a => (key, a) else none
  match exact with
  | some entry => some entry
  | none => k.entries.find? fun entry => matchesKeyword entry.1 input

end Keywords

end Colloquy
