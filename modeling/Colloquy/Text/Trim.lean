import Colloquy.Text.CharClass

/-!
# Trimming and splitting text

Texts are cut as lists of characters, because that is the form every law about them is stated in;
the functions on `String` only convert at both ends.

## Main definitions

* `trim`: a text without the blanks at its two ends.
* `words`: the maximal runs of characters that are not blank.
* `splitAt`: the pieces of a text between occurrences of one character, always at least one.
* `cut?`: the text before and after the first occurrence of a character.
-/

namespace Colloquy.Text

/-- The characters without the blanks at the start. -/
def dropBlanks (cs : List Char) : List Char := cs.dropWhile isBlank

/-- The characters without the blanks at either end. -/
def trimChars (cs : List Char) : List Char :=
  (dropBlanks (dropBlanks cs).reverse).reverse

/-- The text without the blanks at either end. -/
def trim (s : String) : String := String.ofList (trimChars s.toList)

/-- Whether a text has nothing but blanks. -/
def isBlankText (s : String) : Bool := s.toList.all isBlank

/-- Splits at every character that satisfies `sep`; the pieces are one more than the separators, so
a text without separator is its own only piece. -/
def splitWhere (sep : Char → Bool) : List Char → List (List Char)
  | [] => [[]]
  | c :: cs =>
    if sep c then [] :: splitWhere sep cs
    else match splitWhere sep cs with
      | [] => [[c]]
      | piece :: pieces => (c :: piece) :: pieces

theorem splitWhere_ne_nil (sep : Char → Bool) (cs : List Char) : splitWhere sep cs ≠ [] := by
  cases cs with
  | nil => simp [splitWhere]
  | cons c cs =>
    unfold splitWhere
    split
    · simp
    · split <;> simp

/-- The pieces of a text between occurrences of a character. -/
def splitOn (sep : Char) (s : String) : List String :=
  (splitWhere (· == sep) s.toList).map String.ofList

/-- The non-empty runs of characters that are not blank. -/
def words (cs : List Char) : List (List Char) :=
  (splitWhere isBlank cs).filter (· ≠ [])

/-- The characters before and after the first occurrence of `sep`, and `none` without one. -/
def cut? (sep : Char) : List Char → Option (List Char × List Char)
  | [] => none
  | c :: cs =>
    if c = sep then some ([], cs)
    else (cut? sep cs).map fun parts => (c :: parts.1, parts.2)

theorem eq_of_cut? {sep : Char} {cs before after : List Char}
    (h : cut? sep cs = some (before, after)) : cs = before ++ sep :: after ∧ sep ∉ before := by
  induction cs generalizing before with
  | nil => simp [cut?] at h
  | cons c cs ih =>
    unfold cut? at h
    split at h
    · next hc => cases h; simp [hc]
    · next hc =>
      obtain ⟨⟨b, a⟩, hb, he⟩ := Option.map_eq_some_iff.1 h
      cases he
      obtain ⟨h₁, h₂⟩ := ih hb
      exact ⟨by simp [h₁], by simp [h₂, Ne.symm hc]⟩

/-- Texts of the pieces, put together with a text between neighbours. -/
def joinWith (sep : String) (pieces : List String) : String := sep.intercalate pieces

end Colloquy.Text
