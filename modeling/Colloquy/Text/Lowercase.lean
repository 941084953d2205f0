import Colloquy.Text.Lowercase.Table

/-!
# Lower case

Lower-casing a text is lower-casing its characters one by one, but for one letter: a capital sigma
at the end of a word becomes the final sigma.  So there are two functions: `lowerChar` knows no
neighbours, and `lower` looks at them for that letter only.  Keywords are stored in the second form
and compared with input put through the first, so both are part of the interface.

## Main definitions

* `lowerChar`: the one or two characters of a character's lower-case form.
* `lower`: the lower-case form of a text.
* `lowerAscii`, `sameIgnoringAsciiCase`: case folding that touches the 26 ASCII letters only.
-/

namespace Colloquy.Text

namespace Lowercase

/-- The lower-case form of a code point under one run of the table. -/
def Run.lowered? (run : Run) (n : Nat) : Option Char :=
  if run.first ≤ n ∧ n ≤ run.last ∧ (n - run.first) % run.step = 0 then
    some (Char.ofNat (n + run.offset).toNat)
  else none

/-- Whether a word goes on here: the first character that letter case does not look through has
letter case. -/
def wordGoesOn (cs : List Char) : Bool :=
  match cs.dropWhile caseIgnorable.has with
  | [] => false
  | c :: _ => cased.has c

end Lowercase

/-- The lower-case form of one character, without regard to its neighbours. -/
def lowerChar (c : Char) : List Char :=
  if c.toNat < 128 then [c.toLower]
  else if c = '\u0130' then ['i', '\u0307']
  else match Lowercase.runs.findSome? (·.lowered? c.toNat) with
    | some low => [low]
    | none => [c]

/-- The lower-case form of `cs`, where `before` is what stands before it, nearest character first.
A capital sigma is final when the word goes on behind it in `before` and not in front of it. -/
def lowerAfter (before : List Char) : List Char → List Char
  | [] => []
  | c :: cs =>
    let low :=
      if c = 'Σ' then
        if Lowercase.wordGoesOn before && !Lowercase.wordGoesOn cs then ['ς'] else ['σ']
      else lowerChar c
    low ++ lowerAfter (c :: before) cs

/-- The lower-case form of a text. -/
def lower (s : String) : String := String.ofList (lowerAfter [] s.toList)

/-- Lower-cases the 26 ASCII letters and leaves every other character as it is. -/
def lowerAscii (s : String) : String := String.ofList (s.toList.map Char.toLower)

/-- Whether two texts differ at most in the case of ASCII letters. -/
def sameIgnoringAsciiCase (s t : String) : Bool := lowerAscii s == lowerAscii t

theorem lowerAfter_append_singleton_of_ne (before : List Char) {c : Char} (h : c ≠ 'Σ') :
    lowerAfter before [c] = lowerChar c := by
  simp [lowerAfter, h]

example : lower "ΑΣ" = "ας" := by decide +kernel

example : lower "ΣΑ É" = "σα é" := by decide +kernel

example : lowerChar 'Σ' = ['σ'] ∧ lowerChar '\u0130' = ['i', '\u0307'] := by decide +kernel

end Colloquy.Text
