import Colloquy.Text.Trim

/-!
# Fitting text into rows

Speech is broken at blanks into rows of a given width; rows are filled as far as words go, and a word
that is longer than a row gets rows of its own.  What has to stay in one row is cut, and the cut is
marked.

## Main definitions

* `pieces`: a word cut to a width.
* `wrap`: the rows of a text.
* `truncate`: a text cut to a width.
-/

namespace Colloquy.Text

/-- A word in pieces of a width; only the last piece is shorter, and it is not empty. -/
def pieces (width : Nat) (w : List Char) : List (List Char) :=
  if _h : width = 0 ∨ w.length ≤ width then [w]
  else w.take width :: pieces width (w.drop width)
termination_by w.length
decreasing_by
  simp only [List.length_drop]
  omega

/-- The rows of words, where the row at hand is already begun; an empty one is none. -/
def rows (width : Nat) (row : List Char) : List (List Char) → List (List Char)
  | [] => if row.isEmpty then [] else [row]
  | w :: ws =>
    let extended := if row.isEmpty then w else row ++ ' ' :: w
    if extended.length ≤ width then rows width extended ws
    else
      let cut := pieces width w
      let ended := if row.isEmpty then [] else [row]
      ended ++ cut.dropLast ++ rows width (cut.getLast?.getD []) ws

/-- The rows of a text, of which there is at least one. -/
def wrap (width : Nat) (s : String) : List String :=
  if width = 0 then [""]
  else
    match rows width [] (words s.toList) with
    | [] => [""]
    | found => found.map String.ofList

/-- The mark of a cut. -/
def ellipsis : Char := '…'

/-- A text cut to a width, with the mark as its last character if something is missing. -/
def truncate (width : Nat) (s : String) : String :=
  let cs := s.toList
  if cs.length ≤ width then s
  else if width = 0 then ""
  else String.ofList (cs.take (width - 1) ++ [ellipsis])

example : wrap 10 "I make fine bows" = ["I make", "fine bows"] := by decide +kernel

example : wrap 4 "ok abcdefg" = ["ok", "abcd", "efg"] := by decide +kernel

end Colloquy.Text
