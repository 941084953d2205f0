/-!
# Classes of characters

A class of characters is a list of closed ranges of code points, which is how the character
database publishes its properties.  Membership is a scan of the list, so a class is a plain value
and every statement about a class is a statement about its ranges.

## Main definitions

* `CharClass`: the type, with `CharClass.has` for membership.
* `isBlank`: white space, the one property short enough to be written out as a test.
-/

namespace Colloquy.Text

/-- A set of characters, given by closed ranges of code points. -/
abbrev CharClass := List (Nat × Nat)

/-- Membership: some range holds the character's code point. -/
def CharClass.has (cls : CharClass) (c : Char) : Bool :=
  cls.any fun range => range.1 ≤ c.toNat && c.toNat ≤ range.2

theorem CharClass.has_iff {cls : CharClass} {c : Char} :
    cls.has c = true ↔ ∃ range ∈ cls, range.1 ≤ c.toNat ∧ c.toNat ≤ range.2 := by
  simp [CharClass.has]

/-- White space: the property `White_Space` of the character database, 25 code points in all.  The
zero-width space and the byte order mark are not among them. -/
def isBlank (c : Char) : Bool :=
  let n := c.toNat
  (9 ≤ n && n ≤ 13) || n == 32 || n == 0x85 || n == 0xA0 || n == 0x1680 ||
    (0x2000 ≤ n && n ≤ 0x200A) || n == 0x2028 || n == 0x2029 || n == 0x202F || n == 0x205F ||
    n == 0x3000

example : isBlank '\u00a0' = true ∧ isBlank '\u200b' = false ∧ isBlank '\ufeff' = false := by
  decide

end Colloquy.Text
