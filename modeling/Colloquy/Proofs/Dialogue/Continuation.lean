import Colloquy.Proofs.Dialogue.Keyword
import Mathlib.Data.List.Infix

/-!
# What goes on like a keyword

A keyword is triggered by its first characters, whatever the player says behind them, in the letter case in
which it was registered and in every other one (`Dialogue.continuations_trigger`).  There is one exception.  A
keyword is kept lower-cased as a whole and compared with input that is lower-cased character by character, and the
two disagree about a capital sigma at the end of a word.  Such a sigma among the characters that count keeps the
keyword from being triggered by any of these inputs, the keyword as it was registered included
(`exists_unheard_continuation`).

### What is load-bearing

A lower-case form is at least as long as the text, so the characters that have to be said determine the stem
(`take_flatMap_lowerChar`).  The stem and what it is compared with are of one length, so the one begins the other
only if they are the same; that they are is a fact about lower-casing alone (`take_lowerAfter_eq_iff`).

## Main definitions

* `keywordBeginning`: the characters of a keyword that have to be said.
* `SaysBeginning`: input that says them.
-/

namespace Colloquy

open Text

/-- The characters of a keyword, as it was registered, that have to be said. -/
def keywordBeginning (raw : String) : List Char := (trimChars raw.toList).take keywordReach

/-- The input begins with as many characters as have to be said, and each of them has the lower-case form of the one
in the keyword. -/
def SaysBeginning (input raw : String) : Prop :=
  (input.toList.take (keywordBeginning raw).length).map lowerChar = (keywordBeginning raw).map lowerChar

instance (input raw : String) : Decidable (SaysBeginning input raw) := inferInstanceAs (Decidable (_ = _))

/-- A capital sigma at the end of a word is among the characters that the stem of the keyword is made from. -/
def EndsInReach (raw : String) : Prop := HasFinalSigma [] keywordReach (trimChars raw.toList)

/-! ## Beginnings -/

/-- The keyword itself says its beginning, with anything behind it. -/
theorem saysBeginning_append (raw rest : String) : SaysBeginning (trim raw ++ rest) raw := by
  have begins : keywordBeginning raw <+: (trim raw ++ rest).toList := by
    rw [String.toList_append, trim, String.toList_ofList]
    exact (List.take_prefix ..).trans (List.prefix_append ..)
  rw [SaysBeginning, ← List.prefix_iff_eq_take.mp begins]

theorem length_le_length_flatMap_lowerChar (cs : List Char) : cs.length ≤ (cs.flatMap lowerChar).length := by
  induction cs with
  | nil => exact Nat.le_refl 0
  | cons c cs ih =>
    have some := List.length_pos_iff.mpr (lowerChar_ne_nil c)
    rw [List.flatMap_cons, List.length_append, List.length_cons]
    omega

/-- The first lower-cased characters are those of the first characters. -/
theorem take_flatMap_lowerChar (cs : List Char) (n : Nat) :
    (cs.flatMap lowerChar).take n = ((cs.take n).flatMap lowerChar).take n := by
  by_cases long : n ≤ cs.length
  · have enough : n ≤ ((cs.take n).flatMap lowerChar).length := by
      have le := length_le_length_flatMap_lowerChar (cs.take n)
      rwa [List.length_take_of_le long] at le
    conv => lhs; rw [← List.take_append_drop n cs, List.flatMap_append]
    exact List.take_append_of_le_length enough
  · rw [List.take_of_length_le (Nat.le_of_not_le long)]

/-- Input that says the beginning of a keyword begins, lower-cased, with its first lower-cased characters. -/
theorem SaysBeginning.prefix {input raw : String} (begun : SaysBeginning input raw) :
    ((trimChars raw.toList).flatMap lowerChar).take keywordReach <+: input.toList.flatMap lowerChar := by
  have same : (input.toList.take (keywordBeginning raw).length).flatMap lowerChar =
      (keywordBeginning raw).flatMap lowerChar := by
    rw [List.flatMap_def, List.flatMap_def, begun]
  have begins : (keywordBeginning raw).flatMap lowerChar <+: input.toList.flatMap lowerChar := by
    rw [← same]
    exact List.IsPrefix.flatMap (List.take_prefix ..) lowerChar
  rw [take_flatMap_lowerChar]
  exact (List.take_prefix ..).trans begins

/-! ## Triggering -/

theorem normalizeKeyword_ne_empty {raw : String} (some : isBlankText raw = false) : normalizeKeyword raw ≠ "" := by
  intro empty
  rw [← String.toList_eq_nil_iff, toList_normalizeKeyword, ← List.length_eq_zero_iff, length_lowerAfter] at empty
  have none : (trimChars raw.toList).length = 0 :=
    Nat.le_zero.mp (empty ▸ length_le_length_flatMap_lowerChar _)
  have blank : isBlankText raw = true :=
    List.all_eq_true.mpr (trimChars_eq_nil_iff.mp (List.length_eq_zero_iff.mp none))
  rw [some] at blank
  cases blank

/-- Input that says the beginning of a keyword triggers it unless a final sigma is in the way. -/
theorem SaysBeginning.matches_iff {input raw : String} (begun : SaysBeginning input raw)
    (some : isBlankText raw = false) :
    matchesKeyword (normalizeKeyword raw) input = true ↔ ¬ EndsInReach raw := by
  have stem : keywordStem (normalizeKeyword raw) =
      (lowerAfter [] (trimChars raw.toList)).take keywordReach := by
    rw [keywordStem, toList_normalizeKeyword]
  have length : (keywordStem (normalizeKeyword raw)).length =
      (((trimChars raw.toList).flatMap lowerChar).take keywordReach).length := by
    rw [stem, List.length_take, List.length_take, length_lowerAfter]
  have kept := normalizeKeyword_ne_empty some
  rw [matchesKeyword_iff kept, BeginsLike, and_iff_right kept, EndsInReach, ← take_lowerAfter_eq_iff, ← stem]
  constructor
  · intro begins
    exact (List.prefix_of_prefix_length_le begins begun.prefix (Nat.le_of_eq length)).eq_of_length length
  · intro same
    rw [same]
    exact begun.prefix

namespace Dialogue

/-- A dialogue that listens for a keyword finds one in whatever triggers it: this one, one that the input is, or an
older one that the input begins like as well. -/
theorem keyword?_isSome {d : Dialogue} {key input : String} {t : Ticket} (held : (key, t) ∈ d.keywords.entries)
    (triggers : matchesKeyword key input = true) : (d.keyword? input).isSome = true := by
  rw [keyword?, Keywords.find?]
  split
  · rfl
  · exact List.find?_isSome.mpr ⟨(key, t), held, triggers⟩

/-- **What goes on like a keyword triggers it**, as long as no final sigma is among the characters that count, and
does not otherwise.  That is so of the keyword itself, with outer blanks left out and anything put behind it, and of
all input whose first characters have, one by one, the lower-case forms of those of the keyword.  A dialogue that
listens for the keyword finds one in such input. -/
theorem continuations_trigger {raw : String} (some : isBlankText raw = false) :
    (keywordBeginning raw).length = min 4 (trim raw).length ∧
      (∀ rest, SaysBeginning (trim raw ++ rest) raw) ∧
      ∀ input, SaysBeginning input raw →
        (matchesKeyword (normalizeKeyword raw) input = true ↔ ¬ EndsInReach raw) ∧
        (¬ EndsInReach raw → ∀ (d : Dialogue) (t : Ticket), (normalizeKeyword raw, t) ∈ d.keywords.entries →
          (d.keyword? input).isSome = true) := by
  refine ⟨?_, saysBeginning_append raw, fun input begun => ⟨begun.matches_iff some, ?_⟩⟩
  · rw [keywordBeginning, List.length_take, trim, String.length_ofList, keywordReach]
  · intro reachable d t held
    exact keyword?_isSome held ((begun.matches_iff some).mpr reachable)

/-- A keyword whose first letter has a lower-case form of two characters, said in another letter case and with
something behind it. -/
theorem continuations_trigger_of_istanbul :
    isBlankText " İstanbul " = false ∧ SaysBeginning "İSTAnd up" " İstanbul " ∧ ¬ EndsInReach " İstanbul " ∧
      matchesKeyword (normalizeKeyword " İstanbul ") "İSTAnd up" = true := by
  have some : isBlankText " İstanbul " = false := by decide +kernel
  have begun : SaysBeginning "İSTAnd up" " İstanbul " := by decide +kernel
  have reachable : ¬ EndsInReach " İstanbul " := by
    rintro ⟨before, after, split, -⟩
    have sigma : 'Σ' ∈ trimChars " İstanbul ".toList := by
      rw [split]
      exact List.mem_append_right before List.mem_cons_self
    exact absurd sigma (by decide +kernel)
  exact ⟨some, begun, reachable, (((continuations_trigger some).2.2 _ begun).1).mpr reachable⟩

end Dialogue

/-- A keyword that ends with a capital sigma does not match itself. -/
theorem exists_unheard_continuation :
    ∃ raw rest, isBlankText raw = false ∧ trim raw ++ rest = raw ∧
      matchesKeyword (normalizeKeyword raw) (trim raw ++ rest) = false :=
  ⟨"ΟΔΟΣ", "", by decide +kernel, by decide +kernel, by decide +kernel⟩

end Colloquy
