import Colloquy.Text.Decimal
import Colloquy.Proofs.Text.Trim

/-!
# Pieces and digits

What was put together from pieces is split into the same pieces, if the mark between them is in none of them
(`splitOn_joinWith`), and the pieces of two texts in a row are those of each, but for the one that both have a part in
(`splitWhere_append`).  What was written as decimal digits is read as the same number, as one without a bound
(`readNat?_toDigits`) or as an integer of 64 bits if it is one (`readInt?_toDigits`), and every such integer is read
from what it is written as (`readInt?_write`).
-/

namespace Colloquy.Text

/-! ## Pieces -/

theorem splitWhere_eq_splitOnP (sep : Char → Bool) (cs : List Char) :
    splitWhere sep cs = cs.splitOnP sep := by
  induction cs with
  | nil => rfl
  | cons c cs ih =>
    rw [splitWhere, List.splitOnP_cons_eq_if_modifyHead, ih]
    split
    · rfl
    · obtain ⟨piece, pieces, some⟩ := List.exists_cons_of_ne_nil (List.splitOnP_ne_nil sep cs)
      rw [some]
      rfl

theorem flatten_splitWhere (sep : Char → Bool) (cs : List Char) :
    (splitWhere sep cs).flatten = cs.filter (! sep ·) := by
  induction cs with
  | nil => rfl
  | cons c cs ih =>
    obtain ⟨first, others, split⟩ := List.exists_cons_of_ne_nil (splitWhere_ne_nil sep cs)
    rw [split, List.flatten_cons] at ih
    rw [splitWhere, split]
    by_cases ends : sep c = true
    · rw [if_pos ends, List.filter_cons_of_neg (by simpa using ends), ← ih]
      rfl
    · rw [if_neg ends, List.filter_cons_of_pos (by simpa using ends), ← ih]
      rfl

/-- What the pieces are made of: the characters of the text but the separators. -/
theorem of_mem_splitWhere {sep : Char → Bool} {cs piece : List Char} {c : Char}
    (among : piece ∈ splitWhere sep cs) (within : c ∈ piece) : c ∈ cs ∧ sep c = false := by
  have kept : c ∈ (splitWhere sep cs).flatten := List.mem_flatten.mpr ⟨piece, among, within⟩
  rw [flatten_splitWhere, List.mem_filter] at kept
  simpa using kept

theorem eq_false_of_mem_splitWhere {sep : Char → Bool} {cs piece : List Char} (among : piece ∈ splitWhere sep cs) :
    ∀ c ∈ piece, sep c = false :=
  fun _ within => (of_mem_splitWhere among within).2

/-- There is a last piece. -/
theorem exists_splitWhere_concat (sep : Char → Bool) (cs : List Char) :
    ∃ init last, splitWhere sep cs = init ++ [last] :=
  ⟨_, _, (List.dropLast_concat_getLast (splitWhere_ne_nil sep cs)).symm⟩

/-- The pieces of two texts in a row: the last piece of the one and the first of the other grow together. -/
theorem splitWhere_append {sep : Char → Bool} {cs ds last first : List Char} {init others : List (List Char)}
    (left : splitWhere sep cs = init ++ [last]) (right : splitWhere sep ds = first :: others) :
    splitWhere sep (cs ++ ds) = init ++ (last ++ first) :: others := by
  induction cs generalizing init last with
  | nil =>
    rw [splitWhere, List.singleton_eq_append_iff] at left
    rcases left with ⟨rfl, only⟩ | ⟨-, none⟩
    · cases only
      exact right
    · cases none
  | cons c cs ih =>
    obtain ⟨piece, pieces, split⟩ := List.exists_cons_of_ne_nil (splitWhere_ne_nil sep cs)
    rw [splitWhere] at left
    rw [List.cons_append, splitWhere]
    by_cases ends : sep c = true
    · rw [if_pos ends] at left ⊢
      cases init with
      | nil => exact absurd (List.cons.inj left).2 (splitWhere_ne_nil sep cs)
      | cons i init =>
        obtain ⟨rfl, rest⟩ := List.cons.inj left
        rw [ih rest, List.cons_append]
    · rw [if_neg ends] at left ⊢
      rw [split] at left ih
      cases init with
      | nil =>
        obtain ⟨rfl, none⟩ := List.cons.inj left
        have only : piece :: pieces = [] ++ [piece] := congrArg (piece :: ·) none
        rw [ih only]
        rfl
      | cons i init =>
        obtain ⟨rfl, rest⟩ := List.cons.inj left
        have whole : piece :: pieces = (piece :: init) ++ [last] := congrArg (piece :: ·) rest
        rw [ih whole]
        rfl

/-- Pieces that are put together are found again. -/
theorem splitOn_joinWith (sep : Char) {pieces : List String} (some : pieces ≠ [])
    (whole : ∀ piece ∈ pieces, sep ∉ piece.toList) :
    splitOn sep (joinWith (String.singleton sep) pieces) = pieces := by
  have apart : ∀ piece ∈ pieces.map String.toList, sep ∉ piece := by
    intro piece among
    obtain ⟨p, there, rfl⟩ := List.mem_map.mp among
    exact whole p there
  rw [splitOn, splitWhere_eq_splitOnP, joinWith, String.toList_intercalate, String.toList_singleton,
    ← List.splitOn_eq_splitOnP, List.splitOn_intercalate sep apart (by simpa using some), List.map_map]
  simp [Function.comp_def]

/-! ## Digits -/

namespace Decimal

theorem digitsValue?_eq {cs : List Char} (digits : ∀ c ∈ cs, c.isDigit = true) (acc : Nat) :
    digitsValue? acc cs = some (Nat.ofDigitChars 10 cs acc) := by
  induction cs generalizing acc with
  | nil => rw [Nat.ofDigitChars_nil, digitsValue?]
  | cons c cs ih =>
    rw [digitsValue?, if_pos (digits c List.mem_cons_self),
      ih (fun c among => digits c (List.mem_cons_of_mem _ among)), Nat.ofDigitChars_cons, Nat.mul_comm]

theorem isDigit_of_mem_toDigits {c : Char} {n : Nat} (among : c ∈ Nat.toDigits 10 n) :
    c.isDigit = true :=
  Nat.isDigit_of_mem_toDigits (by decide) (by decide) among

theorem digits?_of_digits {cs : List Char} (nonempty : cs ≠ []) (digits : ∀ c ∈ cs, c.isDigit = true) :
    digits? cs = some (Nat.ofDigitChars 10 cs 0) := by
  obtain ⟨c, cs, rfl⟩ := List.exists_cons_of_ne_nil nonempty
  rw [digits?, digitsValue?_eq digits]

theorem digits?_toDigits (n : Nat) : digits? (Nat.toDigits 10 n) = some n := by
  rw [digits?_of_digits Nat.toDigits_ne_nil (fun _ => isDigit_of_mem_toDigits), Nat.ofDigitChars_ten_toDigits]

/-- A number is read from its decimal digits. -/
theorem readNat?_toDigits {top n : Nat} (le : n ≤ top) : readNat? top (Nat.toDigits 10 n) = some n := by
  unfold readNat?
  split
  · next signed =>
    have digit := isDigit_of_mem_toDigits (c := '+') (n := n) (by rw [signed]; exact List.mem_cons_self)
    cases digit
  · rw [digits?_toDigits]
    exact Option.filter_eq_some_iff.mpr ⟨rfl, decide_eq_true le⟩

/-- Digits without a sign are read as their amount. -/
theorem integer?_of_digits {cs : List Char} (nonempty : cs ≠ []) (digits : ∀ c ∈ cs, c.isDigit = true) :
    integer? cs = some (Nat.ofDigitChars 10 cs 0 : Int) := by
  unfold integer?
  split
  · exact absurd (digits '-' List.mem_cons_self) (by decide)
  · exact absurd (digits '+' List.mem_cons_self) (by decide)
  · rw [digits?_of_digits nonempty digits]
    rfl

theorem integer?_toDigits (n : Nat) : integer? (Nat.toDigits 10 n) = some (n : Int) := by
  rw [integer?_of_digits Nat.toDigits_ne_nil (fun _ => isDigit_of_mem_toDigits), Nat.ofDigitChars_ten_toDigits]

/-- The digits of a number are an integer exactly if the number is within 64 bits. -/
theorem readInt?_toDigits (n : Nat) : readInt? (Nat.toDigits 10 n) = ofInt? n := by
  rw [readInt?, integer?_toDigits, Option.bind_some]

/-- An integer is written as the digits of its amount, with a minus sign in front below zero. -/
theorem toList_write (i : Int64) : (write i).toList =
    if i.toInt < 0 then '-' :: Nat.toDigits 10 i.toInt.natAbs else Nat.toDigits 10 i.toInt.natAbs := by
  show (Int.repr i.toInt).toList = _
  cases i.toInt with
  | ofNat n =>
    have positive : ¬ Int.ofNat n < 0 := Int.not_lt.mpr (Int.natCast_nonneg n)
    rw [if_neg positive]
    exact String.toList_ofList
  | negSucc n =>
    rw [if_pos (Int.negSucc_lt_zero n)]
    have digits : (Nat.repr (n + 1)).toList = Nat.toDigits 10 (n + 1) := String.toList_ofList
    exact (String.toList_append).trans (congrArg ('-' :: ·) digits)

/-- What is written is read as the same integer, the least one included. -/
theorem readInt?_write (i : Int64) : readInt? (write i).toList = some i := by
  have exactly : integer? (write i).toList = some i.toInt := by
    rw [toList_write]
    split
    · next negative =>
      have amount : -(i.toInt.natAbs : Int) = i.toInt := by omega
      rw [integer?, digits?_toDigits]
      exact congrArg some amount
    · next positive =>
      have amount : (i.toInt.natAbs : Int) = i.toInt := by omega
      rw [integer?_toDigits, amount]
  rw [readInt?, exactly, Option.bind_some, ofInt?_eq_some_iff]

theorem isBlank_of_isDigit {c : Char} (digit : c.isDigit = true) : isBlank c = false := by
  have range : 48 ≤ c.toNat ∧ c.toNat ≤ 57 := by
    simpa [Char.isDigit, UInt32.le_iff_toNat_le] using digit
  simp only [isBlank, Bool.or_eq_false_iff, Bool.and_eq_false_iff, decide_eq_false_iff_not, beq_eq_false_iff_ne]
  omega

theorem trimChars_toDigits (n : Nat) : trimChars (Nat.toDigits 10 n) = Nat.toDigits 10 n :=
  trimChars_of_solid fun _ among => isBlank_of_isDigit (isDigit_of_mem_toDigits among)

theorem trimChars_write (i : Int64) : trimChars (write i).toList = (write i).toList := by
  have digits : ∀ c ∈ Nat.toDigits 10 i.toInt.natAbs, isBlank c = false :=
    fun _ among => isBlank_of_isDigit (isDigit_of_mem_toDigits among)
  apply trimChars_of_solid
  rw [toList_write]
  split
  · exact List.forall_mem_cons.mpr ⟨by decide, digits⟩
  · exact digits

end Decimal

end Colloquy.Text
