import Colloquy.Text.Trim

/-!
# What trimming leaves

Trimming leaves a text that neither begins nor ends with a blank, and leaves such a text alone.  Blanks at
the ends of a text do not change what is left.

## Main definitions

* `IsTrimmed`: neither the first nor the last character is blank.
-/

namespace Colloquy.Text

/-- Neither the first nor the last character is blank. -/
structure IsTrimmed (cs : List Char) : Prop where
  head : ∀ c, cs.head? = some c → isBlank c = false
  last : ∀ c, cs.getLast? = some c → isBlank c = false

theorem head_dropBlanks {cs : List Char} {c : Char} (h : (dropBlanks cs).head? = some c) :
    isBlank c = false := by
  have first := List.head?_dropWhile_not isBlank cs
  rw [dropBlanks] at h
  rw [h] at first
  simpa using first

theorem dropBlanks_of_head {cs : List Char} (h : ∀ c, cs.head? = some c → isBlank c = false) :
    dropBlanks cs = cs := by
  cases cs with
  | nil => rfl
  | cons c cs => simp [dropBlanks, h c rfl]

theorem dropBlanks_append {bs : List Char} (blank : ∀ b ∈ bs, isBlank b = true) (cs : List Char) :
    dropBlanks (bs ++ cs) = dropBlanks cs :=
  List.dropWhile_append_of_pos blank

/-- The end of a text whose blanks at the start were dropped is the end of the text. -/
theorem exists_append_dropBlanks (cs : List Char) :
    ∃ bs, (∀ b ∈ bs, isBlank b = true) ∧ cs = bs ++ dropBlanks cs :=
  ⟨cs.takeWhile isBlank, List.all_eq_true.mp List.all_takeWhile, List.takeWhile_append_dropWhile.symm⟩

/-- Trimming takes blanks away at the end behind those at the start. -/
theorem exists_trimChars_append (cs : List Char) :
    ∃ bs, (∀ b ∈ bs, isBlank b = true) ∧ dropBlanks cs = trimChars cs ++ bs := by
  obtain ⟨bs, blank, split⟩ := exists_append_dropBlanks (dropBlanks cs).reverse
  refine ⟨bs.reverse, fun b among => blank b (List.mem_reverse.mp among), ?_⟩
  rw [← List.reverse_reverse (dropBlanks cs), split, List.reverse_append]
  rfl

/-- Trimming takes blanks away at both ends and nothing else. -/
theorem exists_append_trimChars (cs : List Char) : ∃ as bs, (∀ a ∈ as, isBlank a = true) ∧
    (∀ b ∈ bs, isBlank b = true) ∧ cs = as ++ (trimChars cs ++ bs) := by
  obtain ⟨as, front, whole⟩ := exists_append_dropBlanks cs
  obtain ⟨bs, back, kept⟩ := exists_trimChars_append cs
  exact ⟨as, bs, front, back, kept ▸ whole⟩

theorem mem_of_mem_trimChars {c : Char} {cs : List Char} (among : c ∈ trimChars cs) : c ∈ cs := by
  obtain ⟨as, bs, -, -, whole⟩ := exists_append_trimChars cs
  rw [whole]
  exact List.mem_append_right as (List.mem_append_left bs among)

theorem isTrimmed_trimChars (cs : List Char) : IsTrimmed (trimChars cs) := by
  refine ⟨fun c first => ?_, fun c last => ?_⟩
  · obtain ⟨bs, -, whole⟩ := exists_trimChars_append cs
    have begins : (dropBlanks cs).head? = some c := by
      rw [whole, List.head?_append, first]
      rfl
    exact head_dropBlanks begins
  · rw [trimChars, List.getLast?_reverse] at last
    exact head_dropBlanks last

theorem trimChars_of_isTrimmed {cs : List Char} (h : IsTrimmed cs) : trimChars cs = cs := by
  have last : ∀ c, cs.reverse.head? = some c → isBlank c = false := by
    simpa [List.head?_reverse] using h.last
  rw [trimChars, dropBlanks_of_head h.head, dropBlanks_of_head last, List.reverse_reverse]

theorem isTrimmed_iff {cs : List Char} : IsTrimmed cs ↔ trimChars cs = cs :=
  ⟨trimChars_of_isTrimmed, fun same => same ▸ isTrimmed_trimChars cs⟩

theorem trim_trim (text : String) : trim (trim text) = trim text := by
  rw [trim, trim, String.toList_ofList, trimChars_of_isTrimmed (isTrimmed_trimChars _)]

/-- A text without blanks is trimmed. -/
theorem isTrimmed_of_solid {cs : List Char} (solid : ∀ c ∈ cs, isBlank c = false) : IsTrimmed cs :=
  ⟨fun c first => solid c (List.mem_of_head? first), fun c last => solid c (List.mem_of_getLast? last)⟩

theorem trimChars_of_solid {cs : List Char} (solid : ∀ c ∈ cs, isBlank c = false) : trimChars cs = cs :=
  trimChars_of_isTrimmed (isTrimmed_of_solid solid)

/-- The text of one character that is not blank. -/
theorem trimChars_ofList_singleton {c : Char} (solid : isBlank c = false) :
    trimChars (String.ofList [c]).toList = [c] := by
  rw [String.toList_ofList]
  exact trimChars_of_solid (by simpa using solid)

/-- A character in front of a trimmed text that is not blank leaves it trimmed. -/
theorem IsTrimmed.cons {c : Char} {cs : List Char} (solid : isBlank c = false) (h : IsTrimmed cs) :
    IsTrimmed (c :: cs) := by
  refine ⟨fun d first => ?_, fun d last => ?_⟩
  · rw [List.head?_cons, Option.some.injEq] at first
    exact first ▸ solid
  · rw [List.getLast?_cons, Option.some.injEq] at last
    cases ends : cs.getLast? with
    | none =>
      rw [ends, Option.getD_none] at last
      exact last ▸ solid
    | some e =>
      rw [ends, Option.getD_some] at last
      exact last ▸ h.last e ends

theorem trimChars_append {bs : List Char} (blank : ∀ b ∈ bs, isBlank b = true) (cs : List Char) :
    trimChars (cs ++ bs) = trimChars cs := by
  have reversed : ∀ b ∈ bs.reverse, isBlank b = true := by simpa using blank
  obtain ⟨as, front, split⟩ := exists_append_dropBlanks cs
  cases rest : dropBlanks cs with
  | nil =>
    rw [rest, List.append_nil] at split
    have all : ∀ b ∈ cs ++ bs, isBlank b = true := by
      intro b among
      rcases List.mem_append.mp among with here | here
      · exact front b (split ▸ here)
      · exact blank b here
    have none : dropBlanks (cs ++ bs) = [] := by
      rw [← List.append_nil (cs ++ bs), dropBlanks_append all]
      rfl
    rw [trimChars, trimChars, none, rest]
  | cons c rs =>
    have begins : (dropBlanks cs).head? = some c := rest ▸ rfl
    have solid : isBlank c = false := head_dropBlanks begins
    have whole : dropBlanks (cs ++ bs) = dropBlanks cs ++ bs := by
      rw [split, List.append_assoc, dropBlanks_append front, rest, dropBlanks_append front]
      simp [dropBlanks, solid]
    rw [trimChars, trimChars, whole, List.reverse_append, dropBlanks_append reversed]

theorem trimChars_blank_append {bs : List Char} (blank : ∀ b ∈ bs, isBlank b = true) (cs : List Char) :
    trimChars (bs ++ cs) = trimChars cs := by
  rw [trimChars, trimChars, dropBlanks_append blank]

theorem trimChars_of_blank {cs : List Char} (blank : ∀ c ∈ cs, isBlank c = true) :
    trimChars cs = [] :=
  trimChars_append blank []

/-- Nothing is left of nothing but blanks. -/
theorem trimChars_eq_nil_iff {cs : List Char} : trimChars cs = [] ↔ ∀ c ∈ cs, isBlank c = true := by
  refine ⟨fun nothing c among => ?_, trimChars_of_blank⟩
  obtain ⟨as, bs, front, back, whole⟩ := exists_append_trimChars cs
  rw [whole, nothing, List.nil_append, List.mem_append] at among
  exact among.elim (front c) (back c)

theorem length_dropBlanks_le (cs : List Char) : (dropBlanks cs).length ≤ cs.length :=
  (List.dropWhile_suffix isBlank).length_le

theorem length_trimChars_le (cs : List Char) : (trimChars cs).length ≤ cs.length := by
  have front := length_dropBlanks_le cs
  have behind := length_dropBlanks_le (dropBlanks cs).reverse
  rw [List.length_reverse] at behind
  rw [trimChars, List.length_reverse]
  exact Nat.le_trans behind front

end Colloquy.Text
