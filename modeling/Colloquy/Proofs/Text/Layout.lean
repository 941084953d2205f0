import Mathlib.Logic.Relation
import Colloquy.Proofs.Text.Split

/-!
# The layout of a text

A text is laid out anew by putting in or taking out blanks where a line begins or ends (`Relaid`).  That is all it
takes to indent lines, to part them by empty ones and to join what was parted so, since a line end is a blank itself.

Texts that differ in layout only have the same lines apart from blank ones and from blanks around them
(`contentLines_eq_of_eqvGen`), and every text can be laid out as these lines (`eqvGen_contentLines`).  So what a text
has besides its layout is its lines without blanks around them, no more and no less.

### What is load-bearing

Lines are looked at one by one, while blanks that are put in can end the line they stand in and begin others.  So the
lines of a text are found from those of its halves (`splitWhere_append`), where the last line of the one and the first
line of the other are one line.  Next to blanks that line is trimmed to the same (`contentLines_blank_append`,
`contentLines_append_blank`).

A text is laid out as its lines from the last one on, each behind the ones that were not yet looked at.  To have lines
all alike for that, each of them is given an end, the last one too (`ended`).

## Main definitions

* `Indents`, `Relaid`: blanks at the end of a line, and any number of them put in and taken out.
* `contentLines`: the lines of a text that are not blank, without the blanks around them.
-/

namespace Colloquy.Text

open Relation

/-- Blanks are put in where a line begins or ends. -/
inductive Indents : List Char → List Char → Prop where
  | front (before blanks behind : List Char) (blank : ∀ b ∈ blanks, isBlank b = true)
      (begins : before = [] ∨ ['\n'] <:+ before) : Indents (before ++ behind) (before ++ (blanks ++ behind))
  | back (before blanks behind : List Char) (blank : ∀ b ∈ blanks, isBlank b = true)
      (ends : behind = [] ∨ ['\n'] <+: behind) : Indents (before ++ behind) (before ++ (blanks ++ behind))

/-- The same text but for its layout. -/
def Relaid (s t : String) : Prop := EqvGen Indents s.toList t.toList

/-! ## Lines that are not blank -/

/-- The lines that are not blank, without the blanks around them. -/
def content (lines : List (List Char)) : List (List Char) := (lines.map trimChars).filter (· ≠ [])

/-- The lines of a text that are not blank, without the blanks around them. -/
def contentLines (cs : List Char) : List (List Char) := content (splitWhere (· == '\n') cs)

theorem content_append (lines lines' : List (List Char)) :
    content (lines ++ lines') = content lines ++ content lines' := by
  rw [content, List.map_append, List.filter_append]
  rfl

theorem content_cons (line : List Char) (lines : List (List Char)) :
    content (line :: lines) = content [line] ++ content lines :=
  content_append [line] lines

theorem content_of_blank {lines : List (List Char)} (blank : ∀ line ∈ lines, ∀ c ∈ line, isBlank c = true) :
    content lines = [] := by
  rw [content, List.filter_eq_nil_iff]
  intro line among
  obtain ⟨line, there, rfl⟩ := List.mem_map.mp among
  simp [trimChars_of_blank (blank line there)]

theorem content_singleton_congr {line line' : List Char} (same : trimChars line = trimChars line') :
    content [line] = content [line'] := by
  rw [content, content, List.map_singleton, List.map_singleton, same]

/-- A line end parts the lines in front of it from those behind it. -/
theorem contentLines_append_feed (cs ds : List Char) :
    contentLines (cs ++ '\n' :: ds) = contentLines cs ++ contentLines ds := by
  have parts := List.splitOnP_append_cons (p := (· == '\n')) cs ds (beq_self_eq_true '\n')
  simp only [contentLines, splitWhere_eq_splitOnP, parts, content_append]

/-! ## Layout does not change what is said -/

theorem contentLines_blank_append {bs : List Char} (blank : ∀ b ∈ bs, isBlank b = true) (cs : List Char) :
    contentLines (bs ++ cs) = contentLines cs := by
  obtain ⟨init, last, left⟩ := exists_splitWhere_concat (· == '\n') bs
  obtain ⟨first, others, right⟩ := List.exists_cons_of_ne_nil (splitWhere_ne_nil (· == '\n') cs)
  have lines : ∀ line ∈ init ++ [last], ∀ c ∈ line, isBlank c = true :=
    fun _ among _ within => blank _ (of_mem_splitWhere (left ▸ among) within).1
  obtain ⟨whole, begun⟩ := List.forall_mem_append.mp lines
  have joined : trimChars (last ++ first) = trimChars first :=
    trimChars_blank_append (begun last List.mem_cons_self) first
  rw [contentLines, contentLines, splitWhere_append left right, right, content_append, content_of_blank whole,
    List.nil_append, content_cons, content_cons first, content_singleton_congr joined]

theorem contentLines_append_blank {bs : List Char} (blank : ∀ b ∈ bs, isBlank b = true) (cs : List Char) :
    contentLines (cs ++ bs) = contentLines cs := by
  obtain ⟨init, last, left⟩ := exists_splitWhere_concat (· == '\n') cs
  obtain ⟨first, others, right⟩ := List.exists_cons_of_ne_nil (splitWhere_ne_nil (· == '\n') bs)
  have lines : ∀ line ∈ first :: others, ∀ c ∈ line, isBlank c = true :=
    fun _ among _ within => blank _ (of_mem_splitWhere (right ▸ among) within).1
  obtain ⟨ends, whole⟩ := List.forall_mem_cons.mp lines
  have joined : trimChars (last ++ first) = trimChars last := trimChars_append ends last
  rw [contentLines, contentLines, splitWhere_append left right, left, content_append, content_append, content_cons,
    content_of_blank whole, content_singleton_congr joined, List.append_nil]

theorem Indents.contentLines_eq {cs ds : List Char} (h : Indents cs ds) : contentLines cs = contentLines ds := by
  cases h with
  | front before blanks behind blank begins =>
    rcases begins with rfl | ⟨cs, rfl⟩
    · exact (contentLines_blank_append blank behind).symm
    · simp only [List.append_assoc, List.singleton_append, contentLines_append_feed, contentLines_blank_append blank]
  | back before blanks behind blank ends =>
    rcases ends with rfl | ⟨cs, rfl⟩
    · rw [List.append_nil, List.append_nil, contentLines_append_blank blank]
    · rw [List.singleton_append, ← List.append_assoc, contentLines_append_feed, contentLines_append_feed,
        contentLines_append_blank blank]

theorem contentLines_eq_of_eqvGen {cs ds : List Char} (h : EqvGen Indents cs ds) :
    contentLines cs = contentLines ds := by
  induction h with
  | rel _ _ step => exact step.contentLines_eq
  | refl => rfl
  | symm _ _ _ ih => exact ih.symm
  | trans _ _ _ _ _ first second => exact first.trans second

/-! ## What is said is all but the layout -/

/-- Lines, each with its end. -/
def ended (lines : List (List Char)) : List Char := lines.flatMap (· ++ ['\n'])

theorem ended_cons (line : List Char) (lines : List (List Char)) :
    ended (line :: lines) = line ++ '\n' :: ended lines := by
  simp [ended]

/-- What is done to the layout of a text can be done behind another line. -/
theorem Indents.behind_line (line : List Char) {cs ds : List Char} (h : Indents cs ds) :
    Indents (line ++ '\n' :: cs) (line ++ '\n' :: ds) := by
  cases h with
  | front before blanks behind blank begins =>
    have feed : ['\n'] <:+ line ++ '\n' :: before := by
      rcases begins with rfl | ends
      · exact List.suffix_append line ['\n']
      · exact ends.trans ⟨line ++ ['\n'], List.append_assoc ..⟩
    simpa using Indents.front (line ++ '\n' :: before) blanks behind blank (.inr feed)
  | back before blanks behind blank ends =>
    simpa using Indents.back (line ++ '\n' :: before) blanks behind blank ends

theorem eqvGen_behind_line (line : List Char) {cs ds : List Char} (h : EqvGen Indents cs ds) :
    EqvGen Indents (line ++ '\n' :: cs) (line ++ '\n' :: ds) := by
  induction h with
  | rel _ _ step => exact .rel _ _ (step.behind_line line)
  | refl cs => exact .refl _
  | symm _ _ _ ih => exact .symm _ _ ih
  | trans _ _ _ _ _ first second => exact .trans _ _ _ first second

/-- A line is trimmed by taking blanks out at its ends. -/
theorem eqvGen_trimChars (line behind : List Char) :
    EqvGen Indents (line ++ '\n' :: behind) (trimChars line ++ '\n' :: behind) := by
  obtain ⟨as, bs, front, back, whole⟩ := exists_append_trimChars line
  have outer : Indents (trimChars line ++ (bs ++ '\n' :: behind)) (line ++ '\n' :: behind) := by
    have split : line ++ '\n' :: behind = as ++ (trimChars line ++ (bs ++ '\n' :: behind)) := by
      conv => lhs; rw [whole]
      simp only [List.append_assoc]
    rw [split]
    exact .front [] as _ front (.inl rfl)
  have inner : Indents (trimChars line ++ '\n' :: behind) (trimChars line ++ (bs ++ '\n' :: behind)) :=
    .back _ bs _ back (.inr ⟨behind, rfl⟩)
  exact .symm _ _ (.trans _ _ _ (.rel _ _ inner) (.rel _ _ outer))

/-- A blank line is taken out with its end. -/
theorem eqvGen_of_blank {line : List Char} (blank : ∀ c ∈ line, isBlank c = true) (behind : List Char) :
    EqvGen Indents (line ++ '\n' :: behind) behind := by
  have ended : ∀ c ∈ line ++ ['\n'], isBlank c = true :=
    List.forall_mem_append.mpr ⟨blank, List.forall_mem_singleton.mpr (by decide)⟩
  have step := Indents.front [] (line ++ ['\n']) behind ended (.inl rfl)
  rw [List.append_assoc] at step
  exact .symm _ _ (.rel _ _ step)

/-- The end of the last line is layout. -/
theorem eqvGen_append_feed (cs : List Char) : EqvGen Indents cs (cs ++ ['\n']) := by
  have step := Indents.back cs ['\n'] [] (List.forall_mem_singleton.mpr (by decide)) (.inl rfl)
  rw [List.append_nil, List.append_nil] at step
  exact .rel _ _ step

/-- Lines are tidied up one by one, from the last. -/
theorem eqvGen_ended_content (lines : List (List Char)) : EqvGen Indents (ended lines) (ended (content lines)) := by
  induction lines with
  | nil => exact .refl _
  | cons line lines ih =>
    rw [ended_cons, content_cons]
    refine .trans _ _ _ (eqvGen_behind_line line ih) ?_
    by_cases none : trimChars line = []
    · have blank := trimChars_eq_nil_iff.mp none
      have gone : content [line] = [] := content_of_blank (List.forall_mem_singleton.mpr blank)
      rw [gone, List.nil_append]
      exact eqvGen_of_blank blank _
    · have kept : content [line] = [trimChars line] := by simp [content, none]
      rw [kept, List.singleton_append, ended_cons]
      exact eqvGen_trimChars line _

theorem intercalate_append_feed {lines : List (List Char)} (some : lines ≠ []) :
    ['\n'].intercalate lines ++ ['\n'] = ended lines := by
  induction lines with
  | nil => exact absurd rfl some
  | cons line lines ih =>
    cases lines with
    | nil => simp [ended]
    | cons line' lines =>
      rw [List.intercalate_cons_cons, List.append_assoc, List.append_assoc, ih (List.cons_ne_nil _ _)]
      exact (ended_cons _ _).symm

theorem ended_splitWhere (cs : List Char) : ended (splitWhere (· == '\n') cs) = cs ++ ['\n'] := by
  have whole : ['\n'].intercalate (splitWhere (· == '\n') cs) = cs := by
    rw [splitWhere_eq_splitOnP, ← List.splitOn_eq_splitOnP, List.intercalate_splitOn]
  rw [← intercalate_append_feed (splitWhere_ne_nil _ cs), whole]

/-- **A text can be laid out as its lines without blanks around them.** -/
theorem eqvGen_contentLines (cs : List Char) : EqvGen Indents cs (['\n'].intercalate (contentLines cs)) := by
  have whole : EqvGen Indents cs (ended (contentLines cs)) := by
    refine .trans _ _ _ (eqvGen_append_feed cs) ?_
    rw [← ended_splitWhere]
    exact eqvGen_ended_content _
  refine .trans _ _ _ whole (.symm _ _ ?_)
  by_cases some : contentLines cs = []
  · rw [some]
    exact .refl _
  · rw [← intercalate_append_feed some]
    exact eqvGen_append_feed _

end Colloquy.Text
