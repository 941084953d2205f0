import Colloquy.Proofs.Expr.Concurrence
import Colloquy.Script.Action

/-!
# Texts whose blocks are variables

A text without braces stands for itself, and a block that names a variable stands for the variable's text.  Texts
that are put together from these two are replaced without drawing a number, and cannot fail.

Reading a text keeps the open blocks on a stack, so `Template.IsRead` says of a piece of text what it adds
whatever is open in front of it.  That is why pieces can be put together.

## Main definitions

* `Template.isPlain`: characters that are no brace.
* `Template.IsRead`: the fragments of a piece of text.
* `Scope.Expands`: pieces of text with what they stand for.

`Site.text?_of_plain` and `Site.integer?_of_write` are the same for attributes.
-/

namespace Colloquy

open Text

namespace Template

/-- The character neither opens nor closes a block. -/
def isPlain (c : Char) : Bool := c ≠ '\x7b' && c ≠ '\x7d'

theorem isPlain_iff {c : Char} : isPlain c = true ↔ c ≠ '\x7b' ∧ c ≠ '\x7d' := by
  rw [isPlain, Bool.and_eq_true, decide_eq_true_eq, decide_eq_true_eq]

/-- The piece of text has these fragments, wherever it stands. -/
def IsRead (cs : List Char) (fs : List Fragment) : Prop :=
  ∀ inner outer, cs.foldl Partial.read ⟨inner, outer⟩ = ⟨fs.reverse ++ inner, outer⟩

namespace IsRead

variable {cs ds : List Char} {fs gs : List Fragment}

theorem append (first : IsRead cs fs) (later : IsRead ds gs) : IsRead (cs ++ ds) (fs ++ gs) := by
  intro inner outer
  rw [List.foldl_append, first, later, List.reverse_append, List.append_assoc]

theorem plain (plain : ∀ c ∈ cs, isPlain c = true) : IsRead cs (cs.map .char) := by
  induction cs with
  | nil => exact fun _ _ => rfl
  | cons c cs ih =>
    rw [List.forall_mem_cons] at plain
    intro inner outer
    obtain ⟨notOpening, notClosing⟩ := isPlain_iff.mp plain.1
    have read : Partial.read ⟨inner, outer⟩ c = ⟨.char c :: inner, outer⟩ := by
      rw [Partial.read, if_neg notOpening, if_neg notClosing]
    rw [List.foldl_cons, read, ih plain.2, List.map_cons, List.reverse_cons, List.append_assoc]
    rfl

/-- What is between braces is read with the block open, and becomes one fragment. -/
theorem block (h : IsRead cs fs) : IsRead ('\x7b' :: (cs ++ ['\x7d'])) [.block fs] := by
  intro inner outer
  have opened : Partial.read ⟨inner, outer⟩ '\x7b' = ⟨[], inner :: outer⟩ := rfl
  rw [List.foldl_cons, opened, List.foldl_append, h, List.append_nil, List.foldl_cons, List.foldl_nil]
  show (⟨.block fs.reverse.reverse :: inner, outer⟩ : Partial) = _
  rw [List.reverse_reverse]
  rfl

theorem ofChars_eq (h : IsRead cs fs) : ofChars cs = ⟨fs, true⟩ := by
  rw [ofChars, h, List.append_nil]
  show (⟨fs.reverse.reverse, true⟩ : Template) = _
  rw [List.reverse_reverse]

end IsRead

end Template

namespace Scope

open Template

variable {ρ : Type} [PatientSource ρ] (s : Scope)

theorem expandAll_append (fs gs : List Fragment) :
    (s.expandAll (fs ++ gs) : Draw ρ (List Char)) =
      s.expandAll fs >>= fun first => s.expandAll gs >>= fun later => pure (first ++ later) := by
  induction fs with
  | nil =>
    rw [List.nil_append, expandAll, pure_bind]
    exact (bind_pure _).symm
  | cons f fs ih =>
    rw [List.cons_append, expandAll, ih, expandAll]
    simp only [bind_assoc, pure_bind, List.append_assoc]

theorem expandAll_chars (cs : List Char) : (s.expandAll (cs.map .char) : Draw ρ (List Char)) = pure cs := by
  induction cs with
  | nil => rfl
  | cons c cs ih =>
    rw [List.map_cons, expandAll, ih]
    rfl

/-- A name behind a dollar sign resolves to the variable's text. -/
theorem resolveBlock_variable {name : List Char} (trimmed : IsTrimmed name) :
    (s.resolveBlock (trimChars ('$' :: name)) : Draw ρ String) = pure (s.value (String.ofList name)).toText := by
  rw [trimChars_of_isTrimmed (trimmed.cons (by decide)), resolveBlock, trimChars_of_isTrimmed trimmed]

/-- The piece of text stands for this, whatever numbers would come up. -/
def Expands (cs out : List Char) : Prop :=
  ∃ fs, IsRead cs fs ∧ ∀ (ρ : Type) [PatientSource ρ], (s.expandAll fs : Draw ρ (List Char)) = pure out

namespace Expands

variable {s} {cs ds out later : List Char}

theorem append (h : s.Expands cs out) (h' : s.Expands ds later) : s.Expands (cs ++ ds) (out ++ later) := by
  obtain ⟨fs, read, expands⟩ := h
  obtain ⟨gs, read', expands'⟩ := h'
  refine ⟨fs ++ gs, read.append read', fun ρ _ => ?_⟩
  rw [expandAll_append, expands, expands']
  rfl

/-- A text without braces stands for itself. -/
theorem plain (plain : ∀ c ∈ cs, isPlain c = true) : s.Expands cs cs :=
  ⟨cs.map .char, .plain plain, fun _ _ => s.expandAll_chars cs⟩

/-- A block that names a variable stands for the variable's text. -/
theorem variable_block {name : List Char} (plain : ∀ c ∈ name, isPlain c = true) (trimmed : IsTrimmed name) :
    s.Expands ('\x7b' :: ('$' :: name ++ ['\x7d'])) (s.value (String.ofList name)).toText.toList := by
  have plain' : ∀ c ∈ '$' :: name, isPlain c = true := List.forall_mem_cons.mpr ⟨by decide, plain⟩
  refine ⟨[.block (('$' :: name).map .char)], (IsRead.plain plain').block, fun ρ _ => ?_⟩
  rw [expandAll, expand, expandAll_chars, pure_bind, resolveBlock_variable s trimmed, expandAll, pure_bind, pure_bind,
    pure_bind, List.append_nil]

theorem translate_eq {text : String} (h : s.Expands text.toList out) :
    (s.translate text : Draw ρ String) = pure (String.ofList out) := by
  obtain ⟨fs, read, expands⟩ := h
  rw [translate, read.ofChars_eq]
  dsimp only
  rw [expands, pure_bind]
  rfl

end Expands

/-- **A text without braces is left as it is.** -/
theorem translate_plain {text : String} (plain : ∀ c ∈ text.toList, isPlain c = true) :
    (s.translate text : Draw ρ String) = pure text := by
  rw [(Expands.plain plain).translate_eq, String.ofList_toList]

end Scope

/-! ## Attributes -/

theorem Template.isPlain_of_isNameChar {c : Char} (h : Expr.isNameChar c = true) : isPlain c = true := by
  rw [isPlain_iff]
  constructor <;> rintro rfl <;> exact absurd h (by decide)

theorem Template.isPlain_of_mem_write {i : Int64} : ∀ c ∈ (Decimal.write i).toList, isPlain c = true := by
  have digits : ∀ c ∈ Nat.toDigits 10 i.toInt.natAbs, isPlain c = true := by
    intro c among
    have digit := Decimal.isDigit_of_mem_toDigits among
    rw [isPlain_iff]
    constructor <;> rintro rfl <;> cases digit
  rw [Decimal.toList_write]
  split
  · exact List.forall_mem_cons.mpr ⟨by decide, digits⟩
  · exact digits

namespace Site

variable {ρ : Type} [PatientSource ρ] (site : Site) {n : Node} {name : String}

/-- An attribute without braces is its own text. -/
theorem text?_of_plain {text : String} (given : n.attribute? name = some text)
    (plain : ∀ c ∈ text.toList, Template.isPlain c = true) :
    (site.text? n name : Draw ρ (Option String)) = pure (some text) := by
  rw [text?, given]
  dsimp only
  rw [site.scope.translate_plain plain]
  rfl

theorem text_of_plain {text : String} (given : n.attribute? name = some text)
    (plain : ∀ c ∈ text.toList, Template.isPlain c = true) : (site.text n name : Draw ρ String) = pure text := by
  rw [Site.text, site.text?_of_plain given plain, pure_bind]

/-- An attribute that is written as an integer is that integer. -/
theorem integer?_of_write {i : Int64} (given : n.attribute? name = some (Decimal.write i))
    (other : i ≠ Int64.minValue) : (site.integer? n name : Draw ρ (Option Int64)) = pure (some i) := by
  rw [integer?, site.text?_of_plain given Template.isPlain_of_mem_write, pure_bind]
  dsimp only
  rw [Scope.evaluate, Expr.evaluate_write _ other]
  rfl

end Site

end Colloquy
