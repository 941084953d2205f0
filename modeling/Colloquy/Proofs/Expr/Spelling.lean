import Mathlib.Data.List.Forall2
import Colloquy.Proofs.Expr.Lexing

/-!
# Spelling tokens and reading them

Reading undoes spelling.  Tokens that are spelled one behind the other, with blanks between neighbours, are read as
these tokens; a text whose tokens can be read is made of their spellings and blanks, and nothing of it is skipped;
and which blanks stand in a text does not matter, as long as there are some where there were some
(`Token.reading_undoes_spelling`).

### What is load-bearing

How a lexeme ends depends on what stands behind it, and a blank ends all of them (`Lexeme.goesOn_of_isBlank`).  So
tokens that are spelled apart cannot run together, whatever their neighbours are; and blanks can be replaced because
behind a lexeme there is either a blank before and after, or the same character, which is no dot
(`Token.Reads.goesOn_respaced`).

## Main definitions

* `Spells`: the lexemes that spell a token, and `Token.IsSpellable`, the tokens that have one.
* `laidOut`: lexemes with what stands between them, as a text.
* `Respaces`: a text, and the same text with other blanks outside its quotes.
-/

namespace Colloquy.Expr

open Text

/-! ## Spellings -/

/-- A name, and behind a dot each any number of other runs of characters of a name. -/
def IsDotted (cs : List Char) : Prop :=
  ∃ (name : List Char) (parts : List (List Char)), cs = name ++ parts.flatMap ('.' :: ·) ∧ IsName name ∧
    ∀ part ∈ parts, part ≠ [] ∧ ∀ c ∈ part, isNameChar c = true

/-- How a token is spelled: an integer in digits, a text between two quotes that are not in it, a variable behind a
dollar sign, and the others as they are. -/
inductive Spells : Token → Lexeme → Prop where
  | int {i : Int64} {ds : List Char} (nonempty : ds ≠ []) (digits : ∀ d ∈ ds, d.isDigit = true)
      (amount : (Nat.ofDigitChars 10 ds 0 : Int) = i.toInt) : Spells (.int i) (.digits ds)
  | str {text : String} {mark : Char} (isMark : mark = '"' ∨ mark = '\'') (whole : mark ∉ text.toList) :
      Spells (.str text) (.quoted mark text.toList)
  | var {name : String} (proper : IsName name.toList) : Spells (.var name) (.dollar name.toList)
  | word {text : String} (proper : IsDotted text.toList) : Spells (.word text) (.word text.toList)
  | op (s : Symbol) : Spells (.op s) (.symbol s)

/-- A token that can be spelled.  There are no signs in integers, and no text has both quotes in it. -/
def Token.IsSpellable : Token → Prop
  | .int i => 0 ≤ i.toInt
  | .str text => '"' ∉ text.toList ∨ '\'' ∉ text.toList
  | .var name => IsName name.toList
  | .word text => IsDotted text.toList
  | .op _ => True

theorem Token.exists_spells_iff {t : Token} : (∃ l, Spells t l) ↔ t.IsSpellable := by
  constructor
  · rintro ⟨l, spells⟩
    cases spells with
    | int nonempty digits amount =>
      change 0 ≤ Int64.toInt _
      rw [← amount]
      exact Int.natCast_nonneg _
    | str isMark whole =>
      rcases isMark with rfl | rfl
      · exact .inl whole
      · exact .inr whole
    | var proper => exact proper
    | word proper => exact proper
    | op s => exact trivial
  · intro spellable
    cases t with
    | int i =>
      change 0 ≤ i.toInt at spellable
      refine ⟨.digits (Nat.toDigits 10 i.toInt.natAbs), .int Nat.toDigits_ne_nil
        (fun _ => Decimal.isDigit_of_mem_toDigits) ?_⟩
      rw [Nat.ofDigitChars_ten_toDigits]
      omega
    | str text =>
      rcases spellable with whole | whole
      · exact ⟨_, .str (.inl rfl) whole⟩
      · exact ⟨_, .str (.inr rfl) whole⟩
    | var name => exact ⟨_, .var spellable⟩
    | word text => exact ⟨_, .word spellable⟩
    | op s => exact ⟨_, .op s⟩

namespace Lexeme

theorem isWordRest_cons {c : Char} (notDot : c ≠ '.') (cs : List Char) :
    isWordRest (c :: cs) = (isNameChar c && isWordRest cs) := by
  rw [isWordRest]
  rintro _ _ rfl
  exact absurd rfl notDot

theorem ne_dot_of_isNameChar {c : Char} (name : isNameChar c = true) : c ≠ '.' := by
  rintro rfl
  rw [not_isNameChar_dot] at name
  cases name

theorem isWordRest_append {run : List Char} (all : ∀ c ∈ run, isNameChar c = true) (rest : List Char) :
    isWordRest (run ++ rest) = isWordRest rest := by
  induction run with
  | nil => rfl
  | cons c cs ih =>
    rw [List.forall_mem_cons] at all
    rw [List.cons_append, isWordRest_cons (ne_dot_of_isNameChar all.1), all.1, Bool.true_and, ih all.2]

theorem isWordRest_parts {parts : List (List Char)}
    (proper : ∀ part ∈ parts, part ≠ [] ∧ ∀ c ∈ part, isNameChar c = true) :
    isWordRest (parts.flatMap ('.' :: ·)) = true := by
  induction parts with
  | nil => rfl
  | cons part parts ih =>
    rw [List.forall_mem_cons] at proper
    obtain ⟨c, cs, rfl⟩ := List.exists_cons_of_ne_nil proper.1.1
    have all := proper.1.2
    rw [List.forall_mem_cons] at all
    show isWordRest ('.' :: c :: (cs ++ parts.flatMap ('.' :: ·))) = true
    rw [isWordRest, all.1, isWordRest_append all.2, ih proper.2]
    rfl

theorem exists_parts_of_isWordRest {cs : List Char} (proper : isWordRest cs = true) :
    ∃ (run : List Char) (parts : List (List Char)), cs = run ++ parts.flatMap ('.' :: ·) ∧
      (∀ c ∈ run, isNameChar c = true) ∧ ∀ part ∈ parts, part ≠ [] ∧ ∀ c ∈ part, isNameChar c = true := by
  fun_induction isWordRest cs with
  | case1 => exact ⟨[], [], rfl, List.forall_mem_nil _, List.forall_mem_nil _⟩
  | case2 c cs ih =>
    rw [Bool.and_eq_true] at proper
    obtain ⟨run, parts, rfl, all, later⟩ := ih proper.2
    refine ⟨[], (c :: run) :: parts, rfl, List.forall_mem_nil _, List.forall_mem_cons.mpr ⟨⟨?_, ?_⟩, later⟩⟩
    · exact List.cons_ne_nil c run
    · exact List.forall_mem_cons.mpr ⟨proper.1, all⟩
  | case3 c cs notDotted ih =>
    rw [Bool.and_eq_true] at proper
    obtain ⟨run, parts, rfl, all, later⟩ := ih proper.2
    exact ⟨c :: run, parts, rfl, List.forall_mem_cons.mpr ⟨proper.1, all⟩, later⟩

theorem eq_dot_or_isNameChar {cs : List Char} (proper : isWordRest cs = true) :
    ∀ c ∈ cs, c = '.' ∨ isNameChar c = true := by
  fun_induction isWordRest cs with
  | case1 => exact List.forall_mem_nil _
  | case2 c cs ih =>
    rw [Bool.and_eq_true] at proper
    exact List.forall_mem_cons.mpr ⟨.inl rfl, List.forall_mem_cons.mpr ⟨.inr proper.1, ih proper.2⟩⟩
  | case3 c cs notDotted ih =>
    rw [Bool.and_eq_true] at proper
    exact List.forall_mem_cons.mpr ⟨.inr proper.1, ih proper.2⟩

/-- The words that can be read are the dotted ones. -/
theorem isDotted_iff {cs : List Char} :
    IsDotted cs ↔ ∃ c ds, cs = c :: ds ∧ isNameStart c = true ∧ isWordRest ds = true := by
  constructor
  · rintro ⟨name, parts, rfl, isName, proper⟩
    obtain ⟨c, ds, rfl⟩ := List.exists_cons_of_ne_nil isName.some
    have all := isName.all
    rw [List.forall_mem_cons] at all
    refine ⟨c, ds ++ parts.flatMap ('.' :: ·), rfl, isName.first c rfl, ?_⟩
    rw [isWordRest_append all.2, isWordRest_parts proper]
  · rintro ⟨c, ds, rfl, first, proper⟩
    obtain ⟨run, parts, rfl, all, later⟩ := exists_parts_of_isWordRest proper
    refine ⟨c :: run, parts, rfl, ⟨?_, ?_, List.cons_ne_nil c run⟩, later⟩
    · rintro _ ⟨⟩
      exact first
    · exact List.forall_mem_cons.mpr ⟨by rw [isNameChar, first, Bool.true_or], all⟩

/-- Digits that are no integer of 64 bits have no token, and all others have that integer. -/
theorem token_digits_eq_ok_iff {ds : List Char} {t : Token} (nonempty : ds ≠ [])
    (digits : ∀ d ∈ ds, d.isDigit = true) :
    (Lexeme.digits ds).token = .ok t ↔ ∃ i, t = .int i ∧ (Nat.ofDigitChars 10 ds 0 : Int) = i.toInt := by
  have amount : Decimal.readInt? ds = Decimal.ofInt? (Nat.ofDigitChars 10 ds 0) := by
    rw [Decimal.readInt?, Decimal.integer?_of_digits nonempty digits, Option.bind_some]
  rw [token, amount]
  constructor
  · intro means
    split at means
    · next i exactly =>
      cases means
      exact ⟨i, rfl, (Decimal.ofInt?_eq_some_iff.mp exactly).symm⟩
    · cases means
  · rintro ⟨i, rfl, exactly⟩
    rw [Decimal.ofInt?_eq_some_iff.mpr exactly.symm]

end Lexeme

/-- What can be read as a token is what spells it. -/
theorem spells_iff {t : Token} {l : Lexeme} : Spells t l ↔ l.IsProper ∧ l.token = .ok t := by
  constructor
  · intro spells
    cases spells with
    | int nonempty digits amount =>
      exact ⟨⟨nonempty, digits⟩, (Lexeme.token_digits_eq_ok_iff nonempty digits).mpr ⟨_, rfl, amount⟩⟩
    | str isMark whole => exact ⟨⟨isMark, whole⟩, congrArg (Except.ok ∘ Token.str) String.ofList_toList⟩
    | var proper => exact ⟨proper, congrArg (Except.ok ∘ Token.var) String.ofList_toList⟩
    | word proper =>
      exact ⟨Lexeme.isDotted_iff.mp proper, congrArg (Except.ok ∘ Token.word) String.ofList_toList⟩
    | op s => exact ⟨trivial, rfl⟩
  · rintro ⟨proper, means⟩
    cases l with
    | digits ds =>
      obtain ⟨i, rfl, amount⟩ := (Lexeme.token_digits_eq_ok_iff proper.1 proper.2).mp means
      exact .int proper.1 proper.2 amount
    | quoted mark body =>
      cases means
      have whole : mark ∉ (String.ofList body).toList := by
        rw [String.toList_ofList]
        exact proper.2
      have spells := Spells.str proper.1 whole
      rwa [String.toList_ofList] at spells
    | dollar name =>
      cases means
      have isName : IsName (String.ofList name).toList := by
        rw [String.toList_ofList]
        exact proper
      have spells := Spells.var isName
      rwa [String.toList_ofList] at spells
    | word text =>
      cases means
      have isDotted : IsDotted (String.ofList text).toList := by
        rw [String.toList_ofList]
        exact Lexeme.isDotted_iff.mpr proper
      have spells := Spells.word isDotted
      rwa [String.toList_ofList] at spells
    | symbol s =>
      cases means
      exact .op s

/-! ## Lexemes in a text -/

/-- A text of lexemes: `front` stands in front of the first, and with each lexeme comes what stands behind it. -/
def laidOut (front : List Char) : List (Lexeme × List Char) → List Char
  | [] => front
  | (l, gap) :: pieces => front ++ (l.spelling ++ laidOut gap pieces)

/-- All that stands between the lexemes, in front of the first and behind the last. -/
def gaps (front : List Char) (pieces : List (Lexeme × List Char)) : List (List Char) :=
  front :: pieces.map Prod.snd

/-- The gaps are blanks. -/
def AreBlank (front : List Char) (pieces : List (Lexeme × List Char)) : Prop :=
  ∀ gap ∈ gaps front pieces, ∀ c ∈ gap, isBlank c = true

instance (front : List Char) (pieces : List (Lexeme × List Char)) : Decidable (AreBlank front pieces) :=
  decidable_of_iff ((gaps front pieces).all (·.all isBlank) = true) (by simp only [AreBlank, List.all_eq_true])

theorem areBlank_cons {front : List Char} {piece : Lexeme × List Char} {pieces : List (Lexeme × List Char)} :
    AreBlank front (piece :: pieces) ↔ (∀ c ∈ front, isBlank c = true) ∧ AreBlank piece.2 pieces :=
  List.forall_mem_cons

/-- **Tokens that are spelled apart are read.** -/
theorem Token.readAll_laidOut {front : List Char} {pieces : List (Lexeme × List Char)} {ts : List Token}
    (blank : AreBlank front pieces) (apart : ∀ piece ∈ pieces.dropLast, piece.2 ≠ [])
    (spells : List.Forall₂ (fun piece t => Spells t piece.1) pieces ts) :
    readAll (laidOut front pieces) = .ok ts := by
  rw [readAll_eq_ok_iff]
  induction spells generalizing front with
  | nil => exact .blank (blank front List.mem_cons_self)
  | @cons piece t pieces ts first later ih =>
    obtain ⟨l, gap⟩ := piece
    rw [areBlank_cons] at blank
    obtain ⟨proper, means⟩ := spells_iff.mp first
    -- Behind the lexeme is a blank, or it is the last one with nothing behind it.
    have ends : l.goesOn (laidOut gap pieces) = false := by
      cases gap with
      | cons b bs =>
        have begins : isBlank b = true := blank.2 (b :: bs) List.mem_cons_self b List.mem_cons_self
        cases pieces <;> exact l.goesOn_of_isBlank begins _
      | nil =>
        cases pieces with
        | nil => exact l.goesOn_nil
        | cons other pieces => exact absurd rfl (apart (l, []) List.mem_cons_self)
    have apart' : ∀ piece ∈ pieces.dropLast, piece.2 ≠ [] := by
      cases pieces with
      | nil => exact List.forall_mem_nil _
      | cons other pieces => exact fun piece among => apart piece (List.mem_cons_of_mem _ among)
    exact .lexeme blank.1 proper ends means (ih blank.2 apart')

theorem Lexeme.IsProper.spelling_ne_nil {l : Lexeme} (proper : l.IsProper) : l.spelling ≠ [] := by
  obtain ⟨c, cs, begins, -⟩ := proper.exists_spelling
  rw [begins]
  exact List.cons_ne_nil c cs

/-- **A text whose tokens can be read is made of their spellings and blanks**, and each is what the reader takes off
where it stands. -/
theorem Token.exists_laidOut {text : List Char} {ts : List Token} (read : readAll text = .ok ts) :
    ∃ front pieces, text = laidOut front pieces ∧ AreBlank front pieces ∧
      List.Forall₂ (fun piece t => Spells t piece.1) pieces ts ∧ (∀ piece ∈ pieces, piece.1.spelling ≠ []) ∧
      ∀ before l gap behind, pieces = before ++ (l, gap) :: behind →
        Lexeme.next? (l.spelling ++ laidOut gap behind) = some (l, laidOut gap behind) := by
  rw [readAll_eq_ok_iff] at read
  induction read with
  | @blank cs blank =>
    refine ⟨cs, [], rfl, List.forall_mem_cons.mpr ⟨blank, List.forall_mem_nil _⟩, .nil, List.forall_mem_nil _, ?_⟩
    intro before l gap behind split
    exact absurd split (by simp)
  | @lexeme bs rest l t ts blank proper ends means others ih =>
    obtain ⟨gap, pieces, rfl, blanks, spells, nonempty, matched⟩ := ih
    refine ⟨bs, (l, gap) :: pieces, rfl, areBlank_cons.mpr ⟨blank, blanks⟩,
      .cons (spells_iff.mpr ⟨proper, means⟩) spells, List.forall_mem_cons.mpr ⟨proper.spelling_ne_nil, nonempty⟩, ?_⟩
    intro before m space behind split
    cases before with
    | nil =>
      cases split
      exact Lexeme.next?_spelling_append proper ends
    | cons piece before =>
      cases split
      exact matched before m space behind rfl

/-! ## Other blanks -/

/-- The second text is the first with other blanks outside of quotes: every stretch of blanks is replaced by some
blanks.  The mark is that of a quote that is open where the texts begin. -/
inductive Respaces : Option Char → List Char → List Char → Prop where
  | nil : Respaces none [] []
  | gap {bs bs' cs cs' : List Char} (some : bs ≠ []) (blank : ∀ b ∈ bs, isBlank b = true) (some' : bs' ≠ [])
      (blank' : ∀ b ∈ bs', isBlank b = true) (later : Respaces none cs cs') : Respaces none (bs ++ cs) (bs' ++ cs')
  | solid {c : Char} {cs cs' : List Char} (solid : isBlank c = false) (plain : ¬(c = '"' ∨ c = '\''))
      (later : Respaces none cs cs') : Respaces none (c :: cs) (c :: cs')
  | opening {mark : Char} {cs cs' : List Char} (isMark : mark = '"' ∨ mark = '\'')
      (later : Respaces (some mark) cs cs') : Respaces none (mark :: cs) (mark :: cs')
  | inside {mark c : Char} {cs cs' : List Char} (other : c ≠ mark) (later : Respaces (some mark) cs cs') :
      Respaces (some mark) (c :: cs) (c :: cs')
  | closing {mark : Char} {cs cs' : List Char} (later : Respaces none cs cs') :
      Respaces (some mark) (mark :: cs) (mark :: cs')

namespace Respaces

variable {cs cs' rest text' : List Char} {c mark : Char}

theorem eq_nil (h : Respaces none [] text') : text' = [] := by
  generalize whole : [] = text at h
  cases h with
  | nil => rfl
  | gap some => exact absurd (List.append_eq_nil_iff.mp whole.symm).1 some
  | solid => cases whole
  | opening => cases whole

/-- No blanks stand in front of a character that is none. -/
theorem eq_nil_of_solid {bs : List Char} (whole : bs ++ rest = c :: cs) (blank : ∀ b ∈ bs, isBlank b = true)
    (solid : isBlank c = false) : bs = [] := by
  cases bs with
  | nil => rfl
  | cons b bs =>
    cases whole
    rw [blank c List.mem_cons_self] at solid
    cases solid

theorem exists_of_solid (h : Respaces none (c :: rest) text') (solid : isBlank c = false)
    (plain : ¬(c = '"' ∨ c = '\'')) : ∃ rest', text' = c :: rest' ∧ Respaces none rest rest' := by
  generalize whole : c :: rest = text at h
  cases h with
  | nil => cases whole
  | gap some blank => exact absurd (eq_nil_of_solid whole.symm blank solid) some
  | solid _ _ later =>
    cases whole
    exact ⟨_, rfl, later⟩
  | opening isMark later =>
    cases whole
    exact absurd isMark plain

theorem isBlank_of_isMark (isMark : mark = '"' ∨ mark = '\'') : isBlank mark = false := by
  rcases isMark with rfl | rfl <;> decide

theorem exists_of_mark (h : Respaces none (mark :: rest) text') (isMark : mark = '"' ∨ mark = '\'') :
    ∃ rest', text' = mark :: rest' ∧ Respaces (some mark) rest rest' := by
  generalize whole : mark :: rest = text at h
  cases h with
  | nil => cases whole
  | gap some blank => exact absurd (eq_nil_of_solid whole.symm blank (isBlank_of_isMark isMark)) some
  | solid _ plain =>
    cases whole
    exact absurd isMark plain
  | opening _ later =>
    cases whole
    exact ⟨_, rfl, later⟩

/-- Nothing changes between quotes. -/
theorem exists_of_body {body : List Char} (h : Respaces (some mark) (body ++ mark :: rest) text')
    (whole : mark ∉ body) : ∃ rest', text' = body ++ mark :: rest' ∧ Respaces none rest rest' := by
  induction body generalizing text' with
  | nil =>
    cases h with
    | inside other => exact absurd rfl other
    | closing later => exact ⟨_, rfl, later⟩
  | cons c body ih =>
    rw [List.mem_cons, not_or] at whole
    cases h with
    | inside _ later =>
      obtain ⟨rest', rfl, later'⟩ := ih later whole.2
      exact ⟨rest', rfl, later'⟩
    | closing => exact absurd rfl whole.1

/-- A run without blanks and quotes does not change. -/
theorem exists_of_run {run : List Char} (h : Respaces none (run ++ rest) text')
    (solid : ∀ c ∈ run, isBlank c = false ∧ ¬(c = '"' ∨ c = '\'')) :
    ∃ rest', text' = run ++ rest' ∧ Respaces none rest rest' := by
  induction run generalizing text' with
  | nil => exact ⟨text', rfl, h⟩
  | cons c run ih =>
    rw [List.forall_mem_cons] at solid
    obtain ⟨later, rfl, h'⟩ := exists_of_solid h solid.1.1 solid.1.2
    obtain ⟨rest', rfl, h''⟩ := ih h' solid.2
    exact ⟨rest', rfl, h''⟩

/-- The blanks in front of a text are replaced by blanks, of which there are some exactly if there were. -/
theorem exists_of_blanks {bs : List Char} (h : Respaces none (bs ++ rest) text')
    (blank : ∀ b ∈ bs, isBlank b = true) (begins : ∀ c, rest.head? = some c → isBlank c = false) :
    ∃ bs' rest', text' = bs' ++ rest' ∧ (∀ b ∈ bs', isBlank b = true) ∧ (bs' = [] ↔ bs = []) ∧
      Respaces none rest rest' := by
  generalize whole : bs ++ rest = text at h
  generalize outside : (none : Option Char) = quote at h
  -- The blanks may be replaced in several stretches, so the induction is on the stretches and not on the blanks.
  induction h generalizing bs with
  | nil =>
    obtain ⟨rfl, rfl⟩ := List.append_eq_nil_iff.mp whole
    exact ⟨[], [], rfl, List.forall_mem_nil _, Iff.rfl, .nil⟩
  | @gap as as' cs cs' some blanks some' blanks' later ih =>
    rcases List.append_eq_append_iff.mp whole with ⟨ds, rfl, split⟩ | ⟨ds, rfl, rfl⟩
    · -- The stretch ends behind the blanks, where the text begins with another character.
      cases ds with
      | nil =>
        rw [List.append_nil] at some
        exact ⟨as', cs', rfl, blanks', by simp [some, some'], split ▸ later⟩
      | cons d ds =>
        have solid := begins d (split ▸ rfl)
        rw [blanks d (List.mem_append_right _ List.mem_cons_self)] at solid
        cases solid
    · -- There are blanks behind the stretch, which are replaced by themselves.
      obtain ⟨bs', rest', rfl, blank', -, h⟩ := ih (fun b among => blank b (List.mem_append_right _ among)) rfl rfl
      refine ⟨as' ++ bs', rest', (List.append_assoc ..).symm, ?_, by simp [some, some'], h⟩
      exact List.forall_mem_append.mpr ⟨blanks', blank'⟩
  | @solid c cs cs' solid plain later ih =>
    have none := eq_nil_of_solid whole blank solid
    subst none
    cases whole
    exact ⟨[], c :: cs', rfl, blank, Iff.rfl, .solid solid plain later⟩
  | @opening mark cs cs' isMark later ih =>
    have none := eq_nil_of_solid whole blank (isBlank_of_isMark isMark)
    subst none
    cases whole
    exact ⟨[], mark :: cs', rfl, blank, Iff.rfl, .opening isMark later⟩
  | inside => cases outside
  | closing => cases outside

/-- Nothing but blanks stays so, and something stays something. -/
theorem blank_of_blank (h : Respaces none cs text') (blank : ∀ c ∈ cs, isBlank c = true) :
    (∀ c ∈ text', isBlank c = true) ∧ (text' = [] ↔ cs = []) := by
  rw [← List.append_nil cs] at h
  obtain ⟨bs', _, rfl, blank', same, later⟩ := h.exists_of_blanks blank (by simp)
  cases later.eq_nil
  rw [List.append_nil]
  exact ⟨blank', same⟩

/-- A lexeme stays as it is. -/
theorem exists_of_spelling {l : Lexeme} (h : Respaces none (l.spelling ++ rest) text') (proper : l.IsProper) :
    ∃ rest', text' = l.spelling ++ rest' ∧ Respaces none rest rest' := by
  have named {c : Char} (name : isNameChar c = true) : isBlank c = false ∧ ¬(c = '"' ∨ c = '\'') := by
    refine ⟨isBlank_of_isNameChar name, ?_⟩
    rintro (rfl | rfl) <;> exact absurd name (by decide)
  have started {c : Char} (first : isNameStart c = true) : isNameChar c = true := by
    rw [isNameChar, first, Bool.true_or]
  cases l with
  | digits ds => exact exists_of_run h fun d among => named (isNameChar_of_isDigit (proper.2 d among))
  | quoted mark body =>
    change Respaces none (mark :: (body ++ [mark] ++ rest)) text' at h
    obtain ⟨_, rfl, opened⟩ := exists_of_mark h proper.1
    rw [List.append_assoc] at opened
    obtain ⟨rest', rfl, closed⟩ := exists_of_body opened proper.2
    refine ⟨rest', ?_, closed⟩
    simp [Lexeme.spelling]
  | dollar name =>
    refine exists_of_run h (List.forall_mem_cons.mpr ⟨by decide, fun c among => named (proper.all c among)⟩)
  | word text =>
    obtain ⟨c, cs, rfl, first, later⟩ := proper
    refine exists_of_run h (List.forall_mem_cons.mpr ⟨named (started first), fun d among => ?_⟩)
    rcases Lexeme.eq_dot_or_isNameChar later d among with rfl | name
    · decide
    · exact named name
  | symbol s =>
    have solid : (Lexeme.symbol s).spelling.all (isBlank · == false) = true := by cases s <;> rfl
    have unmarked : '"' ∉ (Lexeme.symbol s).spelling ∧ '\'' ∉ (Lexeme.symbol s).spelling := by cases s <;> decide
    refine exists_of_run h fun c among => ⟨eq_of_beq (List.all_eq_true.mp solid c among), ?_⟩
    rintro (rfl | rfl)
    · exact unmarked.1 among
    · exact unmarked.2 among

/-- A lexeme stays as it is, behind blanks that are replaced. -/
theorem exists_of_lexeme {bs : List Char} {l : Lexeme} (h : Respaces none (bs ++ (l.spelling ++ rest)) text')
    (blank : ∀ b ∈ bs, isBlank b = true) (proper : l.IsProper) :
    ∃ bs' rest', text' = bs' ++ (l.spelling ++ rest') ∧ (∀ b ∈ bs', isBlank b = true) ∧ (bs' = [] ↔ bs = []) ∧
      Respaces none rest rest' := by
  obtain ⟨c, cs, begins, solid, -⟩ := proper.exists_spelling
  have first : ∀ d, (l.spelling ++ rest).head? = some d → isBlank d = false := by
    rw [begins]
    rintro _ ⟨⟩
    exact solid
  obtain ⟨bs', _, rfl, blank', same, later⟩ := h.exists_of_blanks blank first
  obtain ⟨rest', rfl, behind⟩ := later.exists_of_spelling proper
  exact ⟨bs', rest', rfl, blank', same, behind⟩

end Respaces

namespace Token.Reads

variable {rest rest' : List Char} {ts : List Token}

/-- What ends a lexeme ends it with other blanks too. -/
theorem goesOn_respaced {l : Lexeme} (reads : Reads rest ts) (ends : l.goesOn rest = false)
    (h : Respaces none rest rest') : l.goesOn rest' = false := by
  have blanks {bs bs' : List Char} (some : ¬ bs = []) (same : bs' = [] ↔ bs = [])
      (blank : ∀ b ∈ bs', isBlank b = true) (cs : List Char) : l.goesOn (bs' ++ cs) = false := by
    obtain ⟨b, bs', rfl⟩ := List.exists_cons_of_ne_nil (mt same.mp some)
    exact l.goesOn_of_isBlank (blank b List.mem_cons_self) _
  cases reads with
  | blank blank =>
    obtain ⟨blank', same⟩ := h.blank_of_blank blank
    by_cases none : rest = []
    · rw [same.mpr none]
      exact l.goesOn_nil
    · have ends' := blanks none same blank' []
      rwa [List.append_nil] at ends'
  | @lexeme bs after m t ts blank proper _ means others =>
    obtain ⟨c, cs, begins, -, notDot⟩ := proper.exists_spelling
    obtain ⟨bs', after', rfl, blank', same, -⟩ := h.exists_of_lexeme blank proper
    by_cases none : bs = []
    · -- The lexemes stand side by side before and after, and the first character of the second decides.
      rw [same.mpr none, List.nil_append, begins, List.cons_append, l.goesOn_cons notDot _ (cs ++ after)]
      rw [none, List.nil_append, begins, List.cons_append] at ends
      exact ends
    · exact blanks none same blank' _

/-- **Blanks can be replaced by others.** -/
theorem respaced {text text' : List Char} (reads : Reads text ts) (h : Respaces none text text') :
    Reads text' ts := by
  induction reads generalizing text' with
  | blank blank => exact .blank (h.blank_of_blank blank).1
  | lexeme blank proper ends means others ih =>
    obtain ⟨bs', rest', rfl, blank', -, behind⟩ := h.exists_of_lexeme blank proper
    exact .lexeme blank' proper (others.goesOn_respaced ends behind) means (ih behind)

end Token.Reads

/-- **Reading undoes spelling.**  Spellable tokens are the integers from zero on, the texts without one of the two
quotes, variables and dotted words of the alphabet of names, and the symbols.  They are read from any text in which
they are spelled in order, with blanks between neighbours and any blanks around them.  If tokens are read from a text,
the text is their spellings in order with blanks or nothing between them; no spelling is empty, and each is what the
reader takes off where it stands.  The same tokens are read when stretches of blanks outside of quotes are replaced by
other blanks. -/
theorem Token.reading_undoes_spelling :
    (∀ t : Token, (∃ l, Spells t l) ↔ t.IsSpellable) ∧
    (∀ (front : List Char) (pieces : List (Lexeme × List Char)) (ts : List Token), AreBlank front pieces →
      (∀ piece ∈ pieces.dropLast, piece.2 ≠ []) → List.Forall₂ (fun piece t => Spells t piece.1) pieces ts →
      readAll (laidOut front pieces) = .ok ts) ∧
    ∀ (text : List Char) (ts : List Token), readAll text = .ok ts →
      (∃ front pieces, text = laidOut front pieces ∧ AreBlank front pieces ∧
        List.Forall₂ (fun piece t => Spells t piece.1) pieces ts ∧ (∀ piece ∈ pieces, piece.1.spelling ≠ []) ∧
        ∀ before l gap behind, pieces = before ++ (l, gap) :: behind →
          Lexeme.next? (l.spelling ++ laidOut gap behind) = some (l, laidOut gap behind)) ∧
      ∀ text', Respaces none text text' → readAll text' = .ok ts := by
  refine ⟨fun _ => exists_spells_iff, fun _ _ _ => readAll_laidOut, fun text ts read => ⟨exists_laidOut read, ?_⟩⟩
  intro text' respaced
  rw [readAll_eq_ok_iff] at read ⊢
  exact read.respaced respaced

/-- A comparison with a text that has a blank in it, spelled apart and then with other blanks. -/
theorem Token.reading_undoes_spelling_of_comparison :
    readAll "x  < 'y z'".toList = .ok [.word "x", .op .lt, .str "y z"] ∧
      readAll "x <\n'y z'".toList = .ok [.word "x", .op .lt, .str "y z"] := by
  have x : Spells (.word "x") (.word "x".toList) := .word ⟨['x'], [], rfl, by decide, List.forall_mem_nil _⟩
  have yz : Spells (.str "y z") (.quoted '\'' "y z".toList) := .str (.inr rfl) (by decide)
  have read := reading_undoes_spelling.2.1 []
    [(.word ['x'], [' ', ' ']), (.symbol .lt, [' ']), (.quoted '\'' ['y', ' ', 'z'], [])]
    [.word "x", .op .lt, .str "y z"] (by decide) (by decide) (.cons x (.cons (.op .lt) (.cons yz .nil)))
  have quoted : Respaces none "'y z'".toList "'y z'".toList :=
    .opening (.inr rfl) (.inside (by decide) (.inside (by decide) (.inside (by decide) (.closing .nil))))
  have behind : Respaces none "< 'y z'".toList "<\n'y z'".toList :=
    .solid rfl (by decide)
      (@Respaces.gap [' '] ['\n'] _ _ nofun (List.all_eq_true.mp rfl) nofun (List.all_eq_true.mp rfl) quoted)
  have all : Respaces none "x  < 'y z'".toList "x <\n'y z'".toList :=
    .solid rfl (by decide)
      (@Respaces.gap [' ', ' '] [' '] _ _ nofun (List.all_eq_true.mp rfl) nofun (List.all_eq_true.mp rfl) behind)
  exact ⟨read, (reading_undoes_spelling.2.2 _ _ read).2 _ all⟩

end Colloquy.Expr
