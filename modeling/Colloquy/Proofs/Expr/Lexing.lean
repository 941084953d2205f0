import Colloquy.Expr.Lexeme
import Colloquy.Proofs.Text.Split

/-!
# Where a lexeme ends

A lexeme is taken off the front of a text as far as it goes, so what is taken depends on what stands behind
it.  How much it depends on that is little: one character, or two where a word meets a dot.
`Lexeme.goesOn` is that dependence, and with it reading is the inverse of spelling:

* `Lexeme.next?_spelling_append`: a lexeme in front of a text with which it does not go on is read as
  it was spelled, and the text behind it is left alone;
* `Lexeme.isProper_goesOn_of_next?`: what is read is such a lexeme in front of such a text.

The tokens of a text follow from one equation, `Token.readAll_lexeme`, which takes the first lexeme off
together with the blanks in front of it.  So texts whose tokens can be read are those that are put together
from lexemes and blanks (`Token.readAll_eq_ok_iff`).

## Main definitions

* `Lexeme.IsProper`: the lexemes that can be read.
* `Lexeme.goesOn`: whether a text goes on with the lexeme in front of it.
* `Token.Reads`: a text as blanks and lexemes.
-/

namespace Colloquy.Expr

open Text

/-! ## Characters -/

/-- Letters and the underscore lie in three stretches. -/
theorem isNameStart_iff {c : Char} : isNameStart c = true ↔
    65 ≤ c.toNat ∧ c.toNat ≤ 90 ∨ 97 ≤ c.toNat ∧ c.toNat ≤ 122 ∨ c.toNat = 95 := by
  have underscore : c = '_' ↔ c.toNat = 95 := by
    rw [← Char.toNat_inj]
    rfl
  have letter : c.isAlpha = (decide (65 ≤ c.val ∧ c.val ≤ 90) ||
    decide (97 ≤ c.val) && decide (c.val ≤ 122)) := rfl
  simp only [isNameStart, letter, Bool.or_eq_true, Bool.and_eq_true, decide_eq_true_eq, UInt32.le_iff_toNat_le,
    beq_iff_eq, underscore]
  exact or_assoc

theorem isDigit_iff {c : Char} : c.isDigit = true ↔ 48 ≤ c.toNat ∧ c.toNat ≤ 57 := by
  simp only [Char.isDigit, Bool.and_eq_true, decide_eq_true_eq, UInt32.le_iff_toNat_le]
  rfl

theorem isNameChar_iff {c : Char} : isNameChar c = true ↔
    (65 ≤ c.toNat ∧ c.toNat ≤ 90 ∨ 97 ≤ c.toNat ∧ c.toNat ≤ 122 ∨ c.toNat = 95) ∨
      48 ≤ c.toNat ∧ c.toNat ≤ 57 := by
  rw [isNameChar, Bool.or_eq_true, isNameStart_iff, isDigit_iff]

theorem isNameChar_of_isDigit {c : Char} (digit : c.isDigit = true) : isNameChar c = true := by
  rw [isNameChar, digit, Bool.or_true]

/-- A character of a name is no blank. -/
theorem isBlank_of_isNameChar {c : Char} (h : isNameChar c = true) : isBlank c = false := by
  rw [isNameChar_iff] at h
  simp only [isBlank, Bool.or_eq_false_iff, Bool.and_eq_false_iff, decide_eq_false_iff_not, beq_eq_false_iff_ne]
  omega

/-- The character that begins a name begins nothing else. -/
theorem ne_of_isNameStart {c : Char} (h : isNameStart c = true) :
    c.isDigit = false ∧ c ≠ '"' ∧ c ≠ '\'' ∧ c ≠ '$' := by
  refine ⟨?_, ?_, ?_, ?_⟩
  · rw [← Bool.not_eq_true, isDigit_iff]
    rw [isNameStart_iff] at h
    omega
  all_goals
    rintro rfl
    revert h
    decide

/-- A name as it is spelled: a letter or an underscore, and then digits too. -/
structure IsName (cs : List Char) : Prop where
  first : ∀ c, cs.head? = some c → isNameStart c = true
  all : ∀ c ∈ cs, isNameChar c = true
  some : cs ≠ []

theorem isName_iff {cs : List Char} :
    IsName cs ↔ cs.head?.any isNameStart = true ∧ cs.all isNameChar = true := by
  rw [List.all_eq_true, Option.any_eq_true]
  constructor
  · intro name
    obtain ⟨c, ds, rfl⟩ := List.exists_cons_of_ne_nil name.some
    exact ⟨⟨c, rfl, name.first c rfl⟩, name.all⟩
  · rintro ⟨⟨c, first, starts⟩, all⟩
    refine ⟨fun d other => ?_, all, ?_⟩
    · cases first.symm.trans other
      exact starts
    · rintro rfl
      cases first

instance (cs : List Char) : Decidable (IsName cs) := decidable_of_iff _ isName_iff.symm

example : IsName "gold".toList ∧ ¬ IsName "1st".toList := by decide

namespace Lexeme

/-! ## Lexemes that can be read -/

/-- What may stand in a word behind its first character; a dot needs a character of a name behind it. -/
def isWordRest : List Char → Bool
  | [] => true
  | '.' :: c :: cs => isNameChar c && isWordRest cs
  | c :: cs => isNameChar c && isWordRest cs

/-- The lexeme is spelled as its kind is. -/
def IsProper : Lexeme → Prop
  | digits ds => ds ≠ [] ∧ ∀ d ∈ ds, d.isDigit = true
  | quoted mark body => (mark = '"' ∨ mark = '\'') ∧ mark ∉ body
  | dollar name => IsName name
  | word text => ∃ c cs, text = c :: cs ∧ isNameStart c = true ∧ isWordRest cs = true
  | symbol _ => True

/-- Whether another symbol begins with this one, which then goes on with an equality sign. -/
def takesEquals : Symbol → Bool
  | .eq | .lt | .gt | .not => true
  | _ => false

/-- Whether the text goes on with the lexeme in front of it. -/
def goesOn : Lexeme → List Char → Bool
  | digits _, c :: _ => c.isDigit
  | dollar _, c :: _ => isNameChar c
  | word _, '.' :: c :: _ => isNameChar c
  | word _, c :: _ => isNameChar c
  | symbol s, c :: _ => c == '=' && takesEquals s
  | _, _ => false

theorem goesOn_nil (l : Lexeme) : l.goesOn [] = false := by
  cases l <;> rfl

/-- A blank ends every lexeme. -/
theorem goesOn_of_isBlank (l : Lexeme) {c : Char} (blank : isBlank c = true) (cs : List Char) :
    l.goesOn (c :: cs) = false := by
  have notName : isNameChar c = false := by
    rw [← Bool.not_eq_true]
    intro name
    rw [isBlank_of_isNameChar name] at blank
    cases blank
  have notDigit : c.isDigit = false := by
    rw [isNameChar, Bool.or_eq_false_iff] at notName
    exact notName.2
  have notDot : c ≠ '.' := by
    rintro rfl
    revert blank
    decide
  have notEquals : (c == '=') = false := by
    rw [beq_eq_false_iff_ne]
    rintro rfl
    revert blank
    decide
  cases l with
  | digits ds => exact notDigit
  | quoted mark body => rfl
  | dollar name => exact notName
  | word text =>
    unfold goesOn
    split <;> simp_all
  | symbol s => rw [goesOn, notEquals, Bool.false_and]

/-! ## Reading what was spelled -/

/-- A run of characters of a class ends where the text behind it begins with another character. -/
theorem takeWhile_append {p : Char → Bool} {run rest : List Char} (all : ∀ c ∈ run, p c = true)
    (ends : ∀ c, rest.head? = some c → p c = false) :
    (run ++ rest).takeWhile p = run ∧ (run ++ rest).dropWhile p = rest := by
  rw [List.takeWhile_append_of_pos all, List.dropWhile_append_of_pos all]
  cases rest with
  | nil => exact ⟨List.append_nil run, rfl⟩
  | cons c cs =>
    have other : ¬ p c = true := by
      rw [ends c rfl]
      exact Bool.false_ne_true
    rw [List.takeWhile_cons_of_neg other, List.dropWhile_cons_of_neg other, List.append_nil]
    exact ⟨rfl, rfl⟩

theorem cut?_append {mark : Char} {body : List Char} (whole : mark ∉ body) (rest : List Char) :
    cut? mark (body ++ mark :: rest) = some (body, rest) := by
  induction body with
  | nil => exact if_pos rfl
  | cons c cs ih =>
    have other : c ≠ mark := fun same => whole (same ▸ List.mem_cons_self)
    have later := ih fun among => whole (List.mem_cons_of_mem c among)
    rw [List.cons_append, cut?, if_neg other, later]
    rfl

theorem not_isNameChar_dot : isNameChar '.' = false := by decide

theorem splitWord_cons {c : Char} (notDot : c ≠ '.') (cs : List Char) :
    splitWord (c :: cs) =
      if isNameChar c then (c :: (splitWord cs).1, (splitWord cs).2) else ([], c :: cs) := by
  rw [splitWord]
  rintro _ _ rfl
  exact absurd rfl notDot

theorem splitWord_append_rest {text cs rest : List Char} (proper : isWordRest cs = true)
    (ends : (word text).goesOn rest = false) : splitWord (cs ++ rest) = (cs, rest) := by
  fun_induction isWordRest cs with
  | case1 =>
    rw [List.nil_append]
    unfold splitWord
    split
    · rfl
    · next c cs =>
      rw [if_neg (by rw [show isNameChar c = false from ends]; exact Bool.false_ne_true)]
    · next c cs notDotted =>
      have other : isNameChar c = false := by
        unfold goesOn at ends
        split at ends <;> simp_all
      rw [if_neg (by rw [other]; exact Bool.false_ne_true)]
  | case2 c cs ih =>
    rw [Bool.and_eq_true] at proper
    rw [List.cons_append, List.cons_append, splitWord, if_pos proper.1, ih proper.2]
  | case3 c cs notDotted ih =>
    rw [Bool.and_eq_true] at proper
    have notDot : c ≠ '.' := by
      rintro rfl
      rw [not_isNameChar_dot] at proper
      cases proper.1
    rw [List.cons_append, splitWord_cons notDot, if_pos proper.1, ih proper.2]

/-- A symbol in front of an equality sign is half of another symbol. -/
theorem ne_equals_cons {s : Symbol} (takes : takesEquals s = true) {rest : List Char}
    (ends : (symbol s).goesOn rest = false) (cs : List Char) : rest = '=' :: cs → False := by
  rintro rfl
  rw [goesOn, takes] at ends
  cases ends

theorem splitSymbol?_append {s : Symbol} {rest : List Char} (ends : (symbol s).goesOn rest = false) :
    splitSymbol? (s.text.toList ++ rest) = some (s, rest) := by
  cases s with
  | eq =>
    show splitSymbol? ('=' :: rest) = _
    rw [splitSymbol?]
    exact ne_equals_cons rfl ends
  | lt =>
    show splitSymbol? ('<' :: rest) = _
    rw [splitSymbol?]
    exact ne_equals_cons rfl ends
  | gt =>
    show splitSymbol? ('>' :: rest) = _
    rw [splitSymbol?]
    exact ne_equals_cons rfl ends
  | not =>
    show splitSymbol? ('!' :: rest) = _
    rw [splitSymbol?]
    exact ne_equals_cons rfl ends
  | _ => rfl

/-- **A lexeme is read as it is spelled**, in front of every text with which it does not go on. -/
theorem next?_spelling_append {l : Lexeme} {rest : List Char} (proper : l.IsProper)
    (ends : l.goesOn rest = false) : next? (l.spelling ++ rest) = some (l, rest) := by
  cases l with
  | digits ds =>
    obtain ⟨nonempty, all⟩ := proper
    obtain ⟨d, ds, rfl⟩ := List.exists_cons_of_ne_nil nonempty
    rw [List.forall_mem_cons] at all
    have stops : ∀ c, rest.head? = some c → c.isDigit = false := by
      cases rest with
      | nil => exact nofun
      | cons e es =>
        rintro _ ⟨⟩
        exact ends
    have split := takeWhile_append all.2 stops
    show next? (d :: (ds ++ rest)) = _
    unfold next?
    dsimp only
    rw [if_pos all.1, split.1, split.2]
  | quoted mark body =>
    obtain ⟨isMark, whole⟩ := proper
    have notDigit : mark.isDigit = false := by
      rcases isMark with rfl | rfl <;> decide
    show next? (mark :: (body ++ [mark] ++ rest)) = _
    unfold next?
    dsimp only
    rw [notDigit, if_neg Bool.false_ne_true, if_pos isMark, List.append_assoc, List.singleton_append,
      cut?_append whole]
    rfl
  | dollar name =>
    obtain ⟨c, cs, rfl⟩ := List.exists_cons_of_ne_nil proper.some
    have all := proper.all
    rw [List.forall_mem_cons] at all
    have stops : ∀ c, rest.head? = some c → isNameChar c = false := by
      cases rest with
      | nil => exact nofun
      | cons e es =>
        rintro _ ⟨⟩
        exact ends
    have split := takeWhile_append all.2 stops
    show next? ('$' :: c :: (cs ++ rest)) = _
    unfold next?
    dsimp only
    rw [if_neg (by decide), if_neg (by decide), if_pos rfl, if_pos (proper.first c rfl), split.1, split.2]
  | word text =>
    obtain ⟨c, cs, rfl, first, later⟩ := proper
    obtain ⟨notDigit, notDouble, notSingle, notDollar⟩ := ne_of_isNameStart first
    show next? (c :: (cs ++ rest)) = _
    unfold next?
    dsimp only
    rw [notDigit, if_neg Bool.false_ne_true, if_neg (not_or.mpr ⟨notDouble, notSingle⟩), if_neg notDollar,
      if_pos first, splitWord_append_rest later ends]
  | symbol s =>
    have split := splitSymbol?_append ends
    show next? (s.text.toList ++ rest) = _
    cases s <;> exact congrArg (Option.map fun parts => (symbol parts.1, parts.2)) split

/-! ## What was read is spelled -/

theorem not_of_mem_takeWhile_dropWhile (p : Char → Bool) (cs : List Char) :
    (∀ c ∈ cs.takeWhile p, p c = true) ∧ ∀ c, (cs.dropWhile p).head? = some c → p c = false := by
  refine ⟨List.all_eq_true.mp List.all_takeWhile, fun c first => ?_⟩
  have stopped := List.head?_dropWhile_not p cs
  rw [first] at stopped
  simpa using stopped

theorem isWordRest_splitWord (text cs : List Char) :
    isWordRest (splitWord cs).1 = true ∧ (word text).goesOn (splitWord cs).2 = false := by
  fun_induction splitWord cs with
  | case1 => exact ⟨rfl, rfl⟩
  | case2 c cs name parts ih => exact ⟨Bool.and_eq_true_iff.mpr ⟨name, ih.1⟩, ih.2⟩
  | case3 c cs other => exact ⟨rfl, Bool.eq_false_iff.mpr other⟩
  | case4 c cs notDotted name parts ih =>
    have notDot : c ≠ '.' := by
      rintro rfl
      rw [not_isNameChar_dot] at name
      cases name
    refine ⟨?_, ih.2⟩
    rw [isWordRest, Bool.and_eq_true]
    · exact ⟨name, ih.1⟩
    · rintro _ _ rfl
      exact absurd rfl notDot
  | case5 c cs notDotted other =>
    refine ⟨rfl, ?_⟩
    rw [goesOn]
    · exact Bool.eq_false_iff.mpr other
    · exact notDotted

theorem goesOn_symbol {s : Symbol} {rest : List Char}
    (apart : takesEquals s = false ∨ ∀ cs, rest = '=' :: cs → False) : (symbol s).goesOn rest = false := by
  cases rest with
  | nil => rfl
  | cons c cs =>
    rw [goesOn, Bool.and_eq_false_iff, beq_eq_false_iff_ne]
    rcases apart with whole | none
    · exact .inr whole
    · exact .inl fun same => none cs (same ▸ rfl)

theorem goesOn_of_splitSymbol? {cs rest : List Char} {s : Symbol} (h : splitSymbol? cs = some (s, rest)) :
    (symbol s).goesOn rest = false := by
  unfold splitSymbol? at h
  split at h <;> simp only [Option.some.injEq, Prod.mk.injEq, reduceCtorEq] at h
  -- Either nothing begins with the symbol, or the longer one was tried before it.
  all_goals
    obtain ⟨rfl, rfl⟩ := h
    first
    | exact goesOn_symbol (.inl rfl)
    | exact goesOn_symbol (.inr ‹_›)

/-- **What is read is a lexeme that ends there.** -/
theorem isProper_goesOn_of_next? {cs rest : List Char} {l : Lexeme} (h : next? cs = some (l, rest)) :
    l.IsProper ∧ l.goesOn rest = false := by
  unfold next? at h
  split at h
  · cases h
  · next c cs =>
    split at h
    · next digit =>
      cases h
      obtain ⟨all, ends⟩ := not_of_mem_takeWhile_dropWhile Char.isDigit cs
      refine ⟨⟨List.cons_ne_nil _ _, List.forall_mem_cons.mpr ⟨digit, all⟩⟩, ?_⟩
      unfold goesOn
      split <;> simp_all
    · split at h
      · next isMark =>
        obtain ⟨⟨body, after⟩, cut, same⟩ := Option.map_eq_some_iff.1 h
        cases same
        exact ⟨⟨isMark, (eq_of_cut? cut).2⟩, rfl⟩
      · split at h
        · split at h
          · next d ds =>
            split at h
            · next first =>
              cases h
              obtain ⟨all, ends⟩ := not_of_mem_takeWhile_dropWhile isNameChar ds
              refine ⟨⟨?_, ?_, List.cons_ne_nil _ _⟩, ?_⟩
              · rintro _ ⟨⟩
                exact first
              · exact List.forall_mem_cons.mpr ⟨by rw [isNameChar, first, Bool.true_or], all⟩
              · unfold goesOn
                split <;> simp_all
            · cases h
          · cases h
        · split at h
          · next first =>
            cases h
            exact ⟨⟨c, _, rfl, first, (isWordRest_splitWord [] cs).1⟩, (isWordRest_splitWord _ cs).2⟩
          · obtain ⟨⟨s, after⟩, split, same⟩ := Option.map_eq_some_iff.1 h
            cases same
            exact ⟨trivial, goesOn_of_splitSymbol? split⟩

/-- A lexeme begins neither with a blank nor with a dot. -/
theorem IsProper.exists_spelling {l : Lexeme} (proper : l.IsProper) :
    ∃ c cs, l.spelling = c :: cs ∧ isBlank c = false ∧ c ≠ '.' := by
  have named : ∀ {c : Char}, isNameChar c = true → isBlank c = false ∧ c ≠ '.' := by
    intro c name
    refine ⟨isBlank_of_isNameChar name, ?_⟩
    rintro rfl
    rw [not_isNameChar_dot] at name
    cases name
  cases l with
  | digits ds =>
    obtain ⟨some, all⟩ := proper
    obtain ⟨d, ds, rfl⟩ := List.exists_cons_of_ne_nil some
    exact ⟨d, ds, rfl, named (isNameChar_of_isDigit (all d List.mem_cons_self))⟩
  | quoted mark body =>
    refine ⟨mark, body ++ [mark], rfl, ?_⟩
    rcases proper.1 with rfl | rfl <;> decide
  | dollar name => exact ⟨'$', name, rfl, by decide⟩
  | word text =>
    obtain ⟨c, cs, rfl, first, -⟩ := proper
    exact ⟨c, cs, rfl, named (by rw [isNameChar, first, Bool.true_or])⟩
  | symbol s =>
    cases s <;> exact ⟨_, _, rfl, by decide⟩

/-- Whether a text goes on with a lexeme is decided by its first character, unless that is a dot. -/
theorem goesOn_cons (l : Lexeme) {c : Char} (notDot : c ≠ '.') (cs ds : List Char) :
    l.goesOn (c :: cs) = l.goesOn (c :: ds) := by
  cases l with
  | word text =>
    unfold goesOn
    split <;> simp_all
  | _ => rfl

/-- Only a symbol becomes one. -/
theorem exists_symbol_of_token {l : Lexeme} {s : Symbol} (means : l.token = .ok (.op s)) : l = .symbol s := by
  cases l with
  | digits ds =>
    rw [token] at means
    split at means <;> cases means
  | symbol t =>
    cases means
    rfl
  | _ => cases means

end Lexeme

/-! ## Tokens -/

namespace Token

/-- **The first lexeme comes off**, with the blanks in front of it. -/
theorem readAll_lexeme {bs rest : List Char} {l : Lexeme} (blank : ∀ b ∈ bs, isBlank b = true)
    (proper : l.IsProper) (ends : l.goesOn rest = false) :
    readAll (bs ++ (l.spelling ++ rest)) = do
      let token ← l.token
      let tokens ← readAll rest
      return token :: tokens := by
  obtain ⟨c, cs, begins, solid, -⟩ := proper.exists_spelling
  have front : dropBlanks (bs ++ (l.spelling ++ rest)) = l.spelling ++ rest := by
    rw [dropBlanks_append blank, dropBlanks_of_head]
    rw [begins]
    rintro _ ⟨⟩
    exact solid
  have first := Lexeme.next?_spelling_append proper ends
  rw [readAll]
  split
  · next none =>
    rw [front, begins] at none
    cases none
  · next d ds here =>
    rw [front] at here
    rw [here] at first
    split
    · next none => cases none.symm.trans first
    · next other after found =>
      cases found.symm.trans first
      rfl

theorem exists_of_prepend {first : Except Malformed Token} {others : Except Malformed (List Token)}
    {ts : List Token} (h : (do let t ← first; let us ← others; return t :: us) = Except.ok ts) :
    ∃ t us, ts = t :: us ∧ first = .ok t ∧ others = .ok us := by
  cases first with
  | error reason => cases h
  | ok t =>
    cases others with
    | error reason => cases h
    | ok us =>
      cases h
      exact ⟨t, us, rfl, rfl, rfl⟩

/-- The tokens of a text that begins with a lexeme are its token and those of the rest. -/
theorem exists_of_readAll_lexeme {bs rest : List Char} {l : Lexeme} {ts : List Token}
    (blank : ∀ b ∈ bs, isBlank b = true) (proper : l.IsProper) (ends : l.goesOn rest = false)
    (read : readAll (bs ++ (l.spelling ++ rest)) = .ok ts) :
    ∃ t us, ts = t :: us ∧ l.token = .ok t ∧ readAll rest = .ok us := by
  rw [readAll_lexeme blank proper ends] at read
  exact exists_of_prepend read

theorem readAll_of_blanks {cs : List Char} (blank : ∀ c ∈ cs, isBlank c = true) : readAll cs = .ok [] := by
  refine readAll_of_blank ?_
  rw [← List.append_nil cs, dropBlanks_append blank]
  rfl

/-- The tokens are those of lexemes that stand in the text one behind the other, with nothing but blanks
around them. -/
inductive Reads : List Char → List Token → Prop where
  | blank {cs : List Char} (blank : ∀ c ∈ cs, isBlank c = true) : Reads cs []
  | lexeme {bs rest : List Char} {l : Lexeme} {t : Token} {ts : List Token}
      (blank : ∀ b ∈ bs, isBlank b = true) (proper : l.IsProper) (ends : l.goesOn rest = false)
      (means : l.token = .ok t) (others : Reads rest ts) : Reads (bs ++ (l.spelling ++ rest)) (t :: ts)

theorem Reads.readAll_eq {cs : List Char} {ts : List Token} (h : Reads cs ts) : readAll cs = .ok ts := by
  induction h with
  | blank blank => exact readAll_of_blanks blank
  | lexeme blank proper ends means others ih =>
    rw [readAll_lexeme blank proper ends, means, ih]
    rfl

theorem reads_of_readAll {cs : List Char} {ts : List Token} (h : readAll cs = .ok ts) : Reads cs ts := by
  fun_induction readAll cs generalizing ts with
  | case1 cs none =>
    cases h
    obtain ⟨bs, blank, split⟩ := exists_append_dropBlanks cs
    rw [none, List.append_nil] at split
    exact .blank (split ▸ blank)
  | case2 cs c rest here none => cases h
  | case3 cs c rest here l after first ih =>
    obtain ⟨bs, blank, split⟩ := exists_append_dropBlanks cs
    obtain ⟨proper, ends⟩ := Lexeme.isProper_goesOn_of_next? first
    obtain ⟨t, us, rfl, means, others⟩ := exists_of_prepend h
    rw [split, here, ← Lexeme.append_of_next? first]
    exact .lexeme blank proper ends means (ih others)

/-- A text is made of lexemes and blanks exactly if its tokens can be read. -/
theorem readAll_eq_ok_iff {cs : List Char} {ts : List Token} : readAll cs = .ok ts ↔ Reads cs ts :=
  ⟨reads_of_readAll, Reads.readAll_eq⟩

/-- A dollar sign begins a variable. -/
theorem exists_var_of_readAll {cs : List Char} {ts : List Token} (read : readAll ('$' :: cs) = .ok ts) :
    ∃ name us, ts = .var name :: us := by
  generalize whole : '$' :: cs = text at read
  cases reads_of_readAll read with
  | blank blank =>
    rw [← whole] at blank
    exact absurd (blank '$' List.mem_cons_self) (by decide)
  | @lexeme bs rest l t us blank proper ends means others =>
    cases bs with
    | cons b bs =>
      rw [List.cons_append, List.cons.injEq] at whole
      have no := blank b List.mem_cons_self
      rw [← whole.1] at no
      exact absurd no (by decide)
    | nil =>
      -- The dollar sign is the first character of the lexeme, and of the readers only one takes it.
      have first := Lexeme.next?_spelling_append proper ends
      rw [List.nil_append] at whole
      rw [← whole] at first
      unfold Lexeme.next? at first
      dsimp only at first
      rw [if_neg (by decide), if_neg (by decide), if_pos rfl] at first
      split at first
      · split at first
        · cases first
          cases means
          exact ⟨_, us, rfl⟩
        · cases first
      · cases first

/-! ## Written integers -/

/-- The tokens that the text of an integer is read as; the amount comes without its sign. -/
def ofWritten (i : Int64) : Except Malformed (List Token) := do
  let amount ← (Lexeme.digits (Nat.toDigits 10 i.toInt.natAbs)).token
  return if i.toInt < 0 then [.op .minus, amount] else [amount]

/-- The least integer is below zero by more than any integer is above, so its text has no tokens. -/
theorem ofWritten_minValue : ofWritten Int64.minValue = .error .literalTooLarge := by
  have beyond : Decimal.ofInt? (Int64.minValue.toInt.natAbs : Int) = none :=
    Decimal.ofInt?_eq_none_iff.mpr (.inr (by decide))
  rw [ofWritten, Lexeme.token, Decimal.readInt?_toDigits, beyond]
  rfl

/-- Any other integer is its amount, with a minus sign in front below zero. -/
theorem exists_ofWritten {i : Int64} (other : i ≠ Int64.minValue) :
    i.toInt < 0 ∧ (∃ j : Int64, j.toInt = -i.toInt ∧ ofWritten i = .ok [.op .minus, .int j]) ∨
      ¬ i.toInt < 0 ∧ ofWritten i = .ok [.int i] := by
  have least : Int64.minValue.toInt < i.toInt := by
    have le := Int64.minValue_le_toInt i
    have ne : Int64.minValue.toInt ≠ i.toInt := fun same => other (Int64.toInt_inj.mp same).symm
    change Int64.minValue.toInt ≤ _ at le
    omega
  have most : i.toInt ≤ Int64.maxValue.toInt := Int64.toInt_le i
  have fits : Decimal.ofInt? (i.toInt.natAbs : Int) ≠ none := by
    rw [ne_eq, Decimal.ofInt?_eq_none_iff]
    have ends : Int64.minValue.toInt = -Int64.maxValue.toInt - 1 := by decide
    omega
  obtain ⟨j, amount⟩ := Option.ne_none_iff_exists'.mp fits
  have token : (Lexeme.digits (Nat.toDigits 10 i.toInt.natAbs)).token = .ok (.int j) := by
    rw [Lexeme.token, Decimal.readInt?_toDigits, amount]
  rw [Decimal.ofInt?_eq_some_iff] at amount
  by_cases negative : i.toInt < 0
  · refine .inl ⟨negative, j, by omega, ?_⟩
    rw [ofWritten, token]
    exact congrArg Except.ok (if_pos negative)
  · have same : j = i := Int64.toInt_inj.mp (by omega)
    refine .inr ⟨negative, ?_⟩
    rw [ofWritten, token, same]
    exact congrArg Except.ok (if_neg negative)

/-- **A written integer is read** in front of everything that does not go on with its digits. -/
theorem readAll_write {bs rest : List Char} (i : Int64) (blank : ∀ b ∈ bs, isBlank b = true)
    (ends : ∀ ds, (Lexeme.digits ds).goesOn rest = false) :
    readAll (bs ++ ((Decimal.write i).toList ++ rest)) = do
      let front ← ofWritten i
      let behind ← readAll rest
      return front ++ behind := by
  have proper : (Lexeme.digits (Nat.toDigits 10 i.toInt.natAbs)).IsProper :=
    ⟨Nat.toDigits_ne_nil, fun _ => Decimal.isDigit_of_mem_toDigits⟩
  rw [Decimal.toList_write, ofWritten]
  split
  · have minus : (Lexeme.symbol .minus).goesOn (Nat.toDigits 10 i.toInt.natAbs ++ rest) = false :=
      Lexeme.goesOn_symbol (.inl rfl)
    have amount : readAll ([] ++ ((Lexeme.digits (Nat.toDigits 10 i.toInt.natAbs)).spelling ++ rest)) = _ :=
      readAll_lexeme (List.forall_mem_nil _) proper (ends _)
    change readAll (Nat.toDigits 10 i.toInt.natAbs ++ rest) = _ at amount
    change readAll (bs ++ ((Lexeme.symbol .minus).spelling ++ (Nat.toDigits 10 i.toInt.natAbs ++ rest))) = _
    rw [readAll_lexeme blank (l := .symbol .minus) trivial minus, amount]
    cases (Lexeme.digits (Nat.toDigits 10 i.toInt.natAbs)).token with
    | error reason => rfl
    | ok t => cases readAll rest <;> rfl
  · change readAll (bs ++ ((Lexeme.digits (Nat.toDigits 10 i.toInt.natAbs)).spelling ++ rest)) = _
    rw [readAll_lexeme blank proper (ends _)]
    cases (Lexeme.digits (Nat.toDigits 10 i.toInt.natAbs)).token with
    | error reason => rfl
    | ok t => cases readAll rest <;> rfl

theorem readAll_write_alone (i : Int64) : readAll (Decimal.write i).toList = ofWritten i := by
  have read : readAll ([] ++ ((Decimal.write i).toList ++ [])) = _ :=
    readAll_write i (List.forall_mem_nil _) fun ds => Lexeme.goesOn_nil (.digits ds)
  have nothing : readAll [] = .ok [] := readAll_of_blanks (List.forall_mem_nil _)
  rw [List.nil_append, List.append_nil, nothing] at read
  rw [read]
  cases ofWritten i with
  | error reason => rfl
  | ok front => exact congrArg Except.ok (List.append_nil front)

end Token

end Colloquy.Expr
