import Colloquy.Expr.Token
import Colloquy.Text.Trim

/-!
# Reading tokens

Blanks separate tokens and are needed only where two tokens would otherwise run together: a lexeme is
always the longest one that begins at its first character.

## Main definitions

* `Lexeme`: the written form of a token, with `Lexeme.spelling`.
* `Lexeme.next?`: the lexeme at the front of a text.
* `Token.readAll`: the tokens of a whole text, or the first reason why there are none.

`append_of_next?` says that a lexeme's spelling and the rest are the text, so nothing is skipped.
-/

namespace Colloquy.Expr

open Text

/-- A letter of the alphabet of names, which is ASCII, or an underscore. -/
def isNameStart (c : Char) : Bool := c.isAlpha || c == '_'

/-- A character of a name behind its first. -/
def isNameChar (c : Char) : Bool := isNameStart c || c.isDigit

/-- The written form of a token. -/
inductive Lexeme where
  | digits (ds : List Char)
  | quoted (mark : Char) (body : List Char)
  | dollar (name : List Char)
  | word (text : List Char)
  | symbol (s : Symbol)
  deriving DecidableEq

namespace Lexeme

/-- The characters of the lexeme. -/
def spelling : Lexeme → List Char
  | digits ds => ds
  | quoted mark body => mark :: body ++ [mark]
  | dollar name => '$' :: name
  | word text => text
  | symbol s => s.text.toList

/-- The token of the lexeme; only an integer beyond the 64-bit range has none. -/
def token : Lexeme → Except Malformed Token
  | digits ds =>
    match Decimal.readInt? ds with
    | some i => .ok (.int i)
    | none => .error .literalTooLarge
  | quoted _ body => .ok (.str (String.ofList body))
  | dollar name => .ok (.var (String.ofList name))
  | word text => .ok (.word (String.ofList text))
  | symbol s => .ok (.op s)

/-- The rest of a word and what follows it.  A dot belongs to the word only with a character of a
name behind it. -/
def splitWord : List Char → List Char × List Char
  | [] => ([], [])
  | '.' :: c :: cs =>
    if isNameChar c then
      let parts := splitWord cs
      ('.' :: c :: parts.1, parts.2)
    else ([], '.' :: c :: cs)
  | c :: cs =>
    if isNameChar c then
      let parts := splitWord cs
      (c :: parts.1, parts.2)
    else ([], c :: cs)

theorem splitWord_append (cs : List Char) : (splitWord cs).1 ++ (splitWord cs).2 = cs := by
  fun_induction splitWord cs <;> simp_all +zetaDelta

/-- The symbol at the front, the longer of two that both stand there. -/
def splitSymbol? : List Char → Option (Symbol × List Char)
  | '=' :: '=' :: cs => some (.eq2, cs)
  | '!' :: '=' :: cs => some (.ne, cs)
  | '<' :: '=' :: cs => some (.le, cs)
  | '>' :: '=' :: cs => some (.ge, cs)
  | '&' :: '&' :: cs => some (.and, cs)
  | '|' :: '|' :: cs => some (.or, cs)
  | '=' :: cs => some (.eq, cs)
  | '<' :: cs => some (.lt, cs)
  | '>' :: cs => some (.gt, cs)
  | '+' :: cs => some (.plus, cs)
  | '-' :: cs => some (.minus, cs)
  | '*' :: cs => some (.times, cs)
  | '/' :: cs => some (.slash, cs)
  | '(' :: cs => some (.left, cs)
  | ')' :: cs => some (.right, cs)
  | '!' :: cs => some (.not, cs)
  | ',' :: cs => some (.comma, cs)
  | _ => none

theorem append_of_splitSymbol? {cs rest : List Char} {s : Symbol}
    (h : splitSymbol? cs = some (s, rest)) : s.text.toList ++ rest = cs := by
  unfold splitSymbol? at h
  split at h <;> simp only [Option.some.injEq, Prod.mk.injEq, reduceCtorEq] at h
  all_goals
    obtain ⟨rfl, rfl⟩ := h
    rfl

/-- The lexeme at the front of a text that does not begin with a blank, and the text behind it. -/
def next? : List Char → Option (Lexeme × List Char)
  | [] => none
  | c :: cs =>
    if c.isDigit then some (digits (c :: cs.takeWhile Char.isDigit), cs.dropWhile Char.isDigit)
    else if c = '"' ∨ c = '\'' then
      (cut? c cs).map fun parts => (quoted c parts.1, parts.2)
    else if c = '$' then
      match cs with
      | d :: ds =>
        if isNameStart d then
          some (dollar (d :: ds.takeWhile isNameChar), ds.dropWhile isNameChar)
        else none
      | [] => none
    else if isNameStart c then
      let parts := splitWord cs
      some (word (c :: parts.1), parts.2)
    else (splitSymbol? (c :: cs)).map fun parts => (symbol parts.1, parts.2)

/-- The spelling of the lexeme is what was taken off the text. -/
theorem append_of_next? {cs rest : List Char} {l : Lexeme} (h : next? cs = some (l, rest)) :
    l.spelling ++ rest = cs := by
  unfold next? at h
  split at h
  · simp at h
  · next c cs =>
    split at h
    · cases h
      simp [spelling, List.takeWhile_append_dropWhile]
    · split at h
      · obtain ⟨⟨a, b⟩, hab, he⟩ := Option.map_eq_some_iff.1 h
        cases he
        simp [spelling, (eq_of_cut? hab).1]
      · split at h
        · next hc =>
          split at h
          · split at h
            · cases h
              simp [spelling, hc, List.takeWhile_append_dropWhile]
            · simp at h
          · simp at h
        · split at h
          · cases h
            simp [spelling, splitWord_append]
          · obtain ⟨⟨a, b⟩, hab, he⟩ := Option.map_eq_some_iff.1 h
            cases he
            exact append_of_splitSymbol? hab

theorem Symbol.text_ne_nil (s : Symbol) : s.text.toList ≠ [] := by
  cases s <;> decide

/-- A lexeme takes at least one character. -/
theorem spelling_ne_nil_of_next? {cs rest : List Char} {l : Lexeme}
    (h : next? cs = some (l, rest)) : l.spelling ≠ [] := by
  unfold next? at h
  split at h
  · simp at h
  · split at h
    · cases h; simp [spelling]
    · split at h
      · obtain ⟨_, _, he⟩ := Option.map_eq_some_iff.1 h
        cases he; simp [spelling]
      · split at h
        · split at h
          · split at h
            · cases h; simp [spelling]
            · simp at h
          · simp at h
        · split at h
          · cases h; simp [spelling]
          · obtain ⟨a, _, he⟩ := Option.map_eq_some_iff.1 h
            cases he
            exact Symbol.text_ne_nil a.1

theorem length_of_next? {cs rest : List Char} {l : Lexeme} (h : next? cs = some (l, rest)) :
    rest.length < cs.length := by
  have hs := spelling_ne_nil_of_next? h
  rw [← append_of_next? h, List.length_append]
  have := List.length_pos_iff.2 hs
  omega

end Lexeme

theorem length_dropBlanks_le (cs : List Char) : (dropBlanks cs).length ≤ cs.length :=
  List.IsSuffix.length_le (List.dropWhile_suffix _)

/-- The tokens of a text in order.  Reading stops at the first lexeme without a token and at the
first place where no lexeme begins. -/
def Token.readAll (cs : List Char) : Except Malformed (List Token) :=
  match _hd : dropBlanks cs with
  | [] => .ok []
  | c :: rest =>
    match _hn : Lexeme.next? (c :: rest) with
    | none => .error (.unreadable (String.ofList (trimChars (c :: rest))))
    | some (lexeme, after) => do
      let token ← lexeme.token
      let tokens ← Token.readAll after
      return token :: tokens
termination_by cs.length
decreasing_by
  have h₁ := Lexeme.length_of_next? _hn
  have h₂ := length_dropBlanks_le cs
  rw [_hd] at h₂
  omega

namespace Token

theorem readAll_of_blank {cs : List Char} (blank : dropBlanks cs = []) : readAll cs = .ok [] := by
  unfold readAll
  split
  · rfl
  · next c rest begins =>
    rw [blank] at begins
    cases begins

/-- The token of the first lexeme comes before those of the rest. -/
theorem readAll_of_next? {cs after : List Char} {lexeme : Lexeme} {t : Token} {ts : List Token}
    (first : Lexeme.next? (dropBlanks cs) = some (lexeme, after)) (means : lexeme.token = .ok t)
    (others : readAll after = .ok ts) : readAll cs = .ok (t :: ts) := by
  rw [readAll]
  split
  · next blank =>
    rw [blank] at first
    cases first
  · next c rest begins =>
    rw [begins] at first
    split
    · next none => cases none.symm.trans first
    · next other later found =>
      cases found.symm.trans first
      rw [means, others]
      rfl

end Token

end Colloquy.Expr
