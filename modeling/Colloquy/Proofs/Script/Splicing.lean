import Colloquy.Proofs.Script.Blocks
import Colloquy.Proofs.Script.Deed

/-!
# Splicing a variable into an expression

An expression in an attribute can use a variable in two ways.  It can name it, `$a`, and then evaluation looks its
value up; or it can splice it in, `{$a}`, and then the text of its value is part of the expression before the
expression is read.  For a variable that holds an integer the two mean the same, wherever in the expression the
variable stands (`Site.splicing_is_naming`), except for the least integer, whose text is no expression at all.

The proof follows the text from left to right three times: through its blocks, which leave the text of the integer
in the place of each (`Splices.exists_expands`); through its lexemes, where nothing around a replaced variable is
read differently (`Splices.goesOn_eq_false`); and through the phrase, which is `Phrase.exists_restated`.

### What is load-bearing

What is spliced in begins with a digit or a minus sign, where the variable began with a dollar sign, so it could
run together with what stands in front of it, as `1$a` would become `12`.  It does not, because in an expression
only symbols stand directly in front of a variable (`Phrase.alternate`), and no symbol goes on with a digit or
with a minus sign.

## Main definitions

* `Expr.Splices`: a text, and the same text with some of its variables of a name replaced.
* `Scope.reckon`: an expression as attributes are processed.
-/

namespace Colloquy

open Text

namespace Expr

/-- The second text is the first with `body` in the place of as many of its tokens `$name`. -/
inductive Splices (name body : List Char) : Nat → List Char → List Char → Prop where
  | blank {cs : List Char} (blank : ∀ c ∈ cs, isBlank c = true) : Splices name body 0 cs cs
  | keep {k : Nat} {bs rest rest' : List Char} {l : Lexeme} (blank : ∀ b ∈ bs, isBlank b = true)
      (proper : l.IsProper) (ends : l.goesOn rest = false) (later : Splices name body k rest rest') :
      Splices name body k (bs ++ (l.spelling ++ rest)) (bs ++ (l.spelling ++ rest'))
  | splice {k : Nat} {bs rest rest' : List Char} (blank : ∀ b ∈ bs, isBlank b = true) (proper : IsName name)
      (ends : (Lexeme.dollar name).goesOn rest = false) (later : Splices name body k rest rest') :
      Splices name body (k + 1) (bs ++ ((Lexeme.dollar name).spelling ++ rest)) (bs ++ (body ++ rest'))

/-- The block that splices a variable in. -/
def blockOf (name : List Char) : List Char := '\x7b' :: ('$' :: name ++ ['\x7d'])

namespace Splices

variable {name : List Char} {k : Nat} {rest rest' : List Char}

/-- A lexeme that ends in front of the text ends in front of the replaced text; only a symbol may stand directly in
front of a variable. -/
theorem goesOn_eq_false {l : Lexeme} {c : Char} {ds : List Char} (h : Splices name (c :: ds) k rest rest')
    (starts : c ≠ '=') (ends : l.goesOn rest = false)
    (apart : ∀ cs, rest = '$' :: cs → ∃ s, l = .symbol s) : l.goesOn rest' = false := by
  cases h with
  | blank => exact ends
  | @keep _ bs _ _ m blank proper _ _ =>
    cases bs with
    | cons b bs => exact l.goesOn_of_isBlank (blank b List.mem_cons_self) _
    | nil =>
      -- The lexeme behind is kept, and its first character decides.
      obtain ⟨e, es, spelling, -, notDot⟩ := proper.exists_spelling
      rw [List.nil_append, spelling, List.cons_append] at ends ⊢
      rw [l.goesOn_cons notDot _ (es ++ _)]
      exact ends
  | @splice _ bs _ _ blank proper _ _ =>
    cases bs with
    | cons b bs => exact l.goesOn_of_isBlank (blank b List.mem_cons_self) _
    | nil =>
      obtain ⟨s, rfl⟩ := apart _ rfl
      refine Lexeme.goesOn_symbol (.inr ?_)
      rintro _ ⟨⟩
      exact starts rfl

/-- In an expression only a symbol stands directly in front of a variable. -/
theorem exists_symbol {l : Lexeme} {t : Token} {ts : List Token} (means : l.token = .ok t)
    (others : Token.readAll rest = .ok ts) (alternate : Token.Alternate (t :: ts)) {ds : List Char}
    (var : rest = '$' :: ds) : ∃ s, l = .symbol s := by
  rw [var] at others
  obtain ⟨name, us, rfl⟩ := Token.exists_var_of_readAll others
  rcases alternate.1 with symbol | no
  · cases t with
    | op s => exact ⟨s, Lexeme.exists_symbol_of_token means⟩
    | _ => cases symbol
  · cases no

end Splices

/-! ## Reading what was spliced -/

section

variable {name : List Char} {i : Int64} (setting : Setting)

/-- The text of an integer begins with a digit or a minus sign. -/
theorem exists_write (i : Int64) : ∃ c ds, (Decimal.write i).toList = c :: ds ∧ c ≠ '=' := by
  rw [Decimal.toList_write]
  split
  · exact ⟨_, _, rfl, by decide⟩
  · obtain ⟨d, ds, split⟩ := List.exists_cons_of_ne_nil (Nat.toDigits_ne_nil (n := i.toInt.natAbs) (b := 10))
    refine ⟨d, ds, split, ?_⟩
    have digit := Decimal.isDigit_of_mem_toDigits (c := d) (n := i.toInt.natAbs)
      (by rw [split]; exact List.mem_cons_self)
    rintro rfl
    cases digit

/-- The tokens of an integer restate a variable that holds it. -/
theorem Restates.exists_written (holds : setting.valueOf (String.ofList name) = .int i)
    (other : i ≠ Int64.minValue) :
    ∃ front, Token.ofWritten i = .ok front ∧ ∀ {ts us}, Restates setting setting ts us →
      Restates setting setting (front ++ ts) (.var (String.ofList name) :: us) := by
  rcases Token.exists_ofWritten other with ⟨-, j, opposite, tokens⟩ | ⟨-, tokens⟩
  · exact ⟨_, tokens, .negative holds opposite⟩
  · exact ⟨_, tokens, .literal holds⟩

/-- **What was spliced restates what was named**, unless the least integer was spliced in; then there is a literal
that is too large. -/
theorem Splices.readAll_out {k : Nat} {cs out : List Char}
    (h : Splices name (Decimal.write i).toList k cs out) {ts : List Token} (read : Token.readAll cs = .ok ts)
    (alternate : Token.Alternate ts) (holds : setting.valueOf (String.ofList name) = .int i) :
    (i ≠ Int64.minValue ∨ k = 0 → ∃ us, Token.readAll out = .ok us ∧ Restates setting setting us ts) ∧
      (i = Int64.minValue → 0 < k → Token.readAll out = .error .literalTooLarge) := by
  obtain ⟨c, ds, begins, starts⟩ := exists_write i
  induction h generalizing ts with
  | blank blank => exact ⟨fun _ => ⟨ts, read, .of_agree fun _ _ => rfl⟩, fun _ => nofun⟩
  | @keep k bs rest rest' l blank proper ends later ih =>
    obtain ⟨t, us, rfl, means, others⟩ := Token.exists_of_readAll_lexeme blank proper ends read
    obtain ⟨fits, beyond⟩ := ih others alternate.tail
    rw [begins] at later
    have ends' := later.goesOn_eq_false starts ends fun _ => exists_symbol means others alternate
    rw [Token.readAll_lexeme blank proper ends', means]
    refine ⟨fun within => ?_, fun least some => ?_⟩
    · obtain ⟨vs, read', restates⟩ := fits within
      rw [read']
      exact ⟨t :: vs, rfl, .keep (fun _ _ => rfl) restates⟩
    · rw [beyond least some]
      rfl
  | @splice k bs rest rest' blank proper ends later ih =>
    obtain ⟨t, us, rfl, means, others⟩ :=
      Token.exists_of_readAll_lexeme (l := .dollar name) blank proper ends read
    cases means
    obtain ⟨fits, -⟩ := ih others alternate.tail
    rw [begins] at later
    -- What ends the variable's name ends the digits in its place.
    have digitsEnd : ∀ es, (Lexeme.digits es).goesOn rest = false := by
      intro es
      cases rest with
      | nil => rfl
      | cons d rest =>
        change isNameChar d = false at ends
        rw [isNameChar, Bool.or_eq_false_iff] at ends
        exact ends.2
    have apart : ∀ cs, rest = '$' :: cs → False := by
      intro cs var
      obtain ⟨s, no⟩ := exists_symbol (l := .dollar name) rfl others alternate var
      cases no
    have digitsEnd' : ∀ es, (Lexeme.digits es).goesOn rest' = false := fun es =>
      later.goesOn_eq_false starts (digitsEnd es) fun cs var => (apart cs var).elim
    rw [Token.readAll_write i blank digitsEnd']
    refine ⟨fun within => ?_, fun least _ => ?_⟩
    · have other : i ≠ Int64.minValue := within.resolve_right (Nat.succ_ne_zero k)
      obtain ⟨vs, read', restates⟩ := fits (.inl other)
      obtain ⟨front, tokens, written⟩ := Restates.exists_written setting holds other
      rw [read', tokens]
      exact ⟨_, rfl, written restates⟩
    · rw [least, Token.ofWritten_minValue]
      rfl

end

end Expr

/-! ## Replacing the blocks -/

open Colloquy.Expr Template

/-- Replacing the blocks leaves the variable's text in the place of each. -/
theorem Expr.Splices.exists_expands {name : List Char} {k : Nat} {cs cs' : List Char} (s : Scope)
    (h : Splices name (blockOf name) k cs cs') (plain : ∀ c ∈ cs, isPlain c = true) :
    ∃ out, Splices name (s.value (String.ofList name)).toText.toList k cs out ∧ s.Expands cs' out := by
  induction h with
  | blank blank => exact ⟨_, .blank blank, .plain plain⟩
  | keep blank proper ends later ih =>
    simp only [List.forall_mem_append] at plain
    obtain ⟨out, splices, expands⟩ := ih plain.2.2
    exact ⟨_, .keep blank proper ends splices,
      (Scope.Expands.plain plain.1).append ((Scope.Expands.plain plain.2.1).append expands)⟩
  | splice blank proper ends later ih =>
    simp only [List.forall_mem_append] at plain
    obtain ⟨out, splices, expands⟩ := ih plain.2.2
    have block : s.Expands (blockOf name) (s.value (String.ofList name)).toText.toList :=
      .variable_block (fun c among => isPlain_of_isNameChar (proper.all c among))
        (isTrimmed_of_solid fun c among => isBlank_of_isNameChar (proper.all c among))
    exact ⟨_, .splice blank proper ends splices, (Scope.Expands.plain plain.1).append (block.append expands)⟩

/-! ## Expressions in attributes -/

namespace Scope

variable {ρ : Type} [PatientSource ρ] (s : Scope)

/-- The value of an expression as attributes are processed: its blocks are replaced, and then it is evaluated. -/
def reckon (text : String) : Draw ρ Operand := do
  let text ← s.translate text
  let x ← s.evaluate text
  return x

theorem reckon_plain {text : String} (plain : ∀ c ∈ text.toList, isPlain c = true) (r : ρ) :
    (s.reckon text).run.run r = (s.evaluate text, r) := by
  rw [reckon, s.translate_plain plain, pure_bind]
  cases s.evaluate text <;> rfl

end Scope

namespace Site

variable {ρ : Type} [PatientSource ρ] (site : Site) {n : Node} {text : String}

theorem test_eq_reckon (given : n.attribute? "test" = some text) :
    (site.test n : Draw ρ Operand) = site.scope.reckon text := by
  rw [test, Site.text, text?, given]
  simp only [bind_assoc, pure_bind]
  rfl

/-- The integer that a value is. -/
def integerOf (n : Node) (name : String) : Operand → Draw ρ (Option Int64)
  | .int i => return some i
  | other => throw (.attributeKind name n.describe other.text)

theorem integer?_eq_reckon {name : String} (given : n.attribute? name = some text) :
    (site.integer? n name : Draw ρ (Option Int64)) = site.scope.reckon text >>= integerOf n name := by
  rw [integer?, text?, given, Scope.reckon]
  simp only [bind_assoc, pure_bind]
  refine congrArg _ (funext fun text => congrArg _ (funext fun x => ?_))
  cases x <;> rfl

variable {m : Node} {r : ρ}

/-- Two computations draw nothing, and what they come to concurs. -/
def ConcurAt (r : ρ) {α : Type} (d d' : Draw ρ α) : Prop :=
  ∃ x y, d.run.run r = (x, r) ∧ d'.run.run r = (y, r) ∧ Concurs x y

/-- Values that concur are integers alike, or fail alike to be integers. -/
theorem concurAt_integer? {named spliced name : String}
    (concur : ConcurAt r (site.scope.reckon spliced) (site.scope.reckon named))
    (given : n.attribute? name = some spliced) (given' : m.attribute? name = some named) :
    ConcurAt r (site.integer? n name) (site.integer? m name) := by
  obtain ⟨x, y, runs, runs', concurs⟩ := concur
  rw [integer?_eq_reckon site given, integer?_eq_reckon site given', ConcurAt, Draw.run_bind, Draw.run_bind, runs,
    runs']
  cases concurs with
  | error code => exact ⟨_, _, rfl, rfl, .error code⟩
  | ok x =>
    cases x with
    | int i => exact ⟨_, _, rfl, rfl, .ok _⟩
    | _ => exact ⟨_, _, rfl, rfl, .error rfl⟩

/-- **Splicing an integer is naming it.**  In an expression without braces, some of the tokens that name a variable
are replaced by the block that splices it in.  If the variable holds an integer other than the least one, the two
expressions come to the same value or to faults of one code, by themselves, as the integer of an attribute and as a
condition; and the text of the integer comes to the integer.  The least integer is not read back from its text, and
an expression into which it is spliced is malformed. -/
theorem splicing_is_naming {name : List Char} {k : Nat} {named spliced : String} {i : Int64}
    {p : Phrase (.chain .either)} (holds : site.scope.value (String.ofList name) = .int i)
    (grammatical : Token.readAll named.toList = .ok p.tokens) (plain : ∀ c ∈ named.toList, isPlain c = true)
    (splices : Splices name (blockOf name) k named.toList spliced.toList) :
    (i ≠ Int64.minValue ∨ k = 0 → ∀ r : ρ,
      (∃ x, (site.scope.reckon spliced).run.run r = (x, r) ∧ Concurs x (site.scope.evaluate named)) ∧
      (∀ (n m : Node) (key : String), n.attribute? key = some spliced → m.attribute? key = some named →
        ConcurAt r (site.integer? n key) (site.integer? m key)) ∧
      ∀ n m : Node, n.attribute? "test" = some spliced → m.attribute? "test" = some named →
        ConcurAt r (site.test n) (site.test m)) ∧
    (i = Int64.minValue → 0 < k → ∀ r : ρ,
      ∃ fault, (site.scope.reckon spliced).run.run r = (.error fault, r) ∧ fault.code = "EXPR_MALFORMED") ∧
    (site.scope.evaluate (Decimal.write i) = .ok (.int i) ↔ i ≠ Int64.minValue) := by
  obtain ⟨out, splices', expands⟩ := splices.exists_expands site.scope plain
  rw [holds] at splices'
  have translated (r : ρ) :
      (site.scope.reckon spliced).run.run r = (site.scope.evaluate (String.ofList out), r) := by
    rw [Scope.reckon, expands.translate_eq, pure_bind]
    cases site.scope.evaluate (String.ofList out) <;> rfl
  obtain ⟨fits, beyond⟩ := splices'.readAll_out site.scope.setting grammatical p.alternate holds
  refine ⟨fun within r => ?concur, fun least some r => ?least, ?back⟩
  case concur =>
    obtain ⟨us, read, restates⟩ := fits within
    have concurs : Concurs (site.scope.evaluate (String.ofList out)) (site.scope.evaluate named) :=
      concurs_of_restates rfl (by rw [String.toList_ofList]; exact read) grammatical restates
    have concur : ConcurAt r (site.scope.reckon spliced) (site.scope.reckon named) :=
      ⟨_, _, translated r, site.scope.reckon_plain plain r, concurs⟩
    refine ⟨⟨_, translated r, concurs⟩, fun n m key given given' => ?_, fun n m given given' => ?_⟩
    · exact site.concurAt_integer? concur given given'
    · rw [site.test_eq_reckon given, site.test_eq_reckon given']
      exact concur
  case least =>
    rw [translated r, Scope.evaluate, evaluate, String.toList_ofList, beyond least some]
    exact ⟨_, rfl, rfl⟩
  case back =>
    refine ⟨fun back least => ?_, fun other => evaluate_write _ other⟩
    rw [Scope.evaluate, least, evaluate_write_minValue] at back
    cases back

/-! ## A debt -/

/-- A script whose variable `a` holds this. -/
def owing (i : Int64) : Site := ⟨default, default, Scope.initial.assign "a" (.int i)⟩

theorem readAll_minus_a : Token.readAll "-$a".toList =
    .ok (Phrase.ofSigned (.sign .minus rfl (.plain (.var "a")))).tokens :=
  Token.readAll_of_next? rfl rfl (Token.readAll_of_next? rfl rfl (Token.readAll_of_blank rfl))

theorem splices_minus_a : Splices ['a'] (blockOf ['a']) 1 "-$a".toList "-\x7b$a\x7d".toList := by
  have named : IsName ['a'] := by decide
  have nothing : Splices ['a'] (blockOf ['a']) 0 [] [] := .blank (List.forall_mem_nil _)
  have variable_ : Splices ['a'] (blockOf ['a']) 1 ([] ++ (['$', 'a'] ++ [])) ([] ++ (blockOf ['a'] ++ [])) :=
    .splice (List.forall_mem_nil _) named rfl nothing
  exact @Splices.keep _ _ 1 [] ['$', 'a'] (blockOf ['a']) (.symbol .minus) (List.forall_mem_nil _) trivial rfl
    variable_

/-- A debt of five is spliced in behind a minus sign of the expression. -/
theorem splicing_is_naming_debt : ∃ x,
    ((owing (-5)).scope.reckon "-\x7b$a\x7d").run.run (⟨[]⟩ : Listed) = (x, ⟨[]⟩) ∧
      Concurs x ((owing (-5)).scope.evaluate "-$a") :=
  have plain : ∀ c ∈ "-$a".toList, isPlain c = true := List.all_eq_true.mp rfl
  ((@splicing_is_naming Listed _ (owing (-5)) ['a'] 1 "-$a" "-\x7b$a\x7d" (-5) _ rfl readAll_minus_a plain
    splices_minus_a).1 (.inl (by decide)) ⟨[]⟩).1

/-- The least integer cannot be spliced in, although it can be named: `{$a}` is malformed where `$a` is the integer
itself. -/
theorem least_integer_is_not_spliced :
    (owing Int64.minValue).scope.evaluate "$a" = .ok (.int Int64.minValue) ∧
      ∃ fault, ((owing Int64.minValue).scope.reckon "\x7b$a\x7d").run.run (⟨[]⟩ : Listed) =
        (.error fault, ⟨[]⟩) ∧ fault.code = "EXPR_MALFORMED" := by
  have named : Token.readAll "$a".toList = .ok (Phrase.ofSigned (.plain (.var "a"))).tokens :=
    Token.readAll_of_next? rfl rfl (Token.readAll_of_blank rfl)
  constructor
  · rw [Scope.evaluate, evaluate_of_phrase _ named]
    rfl
  · have translated : ((owing Int64.minValue).scope.translate "\x7b$a\x7d" : Draw Listed String) =
        pure (Decimal.write Int64.minValue) := rfl
    rw [Scope.reckon, translated, pure_bind, Scope.evaluate, evaluate_write_minValue]
    exact ⟨_, rfl, rfl⟩

end Site

end Colloquy
