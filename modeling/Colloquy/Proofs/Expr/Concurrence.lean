import Colloquy.Proofs.Expr.Lexing
import Colloquy.Proofs.Expr.Meaning

/-!
# Expressions that come to the same

Two results concur if they are one value, or faults of one code.  What an expression comes to depends on its
setting only through the variables in its tokens, so the same tokens concur in settings that give those
variables the same values; and a variable that holds an integer may as well be replaced by the tokens of the
integer.  `Restates` is both at once, as a relation between the tokens of the two expressions.

The text of an integer comes to the integer (`evaluate_write`), but for the least one: its amount is an integer
literal of its own and too large to be one.

### What is load-bearing

A negative integer takes two tokens where the variable took one.  As a phrase it has a sign in front, so it is no
operand any more, but it is still what a sign can stand in front of, and an operand is never met anywhere else
(`Category.restated`).  Therefore no other place of a phrase changes its category
(`Phrase.exists_restated`), and nothing has to be put into parentheses.

## Main definitions

* `Concurs`: the same value, or the same code.
* `Restates`: tokens that say in one setting what others say in another.
-/

namespace Colloquy.Expr

open Text

/-! ## Results -/

/-- The results are the same value, or faults of the same code. -/
inductive Concurs {α : Type} : Except Fault α → Except Fault α → Prop where
  | ok (a : α) : Concurs (.ok a) (.ok a)
  | error {f g : Fault} (code : f.code = g.code) : Concurs (.error f) (.error g)

namespace Concurs

variable {α β : Type} {x y : Except Fault α}

theorem refl (x : Except Fault α) : Concurs x x := by
  cases x with
  | ok a => exact .ok a
  | error f => exact .error rfl

theorem trans {z : Except Fault α} (h : Concurs x y) (h' : Concurs y z) : Concurs x z := by
  cases h with
  | ok a => exact h'
  | error code =>
    cases h' with
    | error code' => exact .error (code.trans code')

theorem bind {f g : α → Except Fault β} (first : Concurs x y) (next : ∀ a, Concurs (f a) (g a)) :
    Concurs (x >>= f) (y >>= g) := by
  cases first with
  | ok a => exact next a
  | error code => exact .error code

theorem eq_ok {a : α} (h : Concurs x (.ok a)) : x = .ok a := by
  cases h
  rfl

/-- Two texts are blamed for the same problem. -/
theorem mapError (result : Except Problem α) (text text' : String) :
    Concurs (result.mapError (.expression text)) (result.mapError (.expression text')) := by
  cases result with
  | ok a => exact .ok a
  | error problem => exact .error rfl

end Concurs

/-! ## Tokens -/

/-- What the first tokens say in the first setting, the second say in the second setting.  A variable may be
restated by the integer that it holds. -/
inductive Restates (here there : Setting) : List Token → List Token → Prop where
  | nil : Restates here there [] []
  | keep {t : Token} {ts us : List Token}
      (same : ∀ name, t = .var name → here.valueOf name = there.valueOf name)
      (later : Restates here there ts us) : Restates here there (t :: ts) (t :: us)
  | literal {name : String} {i : Int64} {ts us : List Token} (holds : there.valueOf name = .int i)
      (later : Restates here there ts us) : Restates here there (.int i :: ts) (.var name :: us)
  | negative {name : String} {i j : Int64} {ts us : List Token} (holds : there.valueOf name = .int i)
      (opposite : j.toInt = -i.toInt) (later : Restates here there ts us) :
      Restates here there (.op .minus :: .int j :: ts) (.var name :: us)

namespace Restates

variable {here there : Setting}

theorem of_agree {ts : List Token}
    (same : ∀ name, .var name ∈ ts → here.valueOf name = there.valueOf name) : Restates here there ts ts := by
  induction ts with
  | nil => exact .nil
  | cons t ts ih =>
    refine .keep ?_ (ih fun name among => same name (List.mem_cons_of_mem t among))
    rintro name rfl
    exact same name List.mem_cons_self

theorem exists_append {xs ys zs : List Token} (h : Restates here there zs (xs ++ ys)) :
    ∃ xs' ys', zs = xs' ++ ys' ∧ Restates here there xs' xs ∧ Restates here there ys' ys := by
  induction xs generalizing zs with
  | nil => exact ⟨[], zs, rfl, .nil, h⟩
  | cons x xs ih =>
    cases h with
    | keep same later =>
      obtain ⟨xs', ys', rfl, left, right⟩ := ih later
      exact ⟨_ :: xs', ys', rfl, .keep same left, right⟩
    | literal holds later =>
      obtain ⟨xs', ys', rfl, left, right⟩ := ih later
      exact ⟨_ :: xs', ys', rfl, .literal holds left, right⟩
    | negative holds opposite later =>
      obtain ⟨xs', ys', rfl, left, right⟩ := ih later
      exact ⟨_ :: _ :: xs', ys', rfl, .negative holds opposite left, right⟩

/-- Only variables are restated. -/
theorem exists_op {s : Symbol} {ts us : List Token} (h : Restates here there ts (.op s :: us)) :
    ∃ vs, ts = .op s :: vs ∧ Restates here there vs us := by
  cases h with
  | keep same later => exact ⟨_, rfl, later⟩

theorem eq_nil {ts : List Token} (h : Restates here there ts []) : ts = [] := by
  cases h
  rfl

end Restates

/-! ## Phrases -/

/-- What a phrase of the category is when its variables are restated. -/
def Category.restated : Category → Category
  | operand => signed
  | c => c

theorem Chain.restated_member (k : Chain) : k.member.restated = k.member := by
  cases k <;> rfl

section

variable {here there : Setting} {text text' : String}

/-- A sign in front of a literal gives the integer below zero. -/
theorem eval_opposite {i j : Int64} (opposite : j.toInt = -i.toInt) (setting : Setting) (text : String) :
    eval setting text (.sign .minus (.int j)) = .ok (.int i) := by
  have exact : Decimal.ofInt? (exactResult .minus (0 : Int64).toInt j.toInt) = some i := by
    rw [Decimal.ofInt?_eq_some_iff, exactResult, opposite, Int64.toInt_zero]
    omega
  show (arithmetic .minus (.int 0) (.int j)).mapError _ = _
  unfold arithmetic
  dsimp only
  rw [if_neg (by rintro ⟨no, -⟩; cases no), exact]
  rfl

/-- What a phrase of some category comes to here concurs with what the tree comes to there. -/
def Category.Reaches (c : Category) (here there : Setting) (text text' : String) (ts : List Token)
    (tree : Expr) : Prop :=
  ∃ q : Phrase c, q.tokens = ts ∧ Concurs (eval here text q.tree) (eval there text' tree)

theorem concurs_binary (s : Symbol) {l l' r r' : Expr}
    (left : Concurs (eval here text l) (eval there text' l'))
    (right : Concurs (eval here text r) (eval there text' r')) :
    Concurs (eval here text (.binary s l r)) (eval there text' (.binary s l' r')) :=
  left.bind fun _ => right.bind fun _ => .mapError _ text text'

theorem concurs_wordValue (answers : here.resolve = there.resolve) (word : String) :
    Concurs (wordValue here word) (wordValue there word) := by
  rw [wordValue, wordValue, answers]
  exact .refl _

mutual

/-- **A restated phrase is a phrase**, and the two concur. -/
theorem Phrase.exists_restated (answers : here.resolve = there.resolve) {c : Category} :
    ∀ (p : Phrase c) {ts : List Token}, Restates here there ts p.tokens →
      c.restated.Reaches here there text text' ts p.tree
  | .chain first tail, ts, h => by
      obtain ⟨xs, ys, rfl, left, right⟩ := h.exists_append
      have restated := first.exists_restated answers left
      rw [Chain.restated_member] at restated
      obtain ⟨q, rfl, concurs⟩ := restated
      obtain ⟨u, rfl, grafts⟩ := tail.exists_restated answers right
      exact ⟨.chain q u, rfl, grafts concurs⟩
  | .single sum, ts, h => by
      obtain ⟨q, tokens, concurs⟩ := sum.exists_restated answers h
      exact ⟨.single q, tokens, concurs⟩
  | .compared s compares left right, ts, h => by
      obtain ⟨xs, ys, rfl, first, others⟩ := h.exists_append
      obtain ⟨zs, rfl, second⟩ := others.exists_op
      obtain ⟨q, rfl, concurs⟩ := left.exists_restated answers first
      obtain ⟨q', rfl, concurs'⟩ := right.exists_restated answers second
      exact ⟨.compared s compares q q', rfl, concurs_binary s concurs concurs'⟩
  | .sign s signs operand, ts, h => by
      obtain ⟨us, rfl, later⟩ := h.exists_op
      obtain ⟨q, rfl, concurs⟩ := operand.exists_restated answers later
      exact ⟨.sign s signs q, rfl, concurs.bind fun _ => .mapError _ _ _⟩
  -- An operand may have become a phrase with a sign, and so has the phrase that it is.
  | .plain operand, ts, h => operand.exists_restated answers h
  | .int i, ts, h => by
      cases h with
      | keep same later =>
        cases later.eq_nil
        exact ⟨.plain (.int i), rfl, .ok _⟩
  | .str s, ts, h => by
      cases h with
      | keep same later =>
        cases later.eq_nil
        exact ⟨.plain (.str s), rfl, .ok _⟩
  | .word s, ts, h => by
      cases h with
      | keep same later =>
        cases later.eq_nil
        exact ⟨.plain (.word s), rfl, concurs_wordValue answers s⟩
  | .var name, ts, h => by
      cases h with
      | keep same later =>
        cases later.eq_nil
        refine ⟨.plain (.var name), rfl, ?_⟩
        show Concurs (.ok (Operand.ofValue (here.valueOf name))) (.ok (Operand.ofValue (there.valueOf name)))
        rw [same name rfl]
        exact .ok _
      | @literal _ i _ _ holds later =>
        cases later.eq_nil
        refine ⟨.plain (.int i), rfl, ?_⟩
        show Concurs _ (.ok (Operand.ofValue (there.valueOf name)))
        rw [holds]
        exact .ok _
      | @negative _ i j _ _ holds opposite later =>
        cases later.eq_nil
        refine ⟨.sign .minus rfl (.plain (.int j)), rfl, ?_⟩
        show Concurs (eval here text (.sign .minus (.int _))) (.ok (Operand.ofValue (there.valueOf name)))
        rw [eval_opposite opposite, holds]
        exact .ok _
  | .parens inner, ts, h => by
      obtain ⟨us, rfl, later⟩ := h.exists_op
      obtain ⟨xs, ys, rfl, within, behind⟩ := later.exists_append
      obtain ⟨zs, rfl, nothing⟩ := behind.exists_op
      cases nothing.eq_nil
      obtain ⟨q, rfl, concurs⟩ := inner.exists_restated answers within
      exact ⟨.plain (.parens q), rfl, concurs⟩

theorem Tail.exists_restated (answers : here.resolve = there.resolve) {k : Chain} :
    ∀ (t : Tail k) {ts : List Token}, Restates here there ts t.tokens →
      ∃ u : Tail k, u.tokens = ts ∧ ∀ {left left' : Expr},
        Concurs (eval here text left) (eval there text' left') →
          Concurs (eval here text (u.graft left)) (eval there text' (t.graft left'))
  | .done, ts, h => by
      cases h.eq_nil
      exact ⟨.done, rfl, id⟩
  | .more s joins next tail, ts, h => by
      obtain ⟨us, rfl, later⟩ := h.exists_op
      obtain ⟨xs, ys, rfl, first, others⟩ := later.exists_append
      have restated := next.exists_restated answers first
      rw [Chain.restated_member] at restated
      obtain ⟨q, rfl, concurs⟩ := restated
      obtain ⟨u, rfl, grafts⟩ := tail.exists_restated answers others
      exact ⟨.more s joins q u, rfl, fun left => grafts (concurs_binary s left concurs)⟩

end

/-! ## Texts -/

/-- A text is evaluated as the tree of the phrase that it is read as. -/
theorem evaluate_of_phrase {text : String} (setting : Setting) {p : Phrase (.chain .either)}
    (grammatical : Token.readAll text.toList = .ok p.tokens) :
    evaluate setting text = eval setting text p.tree := by
  rw [evaluate, grammatical]
  show evaluateTokens _ _ _ = _
  rw [evaluateTokens_of_ne_nil p.tokens_ne_nil, p.ofTokens_tokens]

/-- **A restated text concurs.** -/
theorem concurs_of_restates (answers : here.resolve = there.resolve) {p : Phrase (.chain .either)}
    {ts : List Token} (reads : Token.readAll text.toList = .ok ts)
    (grammatical : Token.readAll text'.toList = .ok p.tokens) (restates : Restates here there ts p.tokens) :
    Concurs (evaluate here text) (evaluate there text') := by
  have restated : Category.Reaches _ here there text text' ts p.tree := p.exists_restated answers restates
  obtain ⟨q, rfl, concurs⟩ := restated
  rw [evaluate_of_phrase here (p := q) reads, evaluate_of_phrase there grammatical]
  exact concurs

end

/-! ## Written integers -/

/-- What a sign may stand in front of, as a whole expression. -/
def Phrase.ofSigned (p : Phrase .signed) : Phrase (.chain .either) := .ofSum (.chain (.chain p .done) .done)

theorem evaluate_write_minValue (setting : Setting) : evaluate setting (Decimal.write Int64.minValue) =
    .error (.expression (Decimal.write Int64.minValue) (.malformed .literalTooLarge)) := by
  rw [evaluate, Token.readAll_write_alone, Token.ofWritten_minValue]

/-- **The text of an integer comes to the integer**, unless it is the least one. -/
theorem evaluate_write (setting : Setting) {i : Int64} (other : i ≠ Int64.minValue) :
    evaluate setting (Decimal.write i) = .ok (.int i) := by
  have read := Token.readAll_write_alone i
  rcases Token.exists_ofWritten other with ⟨-, j, opposite, front⟩ | ⟨-, front⟩
  · rw [front] at read
    rw [evaluate_of_phrase setting (p := .ofSigned (.sign .minus rfl (.plain (.int j)))) read]
    exact eval_opposite opposite setting _
  · rw [front] at read
    rw [evaluate_of_phrase setting (p := .ofSigned (.plain (.int i))) read]
    rfl

/-! ## Tokens that stand side by side -/

/-- The token is a symbol. -/
def Token.isSymbol : Token → Bool
  | .op _ => true
  | _ => false

/-- Of two tokens side by side one is a symbol. -/
def Token.Alternate : List Token → Prop
  | t :: u :: ts => (t.isSymbol = true ∨ u.isSymbol = true) ∧ Alternate (u :: ts)
  | _ => True

theorem Token.Alternate.tail {t : Token} {ts : List Token} (h : Token.Alternate (t :: ts)) :
    Token.Alternate ts := by
  cases ts with
  | nil => trivial
  | cons u ts => exact h.2

/-- A symbol may stand between any tokens. -/
theorem Token.Alternate.append {ts us : List Token} {s : Symbol} (left : Token.Alternate ts)
    (right : Token.Alternate us) : Token.Alternate (ts ++ .op s :: us) := by
  induction ts with
  | nil =>
    cases us with
    | nil => trivial
    | cons u us => exact ⟨.inl rfl, right⟩
  | cons t ts ih =>
    have later := ih left.tail
    cases ts with
    | nil => exact ⟨.inr rfl, later⟩
    | cons u ts => exact ⟨left.1, later⟩

mutual

/-- **No two operands of a phrase stand side by side.** -/
theorem Phrase.alternate {c : Category} : ∀ p : Phrase c, Token.Alternate p.tokens
  | .chain first tail => tail.alternate_append first.alternate
  | .single sum => sum.alternate
  | .compared _ _ left right => left.alternate.append right.alternate
  | .sign s _ operand => show Token.Alternate ([] ++ .op s :: operand.tokens) from
      Token.Alternate.append trivial operand.alternate
  | .plain operand => operand.alternate
  | .int _ | .str _ | .var _ | .word _ => trivial
  | .parens inner => show Token.Alternate ([] ++ .op .left :: (inner.tokens ++ .op .right :: [])) from
      Token.Alternate.append trivial (inner.alternate.append trivial)

theorem Tail.alternate_append {k : Chain} {ts : List Token} (before : Token.Alternate ts) :
    ∀ t : Tail k, Token.Alternate (ts ++ t.tokens)
  | .done => by
      rw [Tail.tokens, List.append_nil]
      exact before
  | .more _ _ next tail => before.append (tail.alternate_append next.alternate)

end

end Colloquy.Expr
