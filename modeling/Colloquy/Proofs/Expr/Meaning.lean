import Colloquy.Expr.Eval
import Colloquy.Proofs.Expr.Reading

/-!
# The meaning of expressions

What an expression means, as relations over its tree, and the proof that evaluation finds exactly that.

`Means` is read off the tree alone.  It has no evaluation order built into a recursion: an operand that
fails settles the meaning of all above it, and the right operand counts only once the left one has a
value, so it is the first failure in reading order that is meant.  No rule looks at one operand of `&&`
or `||` without the other.  Below it, `Computes` is arithmetic on exact integers: it never mentions the
range of 64 bits except to say which exact results lie beyond it.

### What is load-bearing

That `evaluateTokens` meets its meaning (`evaluateTokens_eq_iff_means`) needs the reader only through
`Phrase.ofTokens_tokens`.  The evaluation itself is compared with the relation in two halves:
`Means.eval_eq` holds of every tree, by induction on the meaning; `Phrase.means_eval` holds of the trees
of phrases, by induction on the derivation, since only there each symbol has an operation.

## Main definitions

* `Computes`, `Applies`, `Combines`: the operations.
* `Means`: what a tree means.
-/

namespace Colloquy.Expr

open Text

/-! ## Operations -/

/-- Exact integer arithmetic.  A quotient is rounded toward zero. -/
inductive Exactly : Symbol → Int → Int → Int → Prop where
  | sum (i j : Int) : Exactly .plus i j (i + j)
  | difference (i j : Int) : Exactly .minus i j (i - j)
  | product (i j : Int) : Exactly .times i j (i * j)
  | quotient (i : Int) {j : Int} (divides : j ≠ 0) : Exactly .slash i j (i.tdiv j)

/-- The symbols of arithmetic. -/
def Symbol.isArithmetic : Symbol → Bool
  | .plus | .minus | .times | .slash => true
  | _ => false

/-- Arithmetic on operands: the exact result if it is an integer of 64 bits, and else the one reason
why there is none. -/
inductive Computes : Symbol → Operand → Operand → Except Problem Operand → Prop where
  | exact {s : Symbol} {i j k : Int64} (result : Exactly s i.toInt j.toInt k.toInt) :
      Computes s (.int i) (.int j) (.ok (.int k))
  | overflow {s : Symbol} {i j : Int64} {n : Int} (result : Exactly s i.toInt j.toInt n)
      (beyond : n < Int64.minValue.toInt ∨ Int64.maxValue.toInt < n) : Computes s (.int i) (.int j) (.error .overflow)
  | zeroDivisor (i : Int64) : Computes .slash (.int i) (.int 0) (.error .zeroDivisor)
  | notIntegers {s : Symbol} {x y : Operand} (arithmetic : s.isArithmetic = true) (other : ∀ i j, x = .int i → y ≠ .int j) :
      Computes s x y (.error (.notIntegers s x y))

/-- What a symbol makes of two operands.  Both have a value by then, so both were evaluated. -/
inductive Combines : Symbol → Operand → Operand → Except Problem Operand → Prop where
  | either (x y : Operand) : Combines .or x y (.ok (.bool (x.truthy || y.truthy)))
  | both (x y : Operand) : Combines .and x y (.ok (.bool (x.truthy && y.truthy)))
  | comparison {s : Symbol} (compares : s.compares = true) (x y : Operand) :
      Combines s x y (.ok (.bool (x.compares s y)))
  | arithmetic {s : Symbol} {x y : Operand} {r : Except Problem Operand} (computes : Computes s x y r) :
      Combines s x y r

/-- What a sign makes of an operand: `!` negates its truth, and the other two stand behind a zero. -/
inductive Applies : Symbol → Operand → Except Problem Operand → Prop where
  | not (x : Operand) : Applies .not x (.ok (.bool (!x.truthy)))
  | minus {x : Operand} {r : Except Problem Operand} (computes : Computes .minus (.int 0) x r) :
      Applies .minus x r
  | plus {x : Operand} {r : Except Problem Operand} (computes : Computes .plus (.int 0) x r) :
      Applies .plus x r

/-! ## Trees -/

/-- What the tree means in a setting, where `text` is quoted if it has no value. -/
inductive Means (setting : Setting) (text : String) : Expr → Except Fault Operand → Prop where
  | int (i : Int64) : Means setting text (.int i) (.ok (.int i))
  | str (s : String) : Means setting text (.str s) (.ok (.str s))
  | var (name : String) : Means setting text (.var name) (.ok (.ofValue (setting.valueOf name)))
  | true : Means setting text (.word "true") (.ok (.bool true))
  | false : Means setting text (.word "false") (.ok (.bool false))
  | plain {s : String} (undotted : '.' ∉ s.toList) (notTrue : s ≠ "true") (notFalse : s ≠ "false") :
      Means setting text (.word s) (.ok (.str s))
  | dotted {s found : String} (dotted : '.' ∈ s.toList)
      (resolved : setting.resolve (splitOn '.' s) = .ok found) :
      Means setting text (.word s) (.ok (.ofValue (Value.ofText found)))
  | unresolved {s : String} {fault : Fault} (dotted : '.' ∈ s.toList)
      (failed : setting.resolve (splitOn '.' s) = .error fault) :
      Means setting text (.word s) (.error fault)
  | sign {s : Symbol} {e : Expr} {x : Operand} {r : Except Problem Operand}
      (operand : Means setting text e (.ok x)) (applies : Applies s x r) :
      Means setting text (.sign s e) (r.mapError (.expression text))
  | signFails {s : Symbol} {e : Expr} {fault : Fault} (operand : Means setting text e (.error fault)) :
      Means setting text (.sign s e) (.error fault)
  | binary {s : Symbol} {l r : Expr} {x y : Operand} {z : Except Problem Operand}
      (left : Means setting text l (.ok x)) (right : Means setting text r (.ok y))
      (combines : Combines s x y z) :
      Means setting text (.binary s l r) (z.mapError (.expression text))
  | leftFails {s : Symbol} {l r : Expr} {fault : Fault} (left : Means setting text l (.error fault)) :
      Means setting text (.binary s l r) (.error fault)
  | rightFails {s : Symbol} {l r : Expr} {x : Operand} {fault : Fault}
      (left : Means setting text l (.ok x)) (right : Means setting text r (.error fault)) :
      Means setting text (.binary s l r) (.error fault)

/-! ## Operations are computed as they are meant -/

theorem Exactly.eq_exactResult {s : Symbol} {i j n : Int} (h : Exactly s i j n) :
    exactResult s i j = n := by
  cases h <;> rfl

theorem Exactly.isArithmetic {s : Symbol} {i j n : Int} (h : Exactly s i j n) :
    s.isArithmetic = true := by
  cases h <;> rfl

theorem Exactly.divides {s : Symbol} {i j n : Int} (h : Exactly s i j n) : ¬ (s = .slash ∧ j = 0) := by
  rintro ⟨rfl, zero⟩
  cases h with
  | quotient i divides => exact divides zero

theorem exactly_exactResult {s : Symbol} (h : s.isArithmetic = true) {i j : Int}
    (divides : ¬ (s = .slash ∧ j = 0)) : Exactly s i j (exactResult s i j) := by
  cases s with
  | plus => exact .sum i j
  | minus => exact .difference i j
  | times => exact .product i j
  | slash => exact .quotient i fun zero => divides ⟨rfl, zero⟩
  | _ => cases h

theorem Int64.toInt_eq_zero_iff {i : Int64} : i.toInt = 0 ↔ i = 0 := by
  rw [← Int64.toInt_zero, Int64.toInt_inj]

/-- What is meant by arithmetic is what is computed. -/
theorem Computes.arithmetic_eq {s : Symbol} {x y : Operand} {r : Except Problem Operand}
    (h : Computes s x y r) : arithmetic s x y = r := by
  cases h with
  | @exact _ i j k result =>
    have divides : ¬ (s = .slash ∧ j = 0) := by
      rw [← Int64.toInt_eq_zero_iff]
      exact result.divides
    have fits : Decimal.ofInt? (exactResult s i.toInt j.toInt) = some k := by
      rw [Decimal.ofInt?_eq_some_iff, result.eq_exactResult]
    rw [arithmetic, if_neg divides, fits]
  | @overflow _ i j n result beyond =>
    have divides : ¬ (s = .slash ∧ j = 0) := by
      rw [← Int64.toInt_eq_zero_iff]
      exact result.divides
    have outside : Decimal.ofInt? (exactResult s i.toInt j.toInt) = none := by
      rw [Decimal.ofInt?_eq_none_iff, result.eq_exactResult]
      exact beyond
    rw [arithmetic, if_neg divides, outside]
  | zeroDivisor i => rfl
  | notIntegers _ other =>
    unfold arithmetic
    split
    · next i j => exact absurd rfl (other i j rfl)
    · rfl

/-- What is computed by arithmetic is what is meant. -/
theorem computes_arithmetic {s : Symbol} (h : s.isArithmetic = true) (x y : Operand) :
    Computes s x y (arithmetic s x y) := by
  unfold arithmetic
  split
  · next i j =>
    by_cases zero : s = .slash ∧ j = 0
    · rw [if_pos zero, zero.1, zero.2]
      exact .zeroDivisor i
    · have divides : ¬ (s = .slash ∧ j.toInt = 0) := by
        rw [Int64.toInt_eq_zero_iff]
        exact zero
      have result : Exactly s i.toInt j.toInt (exactResult s i.toInt j.toInt) :=
        exactly_exactResult h divides
      rw [if_neg zero]
      -- There is one exact result, and it is an integer of 64 bits or it is not.
      cases fits : Decimal.ofInt? (exactResult s i.toInt j.toInt) with
      | some k =>
        rw [Decimal.ofInt?_eq_some_iff] at fits
        refine .exact ?_
        rw [fits]
        exact result
      | none =>
        rw [Decimal.ofInt?_eq_none_iff] at fits
        exact .overflow result fits
  · next other =>
    refine .notIntegers h ?_
    rintro i j rfl rfl
    exact other i j rfl rfl

theorem Computes.isArithmetic {s : Symbol} {x y : Operand} {r : Except Problem Operand}
    (h : Computes s x y r) : s.isArithmetic = true := by
  cases h with
  | exact result => exact result.isArithmetic
  | overflow result => exact result.isArithmetic
  | zeroDivisor => rfl
  | notIntegers arithmetic => exact arithmetic

theorem combine_eq_arithmetic {s : Symbol} (h : s.isArithmetic = true) (x y : Operand) :
    combine s x y = arithmetic s x y := by
  cases s <;> first | rfl | cases h

theorem combine_eq_compares {s : Symbol} (h : s.compares = true) (x y : Operand) :
    combine s x y = .ok (.bool (x.compares s y)) := by
  cases s <;> first | rfl | cases h

theorem Combines.combine_eq {s : Symbol} {x y : Operand} {r : Except Problem Operand}
    (h : Combines s x y r) : combine s x y = r := by
  cases h with
  | either => rfl
  | both => rfl
  | comparison compares => exact combine_eq_compares compares x y
  | arithmetic computes =>
    rw [combine_eq_arithmetic computes.isArithmetic]
    exact computes.arithmetic_eq

/-- The symbols that may stand between operands. -/
def Symbol.joins (s : Symbol) : Prop := (∃ k : Chain, k.joinedBy s = true) ∨ s.compares = true

/-- Each symbol that the grammar allows between operands has an operation. -/
theorem combines_combine {s : Symbol} (h : s.joins) (x y : Operand) :
    Combines s x y (combine s x y) := by
  rcases h with ⟨k, joined⟩ | compares
  · cases k with
    | either =>
      obtain rfl : s = .or := of_decide_eq_true joined
      exact .either x y
    | both =>
      obtain rfl : s = .and := of_decide_eq_true joined
      exact .both x y
    | sum | product =>
      have arithmetic : s.isArithmetic = true := by
        revert joined
        cases s <;> decide
      rw [combine_eq_arithmetic arithmetic]
      exact .arithmetic (computes_arithmetic arithmetic x y)
  · rw [combine_eq_compares compares]
    exact .comparison compares x y

theorem Applies.applySign_eq {s : Symbol} {x : Operand} {r : Except Problem Operand}
    (h : Applies s x r) : applySign s x = r := by
  cases h with
  | not => rfl
  | minus computes => exact computes.arithmetic_eq
  | plus computes => exact computes.arithmetic_eq

theorem applies_applySign {s : Symbol} (h : s.signs = true) (x : Operand) :
    Applies s x (applySign s x) := by
  cases s with
  | not => exact .not x
  | minus => exact .minus (computes_arithmetic rfl _ _)
  | plus => exact .plus (computes_arithmetic rfl _ _)
  | _ => cases h

/-! ## Trees are evaluated as they are meant -/

section

variable {setting : Setting} {text : String}

theorem wordValue_of_undotted {s : String} (undotted : '.' ∉ s.toList) :
    wordValue setting s =
      if s = "true" then .ok (.bool true) else if s = "false" then .ok (.bool false) else .ok (.str s) := by
  have none : s.toList.contains '.' = false := by
    rw [← Bool.not_eq_true, List.contains_iff_mem]
    exact undotted
  rw [wordValue, none]
  rfl

theorem wordValue_of_dotted {s : String} (dotted : '.' ∈ s.toList) :
    wordValue setting s =
      (setting.resolve (splitOn '.' s)).map fun found => .ofValue (Value.ofText found) := by
  rw [wordValue, if_pos (List.contains_iff_mem.mpr dotted)]
  cases setting.resolve (splitOn '.' s) <;> rfl

/-- **A tree means nothing but its value.** -/
theorem Means.eval_eq {e : Expr} {r : Except Fault Operand} (h : Means setting text e r) :
    eval setting text e = r := by
  induction h with
  | int i => rfl
  | str s => rfl
  | var name => rfl
  | «true» => exact wordValue_of_undotted (by decide)
  | «false» => exact wordValue_of_undotted (by decide)
  | plain undotted notTrue notFalse =>
    rw [eval, wordValue_of_undotted undotted, if_neg notTrue, if_neg notFalse]
  | dotted dotted resolved =>
    rw [eval, wordValue_of_dotted dotted, resolved]
    rfl
  | unresolved dotted failed =>
    rw [eval, wordValue_of_dotted dotted, failed]
    rfl
  | sign _ applies ih =>
    rw [eval, ih, ← applies.applySign_eq]
    rfl
  | signFails _ ih =>
    rw [eval, ih]
    rfl
  | binary _ _ combines ihl ihr =>
    rw [eval, ihl, ihr, ← combines.combine_eq]
    rfl
  | leftFails _ ihl =>
    rw [eval, ihl]
    rfl
  | rightFails _ _ ihl ihr =>
    rw [eval, ihl, ihr]
    rfl

theorem means_wordValue (s : String) : Means setting text (.word s) (wordValue setting s) := by
  by_cases dotted : '.' ∈ s.toList
  · rw [wordValue_of_dotted dotted]
    cases resolved : setting.resolve (splitOn '.' s) with
    | ok found => exact .dotted dotted resolved
    | error fault => exact .unresolved dotted resolved
  · rw [wordValue_of_undotted dotted]
    by_cases isTrue : s = "true"
    · rw [if_pos isTrue, isTrue]
      exact .true
    · rw [if_neg isTrue]
      by_cases isFalse : s = "false"
      · rw [if_pos isFalse, isFalse]
        exact .false
      · rw [if_neg isFalse]
        exact .plain dotted isTrue isFalse

theorem means_sign {s : Symbol} (signs : s.signs = true) {e : Expr}
    (operand : Means setting text e (eval setting text e)) :
    Means setting text (.sign s e) (eval setting text (.sign s e)) := by
  rw [eval]
  cases value : eval setting text e with
  | error fault =>
    rw [value] at operand
    exact .signFails operand
  | ok x =>
    rw [value] at operand
    exact .sign operand (applies_applySign signs x)

theorem means_binary {s : Symbol} (joins : s.joins) {l r : Expr}
    (left : Means setting text l (eval setting text l))
    (right : Means setting text r (eval setting text r)) :
    Means setting text (.binary s l r) (eval setting text (.binary s l r)) := by
  rw [eval]
  cases leftValue : eval setting text l with
  | error fault =>
    rw [leftValue] at left
    exact .leftFails left
  | ok x =>
    rw [leftValue] at left
    cases rightValue : eval setting text r with
    | error fault =>
      rw [rightValue] at right
      exact .rightFails left right
    | ok y =>
      rw [rightValue] at right
      exact .binary left right (combines_combine joins x y)

mutual

/-- **The value of a phrase is what it means.** -/
theorem Phrase.means_eval {c : Category} :
    ∀ p : Phrase c, Means setting text p.tree (eval setting text p.tree)
  | .chain first tail => tail.means_eval first.means_eval
  | .single sum => sum.means_eval
  | .compared _ compares left right => means_binary (.inr compares) left.means_eval right.means_eval
  | .sign _ signs operand => means_sign signs operand.means_eval
  | .plain operand => operand.means_eval
  | .int i => .int i
  | .str s => .str s
  | .var name => .var name
  | .word s => means_wordValue s
  | .parens inner => inner.means_eval

theorem Tail.means_eval {k : Chain} {left : Expr}
    (means : Means setting text left (eval setting text left)) :
    ∀ t : Tail k, Means setting text (t.graft left) (eval setting text (t.graft left))
  | .done => means
  | .more _ joins next tail => tail.means_eval (means_binary (.inl ⟨k, joins⟩) means next.means_eval)

end

theorem Phrase.eval_eq_iff_means {c : Category} (p : Phrase c) (r : Except Fault Operand) :
    eval setting text p.tree = r ↔ Means setting text p.tree r := by
  constructor
  · rintro rfl
    exact p.means_eval
  · exact Means.eval_eq

end

/-! ## Tokens -/

/-- No phrase is empty. -/
theorem Phrase.tokens_ne_nil {c : Category} : ∀ p : Phrase c, p.tokens ≠ []
  | .chain first tail, empty => first.tokens_ne_nil (List.append_eq_nil_iff.mp empty).1
  | .single sum, empty => sum.tokens_ne_nil empty
  | .compared _ _ left _, empty => left.tokens_ne_nil (List.append_eq_nil_iff.mp empty).1
  | .plain operand, empty => operand.tokens_ne_nil empty
  | .sign _ _ _, empty | .int _, empty | .str _, empty | .var _, empty | .word _, empty
  | .parens _, empty => by cases empty

theorem evaluateTokens_of_ne_nil {ts : List Token} (h : ts ≠ []) (setting : Setting) (text : String) :
    evaluateTokens setting text ts = eval setting text (ofTokens ts) := by
  cases ts with
  | nil => exact absurd rfl h
  | cons t ts => rfl

/-- **Evaluation is the grammar with its meaning.**  Tokens that the grammar derives have one derivation,
and the result is exactly what its tree means; for all others there is an error.  A text is evaluated
as the tokens that it is read as. -/
theorem evaluate_follows_grammar (setting : Setting) (text : String) (ts : List Token) :
    (∀ p : Phrase (.chain .either), p.tokens = ts →
      (∀ q : Phrase (.chain .either), q.tokens = ts → q = p) ∧
        ∀ r, evaluateTokens setting text ts = r ↔ Means setting text p.tree r) ∧
    ((∀ p : Phrase (.chain .either), p.tokens ≠ ts) →
      ∃ fault, evaluateTokens setting text ts = .error fault) ∧
    (Token.readAll text.toList = .ok ts → evaluate setting text = evaluateTokens setting text ts) := by
  refine ⟨?derived, ?underived, ?read⟩
  case derived =>
    rintro p rfl
    refine ⟨fun q same => ?_, fun r => ?_⟩
    · refine (q.eq_of_tokens_append p (Category.stopsAt_nil _) (Category.stopsAt_nil _) ?_).1
      rw [same]
    · rw [evaluateTokens_of_ne_nil p.tokens_ne_nil, p.ofTokens_tokens]
      exact p.eval_eq_iff_means r
  case underived =>
    intro none
    -- Without tokens there is no tree to look at.
    by_cases empty : ts = []
    · rw [empty]
      exact ⟨_, rfl⟩
    rw [evaluateTokens_of_ne_nil empty]
    have broken : (ofTokens ts).isWhole = false := by
      rw [← Bool.not_eq_true, isWhole_ofTokens_iff]
      rintro ⟨p, tokens⟩
      exact none p tokens
    cases value : eval setting text (ofTokens ts) with
    | ok x => exact absurd value (eval_ne_ok_of_not_isWhole setting text broken x)
    | error fault => exact ⟨fault, rfl⟩
  case read =>
    intro read
    rw [evaluate, read]

/-- A single integer as a product. -/
def Phrase.number (i : Int64) : Phrase (.chain .product) := .chain (.plain (.int i)) .done

/-- A sum as a whole expression. -/
def Phrase.ofSum (sum : Phrase (.chain .sum)) : Phrase (.chain .either) :=
  .chain (.chain (.single sum) .done) .done

/-- Two differences in a row are taken from the left, and two integers in a row are no expression. -/
theorem evaluate_differences_in_a_row :
    let setting : Setting := ⟨fun _ => .unset, fun _ => .error (.unknownFunction "")⟩
    evaluate setting "7 - 2 - 1" = .ok (.int 4) ∧
      ∃ fault, evaluateTokens setting "7 2" [.int 7, .int 2] = .error fault := by
  intro setting
  have derived := evaluate_follows_grammar setting "7 - 2 - 1"
    (Phrase.ofSum (.chain (.number 7)
      (.more .minus rfl (.number 2) (.more .minus rfl (.number 1) .done)))).tokens
  have underived := evaluate_follows_grammar setting "7 2" [.int 7, .int 2]
  refine ⟨?_, underived.2.1 fun p tokens => ?_⟩
  · have read : Token.readAll "7 - 2 - 1".toList = .ok (Phrase.ofSum (.chain (.number 7)
        (.more .minus rfl (.number 2) (.more .minus rfl (.number 1) .done)))).tokens := by
      refine Token.readAll_of_next? rfl rfl (Token.readAll_of_next? rfl rfl ?_)
      refine Token.readAll_of_next? rfl rfl (Token.readAll_of_next? rfl rfl ?_)
      exact Token.readAll_of_next? rfl rfl (Token.readAll_of_blank rfl)
    rw [derived.2.2 read, (derived.1 _ rfl).2, ← Phrase.eval_eq_iff_means]
    rfl
  · -- The phrase `7` already stands in front of `2`, and no other can begin there.
    have same : p.tokens ++ [] = (Phrase.ofSum (.chain (.number 7) .done)).tokens ++ [.int 2] := by
      rw [List.append_nil, tokens]
      rfl
    have nothing := (p.eq_of_tokens_append _ (Category.stopsAt_nil _) (fun _ _ no => by cases no) same).2
    cases nothing

end Colloquy.Expr
