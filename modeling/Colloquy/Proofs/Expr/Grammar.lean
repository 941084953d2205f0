import Colloquy.Expr.Tree

/-!
# The grammar of expressions

The grammar as data, apart from the reader that follows it: a `Phrase` is a derivation, and its tokens
are the text that it derives.

    either     := both ('||' both)*
    both       := comparison ('&&' comparison)*
    comparison := sum (comparing sum)?
    sum        := product (('+' | '-') product)*
    product    := signed (('*' | '/') signed)*
    signed     := ('-' | '+' | '!') signed | operand
    operand    := integer | text | variable | word | '(' either ')'

Every production is a constructor, so two derivations are the same exactly if they apply the same
productions at the same places.  `Phrase.eq_of_tokens_append` says that tokens leave no choice: the
grammar is unambiguous, although nothing in it looks further ahead than one token.

### What carries the proof

Neither the grammar nor the reader ever has to decide how far a phrase goes by anything but the token
behind it.  `Category.extendedBy` collects the symbols with which a phrase of a category could go on,
and `Category.StopsAt` says that the next token is none of them; that is the one condition under which
a phrase in front of other tokens is recognised, here and in `Colloquy.Proofs.Expr.Reading`.

## Main definitions

* `Category`, `Phrase`, `Tail`: the grammar.
* `Phrase.tokens`, `Phrase.tree`: what a derivation derives, and the tree that it stands for.
-/

namespace Colloquy.Expr

/-- The categories of the grammar: the four kinds of chain, and the three kinds of phrase in between. -/
inductive Category where
  | chain (k : Chain)
  | comparison
  | signed
  | operand

/-- What the members of a chain are. -/
def Chain.member : Chain → Category
  | either => .chain .both
  | both => .comparison
  | sum => .chain .product
  | product => .signed

mutual

/-- A derivation from a category. -/
inductive Phrase : Category → Type where
  | chain {k : Chain} (first : Phrase k.member) (tail : Tail k) : Phrase (.chain k)
  | single (sum : Phrase (.chain .sum)) : Phrase .comparison
  | compared (s : Symbol) (compares : s.compares = true) (left right : Phrase (.chain .sum)) :
      Phrase .comparison
  | sign (s : Symbol) (signs : s.signs = true) (operand : Phrase .signed) : Phrase .signed
  | plain (operand : Phrase .operand) : Phrase .signed
  | int (value : Int64) : Phrase .operand
  | str (text : String) : Phrase .operand
  | var (name : String) : Phrase .operand
  | word (text : String) : Phrase .operand
  | parens (inner : Phrase (.chain .either)) : Phrase .operand

/-- What stands behind the first member of a chain. -/
inductive Tail : Chain → Type where
  | done {k : Chain} : Tail k
  | more {k : Chain} (s : Symbol) (joins : k.joinedBy s = true) (next : Phrase k.member)
      (tail : Tail k) : Tail k

end

/-! ## What a derivation derives -/

mutual

/-- The tokens of the phrase, from left to right. -/
def Phrase.tokens {c : Category} : Phrase c → List Token
  | .chain first tail => first.tokens ++ tail.tokens
  | .single sum => sum.tokens
  | .compared s _ left right => left.tokens ++ .op s :: right.tokens
  | .sign s _ operand => .op s :: operand.tokens
  | .plain operand => operand.tokens
  | .int i => [.int i]
  | .str s => [.str s]
  | .var s => [.var s]
  | .word s => [.word s]
  | .parens inner => .op .left :: (inner.tokens ++ [.op .right])

/-- The tokens of the tail, from left to right. -/
def Tail.tokens {k : Chain} : Tail k → List Token
  | .done => []
  | .more s _ next tail => .op s :: (next.tokens ++ tail.tokens)

end

mutual

/-- The tree of the phrase. -/
def Phrase.tree {c : Category} : Phrase c → Expr
  | .chain first tail => tail.graft first.tree
  | .single sum => sum.tree
  | .compared s _ left right => .binary s left.tree right.tree
  | .sign s _ operand => .sign s operand.tree
  | .plain operand => operand.tree
  | .int i => .int i
  | .str s => .str s
  | .var s => .var s
  | .word s => .word s
  | .parens inner => inner.tree

/-- The tree of a chain, given the tree of what stands in front of this tail: all of that is the left
operand of the next symbol. -/
def Tail.graft {k : Chain} (left : Expr) : Tail k → Expr
  | .done => left
  | .more s _ next tail => tail.graft (.binary s left next.tree)

end

mutual

/-- The tree of a phrase has no malformed place. -/
theorem Phrase.isWhole_tree {c : Category} : ∀ p : Phrase c, p.tree.isWhole = true
  | .chain first tail => tail.isWhole_graft first.isWhole_tree
  | .single sum => sum.isWhole_tree
  | .compared _ _ left right => by
      rw [Phrase.tree, isWhole, left.isWhole_tree, right.isWhole_tree]
      rfl
  | .sign _ _ operand => operand.isWhole_tree
  | .plain operand => operand.isWhole_tree
  | .int _ | .str _ | .var _ | .word _ => rfl
  | .parens inner => inner.isWhole_tree

theorem Tail.isWhole_graft {k : Chain} {left : Expr} (whole : left.isWhole = true) :
    ∀ t : Tail k, (t.graft left).isWhole = true
  | .done => whole
  | .more s _ next tail => by
      have joined : (binary s left next.tree).isWhole = true := by
        rw [isWhole, whole, next.isWhole_tree]
        rfl
      exact tail.isWhole_graft joined

end

/-! ## Where a phrase ends -/

/-- The symbols with which a phrase of the category could go on. -/
def Category.extendedBy : Category → Symbol → Bool
  | chain .either, s => s = .or || s = .and || s.compares || Chain.joinedBy .sum s ||
      Chain.joinedBy .product s
  | chain .both, s => s = .and || s.compares || Chain.joinedBy .sum s || Chain.joinedBy .product s
  | comparison, s => s.compares || Chain.joinedBy .sum s || Chain.joinedBy .product s
  | chain .sum, s => Chain.joinedBy .sum s || Chain.joinedBy .product s
  | chain .product, s => Chain.joinedBy .product s
  | signed, _ => false
  | operand, _ => false

/-- The tokens do not begin with a symbol with which a phrase of the category could go on. -/
def Category.StopsAt (c : Category) (ts : List Token) : Prop :=
  ∀ s us, ts = .op s :: us → c.extendedBy s = false

theorem Category.stopsAt_nil (c : Category) : c.StopsAt [] := by
  intro s us h
  cases h

theorem Category.stopsAt_cons {c : Category} {s : Symbol} (h : c.extendedBy s = false)
    (us : List Token) : c.StopsAt (.op s :: us) := by
  intro t vs same
  cases same
  exact h

/-- A chain goes on with all that its members go on with, and with its own symbols. -/
theorem Chain.extendedBy_eq (k : Chain) (s : Symbol) :
    (Category.chain k).extendedBy s = (k.joinedBy s || k.member.extendedBy s) := by
  cases k <;> cases s <;> rfl

theorem Category.StopsAt.member {k : Chain} {ts : List Token} (h : (chain k).StopsAt ts) :
    k.member.StopsAt ts := by
  intro s us same
  have none := h s us same
  rw [Chain.extendedBy_eq, Bool.or_eq_false_iff] at none
  exact none.2

theorem Category.StopsAt.not_joinedBy {k : Chain} {ts us : List Token} {s : Symbol}
    (h : (chain k).StopsAt ts) (same : ts = .op s :: us) : k.joinedBy s = false := by
  have none := h s us same
  rw [Chain.extendedBy_eq, Bool.or_eq_false_iff] at none
  exact none.1

/-- The symbols that join members do not extend a member. -/
theorem Chain.member_extendedBy_of_joinedBy {k : Chain} {s : Symbol} (joins : k.joinedBy s = true) :
    k.member.extendedBy s = false := by
  cases k <;> cases s <;> first | rfl | cases joins

/-- A member of a chain ends where the tail of the chain begins, or where the chain ends. -/
theorem Tail.member_stopsAt {k : Chain} {rest : List Token} (stops : (Category.chain k).StopsAt rest) :
    ∀ t : Tail k, k.member.StopsAt (t.tokens ++ rest)
  | .done => stops.member
  | .more _ joins _ _ => Category.stopsAt_cons (Chain.member_extendedBy_of_joinedBy joins) _

theorem Symbol.sum_extendedBy_of_compares {s : Symbol} (compares : s.compares = true) :
    (Category.chain .sum).extendedBy s = false := by
  cases s <;> first | rfl | cases compares

theorem Category.StopsAt.sum {ts : List Token} (h : comparison.StopsAt ts) : (chain .sum).StopsAt ts := by
  intro s us same
  have none := h s us same
  revert none
  cases s <;> decide

theorem Category.StopsAt.not_compares {ts us : List Token} {s : Symbol} (h : comparison.StopsAt ts)
    (same : ts = .op s :: us) : s.compares = false := by
  have none := h s us same
  revert none
  cases s <;> decide

/-- A closing parenthesis ends every phrase. -/
theorem Category.stopsAt_right (c : Category) (us : List Token) : c.StopsAt (.op .right :: us) := by
  refine Category.stopsAt_cons ?_ us
  cases c with
  | chain k => cases k <;> rfl
  | comparison | signed | operand => rfl

/-! ## One derivation for a list of tokens -/

/-- An operand does not begin with a sign. -/
theorem Phrase.operand_tokens_ne_sign {s : Symbol} (signs : s.signs = true) {us rest : List Token} :
    ∀ p : Phrase .operand, p.tokens ++ rest ≠ .op s :: us
  | .int _, h | .str _, h | .var _, h | .word _, h => by cases h
  | .parens _, h => by
      cases h
      cases signs

mutual

/-- **The grammar is unambiguous.**  Two phrases of one category in front of tokens that extend
neither, with the same tokens in all, are the same phrase in front of the same tokens. -/
theorem Phrase.eq_of_tokens_append {c : Category} : ∀ (p q : Phrase c) {ps qs : List Token},
    c.StopsAt ps → c.StopsAt qs → p.tokens ++ ps = q.tokens ++ qs → p = q ∧ ps = qs
  | .chain first tail, .chain first' tail', ps, qs, hp, hq, h => by
      rw [Phrase.tokens, Phrase.tokens, List.append_assoc, List.append_assoc] at h
      obtain ⟨rfl, behind⟩ := first.eq_of_tokens_append first'
        (tail.member_stopsAt hp) (tail'.member_stopsAt hq) h
      obtain ⟨rfl, rfl⟩ := tail.eq_of_tokens_append tail' hp hq behind
      exact ⟨rfl, rfl⟩
  | .single sum, .single sum', ps, qs, hp, hq, h => by
      obtain ⟨rfl, rfl⟩ := sum.eq_of_tokens_append sum' hp.sum hq.sum h
      exact ⟨rfl, rfl⟩
  -- The sum would have to end in front of a comparing symbol, with which the comparison goes on.
  | .single sum, .compared s compares left right, ps, qs, hp, hq, h => by
      rw [Phrase.tokens, Phrase.tokens, List.append_assoc] at h
      obtain ⟨-, behind⟩ := sum.eq_of_tokens_append left hp.sum
        (Category.stopsAt_cons (Symbol.sum_extendedBy_of_compares compares) _) h
      rw [hp.not_compares behind] at compares
      cases compares
  | .compared s compares left right, .single sum, ps, qs, hp, hq, h => by
      rw [Phrase.tokens, Phrase.tokens, List.append_assoc] at h
      obtain ⟨-, behind⟩ := left.eq_of_tokens_append sum
        (Category.stopsAt_cons (Symbol.sum_extendedBy_of_compares compares) _) hq.sum h
      rw [hq.not_compares behind.symm] at compares
      cases compares
  | .compared s compares left right, .compared s' compares' left' right', ps, qs, hp, hq, h => by
      rw [Phrase.tokens, Phrase.tokens, List.append_assoc, List.append_assoc, List.cons_append,
        List.cons_append] at h
      obtain ⟨rfl, behind⟩ := left.eq_of_tokens_append left'
        (Category.stopsAt_cons (Symbol.sum_extendedBy_of_compares compares) _)
        (Category.stopsAt_cons (Symbol.sum_extendedBy_of_compares compares') _) h
      rw [List.cons.injEq, Token.op.injEq] at behind
      obtain ⟨rfl, behind⟩ := behind
      obtain ⟨rfl, rfl⟩ := right.eq_of_tokens_append right' hp.sum hq.sum behind
      exact ⟨rfl, rfl⟩
  | .sign s signs operand, .sign s' signs' operand', ps, qs, hp, hq, h => by
      rw [Phrase.tokens, Phrase.tokens, List.cons_append, List.cons_append, List.cons.injEq,
        Token.op.injEq] at h
      obtain ⟨rfl, behind⟩ := h
      obtain ⟨rfl, rfl⟩ := operand.eq_of_tokens_append operand' hp hq behind
      exact ⟨rfl, rfl⟩
  | .sign s signs operand, .plain operand', ps, qs, hp, hq, h =>
      absurd h.symm (operand'.operand_tokens_ne_sign signs)
  | .plain operand, .sign s signs operand', ps, qs, hp, hq, h =>
      absurd h (operand.operand_tokens_ne_sign signs)
  | .plain operand, .plain operand', ps, qs, hp, hq, h => by
      -- Nothing extends an operand.
      have stops : ∀ ts : List Token, Category.operand.StopsAt ts := fun _ _ _ _ => rfl
      obtain ⟨rfl, rfl⟩ := operand.eq_of_tokens_append operand' (stops ps) (stops qs) h
      exact ⟨rfl, rfl⟩
  | .parens inner, .parens inner', ps, qs, hp, hq, h => by
      rw [Phrase.tokens, Phrase.tokens, List.cons_append, List.cons_append, List.cons.injEq,
        List.append_assoc, List.append_assoc] at h
      obtain ⟨rfl, behind⟩ := inner.eq_of_tokens_append inner' (Category.stopsAt_right _ _)
        (Category.stopsAt_right _ _) h.2
      cases behind
      exact ⟨rfl, rfl⟩
  | .parens _, .int _, _, _, _, _, h | .parens _, .str _, _, _, _, _, h
  | .parens _, .var _, _, _, _, _, h | .parens _, .word _, _, _, _, _, h => by cases h
  | .int _, q, _, _, _, _, h | .str _, q, _, _, _, _, h
  | .var _, q, _, _, _, _, h | .word _, q, _, _, _, _, h => by
      cases q <;> simp_all [Phrase.tokens]

theorem Tail.eq_of_tokens_append {k : Chain} : ∀ (t u : Tail k) {ps qs : List Token},
    (Category.chain k).StopsAt ps → (Category.chain k).StopsAt qs →
      t.tokens ++ ps = u.tokens ++ qs → t = u ∧ ps = qs
  | .done, .done, ps, qs, hp, hq, h => ⟨rfl, h⟩
  -- The symbol that goes on with one tail would stand behind the other, where the chain stops.
  | .done, .more s joins next tail, ps, qs, hp, hq, h => by
      rw [hp.not_joinedBy h] at joins
      cases joins
  | .more s joins next tail, .done, ps, qs, hp, hq, h => by
      rw [hq.not_joinedBy h.symm] at joins
      cases joins
  | .more s joins next tail, .more s' joins' next' tail', ps, qs, hp, hq, h => by
      rw [Tail.tokens, Tail.tokens, List.cons_append, List.cons_append, List.cons.injEq,
        Token.op.injEq, List.append_assoc, List.append_assoc] at h
      obtain ⟨rfl, behind⟩ := h
      obtain ⟨rfl, later⟩ := next.eq_of_tokens_append next'
        (tail.member_stopsAt hp) (tail'.member_stopsAt hq) behind
      obtain ⟨rfl, rfl⟩ := tail.eq_of_tokens_append tail' hp hq later
      exact ⟨rfl, rfl⟩

end

end Colloquy.Expr
