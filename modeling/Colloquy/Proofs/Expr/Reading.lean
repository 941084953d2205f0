import Colloquy.Proofs.Expr.Grammar

/-!
# The reader follows the grammar

Reading tokens gives a whole tree exactly if the grammar derives the tokens, and then it is the tree of
the derivation.

* `Phrase.read_tokens`: in front of tokens that do not extend it, a phrase is read as its tree, and
  nothing behind it is touched.  The induction is on the derivation.
* `Category.derives_of_isWhole`: where a whole tree was read, what was taken off the tokens is a phrase
  with that tree.  The induction is along the reader.
* `isWhole_ofTokens_iff`: both together, for all tokens of a text.

A reading carries a bound on the tokens it leaves, which the reader needs in order to end.  The bound
plays no part here, so readings are compared by `Reading.parts`, and the reader's functions get
equations between parts first.
-/

namespace Colloquy.Expr

/-- What a reading found and what it left. -/
def Reading.parts {ts : List Token} (r : Reading ts) : Expr × List Token := (r.tree, r.rest)

/-- Reads a phrase of the category. -/
def Category.read : Category → List Token → Expr × List Token
  | chain k, ts => (readChain k ts).parts
  | comparison, ts => (readComparison ts).parts
  | signed, ts => (readSigned ts).parts
  | operand, ts => (readOperand ts).parts

/-- Reads the tail of a chain behind the tree of what stands in front. -/
def Chain.readTail (k : Chain) (left : Expr) (ts : List Token) : Expr × List Token :=
  (readMore k left ts).parts

/-! ## Equations of the reader -/

theorem Chain.read_member (k : Chain) (ts : List Token) :
    k.member.read ts = (readMember k ts).parts := by
  cases k <;> rw [readMember] <;> rfl

theorem Chain.read_chain (k : Chain) (ts : List Token) :
    (Category.chain k).read ts = k.readTail (k.member.read ts).1 (k.member.read ts).2 := by
  rw [Chain.read_member, Category.read, readChain]
  rfl

theorem Chain.readTail_of_joinedBy {k : Chain} {s : Symbol} (joins : k.joinedBy s = true) (left : Expr)
    (us : List Token) :
    k.readTail left (.op s :: us) =
      k.readTail (.binary s left (k.member.read us).1) (k.member.read us).2 := by
  rw [Chain.read_member, Chain.readTail, readMore]
  simp only [joins]
  rfl

theorem Chain.readTail_of_not_joinedBy {k : Chain} {ts : List Token}
    (stops : ∀ s us, ts = .op s :: us → k.joinedBy s = false) (left : Expr) :
    k.readTail left ts = (left, ts) := by
  unfold Chain.readTail readMore
  split
  · next s us =>
    rw [if_neg (by rw [stops s us rfl]; exact Bool.false_ne_true)]
    rfl
  · rfl

theorem Category.read_comparison_of_stops {ts : List Token}
    (stops : ∀ s us, ((chain .sum).read ts).2 = .op s :: us → s.compares = false) :
    comparison.read ts = (chain .sum).read ts := by
  show (readComparison ts).parts = (readChain .sum ts).parts
  change ∀ s us, (readChain .sum ts).rest = .op s :: us → s.compares = false at stops
  unfold readComparison
  dsimp only
  split
  · next s us behind =>
    rw [if_neg (by rw [stops s us behind]; exact Bool.false_ne_true)]
  · rfl

theorem Category.read_comparison_of_compares {ts us : List Token} {s : Symbol}
    (behind : ((chain .sum).read ts).2 = .op s :: us) (compares : s.compares = true)
    (stops : ∀ t vs, ((chain .sum).read us).2 = .op t :: vs → t.compares = false) :
    comparison.read ts =
      (.binary s ((chain .sum).read ts).1 ((chain .sum).read us).1, ((chain .sum).read us).2) := by
  show (readComparison ts).parts = _
  change (readChain .sum ts).rest = .op s :: us at behind
  change ∀ t vs, (readChain .sum us).rest = .op t :: vs → t.compares = false at stops
  unfold readComparison
  dsimp only
  split
  · next s' us' behind' =>
    rw [behind] at behind'
    cases behind'
    rw [if_pos compares]
    split
    · next t vs further =>
      rw [if_neg (by rw [stops t vs further]; exact Bool.false_ne_true)]
      rfl
    · rfl
  · next none => exact absurd behind (none s us)

theorem Category.read_comparison_of_chained {ts us vs : List Token} {s t : Symbol}
    (behind : ((chain .sum).read ts).2 = .op s :: us) (compares : s.compares = true)
    (further : ((chain .sum).read us).2 = .op t :: vs) (chained : t.compares = true) :
    (comparison.read ts).1.isWhole = false := by
  show (readComparison ts).tree.isWhole = false
  change (readChain .sum ts).rest = .op s :: us at behind
  change (readChain .sum us).rest = .op t :: vs at further
  unfold readComparison
  dsimp only
  split
  · next s' us' behind' =>
    rw [behind] at behind'
    cases behind'
    rw [if_pos compares]
    split
    · next t' vs' further' =>
      rw [further] at further'
      cases further'
      rw [if_pos chained]
      rfl
    · next none => exact absurd further (none t vs)
  · next none => exact absurd behind (none s us)

theorem Category.read_signed_of_signs {s : Symbol} (signs : s.signs = true) (us : List Token) :
    signed.read (.op s :: us) = (.sign s (signed.read us).1, (signed.read us).2) := by
  show (readSigned (.op s :: us)).parts = _
  rw [readSigned]
  simp only [signs]
  rfl

theorem Category.read_signed_of_not_signs {ts : List Token}
    (none : ∀ s us, ts = .op s :: us → s.signs = false) : signed.read ts = operand.read ts := by
  show (readSigned ts).parts = (readOperand ts).parts
  unfold readSigned
  split
  · next s us => rw [if_neg (by rw [none s us rfl]; exact Bool.false_ne_true)]
  · rfl

theorem Category.read_parens {us vs : List Token}
    (closed : ((chain .either).read us).2 = .op .right :: vs) :
    operand.read (.op .left :: us) = (((chain .either).read us).1, vs) := by
  show (readOperand (.op .left :: us)).parts = _
  change (readChain .either us).rest = .op .right :: vs at closed
  rw [readOperand]
  split
  · next vs' closed' =>
    rw [closed] at closed'
    cases closed'
    rfl
  · next none => exact absurd closed (none vs)

theorem Category.read_unclosed {us : List Token}
    (none : ∀ vs, ((chain .either).read us).2 ≠ .op .right :: vs) :
    (operand.read (.op .left :: us)).1.isWhole = false := by
  show (readOperand (.op .left :: us)).tree.isWhole = false
  rw [readOperand]
  split
  · next vs closed => exact absurd closed (none vs)
  · rfl

theorem Category.read_unexpected {s : Symbol} (closed : s ≠ .left) (us : List Token) :
    (operand.read (.op s :: us)).1.isWhole = false := by
  show (readOperand (.op s :: us)).tree.isWhole = false
  rw [readOperand]
  · rfl
  · exact closed

/-! ## Phrases are read -/

mutual

/-- **The reader knows every phrase.**  It is read as its tree, up to its end and no further. -/
theorem Phrase.read_tokens {c : Category} : ∀ (p : Phrase c) {rest : List Token},
    c.StopsAt rest → c.read (p.tokens ++ rest) = (p.tree, rest)
  | .chain first tail, rest, stops => by
      rw [Phrase.tokens, List.append_assoc, Chain.read_chain,
        first.read_tokens (tail.member_stopsAt stops)]
      exact tail.readTail_tokens stops
  | .single sum, rest, stops => by
      have read := sum.read_tokens stops.sum
      rw [Phrase.tokens, Category.read_comparison_of_stops, read, Phrase.tree]
      intro s us behind
      rw [read] at behind
      exact stops.not_compares behind
  | .compared s compares left right, rest, stops => by
      have readLeft : (Category.chain .sum).read (left.tokens ++ .op s :: (right.tokens ++ rest)) =
          (left.tree, .op s :: (right.tokens ++ rest)) :=
        left.read_tokens (Category.stopsAt_cons (Symbol.sum_extendedBy_of_compares compares) _)
      have readRight := right.read_tokens stops.sum
      rw [Phrase.tokens, List.append_assoc, List.cons_append]
      have behind : ((Category.chain .sum).read
          (left.tokens ++ .op s :: (right.tokens ++ rest))).2 = .op s :: (right.tokens ++ rest) := by
        rw [readLeft]
      rw [Category.read_comparison_of_compares behind compares, readLeft, readRight, Phrase.tree]
      intro t vs further
      rw [readRight] at further
      exact stops.not_compares further
  | .sign s signs operand, rest, stops => by
      rw [Phrase.tokens, List.cons_append, Category.read_signed_of_signs signs,
        operand.read_tokens stops, Phrase.tree]
  | .plain operand, rest, stops => by
      have read : Category.operand.read (operand.tokens ++ rest) = (operand.tree, rest) :=
        operand.read_tokens fun _ _ _ => rfl
      rw [Phrase.tokens, Category.read_signed_of_not_signs, read, Phrase.tree]
      intro s us behind
      cases signs : s.signs with
      | false => rfl
      | true => exact absurd behind (operand.operand_tokens_ne_sign signs)
  | .int i, rest, stops => by
      show (readOperand (.int i :: rest)).parts = _
      rw [readOperand]
      rfl
  | .str s, rest, stops => by
      show (readOperand (.str s :: rest)).parts = _
      rw [readOperand]
      rfl
  | .var s, rest, stops => by
      show (readOperand (.var s :: rest)).parts = _
      rw [readOperand]
      rfl
  | .word s, rest, stops => by
      show (readOperand (.word s :: rest)).parts = _
      rw [readOperand]
      rfl
  | .parens inner, rest, stops => by
      have read : (Category.chain .either).read (inner.tokens ++ .op .right :: rest) =
          (inner.tree, .op .right :: rest) := inner.read_tokens (Category.stopsAt_right _ rest)
      have closed : ((Category.chain .either).read (inner.tokens ++ .op .right :: rest)).2 =
          .op .right :: rest := by
        rw [read]
      rw [Phrase.tokens, List.cons_append, List.append_assoc, List.singleton_append,
        Category.read_parens closed, read, Phrase.tree]

theorem Tail.readTail_tokens {k : Chain} : ∀ (t : Tail k) {left : Expr} {rest : List Token},
    (Category.chain k).StopsAt rest → k.readTail left (t.tokens ++ rest) = (t.graft left, rest)
  | .done, left, rest, stops =>
      Chain.readTail_of_not_joinedBy (fun _ _ same => stops.not_joinedBy same) left
  | .more s joins next tail, left, rest, stops => by
      rw [Tail.tokens, List.cons_append, List.append_assoc, Chain.readTail_of_joinedBy joins,
        next.read_tokens (tail.member_stopsAt stops)]
      exact tail.readTail_tokens stops

end

/-! ## What is read is a phrase -/

/-- How deep the reader is nested when it reads the category. -/
def Category.rank : Category → Nat
  | chain k => k.rank + 1
  | comparison => 6
  | signed => 1
  | operand => 0

theorem Chain.rank_member_le (k : Chain) : k.member.rank ≤ k.rank := by
  cases k <;> decide

theorem Category.length_read_le (c : Category) (ts : List Token) :
    (c.read ts).2.length ≤ ts.length := by
  cases c with
  | chain k => exact (readChain k ts).rest_le
  | comparison => exact (readComparison ts).rest_le
  | signed => exact (readSigned ts).rest_le
  | operand => exact (readOperand ts).rest_le

/-- The reader comes closer to its end where it has no more tokens and is nested less deeply. -/
theorem lex_of_length_le {m n i j : Nat} (h : m ≤ n) (deeper : i < j) :
    Prod.Lex (· < ·) (· < ·) (m, i) (n, j) := by
  rcases Nat.lt_or_eq_of_le h with less | rfl
  · exact Prod.Lex.left _ _ less
  · exact Prod.Lex.right _ deeper

mutual

/-- **The reader finds phrases only.**  If it reads a whole tree, the tokens that it took are a phrase
with that tree. -/
theorem Category.derives_of_isWhole (c : Category) (ts : List Token)
    (whole : (c.read ts).1.isWhole = true) :
    ∃ p : Phrase c, p.tokens ++ (c.read ts).2 = ts ∧ p.tree = (c.read ts).1 := by
  match c with
  | .chain k =>
    rw [Chain.read_chain] at whole ⊢
    have shorter := k.member.length_read_le ts
    -- The tail grafts the first member into its tree, so it has to tell first that this one is whole.
    obtain ⟨wholeFirst, t, tokens, graft⟩ := Chain.derives_of_isWhole k _ _ whole
    obtain ⟨p, taken, tree⟩ := Category.derives_of_isWhole k.member ts wholeFirst
    refine ⟨.chain p t, ?_, ?_⟩
    · rw [Phrase.tokens, List.append_assoc, tokens, taken]
    · rw [Phrase.tree, tree, graft]
  | .comparison =>
    by_cases compared : ∃ s us, ((Category.chain .sum).read ts).2 = .op s :: us ∧ s.compares = true
    · obtain ⟨s, us, behind, compares⟩ := compared
      have shorter : us.length < ts.length := by
        have bound := (Category.chain .sum).length_read_le ts
        rw [behind, List.length_cons] at bound
        exact bound
      by_cases chained : ∃ t vs, ((Category.chain .sum).read us).2 = .op t :: vs ∧ t.compares = true
      · obtain ⟨t, vs, further, again⟩ := chained
        -- Two comparisons in a row leave a malformed place.
        rw [Category.read_comparison_of_chained behind compares further again] at whole
        cases whole
      · have stops : ∀ t vs, ((Category.chain .sum).read us).2 = .op t :: vs → t.compares = false := by
          intro t vs further
          exact Bool.eq_false_iff.mpr fun again => chained ⟨t, vs, further, again⟩
        rw [Category.read_comparison_of_compares behind compares stops] at whole ⊢
        rw [isWhole, Bool.and_eq_true] at whole
        obtain ⟨p, tokens, tree⟩ := Category.derives_of_isWhole (.chain .sum) ts whole.1
        obtain ⟨q, tokens', tree'⟩ := Category.derives_of_isWhole (.chain .sum) us whole.2
        refine ⟨.compared s compares p q, ?_, ?_⟩
        · rw [Phrase.tokens, List.append_assoc, List.cons_append, tokens', ← behind, tokens]
        · rw [Phrase.tree, tree, tree']
    · have stops : ∀ s us, ((Category.chain .sum).read ts).2 = .op s :: us → s.compares = false := by
        intro s us behind
        exact Bool.eq_false_iff.mpr fun compares => compared ⟨s, us, behind, compares⟩
      rw [Category.read_comparison_of_stops stops] at whole ⊢
      obtain ⟨p, tokens, tree⟩ := Category.derives_of_isWhole (.chain .sum) ts whole
      exact ⟨.single p, tokens, tree⟩
  | .signed =>
    by_cases sign : ∃ s us, ts = .op s :: us ∧ s.signs = true
    · obtain ⟨s, us, same, signs⟩ := sign
      have shorter : us.length < ts.length := by rw [same]; exact Nat.lt_succ_self _
      rw [same, Category.read_signed_of_signs signs] at whole ⊢
      obtain ⟨p, tokens, tree⟩ := Category.derives_of_isWhole .signed us whole
      refine ⟨.sign s signs p, ?_, ?_⟩
      · rw [Phrase.tokens, List.cons_append, tokens]
      · rw [Phrase.tree, tree]
    · have none : ∀ s us, ts = .op s :: us → s.signs = false := by
        intro s us same
        exact Bool.eq_false_iff.mpr fun signs => sign ⟨s, us, same, signs⟩
      rw [Category.read_signed_of_not_signs none] at whole ⊢
      obtain ⟨p, tokens, tree⟩ := Category.derives_of_isWhole .operand ts whole
      exact ⟨.plain p, tokens, tree⟩
  | .operand =>
    match ts with
    | [] =>
      rw [Category.read, readOperand] at whole
      cases whole
    | .int i :: us =>
      refine ⟨.int i, ?_⟩
      rw [Category.read, readOperand]
      exact ⟨rfl, rfl⟩
    | .str s :: us =>
      refine ⟨.str s, ?_⟩
      rw [Category.read, readOperand]
      exact ⟨rfl, rfl⟩
    | .var s :: us =>
      refine ⟨.var s, ?_⟩
      rw [Category.read, readOperand]
      exact ⟨rfl, rfl⟩
    | .word s :: us =>
      refine ⟨.word s, ?_⟩
      rw [Category.read, readOperand]
      exact ⟨rfl, rfl⟩
    | .op s :: us =>
      by_cases opens : s = .left
      · rw [opens] at whole ⊢
        by_cases closed : ∃ vs, ((Category.chain .either).read us).2 = .op .right :: vs
        · obtain ⟨vs, closed⟩ := closed
          rw [Category.read_parens closed] at whole ⊢
          obtain ⟨p, tokens, tree⟩ := Category.derives_of_isWhole (.chain .either) us whole
          refine ⟨.parens p, ?_, ?_⟩
          · rw [Phrase.tokens, List.cons_append, List.append_assoc, List.singleton_append, ← closed,
              tokens]
          · rw [Phrase.tree, tree]
        · -- Without a closing parenthesis the place is malformed, as it is at any other symbol.
          rw [Category.read_unclosed fun vs same => closed ⟨vs, same⟩] at whole
          cases whole
      · rw [Category.read_unexpected opens] at whole
        cases whole
termination_by (ts.length, c.rank)
decreasing_by
  · exact lex_of_length_le shorter (Nat.succ_pos _)
  · -- The first member is read from the same tokens, so only the depth tells the two apart.
    exact Prod.Lex.right _ (Nat.lt_succ_of_le (Chain.rank_member_le k))
  · exact Prod.Lex.right _ (by decide)
  · exact Prod.Lex.left _ _ shorter
  · exact Prod.Lex.right _ (by decide)
  · exact Prod.Lex.left _ _ shorter
  · exact Prod.Lex.right _ (by decide)
  · exact Prod.Lex.left _ _ (Nat.lt_succ_self _)

theorem Chain.derives_of_isWhole (k : Chain) (left : Expr) (ts : List Token)
    (whole : (k.readTail left ts).1.isWhole = true) :
    left.isWhole = true ∧
      ∃ t : Tail k, t.tokens ++ (k.readTail left ts).2 = ts ∧ t.graft left = (k.readTail left ts).1 := by
  by_cases joined : ∃ s us, ts = .op s :: us ∧ k.joinedBy s = true
  · obtain ⟨s, us, same, joins⟩ := joined
    have shorter : us.length < ts.length := by rw [same]; exact Nat.lt_succ_self _
    have notLonger := k.member.length_read_le us
    rw [same, Chain.readTail_of_joinedBy joins] at whole ⊢
    obtain ⟨wholeJoined, t, tokens, graft⟩ := Chain.derives_of_isWhole k _ _ whole
    rw [isWhole, Bool.and_eq_true] at wholeJoined
    obtain ⟨p, taken, tree⟩ := Category.derives_of_isWhole k.member us wholeJoined.2
    refine ⟨wholeJoined.1, .more s joins p t, ?_, ?_⟩
    · rw [Tail.tokens, List.cons_append, List.append_assoc, tokens, taken]
    · rw [Tail.graft, tree, graft]
  · have stops : ∀ s us, ts = .op s :: us → k.joinedBy s = false := by
      intro s us same
      exact Bool.eq_false_iff.mpr fun joins => joined ⟨s, us, same, joins⟩
    rw [Chain.readTail_of_not_joinedBy stops] at whole ⊢
    exact ⟨whole, .done, rfl, rfl⟩
termination_by (ts.length, 0)
decreasing_by
  · exact Prod.Lex.left _ _ (Nat.lt_of_le_of_lt notLonger shorter)
  · exact Prod.Lex.left _ _ shorter

end

/-! ## Texts -/

/-- The tokens of a phrase become its tree. -/
theorem Phrase.ofTokens_tokens (p : Phrase (.chain .either)) : ofTokens p.tokens = p.tree := by
  have read := p.read_tokens (Category.stopsAt_nil _)
  rw [List.append_nil, Category.read, Reading.parts, Prod.mk.injEq] at read
  obtain ⟨tree, rest⟩ := read
  unfold ofTokens
  dsimp only
  rw [rest]
  exact tree

/-- **The tokens with a whole tree are the texts of the grammar.** -/
theorem isWhole_ofTokens_iff (ts : List Token) :
    (ofTokens ts).isWhole = true ↔ ∃ p : Phrase (.chain .either), p.tokens = ts := by
  constructor
  · intro whole
    unfold ofTokens at whole
    dsimp only at whole
    split at whole
    · next rest =>
      obtain ⟨p, tokens, -⟩ := Category.derives_of_isWhole (.chain .either) ts whole
      rw [Category.read, Reading.parts, rest, List.append_nil] at tokens
      exact ⟨p, tokens⟩
    · cases whole
  · rintro ⟨p, rfl⟩
    rw [p.ofTokens_tokens]
    exact p.isWhole_tree

end Colloquy.Expr
