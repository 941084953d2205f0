import Colloquy.Expr.Token

/-!
# Expressions as trees

The grammar, from loose to tight: `||` and `&&`, one comparison, `+` and `-`, `*` and `/`, the signs
`-`, `+` and `!` in front, and operands.  Chains associate to the left; comparisons do not chain.

### A tree for every text

`Expr.ofTokens` is total.  Where the tokens leave the grammar the tree gets a node that says why, and
nothing behind that place is read.  Such a node has no value, but what stands before it keeps its
own: an expression is evaluated from left to right, so a division by zero in front of a stray token
is met before the stray token.  `Expr.isWhole` tells the trees without such a node.

## Main definitions

* `Expr`: the trees.
* `Expr.ofTokens`: the tree of a list of tokens.
-/

namespace Colloquy

open Colloquy.Expr in
/-- An expression, which may end at a place where it is malformed. -/
inductive Expr where
  | int (value : Int64)
  | str (text : String)
  | var (name : String)
  | word (text : String)
  | sign (symbol : Symbol) (operand : Expr)
  | binary (symbol : Symbol) (left right : Expr)
  /-- A place that should hold an operand and holds none. -/
  | missing (reason : Malformed)
  /-- An expression behind which the text leaves the grammar. -/
  | broken (whole : Expr) (reason : Malformed)
  deriving DecidableEq

namespace Expr

/-- Whether the tree has no malformed place. -/
def isWhole : Expr → Bool
  | sign _ e => e.isWhole
  | binary _ l r => l.isWhole && r.isWhole
  | missing _ => false
  | broken _ _ => false
  | _ => true

/-- The four kinds of chain, from the loosest. -/
inductive Chain where
  | either | both | sum | product
  deriving DecidableEq

/-- Whether the symbol joins the members of such a chain. -/
def Chain.joinedBy : Chain → Symbol → Bool
  | either, s => s = .or
  | both, s => s = .and
  | sum, s => s = .plus || s = .minus
  | product, s => s = .times || s = .slash

/-- How deep the grammar of the chain nests. -/
def Chain.rank : Chain → Nat
  | either => 9
  | both => 7
  | sum => 4
  | product => 2

/-- Whether the symbol compares. -/
def Symbol.compares : Symbol → Bool
  | .eq2 | .eq | .ne | .lt | .le | .gt | .ge => true
  | _ => false

/-- Whether the symbol may stand in front of an operand. -/
def Symbol.signs : Symbol → Bool
  | .minus | .plus | .not => true
  | _ => false

/-- A tree read from the front of a list of tokens, with the tokens behind it. -/
structure Reading (tokens : List Token) where
  tree : Expr
  rest : List Token
  rest_le : rest.length ≤ tokens.length

/-- The reading of a longer list that has the same tree and rest. -/
def Reading.weaken {ts us : List Token} (r : Reading ts) (h : ts.length ≤ us.length) : Reading us :=
  ⟨r.tree, r.rest, Nat.le_trans r.rest_le h⟩

/-- A reading that finds no operand; nothing is read behind it. -/
def Reading.none (ts : List Token) (reason : Malformed) : Reading ts :=
  ⟨.missing reason, [], Nat.zero_le _⟩

mutual

/-- One chain: its first member, then as many more as there are joining symbols. -/
def readChain (k : Chain) (ts : List Token) : Reading ts :=
  let first := readMember k ts
  (readMore k first.tree first.rest).weaken first.rest_le
termination_by (ts.length, k.rank + 1)
decreasing_by
  · exact Prod.Lex.right _ (Nat.lt_succ_self _)
  · have := first.rest_le
    rcases Nat.lt_or_eq_of_le this with h | h
    · exact Prod.Lex.left _ _ h
    · rw [h]; exact Prod.Lex.right _ (Nat.succ_pos _)

/-- The rest of a chain behind the tree of what was read of it. -/
def readMore (k : Chain) (left : Expr) (ts : List Token) : Reading ts :=
  match ts with
  | .op s :: us =>
    if k.joinedBy s then
      let right := readMember k us
      (readMore k (.binary s left right.tree) right.rest).weaken
        (Nat.le_succ_of_le right.rest_le)
    else ⟨left, .op s :: us, Nat.le_refl _⟩
  | us => ⟨left, us, Nat.le_refl _⟩
termination_by (ts.length, 0)
decreasing_by
  · exact Prod.Lex.left _ _ (Nat.lt_succ_self _)
  · exact Prod.Lex.left _ _ (Nat.lt_succ_of_le right.rest_le)

/-- A member of a chain, which is the next tighter kind of expression. -/
def readMember (k : Chain) (ts : List Token) : Reading ts :=
  match k with
  | .either => readChain .both ts
  | .both => readComparison ts
  | .sum => readChain .product ts
  | .product => readSigned ts
termination_by (ts.length, k.rank)
decreasing_by all_goals exact Prod.Lex.right _ (by decide)

/-- One sum, or two with a comparing symbol between; a second comparing symbol breaks it. -/
def readComparison (ts : List Token) : Reading ts :=
  let left := readChain .sum ts
  match _h : left.rest with
  | .op s :: us =>
    if s.compares then
      let right := readChain .sum us
      have le : right.rest.length ≤ ts.length := by
        have h₁ := right.rest_le
        have h₂ := left.rest_le
        rw [_h, List.length_cons] at h₂
        omega
      match right.rest with
      | .op t :: _ =>
        if t.compares then
          ⟨.broken (.binary s left.tree right.tree) .chained, [], Nat.zero_le _⟩
        else ⟨.binary s left.tree right.tree, right.rest, le⟩
      | _ => ⟨.binary s left.tree right.tree, right.rest, le⟩
    else left
  | _ => left
termination_by (ts.length, 6)
decreasing_by
  · exact Prod.Lex.right _ (by decide)
  · have h₂ := left.rest_le
    rw [_h, List.length_cons] at h₂
    exact Prod.Lex.left _ _ (by omega)

/-- An operand with any number of signs in front. -/
def readSigned (ts : List Token) : Reading ts :=
  match ts with
  | .op s :: us =>
    if s.signs then
      let operand := readSigned us
      ⟨.sign s operand.tree, operand.rest, Nat.le_succ_of_le operand.rest_le⟩
    else readOperand (.op s :: us)
  | us => readOperand us
termination_by (ts.length, 1)
decreasing_by
  · exact Prod.Lex.left _ _ (Nat.lt_succ_self _)
  · exact Prod.Lex.right _ (by decide)
  · exact Prod.Lex.right _ (by decide)

/-- An operand: a literal, a variable, a word, or an expression in parentheses. -/
def readOperand (ts : List Token) : Reading ts :=
  match ts with
  | [] => Reading.none [] .unexpectedEnd
  | .int i :: us => ⟨.int i, us, Nat.le_succ _⟩
  | .str s :: us => ⟨.str s, us, Nat.le_succ _⟩
  | .var s :: us => ⟨.var s, us, Nat.le_succ _⟩
  | .word s :: us => ⟨.word s, us, Nat.le_succ _⟩
  | .op .left :: us =>
    let inner := readChain .either us
    match _h : inner.rest with
    | .op .right :: vs =>
      ⟨inner.tree, vs, by
        have := inner.rest_le
        rw [_h, List.length_cons] at this
        rw [List.length_cons]
        omega⟩
    | _ => ⟨.broken inner.tree .unclosed, [], Nat.zero_le _⟩
  | .op s :: us => Reading.none (.op s :: us) (.unexpected s)
termination_by (ts.length, 0)
decreasing_by exact Prod.Lex.left _ _ (Nat.lt_succ_self _)

end

/-- The tree of a list of tokens.  Tokens left over behind a whole expression break it. -/
def ofTokens (ts : List Token) : Expr :=
  let whole := readChain .either ts
  match whole.rest with
  | [] => whole.tree
  | t :: _ => .broken whole.tree (.trailing t)

end Expr

end Colloquy
