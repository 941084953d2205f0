import Mathlib.Logic.ExistsUnique
import Colloquy.Expr.Operand
import Colloquy.Proofs.Text.Split

/-!
# Laws of comparison

Operands compare in three ways, as integers, as truth values or as texts, and it takes both of them to know which.
The comparisons fit together all the same, over operands of every kind (`Operand.comparisons_cohere`): each of them
is what two of the others say, equality is an equivalence, and of two set operands exactly one is less, or they are
equal.  Unset is equal to itself and stands in no order to anything else.

One law is missing.  To be less is not transitive across kinds, since two integers compare as integers and an
integer and a text as texts: 9 is less than 10, and 10 is less than the text `9`, which is equal to 9.

### What is load-bearing

Each of the three ways is a lawful order, in which operands stand as equals only if they are the same.  That they
call the same operands equal is not a matter of orders.  It holds because an integer is known by its decimal text
(`Decimal.write_injective`) and a truth value by its word, so that two set operands stand as equals exactly if they
show the same text, whichever way they are compared (`Operand.order?_eq_iff`).  Equality is an equivalence because
having the same text is one.

All other laws are read off the order of two operands and the order of the same two the other way round
(`Operand.order?_swap`).

## Main definitions

* `Operand.shown?`: the text of an operand that is set.
-/

namespace Colloquy.Text.Decimal

/-- Integers that are written alike are the same. -/
theorem write_injective : Function.Injective write := by
  intro i j same
  have read : readInt? (write i).toList = readInt? (write j).toList := by rw [same]
  rw [readInt?_write, readInt?_write] at read
  exact Option.some.inj read

end Colloquy.Text.Decimal

namespace Colloquy.Expr

open Text

namespace Operand

/-! ## The three orders -/

theorem orderText_eq_compare (s t : String) : orderText s t = compare s t := rfl

theorem orderInt_eq_compare (i j : Int64) : orderInt i j = compare i j := by
  show orderInt i j = if i < j then .lt else if i = j then .eq else .gt
  simp only [orderInt, Int64.lt_iff_toInt_lt]

theorem orderBool_eq_compare (b c : Bool) : orderBool b c = compare b c := by
  cases b <;> cases c <;> rfl

theorem truthText_inj {b c : Bool} : truthText b = truthText c ↔ b = c := by
  cases b <;> cases c <;> decide

/-! ## The order of operands -/

/-- The text of an operand that is set. -/
def shown? : Operand → Option String
  | unset => none
  | x => some x.text

theorem shown?_eq_some {x : Operand} (set : x ≠ unset) : x.shown? = some x.text := by
  cases x with
  | unset => exact absurd rfl set
  | int _ | str _ | bool _ => rfl

theorem shown?_eq_none_iff {x : Operand} : x.shown? = none ↔ x = unset := by
  cases x <;> simp [shown?]

/-- Operands the other way round have the order the other way round. -/
theorem order?_swap (x y : Operand) : order? y x = (order? x y).map Ordering.swap := by
  have ints (i j : Int64) : orderInt j i = (orderInt i j).swap := by
    rw [orderInt_eq_compare, orderInt_eq_compare]
    exact Std.OrientedOrd.eq_swap
  have bools (b c : Bool) : orderBool c b = (orderBool b c).swap := by
    rw [orderBool_eq_compare, orderBool_eq_compare]
    exact Std.OrientedOrd.eq_swap
  have texts (s t : String) : orderText t s = (orderText s t).swap := by
    rw [orderText_eq_compare, orderText_eq_compare]
    exact Std.OrientedOrd.eq_swap
  cases x <;> cases y <;>
    first
    | rfl
    | exact congrArg some (ints ..)
    | exact congrArg some (bools ..)
    | exact congrArg some (texts ..)

/-- **Operands stand as equals exactly if they show the same**, in whichever way they are compared. -/
theorem order?_eq_iff {x y : Operand} : order? x y = some .eq ↔ x.shown? = y.shown? := by
  have ints (i j : Int64) : orderInt i j = .eq ↔ Decimal.write i = Decimal.write j := by
    rw [orderInt_eq_compare, Std.compare_eq_iff_eq, Decimal.write_injective.eq_iff]
  have bools (b c : Bool) : orderBool b c = .eq ↔ truthText b = truthText c := by
    rw [orderBool_eq_compare, Std.compare_eq_iff_eq, truthText_inj]
  have texts (s t : String) : orderText s t = .eq ↔ s = t := by
    rw [orderText_eq_compare, Std.compare_eq_iff_eq]
  cases x <;> cases y <;> simp [order?, shown?, text, ints, bools, texts]

/-- Two set operands have an order. -/
theorem exists_order? {x y : Operand} (setX : x ≠ unset) (setY : y ≠ unset) : ∃ o, order? x y = some o := by
  cases x <;> cases y <;> first | exact ⟨_, rfl⟩ | contradiction

/-- Of two operands of which one is unset there is no order, unless both are. -/
theorem order?_unset {x : Operand} (set : x ≠ unset) : order? x unset = none ∧ order? unset x = none := by
  cases x with
  | unset => exact absurd rfl set
  | int _ | str _ | bool _ => exact ⟨rfl, rfl⟩

/-! ## The comparisons -/

theorem compares_eq2_iff {x y : Operand} : x.compares .eq2 y = true ↔ x.shown? = y.shown? := by
  rw [← order?_eq_iff, compares]
  cases order? x y with
  | none => decide
  | some o => cases o <;> decide

theorem compares_ne (x y : Operand) : x.compares .ne y = !x.compares .eq2 y := by
  rw [compares, compares]
  rcases order? x y with _ | _ | _ | _ <;> decide

/-- Without an order no comparison holds but that the operands differ. -/
theorem Comparison.holds_none {s : Symbol} (other : s ≠ .ne) : Comparison.holds s none = false :=
  decide_eq_false other

/-- **The comparisons cohere**, over operands of all kinds.  To differ is not to be equal, for which there are two
symbols; to be equal is an equivalence, and for set operands to show the same text.  Unset is equal to unset only,
and with a set operand no comparison holds but that they differ.  At most is less or equal, what is less on the left
is greater on the right, and of two set operands exactly one of less, equal and greater holds. -/
theorem comparisons_cohere (x y : Operand) :
    x.compares .ne y = (!x.compares .eq2 y) ∧
    x.compares .eq y = x.compares .eq2 y ∧
    Equivalence (fun v w : Operand => v.compares .eq2 w = true) ∧
    (x ≠ unset → y ≠ unset → (x.compares .eq2 y = true ↔ x.text = y.text)) ∧
    (compares .eq2 unset y = true ↔ y = unset) ∧
    (x ≠ unset → ∀ s, s ≠ .ne → x.compares s unset = false ∧ compares s unset x = false) ∧
    (x.compares .le y = true ↔ x.compares .lt y = true ∨ x.compares .eq2 y = true) ∧
    (x.compares .lt y = true ↔ y.compares .gt x = true) ∧
    (x.compares .le y = true ↔ y.compares .ge x = true) ∧
    (x ≠ unset → y ≠ unset → ∃! s, s ∈ [Symbol.lt, .eq2, .gt] ∧ x.compares s y = true) := by
  have equivalence : Equivalence (fun v w : Operand => v.compares .eq2 w = true) := by
    simp only [compares_eq2_iff]
    exact ⟨fun _ => rfl, Eq.symm, Eq.trans⟩
  have byText (setX : x ≠ unset) (setY : y ≠ unset) : x.compares .eq2 y = true ↔ x.text = y.text := by
    rw [compares_eq2_iff, shown?_eq_some setX, shown?_eq_some setY, Option.some.injEq]
  have ofUnset : compares .eq2 unset y = true ↔ y = unset := by
    rw [compares_eq2_iff, ← shown?_eq_none_iff (x := y)]
    exact eq_comm
  have withUnset (set : x ≠ unset) (s : Symbol) (other : s ≠ .ne) :
      x.compares s unset = false ∧ compares s unset x = false := by
    obtain ⟨right, left⟩ := order?_unset set
    rw [compares, compares, right, left]
    exact ⟨Comparison.holds_none other, Comparison.holds_none other⟩
  have one (setX : x ≠ unset) (setY : y ≠ unset) :
      ∃! s, s ∈ [Symbol.lt, .eq2, .gt] ∧ x.compares s y = true := by
    obtain ⟨o, order⟩ := exists_order? setX setY
    simp only [compares, order]
    cases o with
    | lt => exact ⟨.lt, by decide, by simp [Comparison.holds]⟩
    | eq => exact ⟨.eq2, by decide, by simp [Comparison.holds]⟩
    | gt => exact ⟨.gt, by decide, by simp [Comparison.holds]⟩
  -- What is left is true of every order, and of no order.
  refine ⟨compares_ne x y, ?_, equivalence, byText, ofUnset, withUnset, ?_, ?_, ?_, one⟩ <;>
    simp only [compares, order?_swap x y] <;>
    rcases order? x y with _ | _ | _ | _ <;> decide

/-- The least integer and the text that it is written as. -/
theorem comparisons_cohere_at_least_integer :
    int Int64.minValue ≠ unset ∧ str "-9223372036854775808" ≠ unset ∧
      compares .eq2 (int Int64.minValue) (str "-9223372036854775808") = true ∧
      compares .lt (int Int64.minValue) unset = false ∧
      ∃! s, s ∈ [Symbol.lt, .eq2, .gt] ∧
        compares s (int Int64.minValue) (str "-9223372036854775808") = true := by
  have integer : int Int64.minValue ≠ unset := nofun
  have written : str "-9223372036854775808" ≠ unset := nofun
  obtain ⟨-, -, -, byText, -, withUnset, -, -, -, one⟩ :=
    comparisons_cohere (int Int64.minValue) (str "-9223372036854775808")
  exact ⟨integer, written, (byText integer written).mpr (by decide), (withUnset integer .lt (by decide)).1,
    one integer written⟩

/-- To be less is not transitive. -/
example : compares .lt (.int 9) (.int 10) = true ∧ compares .lt (.int 10) (.str "9") = true ∧
    compares .eq2 (.str "9") (.int 9) = true := by
  decide

end Operand

end Colloquy.Expr
