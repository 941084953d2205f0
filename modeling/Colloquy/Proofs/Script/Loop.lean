import Colloquy.Proofs.Script.Deed
import Colloquy.Proofs.Script.Recital

/-!
# The passes of a loop

`Loop.numbers` gives the numbers of all passes at once, by a division.  A walk finds them one by one:
`Loop.isPast` says whether there is a first one, and `Loop.next?` gives the one behind the one in progress.
The two agree (`Loop.numbers_of_isPast`, `Loop.IsLive.numbers_of_next`), whatever the direction of the step and
also where the next number would leave the 64-bit range: what is beyond that range is beyond the last
number as well.
-/

namespace Colloquy.Loop

open Text

/-- How many steps lead from the current number to the last. -/
def span (l : Loop) : Int := (l.last.toInt - l.current.toInt).fdiv l.step.toInt

theorem numbers_eq (l : Loop) :
    l.numbers = (List.range (l.span + 1).toNat).map fun (k : Nat) =>
      Int64.ofInt (l.current.toInt + k * l.step.toInt) := rfl

theorem toInt_step_ne_zero {l : Loop} (h : l.step ≠ 0) : l.step.toInt ≠ 0 := by
  intro zero
  exact h (Int64.toInt_inj.mp (zero.trans Int64.toInt_zero.symm))

theorem span_neg_of_isPast {l : Loop} (h : l.isPast = true) : l.span < 0 := by
  rw [isPast, Bool.or_eq_true, Bool.and_eq_true, Bool.and_eq_true] at h
  simp only [decide_eq_true_eq] at h
  rw [span]
  rcases h with ⟨up, past⟩ | ⟨down, past⟩
  · exact Int.fdiv_neg_of_neg_of_pos (by omega) up
  · rw [← Int.neg_fdiv_neg]
    exact Int.fdiv_neg_of_neg_of_pos (by omega) (by omega)

/-- A loop whose first pass is past the last one has no pass. -/
theorem numbers_of_isPast {l : Loop} (h : l.isPast = true) : l.numbers = [] := by
  have none : (l.span + 1).toNat = 0 := by
    have negative := span_neg_of_isPast h
    omega
  rw [numbers_eq, none]
  rfl

theorem IsLive.span_nonneg {l : Loop} (live : l.IsLive) : 0 ≤ l.span := by
  have counts := toInt_step_ne_zero live.step_ne_zero
  rw [span]
  rcases Int.lt_or_gt_of_ne counts with down | up
  · have le := live.le_current down
    exact Int.fdiv_nonneg_of_nonpos_of_nonpos (by omega) (by omega)
  · have le := live.current_le up
    exact Int.fdiv_nonneg (by omega) (by omega)

/-- Behind the last number there is no other. -/
theorem IsLive.span_eq_zero {l : Loop} (live : l.IsLive) (h : l.next? = none) : l.span = 0 := by
  have counts := toInt_step_ne_zero live.step_ne_zero
  have low := Int64.minValue_le_toInt l.current
  have high := Int64.toInt_le l.current
  have low' := Int64.minValue_le_toInt l.last
  have high' := Int64.toInt_le l.last
  rw [next?, Option.filter_eq_none_iff] at h
  rw [span]
  rcases Int.lt_or_gt_of_ne counts with down | up
  · have le := live.le_current down
    have past : l.current.toInt + l.step.toInt < l.last.toInt := by
      cases number : Decimal.ofInt? (l.current.toInt + l.step.toInt) with
      | none =>
        rw [Decimal.ofInt?_eq_none_iff] at number
        have top : Int64.maxValue.toInt = 9223372036854775807 := rfl
        omega
      | some i =>
        have no := h i number
        rw [Decimal.ofInt?_eq_some_iff] at number
        rw [if_neg (by omega), decide_eq_true_eq] at no
        omega
    rw [← Int.neg_fdiv_neg]
    exact Int.fdiv_eq_zero_of_lt (by omega) (by omega)
  · have le := live.current_le up
    have past : l.last.toInt < l.current.toInt + l.step.toInt := by
      cases number : Decimal.ofInt? (l.current.toInt + l.step.toInt) with
      | none =>
        rw [Decimal.ofInt?_eq_none_iff] at number
        have bottom : Int64.minValue.toInt = -9223372036854775808 := rfl
        omega
      | some i =>
        have no := h i number
        rw [Decimal.ofInt?_eq_some_iff] at number
        rw [if_pos up, decide_eq_true_eq] at no
        omega
    exact Int.fdiv_eq_zero_of_lt (by omega) (by omega)

theorem toInt_of_next? {l : Loop} {number : Int64} (h : l.next? = some number) :
    number.toInt = l.current.toInt + l.step.toInt := by
  rw [next?, Option.filter_eq_some_iff] at h
  exact Decimal.ofInt?_eq_some_iff.mp h.1

/-- From the next number it is one step less to the last. -/
theorem span_next {l : Loop} {number : Int64} (counts : l.step ≠ 0) (h : l.next? = some number) :
    ({ l with current := number } : Loop).span = l.span - 1 := by
  have apart : l.last.toInt - number.toInt = l.last.toInt - l.current.toInt - 1 * l.step.toInt := by
    rw [toInt_of_next? h]
    omega
  rw [span, span, apart]
  exact Int.sub_mul_fdiv_right _ _ (toInt_step_ne_zero counts)

theorem ofInt_first (l : Loop) : Int64.ofInt (l.current.toInt + ((0 : Nat) : Int) * l.step.toInt) = l.current := by
  rw [Int.natCast_zero, Int.zero_mul, Int.add_zero, Int64.ofInt_toInt]

/-- **The last pass** is the only one that is left. -/
theorem IsLive.numbers_of_last {l : Loop} (live : l.IsLive) (last : l.next? = none) :
    l.numbers = [l.current] := by
  rw [numbers_eq, live.span_eq_zero last]
  exact congrArg (· :: []) l.ofInt_first

/-- **A pass that is not the last** is followed by those from the next number on. -/
theorem IsLive.numbers_of_next {l : Loop} {number : Int64} (live : l.IsLive)
    (next : l.next? = some number) :
    l.numbers = l.current :: ({ l with current := number } : Loop).numbers := by
  have passes : (l.span + 1).toNat = l.span.toNat + 1 := by
    have nonneg := live.span_nonneg
    omega
  rw [numbers_eq, passes, List.range_succ_eq_map, List.map_cons, List.map_map, ofInt_first, numbers_eq,
    span_next live.step_ne_zero next, Int.sub_add_cancel]
  refine congrArg (l.current :: ·) (List.map_congr_left fun k _ => ?_)
  have apart : l.current.toInt + ((k + 1 : Nat) : Int) * l.step.toInt =
      number.toInt + (k : Int) * l.step.toInt := by
    rw [toInt_of_next? next, Int.natCast_succ, Int.add_mul, Int.one_mul]
    omega
  exact congrArg Int64.ofInt apart

/-- The pass in progress is the first of those that are left. -/
theorem IsLive.exists_numbers {l : Loop} (live : l.IsLive) : ∃ later, l.numbers = l.current :: later := by
  cases next : l.next? with
  | none => exact ⟨_, live.numbers_of_last next⟩
  | some number => exact ⟨_, live.numbers_of_next next⟩

end Colloquy.Loop
