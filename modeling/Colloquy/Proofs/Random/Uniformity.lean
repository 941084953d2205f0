import Mathlib.Data.Int.CardIntervalMod
import Mathlib.Data.Nat.Find
import Mathlib.Data.PFun
import Mathlib.Order.Bounds.Basic
import Mathlib.SetTheory.Cardinal.Finite
import Colloquy.Random

/-!
# Bounded draws are uniform

A number below a bound is the remainder of the first word that is accepted, and the draw takes the words up to that
one and no more (`drawFrom_of_isFirst`).  The accepted words are those below the largest multiple of the bound
that is not beyond the number of all words.  So each remainder is that of equally many accepted words
(`card_accepted_remainder`), and more than half of all words are accepted: a draw is exactly uniform as far as the
words are, and that for every bound.

### What is load-bearing

A source of words may be any function, and one that never gives an accepted word is one whose draw never ends.
`drawFrom` is the draw from any source, a loop without a bound on its length that may have no result
(`drawFrom_eq_none`).  From a `PatientSource` it gives what `drawBelow` gives, so nothing that is said of the loop is
said of it alone.

## Main definitions

* `IsAccepted`: the words of which a draw takes the remainder.
* `IsFirstAccepted`: how many words a draw rejects.
* `search`, `drawFrom`: a draw from any source.
-/

namespace Colloquy

/-- A draw below `bound` takes this word. -/
def IsAccepted (bound word : UInt32) : Prop := word.toNat < acceptLimit bound

instance (bound word : UInt32) : Decidable (IsAccepted bound word) := Nat.decLt _ _

/-- Of the words that the source gives, the one that `k` others precede is the first that is accepted. -/
structure IsFirstAccepted {ρ : Type} (next : ρ → UInt32 × ρ) (bound : UInt32) (r : ρ) (k : Nat) : Prop where
  accepted : IsAccepted bound (drawAt next k r)
  rejected : ∀ j < k, ¬ IsAccepted bound (drawAt next j r)

/-- One word of a search: the search ends with it, or goes on behind it. -/
def lookAt {ρ : Type} (next : ρ → UInt32 × ρ) (limit : UInt64) (r : ρ) : (UInt32 × ρ) ⊕ ρ :=
  let drawn := next r
  if drawn.1.toUInt64 < limit then .inl drawn else .inr drawn.2

/-- The first word under the limit and the state behind it, however many words come before it. -/
def search {ρ : Type} (next : ρ → UInt32 × ρ) (limit : UInt64) : ρ →. UInt32 × ρ :=
  PFun.fix fun r => Part.some (lookAt next limit r)

/-- A number below `bound`, from a source that need not give an accepted word. -/
def drawFrom {ρ : Type} (next : ρ → UInt32 × ρ) (bound : UInt32) (r : ρ) : Part (UInt32 × ρ) :=
  if bound = 0 then Part.some (0, r)
  else (search next (limitInWords bound) r).map fun drawn => (drawn.1 % bound, drawn.2)

variable {bound word residue : UInt32}

/-! ## The first accepted word -/

/-- Words are compared with the limit in 64 bits, which makes no difference. -/
theorem toUInt64_lt_limitInWords : word.toUInt64 < limitInWords bound ↔ IsAccepted bound word := by
  rw [UInt64.lt_iff_toNat_lt, UInt32.toNat_toUInt64, toNat_limitInWords, IsAccepted]

section Search

variable {ρ : Type} {next : ρ → UInt32 × ρ} {r : ρ} {k : Nat}

theorem next_stateAfter (next : ρ → UInt32 × ρ) (k : Nat) (r : ρ) :
    (next (stateAfter next k r)).2 = stateAfter next (k + 1) r := by
  induction k generalizing r with
  | zero => rfl
  | succ k ih => rw [stateAfter_succ, stateAfter_succ, ih]

theorem lookAt_of_isAccepted (accepted : IsAccepted bound (next r).1) :
    lookAt next (limitInWords bound) r = .inl (next r) := by
  simp [lookAt, toUInt64_lt_limitInWords, accepted]

theorem lookAt_of_not_isAccepted (rejected : ¬ IsAccepted bound (next r).1) :
    lookAt next (limitInWords bound) r = .inr (next r).2 := by
  simp [lookAt, toUInt64_lt_limitInWords, rejected]

/-- The search takes the words up to the first one that is accepted. -/
theorem search_of_isFirst (first : IsFirstAccepted next bound r k) :
    next (stateAfter next k r) ∈ search next (limitInWords bound) r := by
  induction k generalizing r with
  | zero =>
    have accepted : IsAccepted bound (next r).1 := first.accepted
    refine PFun.fix_stop ?_
    rw [lookAt_of_isAccepted accepted]
    exact Part.mem_some _
  | succ k ih =>
    have rejected : ¬ IsAccepted bound (next r).1 := first.rejected 0 (Nat.succ_pos k)
    have later : IsFirstAccepted next bound (next r).2 k :=
      ⟨first.accepted, fun j lt => first.rejected (j + 1) (Nat.succ_lt_succ lt)⟩
    refine PFun.mem_fix_iff.mpr (Or.inr ⟨(next r).2, ?_, ih later⟩)
    rw [lookAt_of_not_isAccepted rejected]
    exact Part.mem_some _

/-- The search ends only behind an accepted word. -/
theorem exists_isAccepted_of_search {found : UInt32 × ρ} (ends : found ∈ search next (limitInWords bound) r) :
    ∃ k, IsAccepted bound (drawAt next k r) := by
  refine PFun.fixInduction ends (C := fun r => ∃ k, IsAccepted bound (drawAt next k r)) ?_
  intro r _ later
  by_cases accepted : IsAccepted bound (next r).1
  · exact ⟨0, accepted⟩
  · obtain ⟨k, accepted⟩ := later (next r).2 (by simp [lookAt_of_not_isAccepted accepted])
    exact ⟨k + 1, accepted⟩

theorem exists_isFirst (some : ∃ k, IsAccepted bound (drawAt next k r)) : ∃ k, IsFirstAccepted next bound r k := by
  classical
  exact ⟨Nat.find some, Nat.find_spec some, fun j lt => Nat.find_min some lt⟩

/-- **A draw gives the remainder of the first accepted word**, and takes the words up to that one. -/
theorem drawFrom_of_isFirst (positive : bound ≠ 0) (first : IsFirstAccepted next bound r k) :
    drawFrom next bound r = Part.some (drawAt next k r % bound, stateAfter next (k + 1) r) := by
  rw [drawFrom, if_neg positive, Part.eq_some_iff.mpr (search_of_isFirst first), Part.map_some, next_stateAfter,
    drawAt]

/-- Without an accepted word a draw does not end. -/
theorem drawFrom_eq_none (positive : bound ≠ 0) (never : ∀ k, ¬ IsAccepted bound (drawAt next k r)) :
    drawFrom next bound r = Part.none := by
  rw [drawFrom, if_neg positive, Part.eq_none_iff]
  intro drawn ends
  obtain ⟨found, ends, -⟩ := (Part.mem_map_iff _).mp ends
  obtain ⟨k, accepted⟩ := exists_isAccepted_of_search ends
  exact never k accepted

end Search

/-- From a source whose draws finish, the loop gives what `drawBelow` gives. -/
theorem drawFrom_eq_some {ρ : Type} [PatientSource ρ] (bound : UInt32) (r : ρ) :
    drawFrom RandomSource.next bound r = Part.some (drawBelow bound r) := by
  by_cases zero : bound = 0
  · rw [drawFrom, drawBelow, if_pos zero, if_pos zero]
  · obtain ⟨n, within, low⟩ := PatientSource.low_word r
    have accepted : IsAccepted bound (drawAt RandomSource.next n r) := Nat.lt_of_le_of_lt low (le_limit zero)
    obtain ⟨k, first⟩ := exists_isFirst ⟨n, accepted⟩
    have le : k ≤ PatientSource.patience r := by
      refine Nat.le_trans (Nat.le_of_not_lt fun lt => first.rejected n lt accepted) within
    have found := firstBelow_eq RandomSource.next le (fun j lt => Nat.le_of_not_lt (first.rejected j lt))
      first.accepted
    rw [drawFrom, drawBelow, if_neg zero, if_neg zero, Part.eq_some_iff.mpr (search_of_isFirst first),
      Part.map_some, found]

/-! ## How many words are accepted -/

theorem toNat_pos (positive : bound ≠ 0) : 0 < bound.toNat :=
  Nat.pos_of_ne_zero fun none => positive (UInt32.toNat_inj.mp none)

theorem acceptLimit_le (bound : UInt32) : acceptLimit bound ≤ UInt32.size := Nat.div_mul_le_self ..

/-- The limit is the largest multiple of the bound that is not beyond the number of all words. -/
theorem isGreatest_acceptLimit (positive : bound ≠ 0) :
    IsGreatest {m | bound.toNat ∣ m ∧ m ≤ UInt32.size} (acceptLimit bound) := by
  refine ⟨⟨Nat.dvd_mul_left .., acceptLimit_le bound⟩, ?_⟩
  rintro m ⟨⟨q, rfl⟩, le⟩
  have most : q ≤ UInt32.size / bound.toNat := by
    rw [Nat.le_div_iff_mul_le (toNat_pos positive), Nat.mul_comm]
    exact le
  rw [acceptLimit, Nat.mul_comm]
  exact Nat.mul_le_mul_right _ most

/-- Words below a limit with a property are as many as the numbers below it that have it. -/
theorem card_words {limit : Nat} (within : limit ≤ UInt32.size) (P : Nat → Prop) [DecidablePred P] :
    Nat.card {w : UInt32 // w.toNat < limit ∧ P w.toNat} = limit.count P := by
  have numbers : Nat.card {k // k ∈ (Finset.range limit).filter P} = limit.count P := by
    rw [Nat.card_eq_fintype_card, Fintype.card_coe, Nat.count_eq_card_filter_range]
  have word (k : Nat) (among : k ∈ (Finset.range limit).filter P) : (UInt32.ofNat k).toNat = k := by
    have lt := Finset.mem_range.mp (Finset.mem_filter.mp among).1
    exact UInt32.toNat_ofNat_of_lt' (Nat.lt_of_lt_of_le lt within)
  rw [← numbers]
  refine Nat.card_congr
    { toFun := fun w => ⟨w.1.toNat, ?_⟩
      invFun := fun k => ⟨UInt32.ofNat k.1, ?_⟩
      left_inv := fun w => Subtype.ext (UInt32.ofNat_toNat ..)
      right_inv := fun k => Subtype.ext (word k.1 k.2) }
  · rw [Finset.mem_filter, Finset.mem_range]
    exact w.2
  · rw [word k.1 k.2, ← Finset.mem_range, ← Finset.mem_filter]
    exact k.2

/-- **Each remainder is that of equally many accepted words.** -/
theorem card_accepted_remainder (below : residue < bound) :
    Nat.card {w : UInt32 // IsAccepted bound w ∧ w % bound = residue} = UInt32.size / bound.toNat := by
  have lt : residue.toNat < bound.toNat := UInt32.lt_iff_toNat_lt.mp below
  have positive : 0 < bound.toNat := Nat.zero_lt_of_lt lt
  have same (w : UInt32) : w % bound = residue ↔ w.toNat ≡ residue.toNat [MOD bound.toNat] := by
    rw [← UInt32.toNat_inj, UInt32.toNat_mod, Nat.ModEq, Nat.mod_eq_of_lt lt]
  have multiple : acceptLimit bound % bound.toNat = 0 := Nat.mul_mod_left ..
  simp only [same, IsAccepted]
  rw [card_words (acceptLimit_le bound) (· ≡ residue.toNat [MOD bound.toNat]), Nat.count_modEq_card _ positive,
    multiple, if_neg (Nat.not_lt_zero _), acceptLimit, Nat.mul_div_cancel _ positive, Nat.add_zero]

theorem card_accepted (bound : UInt32) : Nat.card {w : UInt32 // IsAccepted bound w} = acceptLimit bound := by
  have all := card_words (acceptLimit_le bound) fun _ => True
  simp only [and_true, Nat.count_true] at all
  exact all

/-- **Bounded draws are exactly uniform.**  Below a bound a draw gives the remainder of the first accepted word,
takes the words up to that one, and gives a number below the bound; it does not end if there is no such word.  The
accepted words are those below the largest multiple of the bound that is not beyond the number of all words.  Each
remainder is that of equally many of them, and they are more than half of all words. -/
theorem bounded_draws_are_uniform (positive : bound ≠ 0) :
    (∀ {ρ : Type} (next : ρ → UInt32 × ρ) (r : ρ),
      ((∃ k, IsAccepted bound (drawAt next k r)) →
        ∃ k, IsFirstAccepted next bound r k ∧
          drawFrom next bound r = Part.some (drawAt next k r % bound, stateAfter next (k + 1) r) ∧
          drawAt next k r % bound < bound) ∧
      ((∀ k, ¬ IsAccepted bound (drawAt next k r)) → drawFrom next bound r = Part.none)) ∧
    (∀ {ρ : Type} [PatientSource ρ] (r : ρ), drawFrom RandomSource.next bound r = Part.some (drawBelow bound r)) ∧
    IsGreatest {m | bound.toNat ∣ m ∧ m ≤ UInt32.size} (acceptLimit bound) ∧
    (∀ residue < bound,
      Nat.card {w : UInt32 // IsAccepted bound w ∧ w % bound = residue} = UInt32.size / bound.toNat) ∧
    UInt32.size < 2 * Nat.card {w : UInt32 // IsAccepted bound w} := by
  refine ⟨fun next r => ⟨fun some => ?_, drawFrom_eq_none positive⟩, drawFrom_eq_some bound,
    isGreatest_acceptLimit positive, fun residue => card_accepted_remainder, ?_⟩
  · obtain ⟨k, first⟩ := exists_isFirst some
    exact ⟨k, first, drawFrom_of_isFirst positive first, UInt32.mod_lt _ (UInt32.pos_iff_ne_zero.mpr positive)⟩
  · have half := le_limit positive
    have even : UInt32.size / 2 * 2 = UInt32.size := rfl
    rw [card_accepted]
    omega

/-- Below ten the largest word is rejected, and the word behind it gives its remainder. -/
theorem bounded_draws_are_uniform_below_ten :
    (10 : UInt32) ≠ 0 ∧ drawFrom Listed.next 10 ⟨[0xffffffff, 42, 7]⟩ = Part.some (2, ⟨[7]⟩) ∧
      Nat.card {w : UInt32 // IsAccepted 10 w ∧ w % 10 = 2} = 429496729 := by
  have ten : (10 : UInt32) ≠ 0 := by decide
  obtain ⟨draws, -, -, cards, -⟩ := bounded_draws_are_uniform ten
  have second : IsAccepted 10 (drawAt Listed.next 1 ⟨[0xffffffff, 42, 7]⟩) := by decide
  obtain ⟨k, first, gives, -⟩ := (draws Listed.next ⟨[0xffffffff, 42, 7]⟩).1 ⟨1, second⟩
  have one : k = 1 := by
    refine Nat.le_antisymm (Nat.le_of_not_lt fun lt => first.rejected 1 lt second) (Nat.one_le_iff_ne_zero.mpr ?_)
    rintro rfl
    exact absurd first.accepted (by decide)
  subst one
  exact ⟨ten, gives, cards 2 (by decide)⟩

end Colloquy
