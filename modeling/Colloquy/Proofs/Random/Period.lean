import Mathlib.Logic.ExistsUnique
import Colloquy.Proofs.Random.Uniformity

/-!
# The period of the built-in generator

The counter of a `Seeded` generator goes up by an odd step.  Multiplying by the step is therefore a bijection of
the words, and from any state every state is reached after exactly one number of draws below `UInt32.size`
(`stateAfter_eq_iff`).

### Why bounded draws end

The loop of a bounded draw has nothing that goes down.  It ends because the word drawn from the counter at zero is
low: it is accepted whatever the bound (`isAccepted_zero`), and the counter comes to zero before it repeats itself.

## Main definitions

* `Seeded.distance`: how many draws lead from one state to another.
-/

namespace Colloquy.Seeded

variable {g other : Seeded} {k : Nat} {bound : UInt32}

theorem eq_iff_state : g = other ↔ g.state = other.state := by
  rw [← mk.injEq g.state]

theorem step_mul_inverse : step * inverse = 1 := by rw [UInt32.mul_comm, inverse_mul_step]

/-- The number of draws that take `g` to `other`. -/
def distance (g other : Seeded) : Nat := ((other.state - g.state) * inverse).toNat

theorem distance_lt (g other : Seeded) : distance g other < UInt32.size := UInt32.toNat_lt_size _

/-- **Each state is reached after one number of draws and no other**, unless the counter has gone all the way
round. -/
theorem stateAfter_eq_iff (within : k < UInt32.size) : stateAfter next k g = other ↔ k = distance g other := by
  have word : k = distance g other ↔ UInt32.ofNat k = (other.state - g.state) * inverse := by
    rw [distance, ← UInt32.toNat_inj, UInt32.toNat_ofNat_of_lt' within]
  rw [eq_iff_state, stateAfter_next, word]
  constructor
  · intro reached
    rw [← reached, UInt32.add_comm g.state, UInt32.add_sub_cancel, UInt32.mul_assoc, step_mul_inverse,
      UInt32.mul_one]
  · intro far
    rw [far, UInt32.mul_assoc, inverse_mul_step, UInt32.mul_one, UInt32.add_comm, UInt32.sub_add_cancel]

/-- After as many draws as there are words the generator stands where it stood. -/
theorem stateAfter_size (g : Seeded) : stateAfter next UInt32.size g = g := by
  have none : UInt32.ofNat UInt32.size = 0 := rfl
  rw [eq_iff_state, stateAfter_next, none, UInt32.zero_mul, UInt32.add_zero]

/-- The word drawn from the counter at zero is accepted whatever the bound. -/
theorem isAccepted_zero (positive : bound ≠ 0) : IsAccepted bound (next ⟨0⟩).1 :=
  Nat.lt_of_le_of_lt low_from_zero (le_limit positive)

/-- No more words are rejected than it takes the counter to come to zero. -/
theorem exists_isFirst_lt (positive : bound ≠ 0) (g : Seeded) :
    ∃ k < UInt32.size, IsFirstAccepted next bound g k := by
  have atZero : stateAfter next (distance g ⟨0⟩) g = ⟨0⟩ := (stateAfter_eq_iff (distance_lt g ⟨0⟩)).mpr rfl
  have accepted : IsAccepted bound (drawAt next (distance g ⟨0⟩) g) := by
    rw [drawAt, atZero]
    exact isAccepted_zero positive
  obtain ⟨k, first⟩ := exists_isFirst ⟨_, accepted⟩
  have le : k ≤ distance g ⟨0⟩ := Nat.le_of_not_lt fun lt => first.rejected _ lt accepted
  exact ⟨k, Nat.lt_of_le_of_lt le (distance_lt g ⟨0⟩), first⟩

/-- A bounded draw takes no more words than there are. -/
theorem exists_drawFrom (bound : UInt32) (g : Seeded) :
    ∃ k ≤ UInt32.size, drawFrom next bound g = Part.some (drawBelow bound g) ∧
      (drawBelow bound g).2 = stateAfter next k g := by
  have gives : drawFrom next bound g = Part.some (drawBelow bound g) := drawFrom_eq_some bound g
  by_cases zero : bound = 0
  · refine ⟨0, Nat.zero_le _, gives, ?_⟩
    rw [drawBelow, if_pos zero, stateAfter]
  · obtain ⟨k, lt, first⟩ := exists_isFirst_lt zero g
    have ends : drawBelow bound g = (drawAt next k g % bound, stateAfter next (k + 1) g) :=
      Part.some_injective (gives.symm.trans (drawFrom_of_isFirst zero first))
    exact ⟨k + 1, lt, gives, by rw [ends]⟩

/-- **Bounded draws of the built-in generator end.**  From any state every state is reached after exactly one
number of draws below the number of all words, and after that many draws the generator stands where it stood.  There
is a state whose word is accepted for every bound.  So from every state that any number of draws from any seed has
led to, a bounded draw gives a number, and it takes no more words than there are. -/
theorem bounded_draws_end :
    (∀ g other : Seeded, ∃! k, k < UInt32.size ∧ stateAfter next k g = other) ∧
      (∀ g : Seeded, stateAfter next UInt32.size g = g) ∧
      (∃ g : Seeded, ∀ bound : UInt32, bound ≠ 0 → IsAccepted bound (next g).1) ∧
      ∀ (seed : UInt32) (n : Nat) (bound : UInt32), ∃ k ≤ UInt32.size,
        drawFrom next bound (stateAfter next n ⟨seed⟩) = Part.some (drawBelow bound (stateAfter next n ⟨seed⟩)) ∧
          (drawBelow bound (stateAfter next n ⟨seed⟩)).2 = stateAfter next k (stateAfter next n ⟨seed⟩) := by
  refine ⟨fun g other => ⟨distance g other, ?_, ?_⟩, stateAfter_size, ⟨⟨0⟩, fun bound => isAccepted_zero⟩,
    fun seed n bound => exists_drawFrom bound _⟩
  · exact ⟨distance_lt g other, (stateAfter_eq_iff (distance_lt g other)).mpr rfl⟩
  · rintro k ⟨within, reached⟩
    exact (stateAfter_eq_iff within).mp reached

end Colloquy.Seeded
