import Colloquy.Dialogue.Basic
import Colloquy.Proofs.Random.Uniformity

/-!
# How talkers lose patience

After an exchange one word is drawn, and its remainder decides with the turn-away value whether the talker stays,
leaves or attacks.  Of all words exactly so many come to each of these, for every turn-away value; and with a larger
value no word comes to something milder (`Dialogue.turning_away_escalates`).

### What is load-bearing

The turn-away value is used twice, as the number of remainders below it and as a margin above them, and it may be
larger than the range of the draw.  The margin is taken only of a remainder that is below the value, so it is never
less than zero (`Dialogue.outcomeInWords?_eq`); and a word attacks exactly if its remainder is below the value
less 63 (`Dialogue.reactionTo_eq_attack_iff`), so that both are counted as remainders below a number
(`card_remainder_lt`).

## Main definitions

* `Dialogue.outcome`: what comes of a word.
* `Dialogue.outcomeInWords?`: the same, computed in words of 32 bits without going below zero.
* `Dialogue.reactionFrom`: the reaction with any source of words.
* `Dialogue.escalation`: what a talker may do, from the mildest on.
-/

namespace Colloquy

/-! ## Counting remainders -/

/-- The first numbers of a period are their own remainders. -/
theorem count_within_period {d n : Nat} (within : n ≤ d) (period m : Nat) :
    n.count (fun k => (d * period + k) % d < m) = min m n := by
  induction n with
  | zero => rw [Nat.count_zero, Nat.min_zero]
  | succ n ih =>
    rw [Nat.count_succ, ih (Nat.le_of_succ_le within), Nat.mul_add_mod, Nat.mod_eq_of_lt within]
    -- The next number is counted as long as it is below `m`.
    split <;> omega

/-- In each period, as many numbers have a remainder below `m` as are below it. -/
theorem count_mod_lt (d periods m : Nat) : (d * periods).count (· % d < m) = periods * min m d := by
  induction periods with
  | zero => rw [Nat.mul_zero, Nat.count_zero, Nat.zero_mul]
  | succ periods ih =>
    rw [Nat.mul_succ, Nat.count_add, ih, count_within_period (Nat.le_refl d), Nat.succ_mul]

open Dialogue

/-- Each remainder of a reaction is that of 2²⁴ words. -/
theorem card_remainder_lt (m : Nat) :
    Nat.card {w : UInt32 // (w % reactionRange).toNat < m} = 2 ^ 24 * min m 256 := by
  have words := card_words (Nat.le_refl UInt32.size) (· % 256 < m)
  have size : UInt32.size = 256 * 2 ^ 24 := rfl
  have each (w : UInt32) : w.toNat < UInt32.size ∧ w.toNat % 256 < m ↔ (w % reactionRange).toNat < m := by
    rw [UInt32.toNat_mod]
    exact and_iff_right w.toNat_lt_size
  rw [size, count_mod_lt, ← size] at words
  simp only [each] at words
  exact words

/-! ## What comes of a word -/

namespace Dialogue

/-- What a talker does for a word that is drawn. -/
def outcome (turnAway word : UInt32) : Command := reactionTo turnAway.toNat (word % reactionRange).toNat

/-- The difference of two words, if it is not below zero. -/
def difference? (a b : UInt32) : Option UInt32 := if b ≤ a then some (a - b) else none

/-- What a talker does, computed in words; nothing comes of a difference below zero. -/
def outcomeInWords? (turnAway word : UInt32) : Option Command :=
  let draw := word % reactionRange
  if turnAway ≤ draw then some .none
  else (difference? turnAway draw).map fun margin =>
    if margin < UInt32.ofNat attackMargin then .finish else .attack

/-- The reaction, with words from a source that may be any. -/
def reactionFrom {ρ : Type} (d : Dialogue) (next : ρ → UInt32 × ρ) : ρ →. Command × ρ := fun r =>
  (drawFrom next reactionRange r).map fun drawn => (reactionTo d.turnAway.toNat drawn.1.toNat, drawn.2)

/-- What a talker may do, from the mildest on. -/
def escalation : List Command := [.none, .finish, .attack]

section

variable {turnAway other draw : Nat}

theorem reactionTo_eq_none_iff : reactionTo turnAway draw = .none ↔ turnAway ≤ draw := by
  unfold reactionTo
  split
  · next calm => exact iff_of_true rfl calm
  · next acts => split <;> exact iff_of_false nofun acts

theorem reactionTo_eq_attack_iff : reactionTo turnAway draw = .attack ↔ draw < turnAway - 63 := by
  unfold reactionTo attackMargin
  split
  · exact iff_of_false nofun (by omega)
  · split
    · exact iff_of_false nofun (by omega)
    · exact iff_of_true rfl (by omega)

/-- How far a talker goes: a step for a number below the turn-away value, and another with a margin. -/
def degree (turnAway draw : Nat) : Nat :=
  (if draw < turnAway then 1 else 0) + if draw < turnAway - 63 then 1 else 0

theorem escalation_degree (turnAway draw : Nat) :
    escalation[degree turnAway draw]? = some (reactionTo turnAway draw) := by
  unfold degree reactionTo attackMargin
  by_cases calm : turnAway ≤ draw
  · rw [if_neg (by omega), if_neg (by omega), if_pos calm]
    rfl
  · by_cases close : turnAway - draw < 64
    · rw [if_pos (by omega), if_neg (by omega), if_neg calm, if_pos close]
      rfl
    · rw [if_pos (by omega), if_pos (by omega), if_neg calm, if_neg close]
      rfl

theorem degree_le_degree (le : turnAway ≤ other) (draw : Nat) : degree turnAway draw ≤ degree other draw := by
  unfold degree
  split <;> split <;> split <;> split <;> omega

end

theorem outcomeInWords?_eq (turnAway word : UInt32) :
    outcomeInWords? turnAway word = some (outcome turnAway word) := by
  have calm : turnAway ≤ word % reactionRange ↔ turnAway.toNat ≤ (word % reactionRange).toNat :=
    UInt32.le_iff_toNat_le
  unfold outcomeInWords? outcome reactionTo
  dsimp only
  simp only [calm]
  split
  · rfl
  · next acts =>
    -- The number drawn is below the turn-away value here, so that the difference is that of the numbers.
    have below : word % reactionRange ≤ turnAway := UInt32.le_iff_toNat_le.mpr (Nat.le_of_not_le acts)
    have close : turnAway - word % reactionRange < UInt32.ofNat attackMargin ↔
        turnAway.toNat - (word % reactionRange).toNat < attackMargin := by
      rw [UInt32.lt_iff_toNat_lt, UInt32.toNat_sub_of_le _ _ below]
      rfl
    rw [difference?, if_pos below, Option.map_some]
    simp only [close]

/-- Every word is accepted, so one is drawn. -/
theorem reactionFrom_eq {ρ : Type} (d : Dialogue) (next : ρ → UInt32 × ρ) (r : ρ) :
    d.reactionFrom next r = Part.some (outcome d.turnAway (next r).1, (next r).2) := by
  have accepted : IsFirstAccepted next reactionRange r 0 := ⟨(next r).1.toNat_lt_size, nofun⟩
  rw [reactionFrom, drawFrom_of_isFirst (by decide) accepted, Part.map_some]
  rfl

/-- **Turning away escalates with the turn-away value.**  A reaction takes one word from any source, whatever the
word is, and what the talker does is decided by that word and the turn-away value.  Of all words exactly
2²⁴ · min p 256 make the talker act and 2²⁴ · min (p - 63) 256 make it attack, where nothing is left of p - 63 below
zero; the talker stays, leaves or attacks.  Computed in words, no difference is ever below zero.  And for one word a
larger value goes no fewer steps along staying, leaving and attacking. -/
theorem turning_away_escalates :
    (∀ {ρ : Type} (d : Dialogue) (next : ρ → UInt32 × ρ) (r : ρ),
      d.reactionFrom next r = Part.some (outcome d.turnAway (next r).1, (next r).2)) ∧
    (∀ {ρ : Type} [RandomSource ρ] (d : Dialogue) (r : ρ),
      d.reaction r = (outcome d.turnAway (RandomSource.next r).1, (RandomSource.next r).2)) ∧
    (∀ p : UInt32,
      Nat.card {w : UInt32 // outcome p w ≠ .none} = 2 ^ 24 * min p.toNat 256 ∧
      Nat.card {w : UInt32 // outcome p w = .attack} = 2 ^ 24 * min (p.toNat - 63) 256 ∧
      ∀ w, outcome p w ∈ escalation ∧ outcomeInWords? p w = some (outcome p w)) ∧
    ∀ p q w : UInt32, p ≤ q →
      ∃ i j : Nat, i ≤ j ∧ escalation[i]? = some (outcome p w) ∧ escalation[j]? = some (outcome q w) := by
  refine ⟨reactionFrom_eq, fun _ _ => rfl, fun p => ⟨?acts, ?attacks, fun w => ⟨?_, outcomeInWords?_eq p w⟩⟩, ?_⟩
  case acts =>
    rw [← card_remainder_lt]
    simp only [outcome, ne_eq, reactionTo_eq_none_iff, Nat.not_le]
  case attacks =>
    rw [← card_remainder_lt]
    simp only [outcome, reactionTo_eq_attack_iff]
  · exact List.mem_of_getElem? (escalation_degree _ _)
  · intro p q w le
    exact ⟨_, _, degree_le_degree (UInt32.le_iff_toNat_le.mp le) _, escalation_degree _ _, escalation_degree _ _⟩

/-- At half of the range half of all words make a talker act, and beyond the range all of them do. -/
theorem turning_away_escalates_beyond_range :
    Nat.card {w : UInt32 // outcome 128 w ≠ .none} = 2 ^ 31 ∧
      Nat.card {w : UInt32 // outcome 300 w ≠ .none} = 2 ^ 32 ∧
      Nat.card {w : UInt32 // outcome 300 w = .attack} = 2 ^ 24 * 237 ∧
      ∃ i j : Nat, i ≤ j ∧ escalation[i]? = some (outcome 128 80) ∧ escalation[j]? = some (outcome 300 80) :=
  ⟨(turning_away_escalates.2.2.1 128).1, (turning_away_escalates.2.2.1 300).1,
    (turning_away_escalates.2.2.1 300).2.1, turning_away_escalates.2.2.2 128 300 80 (by decide)⟩

end Dialogue

end Colloquy
