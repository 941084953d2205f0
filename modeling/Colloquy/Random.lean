/-!
# Random draws

A random source is a state with a function that draws one 32-bit word and leaves the next state.
Numbers below a bound are drawn by rejection: words at or above the largest multiple of the bound
that fits into 32 bits are drawn again, so the remainder of the accepted word is exactly uniform.

### Why the search ends

A source that gave rejected words for ever would never yield a number.  A `PatientSource` therefore has
`patience`, a number of draws within which a word of at most half of `UInt32.size` comes up, with the
proof of it.  Such a word is accepted for every bound (`le_limit`), so the patience is a bound on the
search; and a source without one is a source with which some bounded draw does not finish.  Who draws below a
bound that divides `UInt32.size` needs no patience: every word is accepted there.

## Main definitions

* `RandomSource`: sources of words.
* `PatientSource`: those with which every bounded draw finishes.
* `drawBelow`: a number below a bound; a bound of zero gives zero and draws nothing.
* `Seeded`: the built-in generator, a counter with a mixing function.
* `Listed`: words given in advance, then zeros.
* `Dice`: either of the two.
-/

namespace Colloquy

/-- The state after `n` draws. -/
def stateAfter {ρ : Type} (next : ρ → UInt32 × ρ) : Nat → ρ → ρ
  | 0, r => r
  | n + 1, r => stateAfter next n (next r).2

theorem stateAfter_succ {ρ : Type} (next : ρ → UInt32 × ρ) (n : Nat) (r : ρ) :
    stateAfter next (n + 1) r = stateAfter next n (next r).2 := rfl

/-- The word of the draw that `n` others precede. -/
def drawAt {ρ : Type} (next : ρ → UInt32 × ρ) (n : Nat) (r : ρ) : UInt32 :=
  (next (stateAfter next n r)).1

/-- A source of random words. -/
class RandomSource (ρ : Type) where
  /-- One word and the state that follows. -/
  next : ρ → UInt32 × ρ

/-- A source of random words for which every bounded draw finishes. -/
class PatientSource (ρ : Type) extends RandomSource ρ where
  /-- A number of draws among which one gives a low word. -/
  patience : ρ → Nat
  /-- A low word comes up in time. -/
  low_word : ∀ r, ∃ n, n ≤ patience r ∧ (drawAt next n r).toNat ≤ UInt32.size / 2

/-- The largest multiple of `bound` that does not exceed `UInt32.size`. -/
def acceptLimit (bound : UInt32) : Nat := UInt32.size / bound.toNat * bound.toNat

/-- More than half of all words are accepted, whatever the bound. -/
theorem le_limit {bound : UInt32} (h : bound ≠ 0) : UInt32.size / 2 < acceptLimit bound := by
  have hb : 0 < bound.toNat := by
    rcases Nat.eq_zero_or_pos bound.toNat with h0 | h0
    · exact absurd (UInt32.toNat_inj.1 (by simpa using h0)) h
    · exact h0
  have hlt : bound.toNat < UInt32.size := bound.toNat_lt_size
  have hmod := Nat.div_add_mod UInt32.size bound.toNat
  have hr := Nat.mod_lt UInt32.size hb
  have hq : 0 < UInt32.size / bound.toNat := Nat.div_pos (Nat.le_of_lt hlt) hb
  unfold acceptLimit
  rw [Nat.mul_comm]
  have hle : bound.toNat ≤ bound.toNat * (UInt32.size / bound.toNat) := Nat.le_mul_of_pos_right _ hq
  omega

/-- The limit of accepted words, computed in words of 64 bits. -/
def limitInWords (bound : UInt32) : UInt64 :=
  ((0xffffffff : UInt32).toUInt64 + 1) / bound.toUInt64 * bound.toUInt64

theorem toNat_limitInWords (bound : UInt32) : (limitInWords bound).toNat = acceptLimit bound := by
  have all : ((0xffffffff : UInt32).toUInt64 + 1).toNat = UInt32.size := by decide
  have within : UInt32.size / bound.toNat * bound.toNat < UInt64.size :=
    Nat.lt_of_le_of_lt (Nat.div_mul_le_self _ _) (by decide)
  rw [limitInWords, UInt64.toNat_mul, UInt64.toNat_div, UInt32.toNat_toUInt64, all]
  exact Nat.mod_eq_of_lt within

/-- The first accepted word among the next `patience` and the state behind it; when the patience is
used up, the next word whatever it is. -/
def firstBelow {ρ : Type} (next : ρ → UInt32 × ρ) (limit : Nat) : Nat → ρ → UInt32 × ρ
  | 0, r => next r
  | n + 1, r =>
    let drawn := next r
    if drawn.1.toNat < limit then drawn else firstBelow next limit n drawn.2

/-- The search finds exactly the first word under the limit, and goes no further. -/
theorem firstBelow_eq {ρ : Type} (next : ρ → UInt32 × ρ) {limit k patience : Nat} {r : ρ}
    (hk : k ≤ patience) (before : ∀ j < k, limit ≤ (drawAt next j r).toNat)
    (here : (drawAt next k r).toNat < limit) :
    firstBelow next limit patience r = next (stateAfter next k r) := by
  induction k generalizing patience r with
  | zero =>
    cases patience with
    | zero => rfl
    | succ p => exact if_pos here
  | succ k ih =>
    cases patience with
    | zero => omega
    | succ p =>
      have h0 : ¬ (next r).1.toNat < limit := Nat.not_lt.2 (before 0 (by omega))
      have hstep : firstBelow next limit (p + 1) r = firstBelow next limit p (next r).2 := if_neg h0
      rw [hstep]
      exact ih (by omega) (fun j hj => before (j + 1) (by omega)) here

/-- A number below `bound`, each equally likely; zero without a draw when the bound is zero. -/
def drawBelow {ρ : Type} [PatientSource ρ] (bound : UInt32) (r : ρ) : UInt32 × ρ :=
  if bound = 0 then (0, r)
  else
    let drawn := firstBelow RandomSource.next (acceptLimit bound) (PatientSource.patience r) r
    (drawn.1 % bound, drawn.2)

/-! ## The built-in generator -/

/-- A generator whose state is one word: a counter with an odd step, mixed into the word drawn. -/
structure Seeded where
  state : UInt32
  deriving DecidableEq

namespace Seeded

/-- The step of the counter.  It is odd, so the counter runs through all words. -/
def step : UInt32 := 0x6d2b79f5

/-- The inverse of `step` among the words. -/
def inverse : UInt32 := 0xdc58aa5d

theorem inverse_mul_step : inverse * step = 1 := by decide +kernel

/-- The word drawn when the counter has come to `n`. -/
def mix (n : UInt32) : UInt32 :=
  let a := (n ^^^ (n >>> 15)) * (n ||| 1)
  let b := a ^^^ (a + (a ^^^ (a >>> 7)) * (a ||| 61))
  b ^^^ (b >>> 14)

/-- Advances the counter and mixes it. -/
def next (g : Seeded) : UInt32 × Seeded :=
  let n := g.state + step
  (mix n, ⟨n⟩)

theorem next_snd (g : Seeded) : (next g).2 = ⟨g.state + step⟩ := rfl

/-- The counter is linear in the number of draws. -/
theorem stateAfter_next (n : Nat) (g : Seeded) :
    (stateAfter next n g).state = g.state + UInt32.ofNat n * step := by
  generalize hs : step = s
  induction n generalizing g with
  | zero =>
    have h0 : UInt32.ofNat 0 = 0 := rfl
    rw [stateAfter, h0, UInt32.zero_mul, UInt32.add_zero]
  | succ n ih =>
    rw [stateAfter, next_snd, ih, hs, UInt32.ofNat_add, UInt32.add_mul, UInt32.ofNat_one,
      UInt32.one_mul, UInt32.add_assoc, UInt32.add_comm s]

/-- How many draws it takes the counter to come round to zero. -/
def patience (g : Seeded) : Nat := ((0 - g.state) * inverse).toNat

theorem stateAfter_patience (g : Seeded) : (stateAfter next g.patience g).state = 0 := by
  rw [stateAfter_next, patience, UInt32.ofNat_toNat, UInt32.mul_assoc, inverse_mul_step, UInt32.mul_one,
    UInt32.add_comm, UInt32.sub_add_cancel]

theorem eq_of_state {g : Seeded} {n : UInt32} (h : g.state = n) : g = ⟨n⟩ := by
  cases g
  cases h
  rfl

theorem low_from_zero : (next ⟨0⟩).1.toNat ≤ UInt32.size / 2 := by decide +kernel

/-- The word drawn from the counter at zero is low, and the counter comes to zero from everywhere,
so the generator's bounded draws finish whatever its seed. -/
theorem low_word (g : Seeded) : ∃ n, n ≤ g.patience ∧ (drawAt next n g).toNat ≤ UInt32.size / 2 :=
  ⟨g.patience, Nat.le_refl _, by
    rw [drawAt, eq_of_state (stateAfter_patience g)]
    exact low_from_zero⟩

instance : PatientSource Seeded where
  next := next
  patience := patience
  low_word := low_word

end Seeded

/-! ## Words given in advance -/

/-- Words to be drawn in order; when they are used up every word is zero. -/
structure Listed where
  words : List UInt32
  deriving DecidableEq

namespace Listed

/-- Takes the front word. -/
def next (l : Listed) : UInt32 × Listed :=
  match l.words with
  | [] => (0, l)
  | w :: ws => (w, ⟨ws⟩)

theorem stateAfter_length : ∀ ws : List UInt32, stateAfter next ws.length ⟨ws⟩ = ⟨[]⟩
  | [] => rfl
  | _ :: ws => stateAfter_length ws

/-- How many words come before the zeros. -/
def patience (l : Listed) : Nat := l.words.length

/-- After the listed words come zeros, which every bound accepts. -/
theorem low_word (l : Listed) : ∃ n, n ≤ l.patience ∧ (drawAt next n l).toNat ≤ UInt32.size / 2 :=
  ⟨l.words.length, Nat.le_refl _, by
    rw [drawAt, stateAfter_length l.words]
    exact Nat.zero_le _⟩

instance : PatientSource Listed where
  next := next
  patience := patience
  low_word := low_word

end Listed

/-! ## Either of the two -/

/-- A generator with a seed, or words given in advance. -/
inductive Dice where
  | seeded (g : Seeded)
  | listed (l : Listed)
  deriving DecidableEq

namespace Dice

/-- Draws from whichever source it is. -/
def next : Dice → UInt32 × Dice
  | .seeded g => let d := g.next; (d.1, .seeded d.2)
  | .listed l => let d := l.next; (d.1, .listed d.2)

theorem stateAfter_seeded (n : Nat) (g : Seeded) :
    stateAfter next n (.seeded g) = .seeded (stateAfter Seeded.next n g) := by
  induction n generalizing g with
  | zero => rfl
  | succ n ih => rw [stateAfter_succ, stateAfter_succ, next, ih]

theorem stateAfter_listed (n : Nat) (l : Listed) :
    stateAfter next n (.listed l) = .listed (stateAfter Listed.next n l) := by
  induction n generalizing l with
  | zero => rfl
  | succ n ih => rw [stateAfter_succ, stateAfter_succ, next, ih]

theorem drawAt_seeded (n : Nat) (g : Seeded) :
    drawAt next n (.seeded g) = drawAt Seeded.next n g := by
  rw [drawAt, stateAfter_seeded, drawAt, next]

theorem drawAt_listed (n : Nat) (l : Listed) :
    drawAt next n (.listed l) = drawAt Listed.next n l := by
  rw [drawAt, stateAfter_listed, drawAt, next]

/-- The patience of whichever source it is. -/
def patience : Dice → Nat
  | .seeded g => g.patience
  | .listed l => l.patience

theorem low_word : ∀ d : Dice, ∃ n, n ≤ d.patience ∧ (drawAt next n d).toNat ≤ UInt32.size / 2
  | .seeded g => g.low_word.imp fun n h => by rwa [drawAt_seeded]
  | .listed l => l.low_word.imp fun n h => by rwa [drawAt_listed]

instance : PatientSource Dice where
  next := next
  patience := patience
  low_word := low_word

/-- The generator with this seed. -/
def ofSeed (seed : UInt32) : Dice := .seeded ⟨seed⟩

end Dice

end Colloquy
