import Colloquy.Proofs.Script.Loop

/-!
# The terms of a loop

A loop reads its attributes once, before the first pass: a variable for the number of the pass, a number to
start from, a step, and either how many passes there are or a number not to go past.  These are its terms
(`Site.terms`), and nothing else has a say in how often the content is run.

The number of passes and the number of each pass are integers without a bound, `Loop.Terms.passes` and
`Loop.Terms.number`.  The loop itself computes with 64 bits and knows only the number of its pass, its last
number and its step.  The two agree in every pass, at either end of the 64-bit range.

### What is load-bearing

`Loop.Terms.IsPass k` says of a loop in progress what pass it is in: its number is exact, and the steps that
lead to its last number are as many as there are passes behind this one.  The next number keeps that up for
the pass behind (`IsPass.next`), and the lack of one says that there is none (`IsPass.last`).

## Main definitions

* `Loop.Terms`, `Site.terms`: what a loop is told.
* `Loop.Terms.passes`, `Loop.Terms.number`, `Loop.Terms.Overflows`: what that asks for.
* `Loop.Terms.settle`: what the loop makes of it.
-/

namespace Colloquy

open Text

namespace Loop

/-- Where a loop ends. -/
inductive Bound where
  | count (passes : Int64)
  /-- The number that no pass goes past. -/
  | last (number : Int64)

/-- What a loop is told. -/
structure Terms where
  iterator : Option String
  start : Int64
  step : Int64
  bound : Bound

/-- No 64-bit integer has this value. -/
def Beyond (n : Int) : Prop := n < Int64.minValue.toInt ∨ Int64.maxValue.toInt < n

instance (n : Int) : Decidable (Beyond n) := inferInstanceAs (Decidable (_ ∨ _))

theorem ofInt?_eq_none_iff_beyond {n : Int} : Decimal.ofInt? n = none ↔ Beyond n := Decimal.ofInt?_eq_none_iff

namespace Terms

/-- The number of a pass, counting the passes from zero. -/
def number (t : Terms) (k : Nat) : Int := t.start.toInt + k * t.step.toInt

/-- How many passes there are.  A number to end at need not be hit, and one that the start is past already
leaves no pass. -/
def passes (t : Terms) : Nat :=
  match t.bound with
  | .count c => c.toInt.toNat
  | .last e =>
    if 0 < t.step.toInt ∧ e.toInt < t.start.toInt ∨ t.step.toInt < 0 ∧ t.start.toInt < e.toInt then 0
    else ((e.toInt - t.start.toInt).fdiv t.step.toInt + 1).toNat

/-- The way to the last of that many passes, or its number, takes more than 64 bits. -/
def Overflows (t : Terms) : Prop :=
  ∃ c, t.bound = .count c ∧ 1 ≤ c.toInt ∧
    (Beyond ((c.toInt - 1) * t.step.toInt) ∨ Beyond (t.start.toInt + (c.toInt - 1) * t.step.toInt))

/-- The loop in front of its first pass, if it is told about one. -/
def settle (t : Terms) (n : Node) : Except Fault (Option Loop) :=
  match t.bound with
  | .count c =>
    if c.toInt ≤ 0 then .ok none
    else
      let last? := do
        let span ← Decimal.ofInt? ((c.toInt - 1) * t.step.toInt)
        Decimal.ofInt? (t.start.toInt + span.toInt)
      match last? with
      | some last => .ok (some ⟨t.iterator, t.start, last, t.step⟩)
      | none => .error (.loopRange n.describe)
  | .last e => .ok (some ⟨t.iterator, t.start, e, t.step⟩)

/-! ## Passes of a loop in progress -/

/-- The loop is in this pass of those that the terms ask for. -/
structure IsPass (t : Terms) (k : Nat) (l : Loop) : Prop where
  live : l.IsLive
  iterator_eq : l.iterator = t.iterator
  step_eq : l.step = t.step
  number_eq : l.current.toInt = t.number k
  passes_eq : (t.passes : Int) = k + 1 + l.span

namespace IsPass

variable {t : Terms} {k : Nat} {l : Loop}

theorem lt_passes (h : t.IsPass k l) : k < t.passes := by
  have nonneg := h.live.span_nonneg
  have passes := h.passes_eq
  omega

/-- The next number is the one of the next pass, with nothing lost. -/
theorem next (h : t.IsPass k l) {i : Int64} (comes : l.next? = some i) :
    t.IsPass (k + 1) { l with current := i } where
  live := h.live.next comes
  iterator_eq := h.iterator_eq
  step_eq := h.step_eq
  number_eq := by
    have exact := toInt_of_next? comes
    rw [h.number_eq, h.step_eq] at exact
    rw [exact, number, number, Int.natCast_succ, Int.add_mul, Int.one_mul, Int.add_assoc]
  passes_eq := by
    have less := span_next h.live.step_ne_zero comes
    have passes := h.passes_eq
    omega

/-- Where there is no next number, all passes are behind the loop. -/
theorem last (h : t.IsPass k l) (ends : l.next? = none) : k + 1 = t.passes := by
  have none := h.live.span_eq_zero ends
  have passes := h.passes_eq
  omega

end IsPass

/-! ## What a loop makes of its terms -/

variable {t : Terms} (n : Node)

theorem settle_of_overflows (overflows : t.Overflows) : t.settle n = .error (.loopRange n.describe) := by
  obtain ⟨c, bound, positive, beyond⟩ := overflows
  rw [settle, bound]
  dsimp only
  rw [if_neg (by omega)]
  cases way : Decimal.ofInt? ((c.toInt - 1) * t.step.toInt) with
  | none => rfl
  | some span =>
    rw [Option.bind_eq_bind, Option.bind_some]
    have exact := Decimal.ofInt?_eq_some_iff.mp way
    have outside : Decimal.ofInt? (t.start.toInt + span.toInt) = none := by
      rw [exact, ofInt?_eq_none_iff_beyond]
      rcases beyond with no | outside
      · rw [ofInt?_eq_none_iff_beyond.mpr no] at way
        cases way
      · exact outside
    rw [outside]

/-- One step up from the greatest number is too far. -/
example : (⟨none, Int64.maxValue, 1, .count 2⟩ : Terms).Overflows := ⟨2, rfl, by decide, .inr (by decide)⟩

/-- A count that is met within 64 bits has a last number. -/
theorem exists_last {c : Int64} (fits : ¬ t.Overflows) (bound : t.bound = .count c) (positive : 1 ≤ c.toInt) :
    ∃ last : Int64, last.toInt = t.start.toInt + (c.toInt - 1) * t.step.toInt ∧
      t.settle n = .ok (some ⟨t.iterator, t.start, last, t.step⟩) := by
  have within : ¬ Beyond ((c.toInt - 1) * t.step.toInt) ∧
      ¬ Beyond (t.start.toInt + (c.toInt - 1) * t.step.toInt) := by
    constructor
    · exact fun no => fits ⟨c, bound, positive, .inl no⟩
    · exact fun no => fits ⟨c, bound, positive, .inr no⟩
  rw [← ofInt?_eq_none_iff_beyond, ← ofInt?_eq_none_iff_beyond, ← ne_eq, ← ne_eq,
    Option.ne_none_iff_exists', Option.ne_none_iff_exists'] at within
  obtain ⟨⟨span, way⟩, last, ends⟩ := within
  refine ⟨last, Decimal.ofInt?_eq_some_iff.mp ends, ?_⟩
  rw [settle, bound]
  dsimp only
  rw [if_neg (by omega), way, Option.bind_eq_bind, Option.bind_some, Decimal.ofInt?_eq_some_iff.mp way, ends]

theorem not_isPast_of_count {c last : Int64} (positive : 1 ≤ c.toInt)
    (ends : last.toInt = t.start.toInt + (c.toInt - 1) * t.step.toInt) :
    (⟨t.iterator, t.start, last, t.step⟩ : Loop).isPast = false := by
  rw [isPast, ends, Bool.or_eq_false_iff, Bool.and_eq_false_iff, Bool.and_eq_false_iff]
  simp only [decide_eq_false_iff_not, Int.not_lt]
  constructor
  · by_cases up : 0 < t.step.toInt
    · have forward := Int.mul_nonneg (by omega : 0 ≤ c.toInt - 1) (Int.le_of_lt up)
      exact .inr (by omega)
    · exact .inl (by omega)
  · by_cases down : t.step.toInt < 0
    · have backward := Int.mul_nonpos_of_nonneg_of_nonpos (by omega : 0 ≤ c.toInt - 1) (Int.le_of_lt down)
      exact .inr (by omega)
    · exact .inl (by omega)

/-- The element is left without a pass, or its first pass is entered. -/
def Settles (t : Terms) (n : Node) : Prop :=
  ∃ found, t.settle n = .ok found ∧
    (t.passes = 0 ∧ Site.loopDeed n found = .proceed ∨
      ∃ l, t.IsPass 0 l ∧ Site.loopDeed n found = .enter ⟨n, n.children, some l⟩)

theorem number_zero (t : Terms) : t.number 0 = t.start.toInt := by
  rw [number, Int.natCast_zero, Int.zero_mul, Int.add_zero]

/-- A loop with a count begins unless it counts to zero or less. -/
theorem settles_of_count {c : Int64} (counts : t.step ≠ 0) (fits : ¬ t.Overflows) (bound : t.bound = .count c) :
    t.Settles n := by
  by_cases positive : 1 ≤ c.toInt
  · obtain ⟨last, ends, settled⟩ := exists_last n fits bound positive
    have before := not_isPast_of_count positive ends
    have live := isLive_of_not_isPast counts before
    have way : last.toInt - t.start.toInt = (c.toInt - 1) * t.step.toInt := by omega
    refine ⟨_, settled, .inr ⟨_, ⟨live, rfl, rfl, t.number_zero.symm, ?_⟩, ?_⟩⟩
    · rw [span, way, Int.mul_fdiv_cancel _ (toInt_step_ne_zero live.step_ne_zero), passes, bound]
      dsimp only
      omega
    · rw [Site.loopDeed, before]
      rfl
  · refine ⟨none, ?_, .inl ⟨?_, rfl⟩⟩
    · rw [settle, bound]
      dsimp only
      rw [if_pos (by omega)]
    · rw [passes, bound]
      dsimp only
      omega

/-- A loop with a last number begins unless the start is past it. -/
theorem settles_of_last {e : Int64} (counts : t.step ≠ 0) (bound : t.bound = .last e) : t.Settles n := by
  refine ⟨some ⟨t.iterator, t.start, e, t.step⟩, ?_, ?_⟩
  · rw [settle, bound]
  have same : (⟨t.iterator, t.start, e, t.step⟩ : Loop).isPast = true ↔
      0 < t.step.toInt ∧ e.toInt < t.start.toInt ∨ t.step.toInt < 0 ∧ t.start.toInt < e.toInt := by
    rw [isPast, Bool.or_eq_true, Bool.and_eq_true, Bool.and_eq_true]
    simp only [decide_eq_true_eq]
  cases past : (⟨t.iterator, t.start, e, t.step⟩ : Loop).isPast with
  | true =>
    refine .inl ⟨?_, ?_⟩
    · rw [passes, bound]
      dsimp only
      rw [if_pos (same.mp past)]
    · rw [Site.loopDeed, past]
      rfl
  | false =>
    have live := isLive_of_not_isPast counts past
    refine .inr ⟨_, ⟨live, rfl, rfl, t.number_zero.symm, ?_⟩, ?_⟩
    · have nonneg := live.span_nonneg
      rw [passes, bound]
      dsimp only
      rw [if_neg (fun no => by rw [same.mpr no] at past; cases past)]
      rw [span] at nonneg ⊢
      dsimp only at nonneg ⊢
      omega
    · rw [Site.loopDeed, past]
      rfl

/-- **Terms that do not overflow** settle whether there is a first pass, and there is one exactly if they ask for
one. -/
theorem settles (counts : t.step ≠ 0) (fits : ¬ t.Overflows) : t.Settles n := by
  cases bound : t.bound with
  | count c => exact settles_of_count n counts fits bound
  | last e => exact settles_of_last n counts bound

end Terms

end Loop

/-! ## Reading the terms -/

namespace Site

variable {ρ : Type} [PatientSource ρ] (site : Site) (n : Node)

/-- The terms of a loop.  Without a count there has to be an end. -/
def terms : Draw ρ Loop.Terms := do
  let iterator ← site.text? n "var"
  let start ← site.integerOrOne n "start"
  let step ← site.integerOrOne n "step"
  if step = 0 then throw (.zeroStep n.describe)
  match ← site.integer? n "count" with
  | some count => return ⟨iterator, start, step, .count count⟩
  | none =>
    let last ← site.integer n "end"
    return ⟨iterator, start, step, .last last⟩

theorem terms_gives : (site.terms n : Draw ρ Loop.Terms).Gives fun t => t.step ≠ 0 := by
  unfold terms
  refine Draw.gives_bind fun iterator => Draw.gives_bind fun start => Draw.gives_bind fun step => ?_
  split
  · have never : (throw (.zeroStep n.describe) : Draw ρ PUnit).Gives fun _ => False := Draw.gives_throw _
    exact never.bind fun _ no => no.elim
  · next counts =>
    refine Draw.gives_bind fun count? => ?_
    split
    · exact Draw.gives_pure counts
    · exact Draw.gives_bind fun last => Draw.gives_pure counts

/-- **A loop reads its terms and settles them**, and draws nothing in between. -/
theorem loop?_eq :
    (site.loop? n : Draw ρ (Option Loop)) = site.terms n >>= fun t => liftM (t.settle n) := by
  unfold loop? terms lastPass?
  simp only [bind_assoc]
  refine congrArg _ (funext fun iterator => congrArg _ (funext fun start => congrArg _ (funext fun step => ?_)))
  split
  · rfl
  · simp only [bind_assoc]
    refine congrArg _ (funext fun count? => ?_)
    cases count? with
    | none =>
      simp only [bind_assoc]
      rfl
    | some count =>
      simp only [pure_bind, Loop.Terms.settle]
      split
      · rfl
      · generalize (Decimal.ofInt? ((count.toInt - 1) * step.toInt) >>= fun span =>
          Decimal.ofInt? (start.toInt + span.toInt)) = last?
        cases last? <;> rfl

theorem deed_loop_run {t : Loop.Terms} {r random : ρ} (read : (site.terms n).run.run r = (.ok t, random)) :
    (site.deed n .loop : Draw ρ Deed).run.run r = ((t.settle n).map (loopDeed n), random) := by
  rw [deed, loop?_eq, bind_assoc, Draw.run_bind, read]
  dsimp only
  cases t.settle n <;> rfl

end Site

end Colloquy
