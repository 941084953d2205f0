import Colloquy.Proofs.Script.Choice
import Colloquy.Proofs.Script.Passes

/-!
# Arithmetic in words

The program computes in machine words: 64-bit integers in expressions and loops, 64-bit sums of weights, 32-bit
bounds of a draw, 64-bit counts of open blocks.  The definitions here mostly compute with integers without a
bound, so they say what a result is only if no word on the way was too small for it.  This module compares the two
at each place.  No word ever goes around.

* An operation of an expression gives the exact result, or the expression has no value because the result is beyond
  64 bits (`Expr.eval_of_beyond`).
* The way through a loop is exact, or the loop has the fault for its range; a number beyond 64 bits behind the last
  pass is beyond the last number too, and the loop is over as it would be without a bound.
* The countdown of a choice and the limit of a draw stay within their words, as does the count of open blocks.

At one place a word that is too small is no failure of the script.  The weights of a choice are summed up before the
sum is compared with the bound of a draw, so the comparison comes too late where the sum has no word: the program
breaks off over it (`Scene.only_weights_break_off`).

## Main definitions

* `Expr.results`: the exact results of the arithmetic in an expression.
* `Site.countdown`, `Template.depth`: computations of the program with its own words.
* `Arithmetic.IsExact`: what holds of the arithmetic at each place.
-/

namespace Colloquy

open Text Loop

/-! ## Expressions -/

namespace Expr

/-- The exact result of an operation on two operands; there is none for other operands than integers, and none for
a division by zero. -/
def exactResult? (s : Symbol) : Operand → Operand → Option Int
  | .int i, .int j => if s = .slash ∧ j = 0 then none else some (exactResult s i.toInt j.toInt)
  | _, _ => none

/-- The arithmetic that a symbol in front of an operand does. -/
def signResult? (s : Symbol) (x : Operand) : Option Int :=
  match s with
  | .not => none
  | .minus => exactResult? .minus (.int 0) x
  | _ => exactResult? .plus (.int 0) x

/-- The arithmetic that a symbol between two operands does. -/
def joinResult? (s : Symbol) (x y : Operand) : Option Int := if s.isArithmetic then exactResult? s x y else none

/-- The exact results of all arithmetic that the evaluation of a tree does, in order. -/
def results (setting : Setting) (text : String) : Expr → List Int
  | sign s e =>
    results setting text e ++
      match eval setting text e with
      | .ok x => (signResult? s x).toList
      | .error _ => []
  | binary s l r =>
    results setting text l ++
      match eval setting text l with
      | .ok x =>
        results setting text r ++
          match eval setting text r with
          | .ok y => (joinResult? s x y).toList
          | .error _ => []
      | .error _ => []
  | broken e _ => results setting text e
  | _ => []

/-- An operation with an exact result gives it, if 64 bits can hold it. -/
theorem arithmetic_of_exactResult? {s : Symbol} {x y : Operand} {n : Int} (result : exactResult? s x y = some n) :
    arithmetic s x y = match Decimal.ofInt? n with
      | some k => .ok (.int k)
      | none => .error .overflow := by
  unfold exactResult? at result
  split at result
  · next i j =>
    unfold arithmetic
    dsimp only
    split at result
    · cases result
    · next divides =>
      cases result
      exact if_neg divides
  · cases result

theorem arithmetic_of_beyond {s : Symbol} {x y : Operand} {n : Int} (result : exactResult? s x y = some n)
    (beyond : Beyond n) : arithmetic s x y = .error .overflow := by
  rw [arithmetic_of_exactResult? result, ofInt?_eq_none_iff_beyond.mpr beyond]

/-- What an operation gives is its exact result. -/
theorem exists_exactResult? {s : Symbol} {x y z : Operand} (gives : arithmetic s x y = .ok z) :
    ∃ k n, z = .int k ∧ exactResult? s x y = some n ∧ k.toInt = n := by
  unfold arithmetic at gives
  split at gives
  · next i j =>
    split at gives
    · cases gives
    · next divides =>
      split at gives
      · next k fits =>
        cases gives
        exact ⟨k, _, rfl, if_neg divides, Decimal.ofInt?_eq_some_iff.mp fits⟩
      · cases gives
  · cases gives

variable {setting : Setting} {text : String}

theorem applySign_of_beyond {s : Symbol} {x : Operand} {n : Int} (among : n ∈ (signResult? s x).toList)
    (beyond : Beyond n) : applySign s x = .error .overflow := by
  rw [Option.mem_toList] at among
  cases s with
  | not => cases among
  | _ => exact arithmetic_of_beyond among beyond

theorem combine_of_beyond {s : Symbol} {x y : Operand} {n : Int} (among : n ∈ (joinResult? s x y).toList)
    (beyond : Beyond n) : combine s x y = .error .overflow := by
  rw [Option.mem_toList, joinResult?] at among
  split at among
  · next isArithmetic =>
    rw [combine_eq_arithmetic isArithmetic]
    exact arithmetic_of_beyond among beyond
  · cases among

/-- **An exact result beyond 64 bits** is the overflow of the whole expression. -/
theorem eval_of_beyond {e : Expr} {n : Int} (among : n ∈ results setting text e) (beyond : Beyond n) :
    eval setting text e = .error (.expression text .overflow) := by
  induction e with
  | int | str | var | word | missing => cases among
  | sign s e ih =>
    rw [results, List.mem_append] at among
    rcases among with inside | own
    · rw [eval, ih inside]
      rfl
    -- A result of the sign's own is there only if the operand has a value.
    · cases value : eval setting text e with
      | error fault =>
        rw [value] at own
        cases own
      | ok x =>
        rw [value] at own
        rw [eval, value]
        show (applySign s x).mapError _ = _
        rw [applySign_of_beyond own beyond]
        rfl
  | binary s l r left right =>
    rw [results, List.mem_append] at among
    rcases among with inside | later
    · rw [eval, left inside]
      rfl
    · cases first : eval setting text l with
      | error fault =>
        rw [first] at later
        cases later
      | ok x =>
        rw [first, List.mem_append] at later
        rw [eval, first]
        rcases later with inside | own
        · show (eval setting text r >>= _) = _
          rw [right inside]
          rfl
        · cases second : eval setting text r with
          | error fault =>
            rw [second] at own
            cases own
          | ok y =>
            rw [second] at own
            show (combine s x y).mapError _ = _
            rw [combine_of_beyond own beyond]
            rfl
  | broken e reason ih =>
    rw [eval, ih among]
    rfl

/-- The text of the expression says so too. -/
theorem evaluate_of_beyond {ts : List Token} (read : Token.readAll text.toList = .ok ts) {n : Int}
    (among : n ∈ results setting text (ofTokens ts)) (beyond : Beyond n) :
    evaluate setting text = .error (.expression text .overflow) := by
  have some : ts ≠ [] := by
    rintro rfl
    -- Without tokens there is no tree, and what stands for it does no arithmetic.
    have nothing : results setting text (ofTokens []) = [] := by
      have whole : ofTokens [] = .missing .unexpectedEnd := by
        simp [ofTokens, readChain, readMember, readComparison, readSigned, readOperand, readMore, Reading.none,
          Reading.weaken]
      rw [whole]
      rfl
    rw [nothing] at among
    cases among
  rw [evaluate, read]
  show evaluateTokens _ _ _ = _
  rw [evaluateTokens_of_ne_nil some]
  exact eval_of_beyond among beyond

end Expr

/-! ## Differences of words -/

/-- An integer of 64 bits stays as it is when it is brought into their range. -/
theorem Int64.bmod_eq_self {n : Int} (low : Int64.minValue.toInt ≤ n) (high : n ≤ Int64.maxValue.toInt) :
    n.bmod UInt64.size = n := by
  change -9223372036854775808 ≤ n at low
  change n ≤ 9223372036854775807 at high
  refine Int.bmod_eq_of_le_mul_two ?_ ?_
  · show -18446744073709551616 ≤ _
    omega
  · show _ < (18446744073709551616 : Int)
    omega

/-- A difference of words is exact if it lies between zero and the word that is taken from. -/
theorem Int64.toInt_sub_of_le {i j : Int64} (nonneg : 0 ≤ j.toInt) (le : j.toInt ≤ i.toInt) :
    (i - j).toInt = i.toInt - j.toInt := by
  have high : i.toInt ≤ Int64.maxValue.toInt := Int64.toInt_le i
  rw [Int64.toInt_sub]
  refine Int64.bmod_eq_self ?_ (by omega)
  show -9223372036854775808 ≤ _
  omega

/-! ## Loops -/

namespace Loop

/-- A loop does not go on to a number beyond 64 bits. -/
theorem next?_of_beyond {l : Loop} (beyond : Beyond (l.current.toInt + l.step.toInt)) : l.next? = none := by
  rw [next?, ofInt?_eq_none_iff_beyond.mpr beyond]
  rfl

/-- A number beyond 64 bits is past the last number, in the direction of the step. -/
theorem past_of_beyond {l : Loop} (beyond : Beyond (l.current.toInt + l.step.toInt)) :
    (0 < l.step.toInt → l.last.toInt < l.current.toInt + l.step.toInt) ∧
      (l.step.toInt < 0 → l.current.toInt + l.step.toInt < l.last.toInt) := by
  have low : Int64.minValue.toInt ≤ l.current.toInt := Int64.minValue_le_toInt _
  have high : l.current.toInt ≤ Int64.maxValue.toInt := Int64.toInt_le _
  have least : Int64.minValue.toInt ≤ l.last.toInt := Int64.minValue_le_toInt _
  have most : l.last.toInt ≤ Int64.maxValue.toInt := Int64.toInt_le _
  rcases beyond with below | above
  · exact ⟨fun up => by omega, fun _ => by omega⟩
  · exact ⟨fun _ => by omega, fun down => by omega⟩

end Loop

/-! ## Choices and draws -/

namespace Site

/-- The countdown of a choice as the program does it, in words. -/
def countdown (draw : Int64) : List (Node × Int64) → Option Node
  | [] => none
  | (n, weight) :: others => if draw < weight then some n else countdown (draw - weight) others

/-- The countdown takes away no more than there is, so its words are exact. -/
theorem countdown_eq {draw : Int64} {weighted : List (Node × Int64)} (drawn : 0 ≤ draw.toInt)
    (raised : ∀ w ∈ weighted, 0 ≤ w.2.toInt) : countdown draw weighted = choose? draw.toInt weighted := by
  induction weighted generalizing draw with
  | nil => rfl
  | cons w others ih =>
    obtain ⟨n, weight⟩ := w
    rw [List.forall_mem_cons] at raised
    have nonneg : 0 ≤ weight.toInt := raised.1
    rw [countdown, choose?]
    by_cases here : draw.toInt < weight.toInt
    · rw [if_pos here, if_pos (Int64.lt_iff_toInt_lt.mpr here)]
    · have exact := Int64.toInt_sub_of_le nonneg (Int.not_lt.mp here)
      have left : 0 ≤ (draw - weight).toInt := by omega
      rw [if_neg here, if_neg fun no => here (Int64.lt_iff_toInt_lt.mp no), ih left raised.2, exact]

end Site

/-- The bound of a random number block is taken as it is or not at all. -/
theorem Scope.bound?_eq_some_iff {x : Expr.Operand} {bound : UInt32} :
    Scope.bound? x = some bound ↔ ∃ i, x = .int i ∧ 0 < i.toInt ∧ (bound.toNat : Int) = i.toInt := by
  cases x with
  | int i =>
    rw [bound?]
    have small := bound.toNat_lt_size
    constructor
    · intro found
      split at found
      · next fits =>
        cases found
        refine ⟨i, rfl, fits.1, ?_⟩
        rw [UInt32.toNat_ofNat_of_lt' (by omega)]
        omega
      · cases found
    · rintro ⟨_, ⟨⟩, positive, same⟩
      have fits : 0 < i.toInt ∧ i.toInt < (UInt32.size : Int) := ⟨positive, by omega⟩
      rw [if_pos fits, ← same, Int.toNat_natCast, UInt32.ofNat_toNat]
  | _ => exact iff_of_false nofun nofun

/-! ## Open blocks -/

namespace Template

/-- The count of open blocks behind one more character, in words. -/
def depth (count : UInt64) (c : Char) : UInt64 :=
  if c = '\x7b' then count + 1 else if c = '\x7d' then (if count = 0 then 0 else count - 1) else count

theorem depth_read {count : UInt64} {p : Partial} (same : count.toNat = p.outer.length)
    (room : p.outer.length + 1 < UInt64.size) (c : Char) : (depth count c).toNat = (p.read c).outer.length := by
  have bound : p.outer.length + 1 < 18446744073709551616 := room
  rw [depth, Partial.read]
  split
  · show (count + 1).toNat = p.outer.length + 1
    rw [UInt64.toNat_add, same]
    exact Nat.mod_eq_of_lt room
  · split
    · cases outer : p.outer with
      | nil =>
        rw [outer] at same
        rw [if_pos (UInt64.toNat_inj.mp same)]
        rfl
      | cons around outside =>
        rw [outer, List.length_cons] at same
        have some : count ≠ 0 := by
          rintro rfl
          cases same
        have one : (1 : UInt64) ≤ count := by
          rw [UInt64.le_iff_toNat_le, same]
          exact Nat.succ_le_succ (Nat.zero_le _)
        rw [if_neg some]
        show (count - 1).toNat = outside.length
        rw [UInt64.toNat_sub_of_le _ _ one, same]
        rfl
    · exact same

/-- A character opens one block at most. -/
theorem length_outer_read_le (p : Partial) (c : Char) : (p.read c).outer.length ≤ p.outer.length + 1 := by
  rw [Partial.read]
  split
  · exact Nat.le_refl _
  · split
    · cases outer : p.outer with
      | nil => exact Nat.zero_le _
      | cons around outside =>
        rw [List.length_cons]
        show outside.length ≤ _
        omega
    · exact Nat.le_succ _

theorem toNat_foldl_depth {cs : List Char} {count : UInt64} {p : Partial} (same : count.toNat = p.outer.length)
    (room : p.outer.length + cs.length < UInt64.size) :
    (cs.foldl depth count).toNat = (cs.foldl Partial.read p).outer.length := by
  induction cs generalizing count p with
  | nil => exact same
  | cons c cs ih =>
    rw [List.length_cons] at room
    have step := length_outer_read_le p c
    exact ih (depth_read same (by omega) c) (by omega)

/-- **The count of open blocks** is exact behind every text that has fewer characters than words can count. -/
theorem toNat_depth {cs : List Char} (short : cs.length < UInt64.size) :
    (cs.foldl depth 0).toNat = (cs.foldl Partial.read ⟨[], []⟩).outer.length :=
  toNat_foldl_depth rfl (by rw [List.length_nil, Nat.zero_add]; exact short)

end Template

/-! ## All places -/

open Colloquy.Expr Share

/-- Arithmetic is exact at each place where the program computes: no word goes around, and a result that no word
holds is a failure or no result. -/
structure Arithmetic.IsExact (ρ : Type) [PatientSource ρ] : Prop where
  /-- What an operation in an expression gives is its exact result. -/
  operations : ∀ (o : Expr.Symbol) (x y z : Operand), arithmetic o x y = .ok z →
    ∃ k n, z = .int k ∧ exactResult? o x y = some n ∧ k.toInt = n
  /-- An exact result beyond 64 bits anywhere in an expression is the failure of the expression. -/
  expressions : ∀ (scope : Scope) (text : String) ts, Token.readAll text.toList = .ok ts →
    ∀ n ∈ results scope.setting text (ofTokens ts), Beyond n →
      scope.evaluate text = .error (.expression text .overflow) ∧
        (Fault.expression text .overflow).code = "EXPR_OVERFLOW"
  /-- A failure of the expression in an attribute is the failure to read the attribute. -/
  attributes : ∀ (site : Site) (n : Node) (key raw text : String) (r random : ρ) fault,
    n.attribute? key = some raw → (site.scope.translate raw).run.run r = (.ok text, random) →
      site.scope.evaluate text = .error fault → (site.integer? n key).run.run r = (.error fault, random)
  /-- The way to the last pass of a loop is exact, or the loop has the fault for its range. -/
  ways : ∀ (t : Terms) (n : Node) (c : Int64), t.bound = .count c → 1 ≤ c.toInt →
    (c - 1).toInt = c.toInt - 1 ∧
    (t.Overflows → t.settle n = .error (.loopRange n.describe) ∧
      (Fault.loopRange n.describe).code = "SCRIPT_LOOP_RANGE") ∧
    (¬ t.Overflows → ∃ last : Int64, last.toInt = t.start.toInt + (c.toInt - 1) * t.step.toInt ∧
      t.settle n = .ok (some ⟨t.iterator, t.start, last, t.step⟩))
  /-- The number of the next pass is exact, and where it is beyond 64 bits it is past the last number as well. -/
  numbers : ∀ l : Loop, (∀ k, l.next? = some k → k.toInt = l.current.toInt + l.step.toInt) ∧
    (Beyond (l.current.toInt + l.step.toInt) → l.next? = none ∧
      (0 < l.step.toInt → l.last.toInt < l.current.toInt + l.step.toInt) ∧
      (l.step.toInt < 0 → l.current.toInt + l.step.toInt < l.last.toInt))
  /-- The sum of the weights is the exact sum, and there is none if no word holds that. -/
  sums : ∀ (ns : List Node) (ws : List Int64), ws.length = ns.length →
    Site.sum? (ns.zip (ws.map clamp)) = Decimal.ofInt? (total (ws.map ofWeight))
  /-- The countdown of a choice is the same in words. -/
  countdowns : ∀ (draw : Int64) (weighted : List (Node × Int64)), 0 ≤ draw.toInt →
    (∀ w ∈ weighted, 0 ≤ w.2.toInt) → Site.countdown draw weighted = Site.choose? draw.toInt weighted
  /-- The limit of a draw is the same in words. -/
  limits : ∀ bound : UInt32, (limitInWords bound).toNat = acceptLimit bound
  /-- The bound of a random number block is the integer given for it, or there is none. -/
  bounds : ∀ (x : Operand) (bound : UInt32),
    Scope.bound? x = some bound ↔ ∃ i, x = .int i ∧ 0 < i.toInt ∧ (bound.toNat : Int) = i.toInt
  /-- The count of open blocks is the same in words. -/
  depths : ∀ cs : List Char, cs.length < UInt64.size →
    (cs.foldl Template.depth 0).toNat = (cs.foldl Template.Partial.read ⟨[], []⟩).outer.length

theorem Site.integer?_run_of_error {ρ : Type} [PatientSource ρ] (site : Site) {n : Node} {key raw text : String}
    {r random : ρ} {fault : Fault} (given : n.attribute? key = some raw)
    (translates : (site.scope.translate raw).run.run r = (.ok text, random))
    (fails : site.scope.evaluate text = .error fault) :
    (site.integer? n key).run.run r = (.error fault, random) := by
  rw [integer?, text?, given]
  dsimp only
  rw [bind_assoc, Draw.run_bind, translates]
  simp only [pure_bind]
  rw [Draw.run_bind, fails]
  rfl

theorem Arithmetic.isExact (ρ : Type) [PatientSource ρ] : Arithmetic.IsExact ρ where
  operations := fun _ _ _ _ => exists_exactResult?
  expressions := fun _ _ _ read _ among beyond => ⟨evaluate_of_beyond read among beyond, rfl⟩
  attributes := fun site _ _ _ _ _ _ _ => site.integer?_run_of_error
  ways := fun t n c bound positive =>
    ⟨Int64.toInt_sub_of_le (by decide) positive, fun overflows => ⟨t.settle_of_overflows n overflows, rfl⟩,
      fun fits => t.exists_last n fits bound positive⟩
  numbers := fun l =>
    ⟨fun _ comes => toInt_of_next? comes, fun beyond => ⟨next?_of_beyond beyond, past_of_beyond beyond⟩⟩
  sums := fun _ _ => Site.sum?_zip
  countdowns := fun _ _ => Site.countdown_eq
  limits := toNat_limitInWords
  bounds := fun _ _ => Scope.bound?_eq_some_iff
  depths := fun _ => Template.toNat_depth

namespace Scene

variable {ρ η : Type} [PatientSource ρ]

/-- **Only weights break off.**  Arithmetic is exact everywhere.  An element with weighted children goes by the exact
sum of the weights: from zero it selects nothing, and below the range of a draw it selects a child with it; out of
that range it fails and draws nothing more.  But if no signed word holds the sum, the program breaks off there. -/
theorem only_weights_break_off (host : Host η) (root script : Node) {s : Scene ρ η} {n : Node} {ws : List Int64}
    {random : ρ} (here : s.node? = some n) (named : Action.ofLabel? n.label = some .random)
    (unasked : n.attribute? "chance" = none)
    (read : (Site.givenWeights ⟨root, script, s.scope⟩ n.childElements).run.run s.random = (.ok ws, random)) :
    Arithmetic.IsExact ρ ∧
    (Int64.maxValue.toInt < total (ws.map ofWeight) →
      s.tick host root script = ({ s.past with random := random }, .failed .brokenSum) ∧
        Fault.brokenSum.breaksOff = true ∧ Fault.brokenSum.code = "PANIC") ∧
    (UInt32.size ≤ total (ws.map ofWeight) → (total (ws.map ofWeight) : Int) ≤ Int64.maxValue.toInt →
      s.tick host root script = ({ s.past with random := random }, .failed (.weightRange n.describe)) ∧
        (Fault.weightRange n.describe).code = "SCRIPT_ATTRIBUTE_TYPE") ∧
    (total (ws.map ofWeight) = 0 → s.tick host root script = ({ s.past with random := random }, .quiet)) ∧
    (0 < total (ws.map ofWeight) → total (ws.map ofWeight) < UInt32.size →
      s.DrawsOne host root script n.childElements (ws.map ofWeight) (total (ws.map ofWeight)) random) := by
  have selects := Site.selected?_run _ n unasked read
  refine ⟨Arithmetic.isExact ρ, fun above => ⟨tick_of_selected?_fault host here named ?_, rfl, rfl⟩,
    fun large fits => ⟨tick_of_selected?_fault host here named ?_, rfl⟩,
    drawsNone host here named unasked read, drawsOne host here named unasked read⟩
  · rw [selects]
    exact if_pos above
  · rw [selects]
    exact (if_neg (Int.not_lt.mpr fits)).trans (if_pos large)

end Scene

/-! ## A jackpot -/

namespace Jackpot

open Raffle

/-- Two children; the sum of their weights is one more than any signed word. -/
def double : Node := .element 2 none "random" [] [prize 3 Int64.maxValue, prize 4 1]

/-- Three children; the sum of their weights is one more than all words. -/
def triple : Node := .element 2 none "random" [] [prize 3 Int64.maxValue, prize 4 Int64.maxValue, prize 5 3]

theorem givenWeights_double (site : Site) :
    (site.givenWeights double.childElements : Draw Listed (List Int64)) = pure [Int64.maxValue, 1] := by
  show (site.givenWeights [prize 3 Int64.maxValue, prize 4 1] : Draw Listed (List Int64)) = _
  rw [givenWeights_prize site 3 (by decide), givenWeights_prize site 4 (by decide)]
  rfl

theorem givenWeights_triple (site : Site) : (site.givenWeights triple.childElements : Draw Listed (List Int64)) =
    pure [Int64.maxValue, Int64.maxValue, 3] := by
  show (site.givenWeights [prize 3 Int64.maxValue, prize 4 Int64.maxValue, prize 5 3] :
    Draw Listed (List Int64)) = _
  rw [givenWeights_prize site 3 (by decide), givenWeights_prize site 4 (by decide),
    givenWeights_prize site 5 (by decide)]
  rfl

end Jackpot

/-- The program breaks off over a sum that is one more than any signed word. -/
theorem Scene.only_weights_break_off_in_jackpot :
    (Raffle.facing Jackpot.double [5]).tick Host.obliging Jackpot.double Jackpot.double =
      ((Raffle.facing Jackpot.double [5]).past, .failed .brokenSum) := by
  have all := Scene.only_weights_break_off Host.obliging Jackpot.double Jackpot.double
    (s := Raffle.facing Jackpot.double [5]) rfl rfl rfl (by rw [Jackpot.givenWeights_double]; rfl)
  exact (all.2.1 (by decide)).1

/-- A sum that is one more than all words is above the range of a draw, and no failure of the script. -/
theorem Scene.broken_sum_is_not_refused :
    UInt32.size ≤ Share.total ([Int64.maxValue, Int64.maxValue, 3].map Share.ofWeight) ∧
      (Raffle.facing Jackpot.triple [5]).tick Host.obliging Jackpot.triple Jackpot.triple =
        ((Raffle.facing Jackpot.triple [5]).past, .failed .brokenSum) ∧
      Fault.brokenSum.code ≠ "SCRIPT_ATTRIBUTE_TYPE" ∧ Fault.brokenSum.breaksOff = true := by
  refine ⟨by decide, ?_, by decide, rfl⟩
  have read : (Site.givenWeights ⟨Jackpot.triple, Jackpot.triple, (Raffle.facing Jackpot.triple [5]).scope⟩
      Jackpot.triple.childElements).run.run (Raffle.facing Jackpot.triple [5]).random =
        (.ok [Int64.maxValue, Int64.maxValue, 3], (Raffle.facing Jackpot.triple [5]).random) := by
    rw [Jackpot.givenWeights_triple]
    rfl
  have selects := Site.selected?_run _ Jackpot.triple rfl read
  have above :
      Int64.maxValue.toInt < Share.total ([Int64.maxValue, Int64.maxValue, 3].map Share.ofWeight) := by
    decide
  exact Scene.tick_of_selected?_fault Host.obliging rfl rfl (selects.trans (if_pos above))

end Colloquy
