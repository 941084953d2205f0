import Colloquy.Proofs.Script.Blocks
import Colloquy.Proofs.Script.Iteration

/-!
# How chance selects content

A random element with weighted children is a lottery: each child has a share of the tickets, the shares lie side
by side in document order, and one number is drawn among all tickets.  An element with a chance is a lottery with
a hundred tickets, of which the element's own content has as many as its chance says.

The program does not lay shares out.  It takes the weight of one child after the other off the number drawn, until
the number is below a weight.  `Share.holder?` is that countdown over natural numbers, and
`Share.filter_holder?` says what it amounts to: the numbers that lead to a child are a stretch of as many as
its share, behind those of the children in front of it.

### What is load-bearing

The weights are summed up one by one in 64-bit words.  No weight is below zero, so the sums only grow: the sum has no
word exactly if the exact one is above all words (`Site.sum?_zip`), and every sum that a draw can be bounded by
has one.

## Main definitions

* `Share.ofWeight`, `Share.total`, `Share.holder?`: shares, and whose share holds a number.
* `Site.givenWeights`: the weights of elements as their attributes give them.
* `Scene.Chooses`: what a fair choice among children is.
-/

namespace Colloquy

/-! ## Shares -/

namespace Share

/-- How many tickets a weight gives; a weight below zero gives none. -/
def ofWeight (weight : Int64) : Nat := weight.toInt.toNat

/-- All tickets. -/
def total : List Nat → Nat
  | [] => 0
  | w :: ws => w + total ws

/-- The place of the share that holds a number, the shares lying side by side from zero. -/
def holder? : List Nat → Nat → Option Nat
  | [], _ => none
  | w :: ws, draw => if draw < w then some 0 else (holder? ws (draw - w)).map (· + 1)

variable {ws : List Nat} {w i d : Nat}

theorem total_take_add_le (here : ws[i]? = some w) : total (ws.take i) + w ≤ total ws := by
  induction ws generalizing i with
  | nil => cases here
  | cons v vs ih =>
    cases i with
    | zero =>
      cases here
      show 0 + w ≤ w + total vs
      omega
    | succ i =>
      have later := ih here
      show v + total (vs.take i) + w ≤ v + total vs
      omega

/-- A share holds the numbers from where the shares in front of it end. -/
theorem holder?_eq_some_iff : holder? ws d = some i ↔
    ∃ w, ws[i]? = some w ∧ total (ws.take i) ≤ d ∧ d < total (ws.take i) + w := by
  induction ws generalizing d i with
  | nil =>
    constructor
    · intro no
      cases no
    · rintro ⟨w, no, -⟩
      cases no
  | cons v vs ih =>
    -- Below the first share it is the holder; the shares behind it hold the same numbers moved up by its size.
    rw [holder?]
    by_cases here : d < v
    · rw [if_pos here]
      cases i with
      | zero => exact iff_of_true rfl ⟨v, rfl, Nat.zero_le _, by rw [List.take_zero, total]; omega⟩
      | succ i =>
        refine iff_of_false nofun ?_
        rintro ⟨w, -, from_, -⟩
        rw [List.take_succ_cons, total] at from_
        omega
    · rw [if_neg here, Option.map_eq_some_iff]
      cases i with
      | zero =>
        refine iff_of_false ?_ ?_
        · rintro ⟨j, -, no⟩
          cases no
        · rintro ⟨w, same, -, below⟩
          cases same
          rw [List.take_zero, total] at below
          omega
      | succ i =>
        simp only [Nat.add_right_cancel_iff, exists_eq_right, ih, List.getElem?_cons_succ, List.take_succ_cons,
          total]
        refine exists_congr fun w => and_congr_right fun _ => ?_
        omega

/-- Every number below the total is held. -/
theorem exists_holder (below : d < total ws) : ∃ i, holder? ws d = some i := by
  induction ws generalizing d with
  | nil => exact absurd below (Nat.not_lt_zero d)
  | cons v vs ih =>
    rw [holder?]
    by_cases here : d < v
    · exact ⟨0, if_pos here⟩
    · rw [total] at below
      obtain ⟨i, later⟩ := ih (d := d - v) (by omega)
      refine ⟨i + 1, ?_⟩
      rw [if_neg here, later]
      rfl

theorem filter_range {start size n : Nat} (within : start + size ≤ n) :
    (List.range n).filter (fun d => decide (start ≤ d ∧ d < start + size)) = List.range' start size := by
  obtain ⟨behind, rfl⟩ := Nat.exists_eq_add_of_le within
  have split : List.range (start + size + behind) =
      List.range' 0 start ++ (List.range' start size ++ List.range' (start + size) behind) := by
    have first := List.range'_append_1 (s := 0) (m := start) (n := size + behind)
    rw [Nat.zero_add, ← Nat.add_assoc] at first
    rw [List.range_eq_range', ← first, List.range'_append_1]
  have before : (List.range' 0 start).filter (fun d => decide (start ≤ d ∧ d < start + size)) = [] := by
    refine List.filter_eq_nil_iff.mpr fun d among => ?_
    rw [List.mem_range'_1] at among
    rw [decide_eq_true_eq]
    omega
  have here : (List.range' start size).filter (fun d => decide (start ≤ d ∧ d < start + size)) =
      List.range' start size := by
    refine List.filter_eq_self.mpr fun d among => ?_
    rw [List.mem_range'_1] at among
    rw [decide_eq_true_eq]
    exact among
  have later :
      (List.range' (start + size) behind).filter (fun d => decide (start ≤ d ∧ d < start + size)) = [] := by
    refine List.filter_eq_nil_iff.mpr fun d among => ?_
    rw [List.mem_range'_1] at among
    rw [decide_eq_true_eq]
    omega
  rw [split, List.filter_append, List.filter_append, before, here, later, List.nil_append, List.append_nil]

/-- **The numbers of a share** are as many as it has tickets, in one stretch behind the shares in front. -/
theorem filter_holder? (here : ws[i]? = some w) :
    (List.range (total ws)).filter (fun d => decide (holder? ws d = some i)) =
      List.range' (total (ws.take i)) w := by
  rw [← filter_range (total_take_add_le here)]
  refine List.filter_congr fun d _ => ?_
  rw [decide_eq_decide, holder?_eq_some_iff, here]
  simp only [Option.some.injEq, exists_eq_left']

/-- Of three shares the empty one in the middle holds nothing. -/
example : (List.range 5).map (holder? [2, 0, 3]) = [some 0, some 0, some 2, some 2, some 2] := by decide

/-- **Of a hundred numbers** as many are below a chance as it says, none for one below zero and all for one above a
hundred. -/
theorem filter_below_chance (chance : Int) :
    (List.range 100).filter (fun d : Nat => decide ((d : Int) < chance)) =
      List.range (Nat.min chance.toNat 100) := by
  have within : 0 + Nat.min chance.toNat 100 ≤ 100 := by
    rw [Nat.zero_add]
    exact Nat.min_le_right _ _
  rw [List.range_eq_range' (n := Nat.min chance.toNat 100), ← filter_range within]
  refine List.filter_congr fun d among => ?_
  rw [List.mem_range] at among
  rw [decide_eq_decide, Nat.zero_add]
  show _ ↔ 0 ≤ d ∧ d < min chance.toNat 100
  omega

/-! ## Weights as words -/

/-- The weight that is summed up. -/
def clamp (weight : Int64) : Int64 := if weight.toInt < 0 then 0 else weight

theorem toInt_clamp (weight : Int64) : (clamp weight).toInt = ofWeight weight := by
  rw [clamp, ofWeight]
  split
  · rw [Int64.toInt_zero]
    omega
  · omega

/-- A number that a draw can be bounded by is a signed word. -/
theorem not_maxValue_lt {sum : Nat} (small : sum < UInt32.size) : ¬ Int64.maxValue.toInt < sum := by
  have bound : sum < 4294967296 := small
  show ¬ (9223372036854775807 : Int) < sum
  omega

end Share

/-! ## Numbers below a bound -/

theorem drawBelow_lt {ρ : Type} [PatientSource ρ] {bound : UInt32} (some : bound ≠ 0) (r : ρ) :
    (drawBelow bound r).1.toNat < bound.toNat := by
  have positive : 0 < bound.toNat := by
    refine Nat.pos_of_ne_zero fun none => some ?_
    exact UInt32.toNat_inj.mp none
  rw [drawBelow, if_neg some]
  dsimp only
  rw [UInt32.toNat_mod]
  exact Nat.mod_lt _ positive

/-! ## What an element selects -/

namespace Site

open Share

variable {ρ : Type} [PatientSource ρ] (site : Site) (n : Node)

/-- The weights that elements are given; one where nothing is said. -/
def givenWeights (ns : List Node) : Draw ρ (List Int64) := ns.mapM fun n => site.integerOrOne n "weight"

theorem givenWeights_cons (ns : List Node) : (site.givenWeights (n :: ns) : Draw ρ (List Int64)) = do
    let w ← site.integerOrOne n "weight"
    let ws ← site.givenWeights ns
    return w :: ws :=
  List.mapM_cons

theorem givenWeights_gives (ns : List Node) :
    (site.givenWeights ns : Draw ρ (List Int64)).Gives fun ws => ws.length = ns.length := by
  induction ns with
  | nil => exact Draw.gives_pure rfl
  | cons m ns ih =>
    rw [givenWeights_cons]
    refine Draw.gives_bind fun w => ih.bind fun ws same => Draw.gives_pure ?_
    rw [List.length_cons, List.length_cons, same]

/-- The weights are read first, and those below zero are raised to zero. -/
theorem weights_eq (ns : List Node) : (site.weights ns : Draw ρ (List (Node × Int64))) =
    site.givenWeights ns >>= fun ws => pure (ns.zip (ws.map clamp)) := by
  induction ns with
  | nil => rfl
  | cons m ns ih =>
    rw [weights, ih, givenWeights_cons]
    simp only [bind_assoc, pure_bind, List.map_cons, List.zip_cons_cons]
    rfl

theorem choose?_zip {ns : List Node} {ws : List Int64} (same : ws.length = ns.length) (draw : Nat) :
    choose? draw (ns.zip (ws.map clamp)) = (holder? (ws.map ofWeight) draw).bind fun i => ns[i]? := by
  induction ns generalizing ws draw with
  | nil =>
    cases ws with
    | nil => rfl
    | cons w ws => cases same
  | cons m ns ih =>
    cases ws with
    | nil => cases same
    | cons w ws =>
      have later := ih (Nat.succ.inj same) (draw - ofWeight w)
      rw [List.map_cons, List.zip_cons_cons, choose?, List.map_cons, holder?, toInt_clamp]
      by_cases here : draw < ofWeight w
      · rw [if_pos here, if_pos (by omega)]
        rfl
      · have less : (draw : Int) - (ofWeight w : Int) = ((draw - ofWeight w : Nat) : Int) := by omega
        rw [if_neg here, if_neg (by omega), less, later]
        cases holder? (ws.map ofWeight) (draw - ofWeight w) <;> rfl

/-- The sum in words is the exact sum, and there is none if that is above all words. -/
theorem foldlM_zip {ns : List Node} {ws : List Int64} (same : ws.length = ns.length) (sum : Int64) :
    (ns.zip (ws.map clamp)).foldlM (fun sum w => Text.Decimal.ofInt? (sum.toInt + w.2.toInt)) sum =
      Text.Decimal.ofInt? (sum.toInt + total (ws.map ofWeight)) := by
  induction ns generalizing ws sum with
  | nil =>
    cases ws with
    | nil => exact (Text.Decimal.ofInt?_eq_some_iff.mpr (Int.add_zero _).symm).symm
    | cons w ws => cases same
  | cons n ns ih =>
    cases ws with
    | nil => cases same
    | cons w ws =>
      rw [List.map_cons, List.zip_cons_cons, List.foldlM_cons, toInt_clamp, List.map_cons, total,
        Int.natCast_add, ← Int.add_assoc]
      cases word : Text.Decimal.ofInt? (sum.toInt + (ofWeight w : Int)) with
      | some sum' =>
        rw [← Text.Decimal.ofInt?_eq_some_iff.mp word]
        exact ih (Nat.succ.inj same) sum'
      | none =>
        -- What is above all words stays there, whatever weights come behind it.
        have low : Int64.minValue.toInt ≤ sum.toInt := Int64.minValue_le_toInt sum
        rw [Text.Decimal.ofInt?_eq_none_iff] at word
        exact (Text.Decimal.ofInt?_eq_none_iff.mpr (.inr (by omega))).symm

theorem sum?_zip {ns : List Node} {ws : List Int64} (same : ws.length = ns.length) :
    sum? (ns.zip (ws.map clamp)) = Text.Decimal.ofInt? (total (ws.map ofWeight)) := by
  rw [sum?, foldlM_zip same, Int64.toInt_zero, Int.zero_add]

variable {ws : List Int64} {r random : ρ}

theorem selected?_run (unasked : n.attribute? "chance" = none)
    (read : (site.givenWeights n.childElements).run.run r = (.ok ws, random)) :
    (site.selected? n).run.run r =
      let sum := total (ws.map ofWeight)
      if Int64.maxValue.toInt < sum then (.error .brokenSum, random)
      else if UInt32.size ≤ sum then (.error (.weightRange n.describe), random)
      else if sum = 0 then (.ok none, random)
      else
        let drawn := drawBelow (UInt32.ofNat sum) random
        (.ok ((holder? (ws.map ofWeight) drawn.1.toNat).bind fun i => n.childElements[i]?), drawn.2) := by
  have same : ws.length = n.childElements.length := site.givenWeights_gives _ r ws (by rw [read])
  have silent : (site.integer? n "chance" : Draw ρ (Option Int64)) = pure none := by
    rw [integer?, text?, unasked]
    rfl
  rw [selected?, silent, pure_bind]
  dsimp only
  rw [weights_eq, bind_assoc, Draw.run_bind, read]
  simp only [pure_bind]
  rw [sum?_zip same]
  cases word : Text.Decimal.ofInt? (total (ws.map ofWeight)) with
  | none =>
    rw [Text.Decimal.ofInt?_eq_none_iff] at word
    rw [if_pos (word.resolve_left (by have : Int64.minValue.toInt = -9223372036854775808 := rfl; omega))]
    rfl
  | some sum =>
    have exact := Text.Decimal.ofInt?_eq_some_iff.mp word
    have fits : ¬ Int64.maxValue.toInt < total (ws.map ofWeight) := exact ▸ Int.not_lt.mpr (Int64.toInt_le sum)
    have zero : sum = 0 ↔ total (ws.map ofWeight) = 0 := by
      rw [← Int64.toInt_inj, exact, Int64.toInt_zero, Int.natCast_eq_zero]
    dsimp only
    rw [if_neg fits, exact, Int.toNat_natCast]
    by_cases large : UInt32.size ≤ total (ws.map ofWeight)
    · rw [if_pos large, if_pos (Or.inr (Int.ofNat_le.mpr large))]
      rfl
    · have small : ¬ ((total (ws.map ofWeight) : Int) < 0 ∨ (UInt32.size : Int) ≤ total (ws.map ofWeight)) := by
        omega
      rw [if_neg large, if_neg small]
      simp only [zero]
      split
      · rfl
      · rw [Draw.run_bind]
        show (Except.ok _, _) = _
        rw [choose?_zip same]

theorem selected?_run_of_chance {chance : Int64}
    (read : (site.integer? n "chance").run.run r = (.ok (some chance), random)) :
    (site.selected? n).run.run r =
      let drawn := drawBelow 100 random
      (.ok (if (drawn.1.toNat : Int) < chance.toInt then some n else none), drawn.2) := by
  rw [selected?, Draw.run_bind, read]
  dsimp only
  rw [Draw.run_bind]
  show (if _ then (pure (some n) : Draw ρ (Option Node)) else pure none).run.run _ = _
  split <;> rfl

end Site

/-! ## What an iteration does -/

namespace Scene

open Share

variable {ρ η : Type} [PatientSource ρ] {root script : Node} {s : Scene ρ η} {n : Node} {random : ρ}

theorem tick_of_selected? (host : Host η) (here : s.node? = some n)
    (named : Action.ofLabel? n.label = some .random) {found : Option Node}
    (selects : (Site.selected? ⟨root, script, s.scope⟩ n).run.run s.random = (.ok found, random)) :
    s.tick host root script =
      ({ s.past with random := random } : Scene ρ η).enact host (Site.contentDeed found) := by
  refine tick_of_deed here named ?_
  show (Site.selected? _ n >>= fun found => pure (Site.contentDeed found)).run.run _ = _
  rw [Draw.run_bind, selects]
  rfl

theorem tick_of_selected?_fault (host : Host η) (here : s.node? = some n)
    (named : Action.ofLabel? n.label = some .random) {fault : Fault}
    (fails : (Site.selected? ⟨root, script, s.scope⟩ n).run.run s.random = (.error fault, random)) :
    s.tick host root script = ({ s.past with random := random }, .failed fault) := by
  refine tick_of_fault here named ?_
  show (Site.selected? _ n >>= fun found => pure (Site.contentDeed found)).run.run _ = _
  rw [Draw.run_bind, fails]

/-- The iteration draws one of the tickets and runs the content of the element whose share holds it. -/
def DrawsOne (host : Host η) (root script : Node) (s : Scene ρ η) (children : List Node) (shares : List Nat)
    (tickets : Nat) (random : ρ) : Prop :=
  ∃ i child w,
    (drawBelow (UInt32.ofNat tickets) random).1.toNat < tickets ∧
    holder? shares (drawBelow (UInt32.ofNat tickets) random).1.toNat = some i ∧
    children[i]? = some child ∧ shares[i]? = some w ∧ 0 < w ∧
    s.tick host root script =
      (({ s.past with random := (drawBelow (UInt32.ofNat tickets) random).2 } : Scene ρ η).enter (.block child),
        .quiet)

/-- The iteration is a lottery among these elements: with these shares of the tickets, drawn from this source. -/
structure Chooses (host : Host η) (root script : Node) (s : Scene ρ η) (children : List Node)
    (shares : List Nat) (random : ρ) : Prop where
  length_eq : shares.length = children.length
  /-- Without tickets nothing is drawn and nothing run. -/
  nothing : total shares = 0 → s.tick host root script = ({ s.past with random := random }, .quiet)
  /-- Otherwise one number is drawn among all tickets, and what is run is the content of the element whose share
  holds it. -/
  one : 0 < total shares → s.DrawsOne host root script children shares (total shares) random
  /-- Each element has as many numbers as its share says, in one stretch and in the order of the elements. -/
  numbers : ∀ i w, shares[i]? = some w →
    (List.range (total shares)).filter (fun d => decide (holder? shares d = some i)) =
      List.range' (total (shares.take i)) w

section

variable {ws : List Int64} (host : Host η) (here : s.node? = some n)
  (named : Action.ofLabel? n.label = some .random) (unasked : n.attribute? "chance" = none)
  (read : (Site.givenWeights ⟨root, script, s.scope⟩ n.childElements).run.run s.random = (.ok ws, random))

include here named unasked read

/-- If there are tickets and their number is one that can be drawn from, one is drawn. -/
theorem drawsOne (positive : 0 < total (ws.map ofWeight)) (small : total (ws.map ofWeight) < UInt32.size) :
    s.DrawsOne host root script n.childElements (ws.map ofWeight) (total (ws.map ofWeight)) random := by
  have same : ws.length = n.childElements.length := Site.givenWeights_gives _ _ s.random ws (by rw [read])
  have bound : (UInt32.ofNat (total (ws.map ofWeight))).toNat = total (ws.map ofWeight) :=
    UInt32.toNat_ofNat_of_lt' small
  have nonzero : UInt32.ofNat (total (ws.map ofWeight)) ≠ 0 := by
    intro zero
    rw [zero] at bound
    exact absurd bound (Nat.ne_of_lt positive)
  have below := drawBelow_lt nonzero random
  rw [bound] at below
  obtain ⟨i, holds⟩ := exists_holder below
  obtain ⟨w, share, from_, upto⟩ := holder?_eq_some_iff.mp holds
  have place : i < n.childElements.length := by
    have inside := (List.getElem?_eq_some_iff.mp share).1
    rwa [List.length_map, same] at inside
  refine ⟨i, n.childElements[i], w, below, holds, List.getElem?_eq_getElem place, share, by omega, ?_⟩
  have selects := Site.selected?_run _ n unasked read
  dsimp only at selects
  rw [if_neg (not_maxValue_lt small), if_neg (Nat.not_le.mpr small), if_neg (Nat.ne_of_gt positive), holds,
    Option.bind_some, List.getElem?_eq_getElem place] at selects
  exact tick_of_selected? host here named selects

/-- Without tickets nothing is drawn. -/
theorem drawsNone (none : total (ws.map ofWeight) = 0) :
    s.tick host root script = ({ s.past with random := random }, .quiet) := by
  have selects := Site.selected?_run _ n unasked read
  rw [none] at selects
  exact tick_of_selected? host here named selects

theorem chooses (small : total (ws.map ofWeight) < UInt32.size) :
    s.Chooses host root script n.childElements (ws.map ofWeight) random where
  length_eq := by
    rw [List.length_map]
    exact Site.givenWeights_gives _ _ s.random ws (by rw [read])
  nothing := drawsNone host here named unasked read
  one := fun some => drawsOne host here named unasked read some small
  numbers := fun _ _ share => filter_holder? share

end

/-- **Chance is fair.**  An element with weighted children runs nothing if no child has a share, without a draw;
otherwise it runs the content of exactly one, and each child is selected by as many of the numbers that can be
drawn as its weight says, in one stretch and in document order.  An element with a chance runs its own content for
as many of a hundred numbers. -/
theorem chance_is_fair (host : Host η) (root script : Node) {s : Scene ρ η} {n : Node} (here : s.node? = some n)
    (named : Action.ofLabel? n.label = some .random) :
    (∀ ws random, n.attribute? "chance" = none →
      (Site.givenWeights ⟨root, script, s.scope⟩ n.childElements).run.run s.random = (.ok ws, random) →
      total (ws.map ofWeight) < UInt32.size →
        s.Chooses host root script n.childElements (ws.map ofWeight) random) ∧
    ∀ (chance : Int64) random,
      (Site.integer? ⟨root, script, s.scope⟩ n "chance").run.run s.random = (.ok (some chance), random) →
      (drawBelow 100 random).1.toNat < 100 ∧
      s.tick host root script =
        (if ((drawBelow 100 random).1.toNat : Int) < chance.toInt then
          ({ s.past with random := (drawBelow 100 random).2 } : Scene ρ η).enter (.block n)
        else { s.past with random := (drawBelow 100 random).2 }, .quiet) ∧
      (List.range 100).filter (fun d : Nat => decide ((d : Int) < chance.toInt)) =
        List.range (Nat.min chance.toInt.toNat 100) := by
  refine ⟨fun ws random unasked read small => chooses host here named unasked read small,
    fun chance random read => ⟨drawBelow_lt (by decide) random, ?_, filter_below_chance _⟩⟩
  rw [tick_of_selected? host here named (Site.selected?_run_of_chance _ n read)]
  split <;> rfl

end Scene

/-! ## A raffle -/

namespace Raffle

open Text

/-- A child with this weight. -/
def prize (index : Nat) (weight : Int64) : Node := .element index none "o" [("weight", Decimal.write weight)] []

/-- A child that says nothing of its weight. -/
def consolation : Node := .element 5 none "o" [] []

/-- Three children, the second of which has no share. -/
def lottery : Node := .element 2 none "random" [] [prize 3 2, prize 4 (-5), consolation]

/-- An element with a chance. -/
def hope : Node := .element 2 none "random" [("chance", Decimal.write 30)] []

/-- The scene in front of the element, where these words come up. -/
def facing (n : Node) (words : List UInt32) : Scene Listed Unit :=
  ⟨⟨.empty, .empty, [n]⟩, ⟨words⟩, [⟨n, [n], none⟩], (), []⟩

theorem givenWeights_prize (site : Site) (index : Nat) {weight : Int64} (other : weight ≠ Int64.minValue)
    (ns : List Node) : (site.givenWeights (prize index weight :: ns) : Draw Listed (List Int64)) = do
      let ws ← site.givenWeights ns
      return weight :: ws := by
  have written : (site.integer? (prize index weight) "weight" : Draw Listed _) = pure (some weight) :=
    site.integer?_of_write rfl other
  rw [Site.givenWeights_cons, Site.integerOrOne, written]
  rfl

theorem givenWeights_lottery (site : Site) :
    (site.givenWeights lottery.childElements : Draw Listed (List Int64)) = pure [2, -5, 1] := by
  show (site.givenWeights [prize 3 2, prize 4 (-5), consolation] : Draw Listed (List Int64)) = _
  rw [givenWeights_prize site 3 (by decide), givenWeights_prize site 4 (by decide)]
  rfl

end Raffle

/-- Of three children with the weights two, minus five and one the last is selected by the number two of three; and
a chance of thirty in a hundred misses with the number thirty. -/
theorem Scene.chance_is_fair_in_raffle :
    (Raffle.facing Raffle.lottery [5]).Chooses Host.obliging Raffle.lottery Raffle.lottery
        Raffle.lottery.childElements [2, 0, 1] ⟨[5]⟩ ∧
      Share.holder? [2, 0, 1] (drawBelow 3 (⟨[5]⟩ : Listed)).1.toNat = some 2 ∧
      ((Raffle.facing Raffle.hope [130]).tick Host.obliging Raffle.hope Raffle.hope).1 =
        { (Raffle.facing Raffle.hope [130]).past with random := ⟨[]⟩ } := by
  have lottery := (Scene.chance_is_fair Host.obliging Raffle.lottery Raffle.lottery
    (s := Raffle.facing Raffle.lottery [5]) rfl rfl).1 [2, -5, 1] ⟨[5]⟩ rfl
    (by rw [Raffle.givenWeights_lottery]; rfl) (by decide)
  have hope := (Scene.chance_is_fair Host.obliging Raffle.hope Raffle.hope
    (s := Raffle.facing Raffle.hope [130]) rfl rfl).2 30 ⟨[130]⟩
    (by rw [Site.integer?_of_write _ rfl (by decide)]; rfl)
  refine ⟨lottery, by decide, ?_⟩
  rw [hope.2.1]
  rfl

end Colloquy
