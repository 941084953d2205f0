import Colloquy.Proofs.Script.Loop
import Colloquy.Proofs.Script.Walk

/-!
# Only jumps and inclusions keep a walk going

A walk that neither jumps nor includes goes further down or further on with every iteration, and what is
before it is bounded from the start: a content ends, and a loop has as many passes as there are 64-bit
numbers at most.  So between any two elements that can lead elsewhere lie finitely many iterations.

### What carries the proof

`Frame.ahead` counts the iterations that may still be before a block in progress, with the passes that its
loop has left.  It is a measure of the frames alone: what the variables hold decides which branches are
taken, and `Node.cost` allows for all of them.  An iteration at a straight place takes one from it
(`Scene.Sound.tick_ahead_lt`), because a block that is entered costs less than the element that it is entered
from.

## Main definitions

* `Action.leads`: the actions that can lead anywhere but down or on.
* `Node.Straight`: nodes that do not, even if others of their name can.
* `Node.cost`, `Frame.ahead`, `Scene.ahead`: the measure.
* `Scene.Leads`: scenes in front of an element with such an action.
-/

namespace Colloquy

/-- What is looked up is an entry. -/
theorem mem_of_lookup {α β : Type} [BEq α] [LawfulBEq α] {entries : List (α × β)} {a : α} {b : β}
    (h : entries.lookup a = some b) : (a, b) ∈ entries := by
  obtain ⟨before, later, rfl, -⟩ := List.lookup_eq_some_iff.mp h
  exact List.mem_append_right before List.mem_cons_self

/-- Nothing is shown. -/
def Step.isSilent : Step → Bool
  | .quiet | .round => true
  | .shown _ | .failed _ => false

/-- The actions that can lead the pass anywhere but further down or on. -/
def Action.leads : Action → Bool
  | .redirect | .pay | .inclusion => true
  | _ => false

/-- The action leads the pass further down or on from this element: it can lead nowhere else, or it is a payment
that names no block for a refusal. -/
def Action.StaysAt (n : Node) (action : Action) : Prop :=
  action.leads = false ∨ action = .pay ∧ n.attribute? "cantpay" = none

/-- Whatever the node does, the pass goes further down or on from it. -/
def Node.Straight (n : Node) : Prop := ∀ action, Action.ofLabel? n.label = some action → action.StaysAt n

namespace Node

mutual

/-- How many iterations a node may cost: one for itself, and all passes that a loop can have over its
content. -/
def cost : Node → Nat
  | .element _ _ _ _ children => UInt64.size * (costs children + 1) + 1
  | .text _ _ _ => UInt64.size + 1

/-- How many iterations the nodes may cost together. -/
def costs : List Node → Nat
  | [] => 0
  | n :: ns => n.cost + costs ns

end

theorem cost_eq (n : Node) : n.cost = UInt64.size * (costs n.children + 1) + 1 := by
  cases n with
  | element i o l as ns => rw [cost, children]
  | text i o s => rw [cost, children, costs, Nat.zero_add, Nat.mul_one]

/-- The content of a node costs less than the node. -/
theorem costs_children_lt (n : Node) : costs n.children + 1 < n.cost := by
  have positive : 0 < UInt64.size := by decide
  have le := Nat.le_mul_of_pos_left (costs n.children + 1) positive
  rw [cost_eq]
  exact Nat.lt_succ_of_le le

mutual

/-- What is in a tree costs no more than the tree. -/
theorem cost_le_of_mem_subtree {m : Node} : ∀ n : Node, m ∈ n.subtree → m.cost ≤ n.cost
  | element i o l as ns, h => by
      rw [subtree, List.mem_cons] at h
      rcases h with rfl | h
      · exact Nat.le_refl _
      · have le := cost_le_of_mem_subtrees ns h
        have less := costs_children_lt (element i o l as ns)
        rw [children] at less
        omega
  | text i o s, h => by
      rw [subtree, List.mem_singleton] at h
      exact Nat.le_of_eq (congrArg cost h)

theorem cost_le_of_mem_subtrees {m : Node} : ∀ ns : List Node, m ∈ subtrees ns → m.cost ≤ costs ns
  | [], h => by cases h
  | n :: ns, h => by
      rw [subtrees, List.mem_append] at h
      rw [costs]
      rcases h with h | h
      · exact Nat.le_add_right_of_le (cost_le_of_mem_subtree n h)
      · exact Nat.le_add_left_of_le (cost_le_of_mem_subtrees ns h)

end

end Node

/-! ## What is before a walk -/

/-- No loop has more passes than there are 64-bit numbers. -/
theorem Loop.span_lt (l : Loop) : l.span < UInt64.size := by
  have low := Int64.minValue_le_toInt l.current
  have high := Int64.toInt_le l.current
  have low' := Int64.minValue_le_toInt l.last
  have high' := Int64.toInt_le l.last
  have bottom : Int64.minValue.toInt = -9223372036854775808 := rfl
  have top : Int64.maxValue.toInt = 9223372036854775807 := rfl
  have numbers : UInt64.size = 18446744073709551616 := rfl
  have le : l.span.natAbs ≤ (l.last.toInt - l.current.toInt).natAbs := Int.natAbs_fdiv_le_natAbs _ _
  omega

namespace Frame

/-- How many passes the block has behind the one in progress. -/
def later (f : Frame) : Nat :=
  match f.loop with
  | none => 0
  | some l => l.span.toNat

/-- How many iterations may still be before the block: the rest of its content, the way out, and as much as
its whole content for each later pass. -/
def ahead (f : Frame) : Nat := Node.costs f.rest + 1 + f.later * (Node.costs f.owner.children + 1)

/-- How many iterations may still be before the blocks together. -/
def aheadOf : List Frame → Nat
  | [] => 0
  | f :: outer => f.ahead + aheadOf outer

theorem ahead_block_lt (n : Node) : (Frame.block n).ahead < n.cost := by
  have once : (Frame.block n).later = 0 := rfl
  rw [ahead, once, Nat.zero_mul, Nat.add_zero]
  exact n.costs_children_lt

theorem ahead_loop_lt {n : Node} {l : Loop} (live : l.IsLive) :
    (⟨n, n.children, some l⟩ : Frame).ahead < n.cost := by
  have passes : l.span.toNat + 1 ≤ UInt64.size := by
    have less := l.span_lt
    have nonneg := live.span_nonneg
    omega
  have all : (l.span.toNat + 1) * (Node.costs n.children + 1) ≤ UInt64.size * (Node.costs n.children + 1) :=
    Nat.mul_le_mul_right _ passes
  rw [Nat.succ_mul, Nat.add_comm] at all
  rw [Node.cost_eq]
  exact Nat.lt_succ_of_le all

/-- A block whose content has come to its end has only its later passes before it. -/
theorem ahead_next_lt {n : Node} {l : Loop} {number : Int64} (live : l.IsLive)
    (next : l.next? = some number) :
    (⟨n, n.children, some { l with current := number }⟩ : Frame).ahead < (⟨n, [], some l⟩ : Frame).ahead := by
  have fewer := Loop.span_next live.step_ne_zero next
  have nonneg := (live.next next).span_nonneg
  have passes : l.span.toNat = ({ l with current := number } : Loop).span.toNat + 1 := by omega
  rw [ahead, ahead, later, later]
  dsimp only
  rw [passes, Nat.succ_mul, Node.costs]
  omega

theorem ahead_pos (f : Frame) : 0 < f.ahead :=
  Nat.lt_of_lt_of_le (Nat.succ_pos _) (Nat.le_add_right _ _)

/-- Behind the next node of the block less is before it, by what that node may cost. -/
theorem ahead_behind {f : Frame} {n : Node} {rest : List Node} (content : f.rest = n :: rest) :
    ({ f with rest := rest } : Frame).ahead + n.cost = f.ahead := by
  have same : ({ f with rest := rest } : Frame).later = f.later := rfl
  rw [ahead, ahead, same, content, Node.costs]
  dsimp only
  omega

end Frame

namespace Deed

/-- The deed leads no further than into what the node may cost. -/
def Onward (n : Node) : Deed → Prop
  | .enter f => f.ahead < n.cost
  | .jump _ => False
  | .perform _ refused => ∀ target, refused ≠ .ok (some target)
  | _ => True

end Deed

namespace Site

variable {ρ : Type} [PatientSource ρ] {site : Site} {n : Node}

theorem contentDeed_onward {found : Option Node} (h : ∀ m, found = some m → m ∈ n.subtree) :
    (contentDeed found).Onward n := by
  cases found with
  | none => trivial
  | some m => exact Nat.lt_of_lt_of_le (Frame.ahead_block_lt m) (Node.cost_le_of_mem_subtree n (h m rfl))

theorem loopDeed_onward {found : Option Loop} (h : ∀ l, found = some l → l.step ≠ 0) :
    (loopDeed n found).Onward n := by
  cases found with
  | none => trivial
  | some l =>
    rw [loopDeed]
    cases past : l.isPast with
    | true => trivial
    | false => exact Frame.ahead_loop_lt (Loop.isLive_of_not_isPast (h l rfl) past)

theorem assignmentDeed_onward (name : String) (v : Option Value) : (assignmentDeed name v).Onward n := by
  cases v <;> trivial

theorem effectDeed_onward (effect : Option Effect) : (effectDeed effect).Onward n := by
  cases effect with
  | none => trivial
  | some effect =>
    intro target no
    cases no

theorem text?_gives_none {name : String} (missing : n.attribute? name = none) :
    (site.text? n name : Draw ρ (Option String)).Gives fun found => found = none := by
  unfold text?
  rw [missing]
  exact Draw.gives_pure rfl

theorem payment_gives (missing : n.attribute? "cantpay" = none) :
    (site.payment n : Draw ρ (Effect × Option String)).Gives fun paid => paid.2 = none := by
  unfold payment
  refine Draw.gives_bind fun price => Draw.gives_bind fun quantity => ?_
  exact (text?_gives_none missing).bind fun block none => Draw.gives_pure none

/-- **An action that cannot lead elsewhere** leads no further than into what its element may cost. -/
theorem deed_onward {action : Action} (stays : action.StaysAt n) :
    (site.deed n action : Draw ρ Deed).Gives (Deed.Onward n) := by
  cases action with
  | redirect | inclusion =>
    rcases stays with no | ⟨no, -⟩
    · cases no
    · cases no
  | pay =>
    rcases stays with no | ⟨-, missing⟩
    · cases no
    · refine (payment_gives missing).bind fun (effect, block) none => Draw.gives_pure fun target => ?_
      cases none
      exact nofun
  | context | wait | input | unsetContext => exact Draw.gives_bind fun _ => Draw.gives_pure trivial
  | finish | stop | waitForKeypress | otherwise => exact Draw.gives_pure trivial
  | loop => exact loop?_gives.bind fun _ counts => Draw.gives_pure (loopDeed_onward counts)
  | random => exact selected?_gives.bind fun _ below => Draw.gives_pure (contentDeed_onward below)
  | branch =>
    refine Draw.gives_bind fun x => Draw.gives_pure (contentDeed_onward fun m found => ?_)
    split at found
    · cases found
      exact n.mem_subtree_self
    · have child := Node.mem_children_of_findChild? found
      exact Node.mem_subtree_of_mem_descendants (Node.mem_descendants_of_mem_children child)
  | assignment => exact Draw.gives_bind fun x => Draw.gives_pure (assignmentDeed_onward x.1 x.2)
  | move | sleep | cursor | add | lose | heal | castSpell | damage | karma | music | ztats =>
    exact Draw.gives_bind fun effect => Draw.gives_pure (effectDeed_onward effect)

end Site

/-! ## One iteration -/

namespace Scene

variable {ρ η : Type}

/-- How many iterations may still be before the walk, as long as it goes straight. -/
def ahead (s : Scene ρ η) : Nat := Frame.aheadOf s.frames

/-- The next iteration is at an element with an action that can lead elsewhere. -/
def Leads (s : Scene ρ η) : Prop :=
  ∃ f outer n rest action, s.frames = f :: outer ∧ f.rest = n :: rest ∧
    Action.ofLabel? n.label = some action ∧ action.leads = true

variable {s : Scene ρ η}

/-- The node that the next iteration is at leads further down or on, if there is one. -/
def Straight (s : Scene ρ η) : Prop :=
  ∀ f outer n rest, s.frames = f :: outer → f.rest = n :: rest → n.Straight

theorem straight_of_not_leads (h : ¬ s.Leads) : s.Straight := by
  intro f outer n rest frames content action named
  cases leads : action.leads with
  | false => exact .inl leads
  | true => exact absurd ⟨f, outer, n, rest, action, frames, content, named, leads⟩ h

theorem ahead_cons {f : Frame} {outer : List Frame} (frames : s.frames = f :: outer) :
    s.ahead = f.ahead + Frame.aheadOf outer := by
  rw [ahead, frames, Frame.aheadOf]

theorem close_ahead_lt {f : Frame} {outer : List Frame} (frames : s.frames = f :: outer) (ends : f.rest = [])
    (live : ∀ l, f.loop = some l → l.IsLive) : (s.close f outer).1.ahead < s.ahead := by
  have left : Frame.aheadOf outer < s.ahead := by
    rw [ahead_cons frames]
    exact Nat.lt_add_of_pos_left f.ahead_pos
  obtain ⟨owner, rest, loop⟩ := f
  cases ends
  unfold close
  cases loop with
  | none => exact left
  | some l =>
    dsimp only
    cases next : l.next? with
    | none => exact left
    | some number =>
      have less := Frame.ahead_next_lt (n := owner) (live l rfl) next
      rw [ahead_cons frames]
      exact Nat.add_lt_add_right less _

/-- What a node that cannot lead elsewhere comes to takes no more than what the node may cost. -/
theorem enact_ahead_lt (host : Host η) {deed : Deed} {n : Node} (onward : deed.Onward n) :
    (s.enact host deed).1.ahead < s.ahead + n.cost := by
  have positive : 0 < n.cost := Nat.lt_of_le_of_lt (Nat.zero_le _) n.costs_children_lt
  have same : s.ahead < s.ahead + n.cost := Nat.lt_add_of_pos_right positive
  cases deed with
  | proceed | assign | forget | narrow | pause | ask => exact same
  | enter f =>
    have inside : (s.enter f).ahead = f.ahead + s.ahead := rfl
    show (s.enter f).ahead < _
    rw [inside, Nat.add_comm]
    exact Nat.add_lt_add_left onward _
  | jump target => exact onward.elim
  | widen =>
    unfold enact
    dsimp only
    split
    · exact same
    · exact same
  | finish | halt => exact Nat.lt_of_lt_of_le positive (Nat.le_add_left _ _)
  | perform effect refused =>
    unfold enact
    dsimp only
    split
    · exact same
    · exact same
    · split
      · exact same
      · exact same
      · next target => exact absurd rfl (onward target)

variable [PatientSource ρ]

theorem speak_frames (raw : String) : (s.speak raw).1.frames = s.frames := by
  unfold speak
  dsimp only
  split
  · rfl
  · split
    · rfl
    · rfl

theorem act_ahead_lt (host : Host η) {root script n : Node} (straight : n.Straight) :
    (s.act host root script n).1.ahead < s.ahead + n.cost := by
  have positive : 0 < n.cost := Nat.lt_of_le_of_lt (Nat.zero_le _) n.costs_children_lt
  have same : s.ahead < s.ahead + n.cost := Nat.lt_add_of_pos_right positive
  unfold act
  split
  · exact same
  · next action named =>
    dsimp only
    split
    · next deed given =>
      exact enact_ahead_lt host (Site.deed_onward (straight action named) s.random deed given)
    · exact same

/-- Outside all blocks the walk is at its end. -/
theorem tick_of_nil (host : Host η) (root script : Node) (outside : s.frames = []) :
    s.tick host root script = (s, .shown .finished) := by
  unfold tick
  rw [outside]

theorem ne_nil_of_silent {host : Host η} {root script : Node}
    (silent : (s.tick host root script).2.isSilent = true) : s.frames ≠ [] := by
  intro outside
  rw [tick_of_nil host root script outside] at silent
  cases silent

/-- **An iteration inside the blocks takes one from what is before the walk**, unless it is at an element that
can lead elsewhere. -/
theorem Sound.tick_ahead_lt {root : Node} (h : s.Sound root) (host : Host η) (script : Node)
    (inside : s.frames ≠ []) (straight : s.Straight) : (s.tick host root script).1.ahead < s.ahead := by
  unfold Scene.tick
  cases frames : s.frames with
  | nil => exact absurd frames inside
  | cons f outer =>
    dsimp only
    cases content : f.rest with
    | nil =>
      have here := h.frames_sound f (by rw [frames]; exact List.mem_cons_self)
      exact close_ahead_lt frames content here.loop_live
    | cons n rest =>
      -- The block is behind the node before the node does anything.
      let behind : Scene ρ η := { s with frames := { f with rest := rest } :: outer }
      have before : behind.ahead + n.cost = s.ahead := by
        have less := Frame.ahead_behind content
        rw [ahead_cons frames, ahead_cons (s := behind) rfl]
        omega
      dsimp only
      rw [← before]
      split
      · next raw =>
        have same : (behind.speak raw).1.ahead = behind.ahead :=
          congrArg Frame.aheadOf (speak_frames raw)
        show (behind.speak raw).1.ahead < _
        rw [same]
        exact Nat.lt_add_of_pos_right (Nat.lt_of_le_of_lt (Nat.zero_le _) (Node.costs_children_lt _))
      · exact act_ahead_lt (s := behind) host (straight f outer _ rest frames content)

end Scene

end Colloquy
