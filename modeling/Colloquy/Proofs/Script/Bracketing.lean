import Colloquy.Proofs.Script.Beats
import Colloquy.Proofs.Script.Coherence
import Mathlib.Data.List.Infix

/-!
# Bracketed documents give the focus back

In the content of an element each `context` may have its `unset_context` behind it.  If that is so for all elements
of a document, a pass that begins with some focus never widens it beyond that, and has it again when it comes to its
end, whatever loops, branches, chance and inclusions it goes through and wherever it is suspended
(`Script.Reachable.brackets_restore_focus`).

### What carries the induction

Blocks are entered at their beginning and left at their end, so of each block in progress it is known how many
nodes are still in focus because of it: those that the rest of its content closes (`Node.ClosesFrom`).  In all,
these are the nodes that the focus has grown by since the pass began (`Scene.NestsOn`).  An iteration changes both
alike, at an element for the focus as at any other (`Scene.NestsOn.tick`).

Only two things can break this: the pass may leave its blocks in front of an `unset_context` (`Scene.Leaves`), and a
`context` may fail, behind which the block goes on.  No other fault does any harm, nor does the guard.

## Main definitions

* `Node.Bracketed`: documents in which the elements for the focus nest.
* `Frame.StillOpen`: how many of them are open in the blocks in progress.
* `Script.PlaysOn`: calls that go on with a pass without anything that could break the nesting.
* `Script.RestoresFocus`: what holds of such a pass.
-/

namespace Colloquy

/-! ## Nesting -/

namespace Action

theorem ofLabel?_eq_context_iff {label : String} : ofLabel? label = some .context ↔ label = "context" := by
  refine ⟨fun named => ?_, fun same => same ▸ rfl⟩
  have all : ∀ entry ∈ labels, entry.2 = .context → entry.1 = "context" := by decide
  exact all (label, .context) (mem_of_lookup named) rfl

theorem ofLabel?_eq_unsetContext_iff {label : String} :
    ofLabel? label = some .unsetContext ↔ label = "unset_context" := by
  refine ⟨fun named => ?_, fun same => same ▸ rfl⟩
  have all : ∀ entry ∈ labels, entry.2 = .unsetContext → entry.1 = "unset_context" := by decide
  exact all (label, .unsetContext) (mem_of_lookup named) rfl

end Action

namespace Node

/-- How many of the nodes narrow the focus. -/
def opens (ns : List Node) : Nat := ns.countP (·.label == "context")

/-- How many of the nodes undo it. -/
def closes (ns : List Node) : Nat := ns.countP (·.label == "unset_context")

/-- Behind `k` nodes that narrowed the focus, what these nodes undo was done before, by one of the `k` or among
them, and in the end everything is undone. -/
def ClosesFrom (k : Nat) (ns : List Node) : Prop :=
  (∀ front ∈ ns.inits, closes front ≤ k + opens front) ∧ closes ns = k + opens ns

instance (k : Nat) (ns : List Node) : Decidable (ClosesFrom k ns) :=
  inferInstanceAs (Decidable ((∀ front ∈ ns.inits, _) ∧ _))

/-- In the content of every element, what narrows the focus and what undoes it nest properly. -/
def Bracketed (root : Node) : Prop := ∀ n ∈ root.subtree, ClosesFrom 0 n.children

instance (root : Node) : Decidable root.Bracketed :=
  inferInstanceAs (Decidable (∀ n ∈ root.subtree, ClosesFrom 0 n.children))

variable {n : Node} {ns : List Node} {k j : Nat}

theorem opens_cons (n : Node) (ns : List Node) : opens (n :: ns) = opens [n] + opens ns := by
  show ([n] ++ ns).countP _ = _
  exact List.countP_append ..

theorem closes_cons (n : Node) (ns : List Node) : closes (n :: ns) = closes [n] + closes ns := by
  show ([n] ++ ns).countP _ = _
  exact List.countP_append ..

theorem opens_singleton (n : Node) : opens [n] = if n.label = "context" then 1 else 0 := by
  simp [opens, List.countP_cons]

theorem closes_singleton (n : Node) : closes [n] = if n.label = "unset_context" then 1 else 0 := by
  simp [closes, List.countP_cons]

namespace ClosesFrom

theorem eq_zero (h : ClosesFrom k []) : k = 0 := h.2.symm

theorem closes_le (h : ClosesFrom k (n :: ns)) : closes [n] ≤ k + opens [n] :=
  h.1 [n] (by simp)

/-- What is behind the first node closes from what is open there. -/
theorem tail (h : ClosesFrom k (n :: ns)) (open_ : j + closes [n] = k + opens [n]) : ClosesFrom j ns := by
  constructor
  · intro front among
    have within := h.1 (n :: front) (by simpa using among)
    rw [opens_cons, closes_cons] at within
    omega
  · have whole := h.2
    rw [opens_cons, closes_cons] at whole
    omega

end ClosesFrom

end Node

/-- In these blocks so many nodes are open: the rest of each block closes those of its own. -/
inductive Frame.StillOpen : Nat → List Frame → Prop where
  | nil : StillOpen 0 []
  | cons {k m : Nat} {f : Frame} {outer : List Frame} (own : Node.ClosesFrom k f.rest)
      (around : StillOpen m outer) : StillOpen (k + m) (f :: outer)

namespace Frame.StillOpen

variable {k : Nat} {f : Frame} {outer : List Frame}

theorem eq_zero (h : StillOpen k []) : k = 0 := by
  cases h
  rfl

theorem exists_of_cons (h : StillOpen k (f :: outer)) :
    ∃ i m, k = i + m ∧ Node.ClosesFrom i f.rest ∧ StillOpen m outer := by
  cases h with
  | cons own around => exact ⟨_, _, rfl, own, around⟩

/-- A block that has all of its content before it has nothing open. -/
theorem enter {root : Node} (h : StillOpen k outer) (bracketed : root.Bracketed) (sound : f.Sound root)
    (whole : f.rest = f.owner.children) : StillOpen k (f :: outer) := by
  have nested := bracketed f.owner sound.owner_mem
  rw [← whole] at nested
  rw [← Nat.zero_add k]
  exact .cons nested h

/-- Nor has one that has none of it before it. -/
theorem leave (h : StillOpen k (f :: outer)) (ends : f.rest = []) : StillOpen k outer := by
  obtain ⟨i, m, rfl, own, around⟩ := h.exists_of_cons
  rw [ends] at own
  rwa [own.eq_zero, Nat.zero_add]

end Frame.StillOpen

/-! ## Deeds that have nothing to do with the focus -/

/-- The deed leaves the focus as it is, and a block that it enters is entered at its beginning. -/
def Deed.IsPlain : Deed → Prop
  | .narrow _ | .widen => False
  | .enter f => f.rest = f.owner.children
  | _ => True

namespace Site

variable {ρ : Type} [PatientSource ρ] {n : Node} {action : Action}

theorem contentDeed_isPlain (found : Option Node) : (contentDeed found).IsPlain := by
  cases found with
  | none => trivial
  | some m => exact rfl

theorem loopDeed_isPlain (found : Option Loop) : (loopDeed n found).IsPlain := by
  cases found with
  | none => trivial
  | some l =>
    rw [loopDeed]
    split
    · trivial
    · exact rfl

theorem assignmentDeed_isPlain (name : String) (v : Option Value) : (assignmentDeed name v).IsPlain := by
  cases v <;> trivial

theorem effectDeed_isPlain (effect : Option Effect) : (effectDeed effect).IsPlain := by
  cases effect <;> trivial

/-- All actions but the two for the focus come to such deeds. -/
theorem deed_isPlain (site : Site) (n : Node) (narrows : action ≠ .context) (widens : action ≠ .unsetContext) :
    (site.deed n action : Draw ρ Deed).Gives Deed.IsPlain := by
  cases action with
  | context => exact absurd rfl narrows
  | unsetContext => exact absurd rfl widens
  | redirect | wait | input | pay => exact Draw.gives_bind fun _ => Draw.gives_pure trivial
  | inclusion => exact Draw.gives_bind fun _ => Draw.gives_pure rfl
  | finish | stop | waitForKeypress | otherwise => exact Draw.gives_pure trivial
  | loop => exact Draw.gives_bind fun found => Draw.gives_pure (loopDeed_isPlain found)
  | random | branch => exact Draw.gives_bind fun _ => Draw.gives_pure (contentDeed_isPlain _)
  | assignment => exact Draw.gives_bind fun x => Draw.gives_pure (assignmentDeed_isPlain x.1 x.2)
  | move | sleep | cursor | add | lose | heal | castSpell | damage | karma | music | ztats =>
    exact Draw.gives_bind fun effect => Draw.gives_pure (effectDeed_isPlain effect)

theorem deed_context (site : Site) (n : Node) :
    (site.deed n .context : Draw ρ Deed).Gives fun deed => ∃ target, deed = .narrow target :=
  Draw.gives_bind fun target => Draw.gives_pure ⟨target, rfl⟩

/-- Where the focus can be widened, this is decided without fail. -/
theorem run_unsetContext {site : Site} {widened : Node × Scope} (widens : site.scope.widen? = .ok widened)
    (n : Node) (r : ρ) : (site.deed n .unsetContext).run.run r = (.ok .widen, r) := by
  rw [deed, widens]
  rfl

end Site

/-! ## Iterations -/

namespace Scene

variable {ρ η : Type}

/-- The other scene has the same focus and the same blocks, and at most one block inside them that stands at its
beginning. -/
def Extends (s t : Scene ρ η) : Prop :=
  t.scope.focus = s.scope.focus ∧
    (t.frames = s.frames ∨ ∃ f, f.rest = f.owner.children ∧ t.frames = f :: s.frames)

theorem Retains.extends {s t : Scene ρ η} (h : s.Retains t) : s.Extends t := by
  obtain ⟨random, game, rfl⟩ := h
  exact ⟨rfl, .inl rfl⟩

theorem focus_enter (s : Scene ρ η) (f : Frame) : (s.enter f).scope.focus = s.scope.focus := by
  unfold enter
  dsimp only
  split <;> rfl

theorem focus_close (s : Scene ρ η) (f : Frame) (outer : List Frame) :
    (s.close f outer).1.scope.focus = s.scope.focus := by
  unfold close
  split
  · rfl
  · next l loop =>
    split
    · rfl
    · cases l.iterator <;> rfl

theorem extends_enact {host : Host η} {s : Scene ρ η} {deed : Deed} (plain : deed.IsPlain)
    (stays : ¬ deed.Leaves host s.game) : s.Extends (s.enact host deed).1 := by
  cases deed with
  | proceed | assign | forget | pause | ask => exact ⟨rfl, .inl rfl⟩
  | enter f => exact ⟨focus_enter s f, .inr ⟨f, plain, rfl⟩⟩
  | jump | finish | halt => exact absurd trivial stays
  | narrow | widen => exact plain.elim
  | perform effect refused =>
    refine ⟨?_, .inl (frames_perform stays).2⟩
    unfold enact
    dsimp only
    split
    · rfl
    · rfl
    · split <;> rfl

theorem enact_widen {host : Host η} {s : Scene ρ η} {n : Node} {scope : Scope}
    (widens : s.scope.widen? = .ok (n, scope)) :
    s.enact host .widen = ({ s with scope := scope }, .quiet) := by
  unfold enact
  dsimp only
  rw [widens]

/-- The focus of the scene is a base with other nodes narrower than that, as many as are open in the blocks. -/
def NestsOn (base : List Node) (s : Scene ρ η) : Prop :=
  ∃ opened, s.scope.focus = opened ++ base ∧ Frame.StillOpen opened.length s.frames

variable [PatientSource ρ]

/-- Nothing in the next iteration can break the nesting: it does not take the pass out of its blocks, and if it is
to narrow the focus it does not fail. -/
structure IsCalm (host : Host η) (root script : Node) (s : Scene ρ η) : Prop where
  stays : ¬ s.Leaves root script host
  narrows : ∀ n, s.node? = some n → n.label = "context" → ∀ fault, (s.tick host root script).2 ≠ .failed fault

variable {host : Host η} {root script n : Node} {base : List Node} {s t : Scene ρ η}

/-- An iteration at a node that is not for the focus. -/
theorem extends_tick (here : s.node? = some n) (narrows : n.label ≠ "context") (widens : n.label ≠ "unset_context")
    (stays : ¬ s.Leaves root script host) : s.past.Extends (s.tick host root script).1 := by
  cases named : Action.ofLabel? n.label with
  | none =>
    rw [tick_of_node? here]
    unfold visit
    cases n with
    | text index origin raw => exact (retains_speak raw).extends
    | element =>
      dsimp only
      unfold act
      rw [named]
      exact ⟨rfl, .inl rfl⟩
  | some action =>
    rcases decides : (Site.deed ⟨root, script, s.scope⟩ n action).run.run s.random with ⟨fault | deed, random⟩
    · rw [tick_of_fault here named decides]
      exact ⟨rfl, .inl rfl⟩
    · have plain : deed.IsPlain := by
        refine Site.deed_isPlain ⟨root, script, s.scope⟩ n ?_ ?_ s.random deed (by rw [decides])
        · rintro rfl
          exact narrows (Action.ofLabel?_eq_context_iff.mp named)
        · rintro rfl
          exact widens (Action.ofLabel?_eq_unsetContext_iff.mp named)
      rw [tick_of_deed here named decides]
      exact extends_enact plain fun leaves => stays (leaves_of_deed here named decides leaves)

namespace NestsOn

omit [PatientSource ρ] in
theorem extend (h : s.NestsOn base) (extends_ : s.Extends t) (bracketed : root.Bracketed) (sound : t.Sound root) :
    t.NestsOn base := by
  obtain ⟨opened, focus, nested⟩ := h
  obtain ⟨same, frames | ⟨f, whole, frames⟩⟩ := extends_
  · exact ⟨opened, same.trans focus, frames ▸ nested⟩
  · have inner := sound.frames_sound f (by rw [frames]; exact List.mem_cons_self)
    exact ⟨opened, same.trans focus, frames ▸ nested.enter bracketed inner whole⟩

omit [PatientSource ρ] in
/-- In front of a node it is known how many nodes are open behind it. -/
theorem exists_opened (h : s.NestsOn base) (here : s.node? = some n) :
    ∃ opened, s.scope.focus = opened ++ base ∧ Node.closes [n] ≤ opened.length + Node.opens [n] ∧
      ∀ k, k + Node.closes [n] = opened.length + Node.opens [n] → Frame.StillOpen k s.past.frames := by
  obtain ⟨opened, focus, nested⟩ := h
  obtain ⟨f, outer, rest, frames, content, past⟩ := exists_frames_of_node? here
  rw [frames] at nested
  obtain ⟨i, m, count, own, around⟩ := nested.exists_of_cons
  rw [content] at own
  have room := own.closes_le
  refine ⟨opened, focus, by omega, fun k behind => ?_⟩
  obtain ⟨j, rfl⟩ : ∃ j, k = j + m := ⟨k - m, by omega⟩
  rw [past]
  exact .cons (own.tail (by omega)) around

/-- Away from nodes, a block is left or begins again, or all of them are behind the pass. -/
theorem tick_of_none (h : s.NestsOn base) (bracketed : root.Bracketed) (after : (s.tick host root script).1.Sound root)
    (here : s.node? = none) : (s.tick host root script).1.NestsOn base := by
  obtain ⟨opened, focus, nested⟩ := h
  cases frames : s.frames with
  | nil =>
    rw [tick_of_nil host root script frames]
    exact ⟨opened, focus, nested⟩
  | cons f outer =>
    cases content : f.rest with
    | cons n rest =>
      rw [node?_of_frames frames content] at here
      cases here
    | nil =>
      rw [tick_of_nil_rest frames content] at after ⊢
      rw [frames] at nested
      have outside := nested.leave content
      refine ⟨opened, (focus_close s f outer).trans focus, ?_⟩
      unfold close at after ⊢
      split at after
      · exact outside
      · split at after
        · exact outside
        · exact outside.enter bracketed (after.frames_sound _ List.mem_cons_self) rfl

/-- At an element that narrows the focus one more node is open, if the element does not fail. -/
theorem tick_of_context (h : s.NestsOn base) (here : s.node? = some n) (narrows : n.label = "context")
    (done : ∀ fault, (s.tick host root script).2 ≠ .failed fault) : (s.tick host root script).1.NestsOn base := by
  obtain ⟨opened, focus, -, behind⟩ := h.exists_opened here
  rw [Node.opens_singleton, Node.closes_singleton, if_pos narrows, if_neg (by rw [narrows]; decide)] at behind
  have named := Action.ofLabel?_eq_context_iff.mpr narrows
  rcases decides : (Site.deed ⟨root, script, s.scope⟩ n .context).run.run s.random with ⟨fault | deed, random⟩
  · have fails : (s.tick host root script).2 = .failed fault := by rw [tick_of_fault here named decides]
    exact absurd fails (done fault)
  · obtain ⟨target, rfl⟩ := Site.deed_context ⟨root, script, s.scope⟩ n s.random deed (by rw [decides])
    rw [tick_of_deed here named decides]
    exact ⟨target :: opened, congrArg (target :: ·) focus, behind _ rfl⟩

/-- At one that widens it again one node less is open.  Such an element does not fail: one that narrowed the focus
stands in front of it. -/
theorem tick_of_unsetContext (h : s.NestsOn base) (outermost : base ≠ []) (here : s.node? = some n)
    (widens : n.label = "unset_context") : (s.tick host root script).1.NestsOn base := by
  obtain ⟨opened, focus, room, behind⟩ := h.exists_opened here
  rw [Node.opens_singleton, Node.closes_singleton, if_pos widens, if_neg (by rw [widens]; decide)] at room behind
  obtain ⟨m, opened, rfl⟩ := List.exists_cons_of_length_pos room
  -- Around the node that goes out of focus there is the base at least.
  obtain ⟨m', outer, around⟩ := List.exists_cons_of_ne_nil (List.append_ne_nil_of_right_ne_nil opened outermost)
  have widened : s.scope.widen? = .ok (m, { s.scope with focus := opened ++ base }) := by
    rw [Scope.widen?, focus, List.cons_append, around]
  have named := Action.ofLabel?_eq_unsetContext_iff.mpr widens
  have decides : (Site.deed ⟨root, script, s.scope⟩ n .unsetContext).run.run s.random = (.ok .widen, s.random) :=
    Site.run_unsetContext widened n s.random
  have ticked : s.tick host root script =
      ({ s.past with scope := { s.scope with focus := opened ++ base } }, .quiet) := by
    rw [tick_of_deed here named decides]
    exact enact_widen widened
  rw [ticked]
  exact ⟨opened, rfl, behind _ rfl⟩

/-- **An iteration keeps the nesting.** -/
theorem tick (h : s.NestsOn base) (outermost : base ≠ []) (bracketed : root.Bracketed) (sound : s.Sound root)
    (placed : script ∈ root.subtree) (calm : s.IsCalm host root script) :
    (s.tick host root script).1.NestsOn base := by
  have after := sound.tick host placed
  cases here : s.node? with
  | none => exact h.tick_of_none bracketed after here
  | some n =>
    by_cases narrows : n.label = "context"
    · exact h.tick_of_context here narrows (calm.narrows n here narrows)
    · by_cases widens : n.label = "unset_context"
      · exact h.tick_of_unsetContext outermost here widens
      · obtain ⟨opened, focus, -, behind⟩ := h.exists_opened here
        rw [Node.opens_singleton, Node.closes_singleton, if_neg narrows, if_neg widens] at behind
        have past : s.past.NestsOn base := ⟨opened, focus, behind _ rfl⟩
        exact past.extend (extends_tick here narrows widens calm.stays) bracketed after

/-- Any number of iterations keep it. -/
theorem after (h : s.NestsOn base) (outermost : base ≠ []) (bracketed : root.Bracketed) (sound : s.Sound root)
    (placed : script ∈ root.subtree) {m : Nat}
    (calm : ∀ j < m, (s.after host root script j).IsCalm host root script) :
    (s.after host root script m).NestsOn base := by
  induction m generalizing s with
  | zero => exact h
  | succ m ih =>
    have first := h.tick outermost bracketed sound placed (calm 0 (Nat.succ_pos m))
    exact ih first (sound.tick host placed) fun j less => calm (j + 1) (Nat.succ_lt_succ less)

end NestsOn

end Scene

/-! ## Passes -/

namespace Script

variable {ρ η : Type} [PatientSource ρ]

/-- Nothing in the next call for output can break the nesting. -/
def IsCalm (host : Host η) (game : η) (s : Script ρ) : Prop :=
  ∀ p frames, s.play = some p → p.pass = .running frames → ∀ m,
    (s.scene frames game).Reaches host p.root p.script s.stepLimit m →
      ((s.scene frames game).after host p.root p.script m).IsCalm host p.root p.script

/-- A call by which a pass goes on: one for output that nothing happens in by which the nesting could break, or an
answer that is accepted.  The game may be another one in each call. -/
inductive PlaysOn : Script ρ → Script ρ → Prop where
  | next {η : Type} {s : Script ρ} {host : Host η} {fuel : Nat} {game : η} {a : Advance ρ η}
      (done : s.next host fuel game = some a) (calm : s.IsCalm host game) : PlaysOn s a.script
  | submit {s s' : Script ρ} {raw : String} (done : s.submit raw = .ok s') : PlaysOn s s'

/-- What holds of a script in a pass that it began in the state `s`. -/
structure RestoresFocus (s s' : Script ρ) : Prop where
  /-- What was in focus when the pass began is still there. -/
  stays : ∃ opened, s'.scope.focus = opened ++ s.scope.focus
  /-- So it is in the middle of a call, as far as nothing in it could break the nesting. -/
  walks : ∀ {η : Type} (host : Host η) (game : η) p frames m, s'.play = some p → p.pass = .running frames →
    (∀ j < m, ((s'.scene frames game).after host p.root p.script j).IsCalm host p.root p.script) →
      ∃ opened, ((s'.scene frames game).after host p.root p.script m).scope.focus = opened ++ s.scope.focus
  /-- At the end of the pass nothing else is in focus. -/
  done : s'.state = .done → s'.scope.focus = s.scope.focus
  /-- Every noun means then what it meant when the pass began. -/
  nouns : s'.state = .done → ∀ noun, s'.scope.noun noun = s.scope.noun noun

/-- The script is in a bracketed document, in a pass that began with a focus. -/
structure NestsOn (base : List Node) (s : Script ρ) : Prop where
  sound : s.Sound
  bracketed : ∃ p, s.play = some p ∧ p.root.Bracketed
  nested : ∃ opened, s.scope.focus = opened ++ base ∧ Frame.StillOpen opened.length s.frames

namespace NestsOn

variable {base : List Node} {s s' : Script ρ} {p : Play} {frames : List Frame}

omit [PatientSource ρ] in
theorem bracketed_of (h : s.NestsOn base) (play : s.play = some p) : p.root.Bracketed := by
  obtain ⟨q, loaded, bracketed⟩ := h.bracketed
  rw [play] at loaded
  cases loaded
  exact bracketed

/-- The iterations of the next call keep the nesting as long as nothing in them breaks it. -/
theorem after (h : s.NestsOn base) (outermost : base ≠ []) (play : s.play = some p) (pass : p.pass = .running frames)
    (host : Host η) (game : η) {m : Nat}
    (calm : ∀ j < m, ((s.scene frames game).after host p.root p.script j).IsCalm host p.root p.script) :
    ((s.scene frames game).after host p.root p.script m).NestsOn base := by
  have nested : (s.scene frames game).NestsOn base := by
    obtain ⟨opened, focus, nested⟩ := h.nested
    rw [frames_of_play play, pass] at nested
    exact ⟨opened, focus, nested⟩
  exact nested.after outermost (h.bracketed_of play) (h.sound.scene play pass game)
    (h.sound.loaded p play).script_mem calm

theorem next (h : s.NestsOn base) (outermost : base ≠ []) {host : Host η} {fuel : Nat} {game : η}
    {a : Advance ρ η} (done : s.next host fuel game = some a) (calm : s.IsCalm host game) : a.script.NestsOn base := by
  have sound := h.sound.next done
  rcases exists_of_next done with ⟨result, -, rfl⟩ | ⟨p, frames, r, play, pass, walked, rfl⟩
  · exact h
  · have bracketed := h.bracketed_of play
    obtain ⟨k, ends, reached, kept⟩ := (Scene.exists_walk_iff.mp ⟨fuel, walked⟩).exists_after
    obtain ⟨opened, focus, nested⟩ := h.after outermost play pass host game fun j less =>
      calm p frames play pass j (reached j less)
    rw [← ends] at focus nested
    exact ⟨sound, ⟨_, rfl, bracketed⟩, opened, focus, frames_afterWalk kept ▸ nested⟩

omit [PatientSource ρ] in
theorem submit (h : s.NestsOn base) {raw : String} (done : s.submit raw = .ok s') : s'.NestsOn base := by
  have sound := h.sound.submit done
  obtain ⟨p, request, frames, v, play, pass, -, rfl⟩ := exists_of_submit done
  have bracketed := h.bracketed_of play
  obtain ⟨opened, focus, nested⟩ := h.nested
  rw [frames_of_play play, pass] at nested
  exact ⟨sound, ⟨_, rfl, bracketed⟩, opened, (answeredScope_focus s request v).trans focus, nested⟩

theorem playsOn (h : s.NestsOn base) (outermost : base ≠ []) (goes : Relation.ReflTransGen PlaysOn s s') :
    s'.NestsOn base := by
  induction goes with
  | refl => exact h
  | tail _ last ih =>
    cases last with
    | next done calm => exact ih.next outermost done calm
    | submit done => exact ih.submit done

omit [PatientSource ρ] in
theorem start (sound : s.Sound) (play : s.play = some p) (bracketed : p.root.Bracketed) {label : String}
    (started : s.start label = .ok s') : s'.NestsOn s.scope.focus := by
  have after := sound.start started
  obtain ⟨q, block, loaded, found, rfl⟩ := exists_of_start started
  rw [play] at loaded
  cases loaded
  have inside : (s.withPass (.running [.block block])).play = some { p with pass := .running [.block block] } := by
    rw [withPass, play]
    rfl
  have within := (after.loaded _ inside).frames_sound (.block block) List.mem_cons_self
  have nested : Frame.StillOpen 0 [.block block] := Frame.StillOpen.nil.enter bracketed within rfl
  refine ⟨after, ⟨_, inside, bracketed⟩, [], rfl, ?_⟩
  rw [frames_of_play inside]
  exact nested

theorem restoresFocus (h : s'.NestsOn s.scope.focus) (outermost : s.scope.focus ≠ []) : s.RestoresFocus s' := by
  have done : s'.state = .done → s'.scope.focus = s.scope.focus := by
    intro ended
    obtain ⟨opened, focus, nested⟩ := h.nested
    rw [(Script.done_at_rest ended).1] at nested
    rw [focus, List.eq_nil_of_length_eq_zero nested.eq_zero, List.nil_append]
  exact
    { stays := h.nested.imp fun opened nested => nested.1
      walks := fun host game p frames m play pass calm =>
        (h.after outermost play pass host game calm).imp fun opened nested => nested.1
      done := done
      nouns := fun ended noun => by rw [Scope.noun, Scope.noun, done ended] }

end NestsOn

/-- **A bracketed document gives the focus back.**  A script begins a pass in such a document, and goes on with it by
calls in which nothing takes the pass out of its blocks and no element fails to narrow the focus. -/
theorem Reachable.brackets_restore_focus {s t t' : Script ρ} (h : s.Reachable) {p : Play} (loaded : s.play = some p)
    (bracketed : p.root.Bracketed) {label : String} (started : s.start label = .ok t)
    (goes : Relation.ReflTransGen PlaysOn t t') : s.RestoresFocus t' := by
  have outermost := (h.sound.loaded p loaded).focused.ne_nil
  have begun := NestsOn.start h.sound loaded bracketed started
  exact (begun.playsOn outermost goes).restoresFocus outermost

end Script

/-! ## A hero in focus -/

namespace Hero

/-- A greeting while the hero is in focus. -/
def block : Node :=
  .element 1 none "a" []
    [.element 2 none "context" [("name", "hero")] [], .text 3 none "Hello", .element 4 none "unset_context" [] []]

/-- The hero. -/
def hero : Node := .element 5 none "hero" [] []

/-- A document with the two. -/
def document : Node := .element 0 none "script" [("id", "s")] [block, hero]

/-- A script in this document. -/
def script (focus : List Node) (pass : Pass) : Script Listed :=
  ⟨⟨.empty, .empty, focus⟩, ⟨[]⟩, 10, some ⟨document, document, pass⟩⟩

/-- The script in front of the block. -/
def begun : Script Listed := script [document] (.running [.block block])

/-- The script behind the greeting. -/
def greeted : Script Listed := script [hero, document] (.running [⟨block, block.children.drop 2, none⟩])

theorem next_begun : begun.next Host.obliging 10 () = some ⟨greeted, (), [], .ok (.text "Hello")⟩ := rfl

theorem next_greeted :
    greeted.next Host.obliging 10 () = some ⟨script [document] .done, (), [], .ok .finished⟩ := rfl

/-- Nothing in the block leads out of it. -/
theorem isCalm {s : Scene Listed Unit} (h : ∀ n, s.node? = some n → n.label ∈ block.children.map Node.label)
    (done : ∀ fault, (s.tick Host.obliging document document).2 ≠ .failed fault) :
    s.IsCalm Host.obliging document document := by
  refine ⟨Scene.not_leaves fun n here action named => ?_, fun _ _ _ => done⟩
  have all : ∀ label ∈ block.children.map Node.label, ∀ action ∈ Action.ofLabel? label,
      action.canLeave = false := by decide
  exact all n.label (h n here) action named

theorem isCalm_begun : begun.IsCalm Host.obliging () := by
  rintro p frames ⟨⟩ ⟨⟩ m ⟨goes, -⟩
  match m with
  | 0 => exact isCalm (by rintro n ⟨⟩; decide) (by rintro fault ⟨⟩)
  | 1 => exact isCalm (by rintro n ⟨⟩; decide) (by rintro fault ⟨⟩)
  | m + 2 => cases (goes 1 (by omega)).1

theorem isCalm_greeted : greeted.IsCalm Host.obliging () := by
  rintro p frames ⟨⟩ ⟨⟩ m ⟨goes, -⟩
  match m with
  | 0 => exact isCalm (by rintro n ⟨⟩; decide) (by rintro fault ⟨⟩)
  | 1 => exact isCalm (by rintro n ⟨⟩) (by rintro fault ⟨⟩)
  | 2 => exact isCalm (by rintro n ⟨⟩) (by rintro fault ⟨⟩)
  | m + 3 => cases (goes 2 (by omega)).1

end Hero

/-- The focus is on the hero between the calls, and not behind them. -/
theorem Script.Reachable.brackets_restore_focus_of_hero :
    ∃ s : Script Listed, s.Reachable ∧ s.start "a" = .ok Hero.begun ∧ Hero.document.Bracketed ∧
      Relation.ReflTransGen Script.PlaysOn Hero.begun (Hero.script [Hero.document] .done) ∧
        s.RestoresFocus (Hero.script [Hero.document] .done) := by
  have fresh : (Script.new (⟨[]⟩ : Listed) 10).Reachable := .new _ _
  have loaded := fresh.load (show (Script.new _ _).load Hero.document "s" none =
    .ok (Hero.script [Hero.document] .idle) from rfl)
  have started : (Hero.script [Hero.document] .idle).start "a" = .ok Hero.begun := rfl
  have bracketed : Hero.document.Bracketed := by decide
  have goes : Relation.ReflTransGen Script.PlaysOn Hero.begun (Hero.script [Hero.document] .done) :=
    (Relation.ReflTransGen.single (.next Hero.next_begun Hero.isCalm_begun)).tail
      (.next Hero.next_greeted Hero.isCalm_greeted)
  exact ⟨_, loaded, started, bracketed, goes, loaded.brackets_restore_focus rfl bracketed started goes⟩

end Colloquy
