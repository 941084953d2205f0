import Colloquy.Proofs.Document
import Colloquy.Script.Action

/-!
# What a deed can be

Everything that an action comes to stays inside the document: the blocks that it enters and the nodes
that it jumps to or brings into focus are nodes of the loaded tree, a block is entered at its first
child, and a loop is entered only if it has a pass.

A deed is what a computation gives that may draw and may fail.  `Draw.Gives` says that whatever the
computation gives has a property, and has one law for each way to build such a computation, so the
theorem about all deeds (`Site.deed_gives`) is put together from one fact for each decision of an element.

## Main definitions

* `Draw.Gives`: partial correctness of a computation.
* `Loop.IsLive`, `Frame.Sound`: blocks in progress that belong to a document.
* `Deed.Within`: deeds that stay inside a document.
-/

namespace Colloquy

/-! ## Computations that draw -/

namespace Draw

variable {ρ α β : Type}

theorem run_bind (d : Draw ρ α) (f : α → Draw ρ β) (r : ρ) :
    (d >>= f).run.run r =
      match d.run.run r with
      | (.ok a, r) => (f a).run.run r
      | (.error fault, r) => (.error fault, r) := by
  rw [ExceptT.run_bind, StateT.run_bind]
  show (match d.run.run r with | (a, r) => _) = _
  rcases d.run.run r with ⟨_ | _, _⟩ <;> rfl

/-- Whatever the computation gives has the property; it may also fail. -/
def Gives (d : Draw ρ α) (P : α → Prop) : Prop := ∀ r a, (d.run.run r).1 = .ok a → P a

variable {P Q : α → Prop} {R : β → Prop} {d : Draw ρ α} {f : α → Draw ρ β}

theorem gives_pure {a : α} (h : P a) : (pure a : Draw ρ α).Gives P := by
  intro r b same
  cases same
  exact h

theorem gives_throw (fault : Fault) : (throw fault : Draw ρ α).Gives P := by
  intro r a same
  cases same

theorem gives_lift {e : Except Fault α} (h : ∀ a, e = .ok a → P a) :
    (liftM e : Draw ρ α).Gives P := by
  intro r a same
  exact h a same

theorem gives_any (d : Draw ρ α) : d.Gives fun _ => True := fun _ _ _ => trivial

theorem Gives.bind (first : d.Gives P) (next : ∀ a, P a → (f a).Gives R) : (d >>= f).Gives R := by
  intro r b same
  rw [run_bind] at same
  rcases given : d.run.run r with ⟨_ | a, r'⟩
  · rw [given] at same
    cases same
  · rw [given] at same
    refine next a (first r a ?_) r' b same
    rw [given]

/-- What comes first does not matter for what is given in the end. -/
theorem gives_bind (next : ∀ a, (f a).Gives R) : (d >>= f).Gives R :=
  (gives_any d).bind fun a _ => next a

theorem Gives.mono (h : d.Gives P) (imp : ∀ a, P a → Q a) : d.Gives Q :=
  fun r a same => imp a (h r a same)

end Draw

/-! ## Blocks of a document -/

/-- The loop counts, and its pass in progress is not past the last one. -/
structure Loop.IsLive (l : Loop) : Prop where
  step_ne_zero : l.step ≠ 0
  current_le : 0 < l.step.toInt → l.current.toInt ≤ l.last.toInt
  le_current : l.step.toInt < 0 → l.last.toInt ≤ l.current.toInt

theorem Loop.isLive_of_not_isPast {l : Loop} (counts : l.step ≠ 0) (h : l.isPast = false) :
    l.IsLive := by
  rw [isPast, Bool.or_eq_false_iff, Bool.and_eq_false_iff, Bool.and_eq_false_iff] at h
  simp only [decide_eq_false_iff_not, Int.not_lt] at h
  refine ⟨counts, fun up => ?_, fun down => ?_⟩
  · rcases h.1 with no | le
    · omega
    · exact le
  · rcases h.2 with no | le
    · omega
    · exact le

/-- A loop that begins its next pass has that pass before it. -/
theorem Loop.IsLive.next {l : Loop} {number : Int64} (live : l.IsLive) (h : l.next? = some number) :
    ({ l with current := number } : Loop).IsLive := by
  rw [next?, Option.filter_eq_some_iff] at h
  obtain ⟨-, within⟩ := h
  refine ⟨live.step_ne_zero, fun up => ?_, fun down => ?_⟩
  · change 0 < l.step.toInt at up
    rw [if_pos up] at within
    exact of_decide_eq_true within
  · change l.step.toInt < 0 at down
    rw [if_neg (by omega)] at within
    exact of_decide_eq_true within

/-- The block is one of the document, and what is still to come of it is the end of its content. -/
structure Frame.Sound (root : Node) (f : Frame) : Prop where
  owner_mem : f.owner ∈ root.subtree
  rest_suffix : f.rest <:+ f.owner.children
  loop_live : ∀ l, f.loop = some l → l.IsLive

theorem Frame.sound_block {root n : Node} (h : n ∈ root.subtree) : (Frame.block n).Sound root := by
  refine ⟨h, List.suffix_refl _, ?_⟩
  intro l no
  cases no

/-- What a deed refers to belongs to the document with this root; a node that comes into focus is below
the one in focus before. -/
def Deed.Within (root : Node) (focus : List Node) : Deed → Prop
  | .enter f => f.Sound root
  | .jump target => target ∈ root.subtree
  | .narrow target => ∃ n outer, focus = n :: outer ∧ target ∈ n.descendants
  | .perform _ refused => ∀ target, refused = .ok (some target) → target ∈ root.subtree
  | _ => True

/-! ## What an element settles -/

namespace Scope

theorem mem_descendants_of_narrower? {s : Scope} {label : String} {id : Option String} {target : Node}
    (h : s.narrower? label id = .ok target) :
    ∃ n outer, s.focus = n :: outer ∧ target ∈ n.descendants := by
  unfold narrower? at h
  split at h
  · cases h
  · next n outer focus =>
    refine ⟨n, outer, focus, ?_⟩
    split at h
    · next found =>
      cases h
      exact Node.mem_descendants_of_findBelow? found
    · cases h

end Scope

namespace Site

variable {ρ : Type} [PatientSource ρ] {site : Site} {n : Node}

/-- The site is one of a document: its script's element is in the tree. -/
structure Placed (site : Site) : Prop where
  script_mem : site.script ∈ site.root.subtree

theorem Placed.mem_of_locate? (placed : site.Placed) {label : String} {id : Option String}
    {target : Node} (h : site.locate? label id = some target) : target ∈ site.root.subtree := by
  unfold locate? at h
  split at h
  · next found =>
    cases h
    exact Node.mem_subtree_of_findBelow? placed.script_mem found
  · exact Node.mem_subtree_of_findBelow? site.root.mem_subtree_self h

theorem narrowing_gives :
    (site.narrowing n : Draw ρ Node).Gives fun target =>
      ∃ m outer, site.scope.focus = m :: outer ∧ target ∈ m.descendants := by
  unfold narrowing
  refine Draw.gives_bind fun label => Draw.gives_bind fun id => Draw.gives_lift fun target found => ?_
  exact Scope.mem_descendants_of_narrower? found

theorem Placed.destination_gives (placed : site.Placed) :
    (site.destination n : Draw ρ Node).Gives fun target => target ∈ site.root.subtree := by
  unfold destination
  refine Draw.gives_bind fun label => Draw.gives_bind fun id => Draw.gives_bind fun fallback => ?_
  dsimp only
  split
  · next target found =>
    refine Draw.gives_pure ?_
    split at found
    · next here =>
      cases found
      exact placed.mem_of_locate? here
    · exact placed.mem_of_locate? found
    · cases found
  · exact Draw.gives_throw _

theorem loop?_gives :
    (site.loop? n : Draw ρ (Option Loop)).Gives fun found => ∀ l, found = some l → l.step ≠ 0 := by
  unfold loop?
  refine Draw.gives_bind fun iterator => Draw.gives_bind fun start => Draw.gives_bind fun step => ?_
  split
  · -- A step of zero fails here, so what follows is about other steps only.
    have never : (throw (.zeroStep n.describe) : Draw ρ PUnit).Gives fun _ => False := Draw.gives_throw _
    exact never.bind fun _ no => no.elim
  · next counts =>
    refine Draw.gives_bind fun last? => ?_
    split
    · refine Draw.gives_pure ?_
      rintro l ⟨⟩
    · refine Draw.gives_pure ?_
      rintro l ⟨⟩
      exact counts

theorem weights_gives (ns : List Node) :
    (site.weights ns : Draw ρ (List (Node × Int64))).Gives fun weighted => ∀ w ∈ weighted, w.1 ∈ ns := by
  induction ns with
  | nil =>
    refine Draw.gives_pure ?_
    rintro w ⟨⟩
  | cons n ns ih =>
    refine Draw.gives_bind fun weight => ih.bind fun others within => ?_
    refine Draw.gives_pure fun w among => ?_
    rcases List.mem_cons.mp among with rfl | among
    · exact List.mem_cons_self
    · exact List.mem_cons_of_mem n (within w among)

theorem mem_of_choose? {draw : Int} {weighted : List (Node × Int64)} {m : Node}
    (h : choose? draw weighted = some m) : ∃ w ∈ weighted, w.1 = m := by
  induction weighted generalizing draw with
  | nil => cases h
  | cons w others ih =>
    unfold choose? at h
    split at h
    · cases h
      exact ⟨w, List.mem_cons_self, rfl⟩
    · obtain ⟨v, among, same⟩ := ih h
      exact ⟨v, List.mem_cons_of_mem w among, same⟩

theorem selected?_gives :
    (site.selected? n : Draw ρ (Option Node)).Gives fun found => ∀ m, found = some m → m ∈ n.subtree := by
  unfold selected?
  refine Draw.gives_bind fun chance? => ?_
  split
  · refine Draw.gives_bind fun draw => ?_
    split
    · refine Draw.gives_pure ?_
      rintro m ⟨⟩
      exact n.mem_subtree_self
    · refine Draw.gives_pure ?_
      rintro m ⟨⟩
  · refine Draw.Gives.bind (weights_gives n.childElements) fun weighted within => ?_
    split
    · exact Draw.gives_throw _
    · split
      · exact Draw.gives_throw _
      split
      · refine Draw.gives_pure ?_
        rintro m ⟨⟩
      · refine Draw.gives_bind fun draw => Draw.gives_pure fun m chosen => ?_
        obtain ⟨w, among, rfl⟩ := mem_of_choose? chosen
        have child : w.1 ∈ n.children := (List.mem_filter.mp (within w among)).1
        exact Node.mem_subtree_of_mem_descendants (Node.mem_descendants_of_mem_children child)

theorem included_gives :
    (site.included n : Draw ρ Node).Gives fun target => target ∈ site.root.subtree := by
  unfold included
  refine Draw.gives_bind fun id => Draw.gives_bind fun block => ?_
  dsimp only
  split
  · next target found =>
    refine Draw.gives_pure ?_
    cases here : site.root.findBelow? (.byId "script" (some id)) with
    | none =>
      rw [here] at found
      cases found
    | some script =>
      have within := Node.mem_subtree_of_findBelow? site.root.mem_subtree_self here
      rw [here] at found
      cases block with
      | none =>
        cases found
        exact within
      | some label => exact Node.mem_subtree_of_findBelow? within found
  · exact Draw.gives_throw _

theorem Placed.mem_of_refusal (placed : site.Placed) {block : Option String} {target : Node}
    (h : site.refusal block = .ok (some target)) : target ∈ site.root.subtree := by
  cases block with
  | none => cases h
  | some label =>
    simp only [refusal] at h
    split at h
    · next found =>
      cases h
      exact placed.mem_of_locate? found
    · cases h

/-! ## Deeds -/

variable {focus : List Node}

theorem contentDeed_within {root : Node} {found : Option Node}
    (h : ∀ m, found = some m → m ∈ root.subtree) : (contentDeed found).Within root focus := by
  cases found with
  | none => trivial
  | some m => exact Frame.sound_block (h m rfl)

theorem loopDeed_within {root : Node} {found : Option Loop} (within : n ∈ root.subtree)
    (h : ∀ l, found = some l → l.step ≠ 0) : (loopDeed n found).Within root focus := by
  cases found with
  | none => trivial
  | some l =>
    rw [loopDeed]
    cases past : l.isPast with
    | true => trivial
    | false =>
      refine ⟨within, List.suffix_refl _, ?_⟩
      rintro l' ⟨⟩
      exact Loop.isLive_of_not_isPast (h l rfl) past

theorem assignmentDeed_within {root : Node} (name : String) (v : Option Value) :
    (assignmentDeed name v).Within root focus := by
  cases v <;> trivial

theorem effectDeed_within {root : Node} (effect : Option Effect) :
    (effectDeed effect).Within root focus := by
  cases effect with
  | none => trivial
  | some effect =>
    intro target no
    cases no

/-- **A deed stays inside the document** of the element that it is the deed of. -/
theorem Placed.deed_gives (placed : site.Placed) (within : n ∈ site.root.subtree) (action : Action) :
    (site.deed n action : Draw ρ Deed).Gives (Deed.Within site.root site.scope.focus) := by
  cases action with
  | context => exact narrowing_gives.bind fun target below => Draw.gives_pure below
  | unsetContext => exact Draw.gives_bind fun _ => Draw.gives_pure trivial
  | finish => exact Draw.gives_pure trivial
  | stop => exact Draw.gives_pure trivial
  | redirect => exact placed.destination_gives.bind fun target found => Draw.gives_pure found
  | waitForKeypress => exact Draw.gives_pure trivial
  | wait => exact Draw.gives_bind fun _ => Draw.gives_pure trivial
  | loop => exact loop?_gives.bind fun _ counts => Draw.gives_pure (loopDeed_within within counts)
  | random =>
    refine selected?_gives.bind fun _ below => Draw.gives_pure (contentDeed_within fun m found => ?_)
    exact Node.mem_subtree_trans (below m found) site.root within
  | pay =>
    refine Draw.gives_bind fun (effect, block) => Draw.gives_pure fun target refused => ?_
    exact placed.mem_of_refusal refused
  | branch =>
    refine Draw.gives_bind fun x => Draw.gives_pure (contentDeed_within fun m found => ?_)
    split at found
    · cases found
      exact within
    · have child := Node.mem_children_of_findChild? found
      have below := Node.mem_subtree_of_mem_descendants (Node.mem_descendants_of_mem_children child)
      exact Node.mem_subtree_trans below site.root within
  | otherwise => exact Draw.gives_pure trivial
  | input => exact Draw.gives_bind fun _ => Draw.gives_pure trivial
  | assignment =>
    exact Draw.gives_bind fun (name, v) => Draw.gives_pure (assignmentDeed_within name v)
  | inclusion =>
    exact included_gives.bind fun target found => Draw.gives_pure (Frame.sound_block found)
  | move | sleep | cursor | add | lose | heal | castSpell | damage | karma | music | ztats =>
    exact Draw.gives_bind fun effect => Draw.gives_pure (effectDeed_within effect)

end Site

end Colloquy
