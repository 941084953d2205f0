import Colloquy.Proofs.Script.Straight

/-!
# What an iteration leaves behind

An iteration of the walk is either at the end of the blocks, or at the end of a block, or at a node.  Only at
a node can anything fail and only there can anything be asked for, and when that happens the scene is the
one in front of the node but for the block in progress, which is behind the node (`Scene.past`).

### What is load-bearing

An element decides everything before it does anything (`Site.deed`), and what it then does fails or asks
only where nothing else is done (`Scene.retains_of_enact_failed`, `Scene.enact_of_asked`).

## Main definitions

* `Action.asks`, `Deed.IsOf`: the deeds that an action can come to.
* `Scene.node?`: the node that a scene is in front of.
* `Scene.past`: the scene behind that node.
-/

namespace Colloquy

/-- The fault has the code by which the guard reports that it cut a walk off. -/
def Fault.isGuards (fault : Fault) : Bool := fault.code == "SCRIPT_STEP_LIMIT"

/-- The actions that suspend a pass until there is an answer. -/
def Action.asks : Action → Bool
  | .input | .waitForKeypress => true
  | _ => false

/-- The block is behind this node of its content. -/
def Frame.IsBehind (f : Frame) (n : Node) : Prop := ∃ before, f.owner.children = before ++ n :: f.rest

namespace Scene

variable {ρ η : Type}

/-- The node that the next iteration is at, if it is at one. -/
def node? (s : Scene ρ η) : Option Node := s.frames.head?.bind fun f => f.rest.head?

/-- The scene whose block in progress is behind its next node. -/
def past (s : Scene ρ η) : Scene ρ η :=
  { s with
    frames :=
      match s.frames with
      | f :: outer => { f with rest := f.rest.tail } :: outer
      | [] => [] }

variable {s : Scene ρ η} {n : Node}

/-- In front of a node there is a block in progress that has the node next. -/
theorem exists_frames_of_node? (h : s.node? = some n) :
    ∃ f outer rest, s.frames = f :: outer ∧ f.rest = n :: rest ∧
      s.past = { s with frames := { f with rest := rest } :: outer } := by
  unfold node? at h
  obtain ⟨f, first, next⟩ := Option.bind_eq_some_iff.mp h
  obtain ⟨outer, frames⟩ := List.head?_eq_some_iff.mp first
  obtain ⟨rest, content⟩ := List.head?_eq_some_iff.mp next
  refine ⟨f, outer, rest, frames, content, ?_⟩
  unfold past
  rw [frames]
  dsimp only
  rw [content, List.tail_cons]

theorem node?_of_frames {f : Frame} {outer : List Frame} {rest : List Node} (frames : s.frames = f :: outer)
    (content : f.rest = n :: rest) : s.node? = some n := by
  unfold node?
  rw [frames]
  dsimp only [List.head?_cons, Option.bind_some]
  rw [content, List.head?_cons]

/-- In a sound scene the block in progress comes to stand behind the node. -/
theorem Sound.exists_isBehind {root : Node} (h : s.Sound root) (here : s.node? = some n) :
    ∃ f outer, s.past.frames = f :: outer ∧ f.IsBehind n := by
  obtain ⟨f, outer, rest, frames, content, past⟩ := exists_frames_of_node? here
  have sound := h.frames_sound f (by rw [frames]; exact List.mem_cons_self)
  obtain ⟨before, whole⟩ := sound.rest_suffix
  refine ⟨{ f with rest := rest }, outer, ?_, before, ?_⟩
  · rw [past]
  · rw [← whole, content]

/-- What happens at a node once the block is behind it. -/
def visit [PatientSource ρ] (host : Host η) (root script : Node) (s : Scene ρ η) (n : Node) :
    Scene ρ η × Step :=
  match n with
  | .text _ _ raw => s.speak raw
  | .element _ _ _ _ _ => s.act host root script n

/-! ## What does not go on -/

/-- Leaving a block shows nothing. -/
theorem isSilent_close (s : Scene ρ η) (f : Frame) (outer : List Frame) :
    (s.close f outer).2.isSilent = true := by
  unfold close
  split
  · rfl
  · split
    · rfl
    · rfl

/-- The scene differs from the other one in the random source and the game at most. -/
def Retains (s t : Scene ρ η) : Prop := ∃ random game, t = { s with random := random, game := game }

/-- A deed that fails changes the game at most. -/
theorem retains_of_enact_failed {host : Host η} {deed : Deed} {fault : Fault}
    (fails : (s.enact host deed).2 = .failed fault) : s.Retains (s.enact host deed).1 := by
  cases deed with
  | proceed | enter | jump | assign | forget | narrow | finish | halt | pause | ask => cases fails
  | widen =>
    unfold enact at fails ⊢
    dsimp only at fails ⊢
    split at fails
    · cases fails
    · exact ⟨_, _, rfl⟩
  | perform effect refused =>
    unfold enact at fails ⊢
    dsimp only at fails ⊢
    split at fails
    · exact ⟨_, _, rfl⟩
    · cases fails
    · split at fails
      · exact ⟨_, _, rfl⟩
      · cases fails
      · cases fails

/-- Only asking asks, and it does nothing else. -/
theorem enact_of_asked {host : Host η} {deed : Deed} {request : Input.Request}
    (asks : (s.enact host deed).2 = .shown (.input request)) :
    deed = .ask request ∧ (s.enact host deed).1 = s := by
  cases deed with
  | ask request' =>
    cases asks
    exact ⟨rfl, rfl⟩
  | proceed | enter | jump | assign | forget | narrow | finish | halt | pause => cases asks
  | widen =>
    unfold enact at asks
    dsimp only at asks
    split at asks
    · cases asks
    · cases asks
  | perform effect refused =>
    unfold enact at asks
    dsimp only at asks
    split at asks
    · cases asks
    · cases asks
    · split at asks
      · cases asks
      · cases asks
      · cases asks

end Scene

/-! ## What the deeds of an action are -/

/-- The deed can be one of this action: it asks only if the action does, and where there is nowhere to go on
after a refusal, the fault is not the guard's. -/
def Deed.IsOf (action : Action) : Deed → Prop
  | .ask _ => action.asks = true
  | .perform _ (.error fault) => fault.isGuards = false
  | _ => True

namespace Site

variable {ρ : Type} [PatientSource ρ] {n : Node} {action : Action}

theorem contentDeed_isOf (found : Option Node) : (contentDeed found).IsOf action := by
  cases found <;> trivial

theorem loopDeed_isOf (found : Option Loop) : (loopDeed n found).IsOf action := by
  cases found with
  | none => trivial
  | some l =>
    rw [loopDeed]
    split
    · trivial
    · trivial

theorem assignmentDeed_isOf (name : String) (v : Option Value) :
    (assignmentDeed name v).IsOf action := by
  cases v <;> trivial

theorem effectDeed_isOf (effect : Option Effect) : (effectDeed effect).IsOf action := by
  cases effect <;> trivial

theorem paymentDeed_isOf (site : Site) (effect : Effect) (block : Option String) :
    (Deed.perform effect (site.refusal block)).IsOf action := by
  cases block with
  | none => trivial
  | some label =>
    unfold refusal
    dsimp only
    split
    · trivial
    · exact rfl

/-- **What an action comes to is a deed of it.** -/
theorem deed_isOf (site : Site) (n : Node) (action : Action) :
    (site.deed n action : Draw ρ Deed).Gives (Deed.IsOf action) := by
  cases action with
  | input => exact Draw.gives_bind fun _ => Draw.gives_pure rfl
  | waitForKeypress => exact Draw.gives_pure rfl
  | context | unsetContext | redirect | wait | inclusion =>
    exact Draw.gives_bind fun _ => Draw.gives_pure trivial
  | finish | stop | otherwise => exact Draw.gives_pure trivial
  | pay => exact Draw.gives_bind fun x => Draw.gives_pure (paymentDeed_isOf site x.1 x.2)
  | loop => exact Draw.gives_bind fun found => Draw.gives_pure (loopDeed_isOf found)
  | random | branch => exact Draw.gives_bind fun _ => Draw.gives_pure (contentDeed_isOf _)
  | assignment => exact Draw.gives_bind fun x => Draw.gives_pure (assignmentDeed_isOf x.1 x.2)
  | move | sleep | cursor | add | lose | heal | castSpell | damage | karma | music | ztats =>
    exact Draw.gives_bind fun effect => Draw.gives_pure (effectDeed_isOf effect)

end Site

/-! ## Iterations that fail or ask -/

namespace Scene

variable {ρ η : Type} [PatientSource ρ] {host : Host η} {root script : Node} {s : Scene ρ η}

/-- At a node the iteration is the visit of the node by the scene behind it. -/
theorem tick_of_node? {n : Node} (h : s.node? = some n) :
    s.tick host root script = s.past.visit host root script n := by
  obtain ⟨⟨owner, _, loop⟩, outer, rest, frames, content, past⟩ := exists_frames_of_node? h
  obtain ⟨scope, random, _, game, notices⟩ := s
  cases frames
  cases content
  rw [past]
  cases n <;> rfl

/-- At the end of a block, the block is left or begins its next pass. -/
theorem tick_of_nil_rest {f : Frame} {outer : List Frame} (frames : s.frames = f :: outer) (ends : f.rest = []) :
    s.tick host root script = s.close f outer := by
  unfold tick
  rw [frames]
  dsimp only
  rw [ends]

/-- At an action the iteration does what the action comes to. -/
theorem tick_of_deed {n : Node} {action : Action} {deed : Deed} {random : ρ} (here : s.node? = some n)
    (named : Action.ofLabel? n.label = some action)
    (decides : (Site.deed ⟨root, script, s.scope⟩ n action).run.run s.random = (.ok deed, random)) :
    s.tick host root script = ({ s.past with random := random } : Scene ρ η).enact host deed := by
  rw [tick_of_node? here]
  cases n with
  | text => cases named
  | element =>
    unfold visit act
    dsimp only
    rw [named]
    dsimp only
    change (Site.deed ⟨root, script, s.past.scope⟩ _ action).run.run s.past.random = _ at decides
    rw [decides]

/-- An action that cannot be decided fails, with nothing spent but the numbers drawn. -/
theorem tick_of_fault {n : Node} {action : Action} {fault : Fault} {random : ρ} (here : s.node? = some n)
    (named : Action.ofLabel? n.label = some action)
    (fails : (Site.deed ⟨root, script, s.scope⟩ n action).run.run s.random = (.error fault, random)) :
    s.tick host root script = ({ s.past with random := random }, .failed fault) := by
  rw [tick_of_node? here]
  cases n with
  | text => cases named
  | element =>
    unfold visit act
    dsimp only
    rw [named]
    dsimp only
    change (Site.deed ⟨root, script, s.past.scope⟩ _ action).run.run s.past.random = _ at fails
    rw [fails]

/-- Away from nodes the walk comes to its end or goes on in silence. -/
theorem tick_of_node?_eq_none (host : Host η) (root script : Node) (h : s.node? = none) :
    s.tick host root script = (s, .shown .finished) ∨ (s.tick host root script).2.isSilent = true := by
  cases frames : s.frames with
  | nil => exact .inl (tick_of_nil host root script frames)
  | cons f outer =>
    unfold tick
    rw [frames]
    dsimp only
    cases content : f.rest with
    | nil => exact .inr (isSilent_close s f outer)
    | cons n rest =>
      rw [node?_of_frames frames content] at h
      cases h

/-- Speaking draws at most, whatever it comes to. -/
theorem retains_speak (raw : String) : s.Retains (s.speak raw).1 := by
  unfold speak
  dsimp only
  split
  · exact ⟨_, _, rfl⟩
  · split
    · exact ⟨_, _, rfl⟩
    · exact ⟨_, _, rfl⟩

theorem retains_of_act_failed {n : Node} {fault : Fault} (fails : (s.act host root script n).2 = .failed fault) :
    s.Retains (s.act host root script n).1 := by
  unfold act at fails ⊢
  cases named : Action.ofLabel? n.label with
  | none =>
    rw [named] at fails
    cases fails
  | some action =>
    rw [named] at fails
    dsimp only at fails ⊢
    generalize (Site.deed ⟨root, script, s.scope⟩ n action).run.run s.random = drawn at fails ⊢
    obtain ⟨fault' | deed, random⟩ := drawn
    · exact ⟨_, _, rfl⟩
    · obtain ⟨_, game, same⟩ := retains_of_enact_failed fails
      exact ⟨_, game, same⟩

/-- **A failing iteration is at a node**, and leaves the scene behind that node with nothing else done to it. -/
theorem exists_node_of_failed {fault : Fault} (fails : (s.tick host root script).2 = .failed fault) :
    ∃ n, s.node? = some n ∧ s.past.Retains (s.tick host root script).1 := by
  cases here : s.node? with
  | none =>
    rcases tick_of_node?_eq_none host root script here with ended | silent
    · rw [ended] at fails
      cases fails
    · rw [fails] at silent
      cases silent
  | some n =>
    refine ⟨n, rfl, ?_⟩
    rw [tick_of_node? here] at fails ⊢
    unfold visit at fails ⊢
    cases n with
    | text index origin raw => exact retains_speak raw
    | element => exact retains_of_act_failed fails

theorem speak_ne_asked (raw : String) (request : Input.Request) :
    (s.speak raw).2 ≠ .shown (.input request) := by
  unfold speak
  dsimp only
  split
  · exact nofun
  · split
    · exact nofun
    · exact nofun

theorem act_of_asked {n : Node} {request : Input.Request}
    (asks : (s.act host root script n).2 = .shown (.input request)) :
    (∃ action, Action.ofLabel? n.label = some action ∧ action.asks = true) ∧
      ∃ random, (s.act host root script n).1 = { s with random := random } := by
  unfold act at asks ⊢
  cases named : Action.ofLabel? n.label with
  | none =>
    rw [named] at asks
    cases asks
  | some action =>
    rw [named] at asks
    dsimp only at asks ⊢
    have isOf := Site.deed_isOf ⟨root, script, s.scope⟩ n action s.random
    generalize (Site.deed ⟨root, script, s.scope⟩ n action).run.run s.random = drawn at asks isOf ⊢
    obtain ⟨fault | deed, random⟩ := drawn
    · cases asks
    · obtain ⟨rfl, kept⟩ := enact_of_asked asks
      exact ⟨⟨action, rfl, isOf _ rfl⟩, random, kept⟩

/-- **An iteration that asks is at an element that does**, and leaves the scene behind that element. -/
theorem exists_node_of_asked {request : Input.Request}
    (asks : (s.tick host root script).2 = .shown (.input request)) :
    ∃ n action, s.node? = some n ∧ Action.ofLabel? n.label = some action ∧ action.asks = true ∧
      ∃ random, (s.tick host root script).1 = { s.past with random := random } := by
  cases here : s.node? with
  | none =>
    rcases tick_of_node?_eq_none host root script here with ended | silent
    · rw [ended] at asks
      cases asks
    · rw [asks] at silent
      cases silent
  | some n =>
    rw [tick_of_node? here] at asks ⊢
    unfold visit at asks ⊢
    cases n with
    | text index origin raw => exact absurd asks (speak_ne_asked raw request)
    | element =>
      obtain ⟨⟨action, named, does⟩, kept⟩ := act_of_asked asks
      exact ⟨_, action, rfl, named, does, kept⟩

end Scene

end Colloquy
