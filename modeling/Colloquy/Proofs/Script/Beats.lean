import Colloquy.Proofs.Script.Ending
import Colloquy.Proofs.Script.Iteration
import Colloquy.Proofs.Script.Outcome
import Mathlib.Logic.Relation

/-!
# From one iteration to the next

A pass goes on over many calls, and between them the caller may answer, set variables, change the focus or do
with the game what it likes.  To the blocks in progress none of that matters.  So a pass is a sequence of
beats: each one is an iteration of a walk, with any game around it, or a change of everything in the scene but
the blocks.  Calls for output and calls in between are beats (`Script.exists_beats`).

### What is load-bearing

An iteration at a node leaves the blocks in progress where they are, with at most one more inside them
(`Scene.frames_tick`), unless it takes the pass out of all of them (`Scene.Leaves`).  Only four kinds of
elements can do that: a redirect, a payment with a block for its refusal, an end and a stop.

## Main definitions

* `Beat`, `Scene.through`: sequences of iterations and changes.
* `Scene.Leaves`: iterations that take the pass out of all blocks.
* `Scene.Reaches`: the iterations of a walk.
* `Script.GoesOn`: calls that neither load a document nor begin a pass.
-/

namespace Colloquy

/-- What can happen to a scene while a pass is in progress. -/
inductive Beat (ρ η : Type) where
  /-- An iteration of a walk, in a game that answers like this. -/
  | tick (host : Host η)
  /-- Whatever is done to a script from outside that leaves it in its blocks. -/
  | change (scope : Scope) (random : ρ) (game : η) (notices : List String)

/-- The deed takes the pass out of all blocks, given how the game answers. -/
def Deed.Leaves {η : Type} (host : Host η) (game : η) : Deed → Prop
  | .jump _ | .finish | .halt => True
  | .perform effect refused => (host effect game).1 = .ok .refused ∧ ∃ target, refused = .ok (some target)
  | _ => False

/-- The actions that can take the pass out of all blocks. -/
def Action.canLeave : Action → Bool
  | .redirect | .pay | .finish | .stop => true
  | _ => false

namespace Site

variable {ρ η : Type} [PatientSource ρ] {host : Host η} {game : η} {n : Node} {action : Action}

theorem contentDeed_stays (found : Option Node) : ¬ (contentDeed found).Leaves host game := by
  cases found <;> exact id

theorem loopDeed_stays (found : Option Loop) : ¬ (loopDeed n found).Leaves host game := by
  cases found with
  | none => exact id
  | some l =>
    rw [loopDeed]
    split
    · exact id
    · exact id

theorem assignmentDeed_stays (name : String) (v : Option Value) :
    ¬ (assignmentDeed name v).Leaves host game := by
  cases v <;> exact id

theorem effectDeed_stays (effect : Option Effect) : ¬ (effectDeed effect).Leaves host game := by
  cases effect with
  | none => exact id
  | some effect =>
    rintro ⟨-, target, no⟩
    cases no

/-- The other actions leave the pass in its blocks, however the game answers. -/
theorem deed_stays (site : Site) (n : Node) (stays : action.canLeave = false) (host : Host η) (game : η) :
    (site.deed n action : Draw ρ Deed).Gives fun deed => ¬ deed.Leaves host game := by
  cases action with
  | redirect | pay | finish | stop => cases stays
  | context | unsetContext | wait | inclusion | input =>
    exact Draw.gives_bind fun _ => Draw.gives_pure id
  | waitForKeypress | otherwise => exact Draw.gives_pure id
  | loop => exact Draw.gives_bind fun found => Draw.gives_pure (loopDeed_stays found)
  | random | branch => exact Draw.gives_bind fun _ => Draw.gives_pure (contentDeed_stays _)
  | assignment => exact Draw.gives_bind fun x => Draw.gives_pure (assignmentDeed_stays x.1 x.2)
  | move | sleep | cursor | add | lose | heal | castSpell | damage | karma | music | ztats =>
    exact Draw.gives_bind fun effect => Draw.gives_pure (effectDeed_stays effect)

/-- A redirect comes to a jump if it finds its target. -/
theorem exists_of_redirect {site : Site} {r random : ρ} {deed : Deed}
    (given : (site.deed n .redirect).run.run r = (.ok deed, random)) :
    ∃ target, deed = .jump target ∧ (site.destination n).run.run r = (.ok target, random) := by
  rw [Site.deed, Draw.run_bind] at given
  rcases found : (site.destination n).run.run r with ⟨fault | target, random'⟩
  · rw [found] at given
    cases given
  · rw [found] at given
    cases given
    exact ⟨target, rfl, rfl⟩

/-- A payment comes to asking the game for it. -/
theorem exists_of_pay {site : Site} {r random : ρ} {deed : Deed}
    (given : (site.deed n .pay).run.run r = (.ok deed, random)) :
    ∃ effect block, deed = .perform effect (site.refusal block) ∧
      (site.payment n).run.run r = (.ok (effect, block), random) := by
  rw [Site.deed, Draw.run_bind] at given
  rcases settled : (site.payment n).run.run r with ⟨fault | ⟨effect, block⟩, random'⟩
  · rw [settled] at given
    cases given
  · rw [settled] at given
    cases given
    exact ⟨effect, block, rfl, rfl⟩

end Site

namespace Scene

variable {ρ η : Type} [PatientSource ρ]

section

variable (root script : Node)

/-- The next iteration takes the pass out of all blocks it is in: it is at a redirect that finds its target,
at a payment that the game refuses and that names a block for that, at an end or at a stop. -/
inductive Leaves (host : Host η) (s : Scene ρ η) : Prop where
  | redirect {n target : Node} {random : ρ} (here : s.node? = some n)
      (named : Action.ofLabel? n.label = some .redirect)
      (found : (Site.destination ⟨root, script, s.scope⟩ n).run.run s.random = (.ok target, random))
  | refused {n target : Node} {random : ρ} {effect : Effect} {block : String} (here : s.node? = some n)
      (named : Action.ofLabel? n.label = some .pay)
      (settled : (Site.payment ⟨root, script, s.scope⟩ n).run.run s.random = (.ok (effect, some block), random))
      (found : Site.refusal ⟨root, script, s.scope⟩ (some block) = .ok (some target))
      (answer : (host effect s.game).1 = .ok .refused)
  | finish {n : Node} (here : s.node? = some n) (named : Action.ofLabel? n.label = some .finish)
  | stop {n : Node} (here : s.node? = some n) (named : Action.ofLabel? n.label = some .stop)

/-- The scene after a beat, whatever an iteration comes to. -/
def beat (s : Scene ρ η) : Beat ρ η → Scene ρ η
  | .tick host => (s.tick host root script).1
  | .change scope random game notices => ⟨scope, random, s.frames, game, notices⟩

/-- The scene after these beats. -/
def through : List (Beat ρ η) → Scene ρ η → Scene ρ η
  | [], s => s
  | b :: bs, s => through bs (s.beat root script b)

end

variable {host : Host η} {root script : Node} {s : Scene ρ η} {n : Node} {action : Action}

theorem through_append (bs bs' : List (Beat ρ η)) (s : Scene ρ η) :
    s.through root script (bs ++ bs') = (s.through root script bs).through root script bs' := by
  induction bs generalizing s with
  | nil => rfl
  | cons b bs ih => exact ih _

/-- The iterations of a walk are beats. -/
theorem through_ticks (host : Host η) (k : Nat) (s : Scene ρ η) :
    s.through root script (List.replicate k (.tick host)) = s.after host root script k := by
  induction k generalizing s with
  | zero => rfl
  | succ k ih => exact ih _

/-! ## Iterations at a node -/

/-- Only the elements of `Leaves` come to deeds that leave. -/
theorem leaves_of_deed {deed : Deed} {random : ρ} (here : s.node? = some n)
    (named : Action.ofLabel? n.label = some action)
    (given : (Site.deed ⟨root, script, s.scope⟩ n action).run.run s.random = (.ok deed, random))
    (leaves : deed.Leaves host s.game) : s.Leaves root script host := by
  cases can : action.canLeave with
  | false =>
    have stays := Site.deed_stays ⟨root, script, s.scope⟩ n can host s.game s.random deed
    rw [given] at stays
    exact absurd leaves (stays rfl)
  | true =>
    cases action with
    | redirect =>
      obtain ⟨target, -, found⟩ := Site.exists_of_redirect given
      exact .redirect here named found
    | pay =>
      obtain ⟨effect, block, rfl, settled⟩ := Site.exists_of_pay given
      obtain ⟨answer, target, found⟩ := leaves
      cases block with
      | none => cases found
      | some block => exact .refused here named settled found answer
    | finish => exact .finish here named
    | stop => exact .stop here named
    | _ => cases can

/-- A scene that is at no such element does not leave. -/
theorem not_leaves (h : ∀ n, s.node? = some n →
      ∀ action, Action.ofLabel? n.label = some action → action.canLeave = false) :
    ¬ s.Leaves root script host := by
  intro leaves
  cases leaves with
  | redirect here named | refused here named | finish here named | stop here named =>
    have no := h _ here _ named
    cases no

omit [PatientSource ρ] in
/-- Asking the game for an effect leaves the blocks as they are, unless a refusal leads elsewhere. -/
theorem frames_perform {effect : Effect} {refused : Except Fault (Option Node)}
    (stays : ¬ (Deed.perform effect refused).Leaves host s.game) :
    (s.enact host (.perform effect refused)).2 ≠ .round ∧
      (s.enact host (.perform effect refused)).1.frames = s.frames := by
  unfold enact
  dsimp only
  split
  · exact ⟨nofun, rfl⟩
  · exact ⟨nofun, rfl⟩
  · next answer =>
    split
    · exact ⟨nofun, rfl⟩
    · exact ⟨nofun, rfl⟩
    · next target => exact absurd ⟨answer, target, rfl⟩ stays

omit [PatientSource ρ] in
/-- A deed that does not leave keeps the blocks in progress. -/
theorem frames_enact (deed : Deed) (stays : ¬ deed.Leaves host s.game) :
    (s.enact host deed).2 ≠ .round ∧ ∃ inner, (s.enact host deed).1.frames = inner ++ s.frames := by
  cases deed with
  | proceed | assign | forget | narrow | pause | ask => exact ⟨nofun, [], rfl⟩
  | enter f => exact ⟨nofun, [f], rfl⟩
  | jump | finish | halt => exact absurd trivial stays
  | widen =>
    unfold enact
    dsimp only
    split
    · exact ⟨nofun, [], rfl⟩
    · exact ⟨nofun, [], rfl⟩
  | perform effect refused =>
    obtain ⟨quiet, same⟩ := frames_perform stays
    exact ⟨quiet, [], same⟩

theorem step_speak_ne_round (raw : String) : (s.speak raw).2 ≠ .round := by
  unfold speak
  dsimp only
  split
  · exact nofun
  · split
    · exact nofun
    · exact nofun

/-- **An iteration at a node** that does not leave keeps the blocks in progress, the innermost one behind the
node. -/
theorem frames_tick (here : s.node? = some n) (stays : ¬ s.Leaves root script host) :
    (s.tick host root script).2 ≠ .round ∧
      ∃ inner, (s.tick host root script).1.frames = inner ++ s.past.frames := by
  rw [tick_of_node? here]
  unfold visit
  cases n with
  | text index origin raw => exact ⟨step_speak_ne_round raw, [], speak_frames raw⟩
  | element =>
    dsimp only
    unfold act
    split
    · exact ⟨nofun, [], rfl⟩
    · next action named =>
      dsimp only
      split
      · next deed given =>
        refine frames_enact deed fun leaves => stays (leaves_of_deed here named (Prod.ext given rfl) leaves)
      · exact ⟨nofun, [], rfl⟩

/-- A redirect or a payment that does not leave does nothing to the blocks. -/
theorem frames_tick_of_leading (here : s.node? = some n) (named : Action.ofLabel? n.label = some action)
    (leading : action = .redirect ∨ action = .pay) (stays : ¬ s.Leaves root script host) :
    (s.tick host root script).1.frames = s.past.frames := by
  rw [tick_of_node? here]
  cases n with
  | text => cases named
  | element =>
    unfold visit act
    dsimp only
    rw [named]
    dsimp only
    split
    · next deed given =>
      have given : (Site.deed ⟨root, script, s.scope⟩ _ action).run.run s.random = (.ok deed, _) :=
        Prod.ext given rfl
      have keeps : ¬ deed.Leaves host s.game := fun leaves => stays (leaves_of_deed here named given leaves)
      rcases leading with rfl | rfl
      · obtain ⟨target, rfl, -⟩ := Site.exists_of_redirect given
        exact absurd trivial keeps
      · obtain ⟨effect, block, rfl, -⟩ := Site.exists_of_pay given
        refine (frames_perform ?_).2
        exact keeps
    · rfl

/-! ## How far it is -/

omit [PatientSource ρ] in
theorem ahead_past_lt (here : s.node? = some n) : s.past.ahead < s.ahead := by
  obtain ⟨f, outer, rest, frames, content, past⟩ := exists_frames_of_node? here
  have less := Frame.ahead_behind content
  have positive := n.costs_children_lt
  rw [past, ahead_cons frames, ahead_cons (s := { s with frames := _ :: outer }) rfl]
  omega

/-- **An iteration that does not leave takes one from what is before the walk**, unless it is at an
inclusion. -/
theorem Sound.tick_ahead_lt_of_stays (h : s.Sound root) (inside : s.frames ≠ [])
    (stays : ¬ s.Leaves root script host)
    (apart : ∀ n, s.node? = some n → Action.ofLabel? n.label ≠ some .inclusion) :
    (s.tick host root script).1.ahead < s.ahead := by
  by_cases leads : s.Leads
  · obtain ⟨f, outer, n, rest, action, frames, content, named, leads⟩ := leads
    have here := node?_of_frames frames content
    have leading : action = .redirect ∨ action = .pay := by
      cases action with
      | redirect => exact .inl rfl
      | pay => exact .inr rfl
      | inclusion => exact absurd named (apart n here)
      | _ => cases leads
    have same := frames_tick_of_leading here named leading stays
    rw [ahead, same]
    exact ahead_past_lt here
  · exact h.tick_ahead_lt host script inside (straight_of_not_leads leads)

/-! ## Behind an output -/

/-- What comes of it is a scene whose blocks are those of the pass behind its output, if it has one. -/
def LeavesItsBlocks (t : Scene ρ η × Step) : Prop :=
  ∀ output, t.2 = .shown output → (output.passAfter t.1.frames).frames = t.1.frames

omit [PatientSource ρ] in
theorem leavesItsBlocks_quiet (s : Scene ρ η) : LeavesItsBlocks (s, .quiet) := by
  intro output shows
  cases shows

omit [PatientSource ρ] in
theorem leavesItsBlocks_failed (s : Scene ρ η) (fault : Fault) : LeavesItsBlocks (s, .failed fault) := by
  intro output shows
  cases shows

omit [PatientSource ρ] in
theorem leavesItsBlocks_enact (s : Scene ρ η) (deed : Deed) : LeavesItsBlocks (s.enact host deed) := by
  cases deed with
  | proceed | enter | jump | assign | forget | narrow => exact leavesItsBlocks_quiet _
  | finish | halt | pause | ask =>
    rintro output ⟨⟩
    rfl
  | widen =>
    unfold enact
    dsimp only
    split
    · exact leavesItsBlocks_quiet _
    · exact leavesItsBlocks_failed _ _
  | perform effect refused =>
    unfold enact
    dsimp only
    split
    · exact leavesItsBlocks_failed _ _
    · exact leavesItsBlocks_quiet _
    · split
      · exact leavesItsBlocks_failed _ _
      · exact leavesItsBlocks_quiet _
      · exact leavesItsBlocks_quiet _

/-- An output that ends the pass leaves no block in progress. -/
theorem leavesItsBlocks_tick (host : Host η) (root script : Node) (s : Scene ρ η) :
    LeavesItsBlocks (s.tick host root script) := by
  unfold tick
  split
  · next frames =>
    rintro output ⟨⟩
    exact frames.symm
  · next f outer frames =>
    split
    · intro output shows
      have silent := isSilent_close s f outer
      rw [shows] at silent
      cases silent
    · dsimp only
      split
      · unfold speak
        dsimp only
        split
        · exact leavesItsBlocks_quiet _
        · split
          · rintro output ⟨⟩
            rfl
          · exact leavesItsBlocks_failed _ _
      · unfold act
        split
        · exact leavesItsBlocks_quiet _
        · dsimp only
          split
          · exact leavesItsBlocks_enact _ _
          · exact leavesItsBlocks_failed _ _

/-- An iteration of a walk is reached by it: those in front of it show nothing, and the guard lets it happen. -/
def Reaches (host : Host η) (root script : Node) (limit : Nat) (s : Scene ρ η) (m : Nat) : Prop :=
  s.Goes host root script limit m ∧ s.sinceRound host root script m < limit

/-- What a walk comes to is behind the iterations that it reaches, in the blocks of the pass behind it. -/
theorem Ends.exists_after {limit : Nat} {r : Scene ρ η × Except Fault Output} (h : s.Ends host root script limit r) :
    ∃ k, r.1 = s.after host root script k ∧ (∀ m < k, s.Reaches host root script limit m) ∧
      ∀ output, r.2 = .ok output → (output.passAfter r.1.frames).frames = r.1.frames := by
  cases h with
  | cut goes =>
    exact ⟨_, rfl, fun m less => ⟨goes.mono (Nat.le_of_lt less), (goes m less).2⟩, nofun⟩
  | @loud k result goes room comes =>
    refine ⟨k + 1, rfl, fun m less => ?_, ?_⟩
    · rcases Nat.lt_succ_iff_lt_or_eq.mp less with less | rfl
      · exact ⟨goes.mono (Nat.le_of_lt less), (goes m less).2⟩
      · exact ⟨goes, room⟩
    · rintro output rfl
      have shows := Step.eq_shown_of_result? comes
      dsimp only
      rw [after_succ]
      exact leavesItsBlocks_tick host root script _ output shows

end Scene

/-! ## Calls -/

namespace Script

variable {ρ η : Type} [PatientSource ρ]

/-- One call goes on in the document and the pass that there are.  The game is between the calls what the
caller makes of it. -/
inductive GoesOn : Script ρ × η → Script ρ × η → Prop where
  | next {s : Script ρ} {host : Host η} {fuel : Nat} {game : η} {a : Advance ρ η}
      (done : s.next host fuel game = some a) : GoesOn (s, game) (a.script, a.game)
  | submit {s s' : Script ρ} {game : η} {raw : String} (done : s.submit raw = .ok s') : GoesOn (s, game) (s', game)
  | pushContext {s s' : Script ρ} {game : η} {label : String} {id : Option String} {n : Node}
      (done : s.pushContext label id = .ok (n, s')) : GoesOn (s, game) (s', game)
  | popContext {s s' : Script ρ} {game : η} {n : Node} (done : s.popContext = .ok (n, s')) :
      GoesOn (s, game) (s', game)
  | assign {s : Script ρ} {game : η} (name : String) (v : Value) : GoesOn (s, game) (s.assign name v, game)
  | forget {s : Script ρ} {game : η} (name : String) : GoesOn (s, game) (s.forget name, game)
  | translate {s : Script ρ} {game : η} (text : String) : GoesOn (s, game) ((s.translate text).2, game)
  | withProvider {s : Script ρ} {game : η} (qualifier : String) (provider : Provider) :
      GoesOn (s, game) (s.withProvider qualifier provider, game)
  | withRandom {s : Script ρ} {game : η} (random : ρ) : GoesOn (s, game) (s.withRandom random, game)
  | elsewhere {s : Script ρ} {game : η} (game' : η) : GoesOn (s, game) (s, game')

/-- The document that is loaded, with the script's element in it. -/
def document? (s : Script ρ) : Option (Node × Node) := s.play.map fun p => (p.root, p.script)

/-- The script stands in this document, and with this game it is at this scene. -/
structure At (root script : Node) (c : Script ρ × η) (t : Scene ρ η) : Prop where
  document_eq : c.1.document? = some (root, script)
  scene_eq : c.1.scene c.1.frames c.2 = t

variable {root script : Node} {c c' : Script ρ × η} {t : Scene ρ η}

/-- A call that keeps the document and the blocks in progress is one beat. -/
theorem At.exists_change (h : At root script c t) (document : c'.1.document? = c.1.document?)
    (frames : c'.1.frames = c.1.frames) : ∃ bs, At root script c' (t.through root script bs) := by
  refine ⟨[.change c'.1.scope c'.1.random c'.2 []], document.trans h.document_eq, ?_⟩
  rw [← h.scene_eq, frames]
  rfl

omit [PatientSource ρ] in
theorem frames_afterWalk {s : Script ρ} {p : Play} {r : Scene ρ η × Except Fault Output}
    (kept : ∀ output, r.2 = .ok output → (output.passAfter r.1.frames).frames = r.1.frames) :
    (s.afterWalk p r).script.frames = r.1.frames := by
  obtain ⟨u, result⟩ := r
  cases result with
  | error fault => rfl
  | ok output => exact kept output rfl

/-- **Every call that goes on is a sequence of beats.** -/
theorem GoesOn.exists_beats (h : GoesOn c c') (stands : At root script c t) :
    ∃ bs, At root script c' (t.through root script bs) := by
  cases h with
  | @next s host fuel game a done =>
    rcases exists_of_next done with ⟨result, -, rfl⟩ | ⟨p, frames, r, play, pass, walked, rfl⟩
    · exact ⟨[], stands⟩
    · obtain ⟨document, rfl⟩ := stands
      have same : (p.root, p.script) = (root, script) := by
        rw [document?, play] at document
        exact Option.some.inj document
      cases same
      obtain ⟨k, ends, -, kept⟩ := (Scene.exists_walk_iff.mp ⟨fuel, walked⟩).exists_after
      have inside : s.frames = frames := (frames_of_play play).trans (congrArg Pass.frames pass)
      refine ⟨List.replicate k (.tick host) ++ [.change r.1.scope r.1.random r.1.game []], rfl, ?_⟩
      dsimp only
      rw [frames_afterWalk kept, Scene.through_append, Scene.through_ticks, inside, ← ends]
      rfl
  | submit done =>
    obtain ⟨p, request, frames, v, play, pass, -, rfl⟩ := exists_of_submit done
    refine stands.exists_change ?_ ?_
    · rw [document?, document?, play]
      rfl
    · rw [frames_of_play play, pass]
      rfl
  | pushContext done =>
    obtain ⟨-, rfl⟩ := exists_of_pushContext done
    exact stands.exists_change rfl rfl
  | popContext done =>
    obtain ⟨m, outer, -, rfl⟩ := exists_of_popContext done
    exact stands.exists_change rfl rfl
  | assign | forget | translate | withProvider | withRandom | elsewhere => exact stands.exists_change rfl rfl

/-- So is every sequence of such calls. -/
theorem exists_beats (goes : Relation.ReflTransGen GoesOn c c') (stands : At root script c t) :
    ∃ bs, At root script c' (t.through root script bs) := by
  induction goes with
  | refl => exact ⟨[], stands⟩
  | tail _ last ih =>
    obtain ⟨bs, before⟩ := ih
    obtain ⟨bs', behind⟩ := last.exists_beats before
    refine ⟨bs ++ bs', ?_⟩
    rw [Scene.through_append]
    exact behind

end Script

end Colloquy
