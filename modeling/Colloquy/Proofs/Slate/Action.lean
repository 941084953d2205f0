import Colloquy.Proofs.Slate.Calls

/-!
# Actions in place

What an element does on the fields of a walking script is what is decided first and done then: `Site.deed` and
`Scene.enact` (`Slate.does_handle`).  So a fault of an element in place is one of `Site.deed`, or of the game, and
nothing but draws and the game's own state lies before it.

### What is load-bearing

As long as an action only reads, it draws and fails as the decision does and leaves all else as it is
(`Slate.Follows`).  From its first write on it has to come to what the deed comes to without failing
(`Slate.Does`).  An action is gone through statement by statement with one law for each, so an action that wrote in
front of a check would have no proof.

## Main definitions

* `Slate.World.amid`: the fields of a script in the middle of a walk.
* `Slate.Does`: actions in place, and the deeds that they come to.
-/

namespace Colloquy.Slate

variable {ρ η α β : Type}

/-! ## The world in a walk -/

/-- The fields of a script whose pass has come to this, and whose walk has come to this scene. -/
def World.during (root script : Node) (limit : Nat) (pass : Pass) (t : Scene ρ η) : World ρ η :=
  .of ⟨t.scope, t.random, limit, some ⟨root, script, pass⟩⟩ t.game t.notices

/-- The fields of a script in the middle of a walk that has come to this scene. -/
def World.amid (root script : Node) (limit : Nat) (t : Scene ρ η) : World ρ η :=
  .during root script limit (.running t.frames) t

/-- What an iteration in place comes to that comes to this for a scene. -/
def World.left (root script : Node) (limit : Nat) (r : Scene ρ η × Step) : Except Fault Motion × World ρ η :=
  match r.2 with
  | .quiet => (.ok .quiet, .amid root script limit r.1)
  | .round => (.ok .round, .amid root script limit r.1)
  | .shown output => (.ok (.shown output), .during root script limit (output.passAfter r.1.frames) r.1)
  | .failed fault => (.error fault, .amid root script limit r.1)

section Amid

variable {root script : Node} {limit : Nat} {t : Scene ρ η}

/-- The document is that of the walk. -/
theorem follows_tree_bind {f : Node → Work ρ η β} {d : Draw ρ β}
    (next : Follows (.amid root script limit t) (f root) d) : Follows (.amid root script limit t) (tree >>= f) d :=
  fun random => next random

/-- In the middle of a walk a step that only looks and draws leaves the scene but for the random source. -/
theorem Follows.run_amid {c : Work ρ η α} {d : Draw ρ α} (follows : Follows (.amid root script limit t) c d) :
    c.run.run (.amid root script limit t) =
      ((d.run.run t.random).1, .amid root script limit { t with random := (d.run.run t.random).2 }) :=
  follows t.random

theorem follows_translate_amid [PatientSource ρ] (focused : t.scope.focus ≠ []) (text : String) :
    Follows (.amid root script limit t) (translate text) (t.scope.translate text) :=
  follows_translate (iff_of_false (Option.some_ne_none _) focused) text

theorem follows_evaluate (text : String) :
    Follows (.amid root script limit t) (evaluate text) (liftM (t.scope.evaluate text)) := fun _ => rfl

/-! ## Attributes -/

section Attributes

variable [PatientSource ρ] (focused : t.scope.focus ≠ []) (n : Node) (name : String)

include focused

theorem follows_text? :
    Follows (.amid root script limit t) (text? n name) (Site.text? ⟨root, script, t.scope⟩ n name) := by
  refine follows_tree_bind ?_
  unfold Site.text?
  cases n.attribute? name with
  | none => exact follows_pure none
  | some raw => exact (follows_translate_amid focused raw).bind fun text => follows_pure _

theorem follows_text :
    Follows (.amid root script limit t) (text n name) (Site.text ⟨root, script, t.scope⟩ n name) := by
  refine (follows_text? focused n name).bind fun found => ?_
  cases found with
  | none => exact follows_throw _
  | some text => exact follows_pure text

theorem follows_integer? :
    Follows (.amid root script limit t) (integer? n name) (Site.integer? ⟨root, script, t.scope⟩ n name) := by
  refine (follows_text? focused n name).bind fun found => ?_
  cases found with
  | none => exact follows_pure none
  | some text =>
    refine (follows_evaluate text).bind fun x => ?_
    cases x with
    | int i => exact follows_pure _
    | str | bool | unset => exact follows_throw _

theorem follows_integer :
    Follows (.amid root script limit t) (integer n name) (Site.integer ⟨root, script, t.scope⟩ n name) := by
  refine (follows_integer? focused n name).bind fun found => ?_
  cases found with
  | none => exact follows_throw _
  | some i => exact follows_pure i

theorem follows_integerOrOne :
    Follows (.amid root script limit t) (integerOrOne n name) (Site.integerOrOne ⟨root, script, t.scope⟩ n name) :=
  (follows_integer? focused n name).bind fun _ => follows_pure _

theorem follows_visibility :
    Follows (.amid root script limit t) (visibility n) (Site.visibility ⟨root, script, t.scope⟩ n) := by
  refine (follows_text? focused n "enable").bind fun enable => ?_
  cases enable.map Text.trim with
  | none => exact follows_pure true
  | some word =>
    dsimp only
    split
    · exact follows_pure true
    · split
      · exact follows_pure false
      · exact follows_throw _

theorem follows_lastPass? (start step : Int64) :
    Follows (.amid root script limit t) (lastPass? n start step)
      (Site.lastPass? ⟨root, script, t.scope⟩ n start step) := by
  refine (follows_integer? focused n "count").bind fun count? => ?_
  cases count? with
  | none => exact (follows_integer focused n "end").bind fun last => follows_pure _
  | some count =>
    dsimp only
    split
    · exact follows_pure none
    · generalize (do
        let span ← Text.Decimal.ofInt? ((count.toInt - 1) * step.toInt)
        Text.Decimal.ofInt? (start.toInt + span.toInt) : Option Int64) = last?
      cases last? with
      | none => exact follows_throw _
      | some last => exact follows_pure _

theorem follows_weights (ns : List Node) :
    Follows (.amid root script limit t) (weights ns) (Site.weights ⟨root, script, t.scope⟩ ns) := by
  induction ns with
  | nil => exact follows_pure []
  | cons n ns ih =>
    exact (follows_integerOrOne focused n "weight").bind fun weight => ih.bind fun others => follows_pure _

end Attributes

theorem follows_narrower (label : String) (id : Option String) :
    Follows (.amid root script limit t) (narrower label id) (liftM (t.scope.narrower? label id)) := by
  obtain ⟨⟨store, providers, focus⟩, random, frames, game, notices⟩ := t
  cases focus with
  | nil => exact fun _ => rfl
  | cons current outer =>
    intro random
    show (need (current.findBelow? (.byId label id)) _ : Work ρ η Node).run.run _ = _
    unfold Scope.narrower?
    dsimp only
    cases current.findBelow? (.byId label id) <;> rfl

theorem follows_locate? (label : String) (id : Option String) :
    Follows (.amid root script limit t) (locate? root label id)
      (pure (Site.locate? ⟨root, script, t.scope⟩ label id)) := by
  unfold locate? Site.locate?
  refine follows_look_bind fun random => ?_
  have here : ((World.amid root script limit t).redraw random).slate.script = some script := rfl
  rw [here, Option.bind_some]
  dsimp only
  cases script.findBelow? (.byId label id) with
  | none => exact follows_pure _
  | some found => exact follows_pure _

end Amid

/-! ## Doing -/

/-- What is decided is done; if nothing can be decided, that is the failure of the iteration. -/
def enacted (host : Host η) (t : Scene ρ η) (d : Draw ρ Deed) : Scene ρ η × Step :=
  let drawn := d.run.run t.random
  let t := { t with random := drawn.2 }
  match drawn.1 with
  | .ok deed => t.enact host deed
  | .error fault => (t, .failed fault)

/-- In the middle of a walk, whatever the random source is, the action does what the deed comes to that is decided
on. -/
def Does (host : Host η) (root script : Node) (limit : Nat) (t : Scene ρ η) (c : Work ρ η Outcome) (d : Draw ρ Deed) :
    Prop :=
  ∀ random, (c >>= conclude).run.run ((World.amid root script limit t).redraw random) =
    World.left root script limit (enacted host { t with random := random } d)

section Doing

variable {host : Host η} {root script : Node} {limit : Nat} {t : Scene ρ η} {c : Work ρ η α} {f : α → Work ρ η Outcome}

/-- What is read in front of an action is read in front of the decision. -/
theorem Follows.then {d : Draw ρ α} {g : α → Draw ρ Deed} (first : Follows (.amid root script limit t) c d)
    (next : ∀ a, Does host root script limit t (f a) (g a)) : Does host root script limit t (c >>= f) (d >>= g) := by
  intro random
  rw [bind_assoc, Draw.run_bind, first random, enacted, Draw.run_bind]
  dsimp only
  rcases d.run.run random with ⟨_ | a, random'⟩
  · rfl
  · exact next a random'

/-- What is looked up in front of an action without drawing. -/
theorem Follows.then_of_pure {d : Draw ρ Deed} {a : α} (first : Follows (.amid root script limit t) c (pure a))
    (next : Does host root script limit t (f a) d) : Does host root script limit t (c >>= f) d := by
  intro random
  rw [bind_assoc, Draw.run_bind, first random]
  exact next random

theorem does_tree_bind {f : Node → Work ρ η Outcome} {d : Draw ρ Deed}
    (next : Does host root script limit t (f root) d) : Does host root script limit t (tree >>= f) d :=
  fun random => next random

theorem does_throw (fault : Fault) : Does host root script limit t (throw fault) (throw fault) := fun _ => rfl

theorem does_onward : Does host root script limit t (pure .onward) (pure .proceed) := fun _ => rfl

theorem does_pushBlock (n : Node) :
    Does host root script limit t (pushBlock n >>= fun _ => pure .onward) (pure (.enter (.block n))) := fun _ => rfl

theorem does_jumpTo (n : Node) :
    Does host root script limit t (jumpTo n >>= fun _ => pure .redirected) (pure (.jump n)) := fun _ => rfl

theorem does_pushChosen (number : Int) (weighted : List (Node × Int64)) :
    Does host root script limit t (pushChosen number weighted >>= fun _ => pure .onward)
      (pure (Site.contentDeed (Site.choose? number weighted))) := by
  induction weighted generalizing number with
  | nil => exact does_onward
  | cons w others ih =>
    unfold pushChosen Site.choose?
    split
    · exact does_pushBlock w.1
    · exact ih _

theorem does_assign (name : String) (v : Value) :
    Does host root script limit t (assign name v >>= fun _ => pure .onward) (pure (.assign name v)) := fun _ => rfl

theorem does_forget (name : String) :
    Does host root script limit t (forget name >>= fun _ => pure .onward) (pure (.forget name)) := fun _ => rfl

theorem does_suspendForInput (request : Input.Request) :
    Does host root script limit t (suspendForInput request) (pure (.ask request)) := fun _ => rfl

/-- Where the walk goes on when the game has refused an effect. -/
def refused (t : Scene ρ η) : Except Fault (Option Node) → Scene ρ η × Step
  | .error fault => (t, .failed fault)
  | .ok none => (t, .quiet)
  | .ok (some target) => (t.jump target, .quiet)

/-- Asking for an effect: what the game makes of itself stays, whatever its reply is. -/
theorem does_apply {effect : Effect} {f : Reply → Work ρ η Outcome} {block : Except Fault (Option Node)}
    (done : f .done = pure .onward)
    (refuses : ∀ u : Scene ρ η, u.scope = t.scope →
      (f .refused >>= conclude).run.run (.amid root script limit u) = World.left root script limit (refused u block)) :
    Does host root script limit t (apply host effect >>= f) (pure (.perform effect block)) := by
  intro random
  have asked : (apply host effect).run.run ((World.amid root script limit t).redraw random) =
      ((host effect t.game).1,
        World.amid root script limit { t with random := random, game := (host effect t.game).2 }) := rfl
  show _ = World.left root script limit (({ t with random := random } : Scene ρ η).enact host (.perform effect block))
  rw [bind_assoc, Draw.run_bind, asked]
  unfold Scene.enact
  dsimp only
  rcases host effect t.game with ⟨_ | _ | _, game⟩
  · rfl
  · dsimp only
    rw [done]
    rfl
  · refine (refuses { t with random := random, game := game } rfl).trans ?_
    rcases block with _ | _ | target <;> rfl

theorem does_perform (effect : Effect) :
    Does host root script limit t (perform host effect) (pure (.perform effect (.ok none))) :=
  does_apply rfl fun _ _ => rfl

end Doing

/-! ## Each action -/

section Actions

variable [PatientSource ρ] {host : Host η} {root script : Node} {limit : Nat} {t : Scene ρ η}
  (focused : t.scope.focus ≠ []) (n : Node)

include focused

theorem does_context :
    Does host root script limit t (handle host n .context) (Site.deed ⟨root, script, t.scope⟩ n .context) := by
  simp only [handle, pushContext, Site.deed, Site.narrowing, bind_assoc, pure_bind]
  refine (follows_text focused n "name").then fun label => (follows_text? focused n "id").then fun id => ?_
  exact (follows_narrower label id).then fun found _ => rfl

omit focused in
theorem does_unsetContext :
    Does host root script limit t (handle host n .unsetContext)
      (Site.deed ⟨root, script, t.scope⟩ n .unsetContext) := by
  obtain ⟨⟨store, providers, _ | ⟨inner, _ | ⟨outermost, outer⟩⟩⟩, random, frames, game, notices⟩ := t <;>
    exact fun _ => rfl

theorem does_redirect :
    Does host root script limit t (redirect n) (Site.deed ⟨root, script, t.scope⟩ n .redirect) := by
  simp only [redirect, Site.deed, Site.destination, bind_assoc]
  refine does_tree_bind ?_
  refine (follows_text focused n "target").then fun label => (follows_text? focused n "id").then fun id => ?_
  refine (follows_text? focused n "default").then fun fallback => (follows_locate? label id).then_of_pure ?_
  cases Site.locate? ⟨root, script, t.scope⟩ label id with
  | some target => exact does_jumpTo target
  | none =>
    cases fallback with
    | none => exact does_throw _
    | some fallback =>
      refine (follows_locate? label (some fallback)).then_of_pure ?_
      dsimp only
      cases Site.locate? ⟨root, script, t.scope⟩ label (some fallback) with
      | none => exact does_throw _
      | some target => exact does_jumpTo target

theorem does_loop :
    Does host root script limit t (loop n) (Site.deed ⟨root, script, t.scope⟩ n .loop) := by
  simp only [loop, Site.deed, Site.loop?, bind_assoc]
  refine does_tree_bind ?_
  refine (follows_text? focused n "var").then fun iterator => ?_
  refine (follows_integerOrOne focused n "start").then fun start => ?_
  refine (follows_integerOrOne focused n "step").then fun step => ?_
  split
  · exact does_throw _
  · simp only [bind_assoc]
    refine (follows_lastPass? focused n start step).then fun last? => ?_
    cases last? with
    | none => exact does_onward
    | some last =>
      show Does host root script limit t _ (pure (Site.loopDeed n (some _)))
      rw [Site.loopDeed]
      dsimp only
      split
      · exact does_onward
      · cases iterator <;> exact fun _ => rfl

theorem does_chance :
    Does host root script limit t (chance n) (Site.deed ⟨root, script, t.scope⟩ n .random) := by
  simp only [chance, Site.deed, Site.selected?, bind_assoc]
  refine does_tree_bind ?_
  refine (follows_integer? focused n "chance").then fun chance? => ?_
  cases chance? with
  | some chance =>
    simp only [bind_assoc]
    refine (follows_draw (Draw.below 100)).then fun number => ?_
    split
    · exact does_pushBlock n
    · exact does_onward
  | none =>
    simp only [bind_assoc]
    refine (follows_weights focused n.childElements).then fun weighted => ?_
    cases Site.sum? weighted with
    | none => exact does_throw _
    | some total =>
      dsimp only
      split
      · exact does_throw _
      · split
        · exact does_onward
        · simp only [bind_assoc]
          exact (follows_draw _).then fun number => does_pushChosen number.toNat weighted

theorem does_pay :
    Does host root script limit t (pay host n) (Site.deed ⟨root, script, t.scope⟩ n .pay) := by
  simp only [pay, Site.deed, Site.payment, bind_assoc, pure_bind]
  refine (follows_integer focused n "price").then fun price => ?_
  refine (follows_integerOrOne focused n "quantity").then fun quantity => ?_
  refine (follows_text? focused n "cantpay").then fun block => does_apply rfl fun u same => ?_
  cases block with
  | none => rfl
  | some label =>
    rw [← same]
    show ((locate? root label none >>= fun found => _) >>= conclude : Work ρ η Motion).run.run
      (.amid root script limit u) = _
    rw [bind_assoc, Draw.run_bind, (follows_locate? label none).run_amid, Site.refusal]
    cases Site.locate? ⟨root, script, u.scope⟩ label none <;> rfl

theorem does_branch :
    Does host root script limit t (branch n) (Site.deed ⟨root, script, t.scope⟩ n .branch) := by
  simp only [branch, Site.deed, Site.test, bind_assoc]
  refine does_tree_bind ?_
  refine (follows_text focused n "test").then fun test => (follows_evaluate test).then fun x => ?_
  split
  · exact does_pushBlock n
  · cases n.findChild? "else" with
    | none => exact does_onward
    | some alternative => exact does_pushBlock alternative

theorem does_input :
    Does host root script limit t (input n) (Site.deed ⟨root, script, t.scope⟩ n .input) := by
  simp only [input, Site.deed, Site.request, bind_assoc, pure_bind]
  refine (follows_text focused n "type").then fun name => (follows_lift (Input.Kind.read name)).then fun kind => ?_
  refine (follows_text? focused n "name").then fun target => ?_
  refine (follows_integer? focused n "maxlen").then fun length? => ?_
  cases length? with
  | none =>
    simp only [bind_assoc]
    exact (follows_text? focused n "options").then fun options => does_suspendForInput _
  | some length =>
    dsimp only
    split
    · exact does_throw _
    · simp only [bind_assoc]
      exact (follows_text? focused n "options").then fun options => does_suspendForInput _

theorem does_assignment :
    Does host root script limit t (assignment n) (Site.deed ⟨root, script, t.scope⟩ n .assignment) := by
  simp only [assignment, Site.deed, Site.assignment, bind_assoc]
  refine (follows_text focused n "name").then fun name => (follows_text? focused n "expr").then fun expression => ?_
  cases expression with
  | some text =>
    simp only [bind_assoc]
    exact (follows_evaluate text).then fun x => does_assign name x.toValue
  | none =>
    simp only [bind_assoc]
    refine (follows_text? focused n "value").then fun value => ?_
    cases value with
    | some text => exact does_assign name (.ofText text)
    | none => exact does_forget name

theorem does_inclusion :
    Does host root script limit t (inclusion n) (Site.deed ⟨root, script, t.scope⟩ n .inclusion) := by
  simp only [inclusion, Site.deed, Site.included, bind_assoc]
  refine does_tree_bind ?_
  refine (follows_text focused n "script").then fun id => (follows_text? focused n "block").then fun block => ?_
  cases root.findBelow? (.byId "script" (some id)) with
  | none => exact does_throw _
  | some found =>
    cases block with
    | none => exact does_pushBlock found
    | some label =>
      rw [Option.bind_eq_bind, Option.bind_some]
      dsimp only
      cases found.findBelow? (.byId label none) with
      | none => exact does_throw _
      | some target => exact does_pushBlock target

/-- An element that is nothing but an effect: its attributes are read in turn, and then the game is asked. -/
theorem does_effect (action : Action)
    (asks : action ∈ [.move, .sleep, .cursor, .add, .lose, .heal, .castSpell, .damage, .karma, .music, .ztats]) :
    Does host root script limit t (handle host n action) (Site.deed ⟨root, script, t.scope⟩ n action) := by
  cases action with
  | move =>
    simp only [handle, Site.deed, Site.effect?, bind_assoc]
    refine (follows_integer? focused n "x").then fun x => (follows_integer? focused n "y").then fun y => ?_
    exact (follows_integer? focused n "z").then fun z => does_perform _
  | sleep => exact does_perform _
  | cursor =>
    simp only [handle, Site.deed, Site.effect?, bind_assoc]
    exact (follows_visibility focused n).then fun visible => does_perform _
  | add =>
    simp only [handle, Site.deed, Site.effect?, bind_assoc]
    refine (follows_text focused n "type").then fun item => (follows_text? focused n "subtype").then fun subtype => ?_
    exact (follows_integerOrOne focused n "amount").then fun amount => does_perform _
  | lose =>
    simp only [handle, Site.deed, Site.effect?, bind_assoc]
    refine (follows_text focused n "type").then fun item => (follows_text? focused n "subtype").then fun subtype => ?_
    exact (follows_integerOrOne focused n "amount").then fun amount => does_perform _
  | heal =>
    simp only [handle, Site.deed, Site.effect?, bind_assoc]
    refine (follows_text? focused n "type").then fun treatment => ?_
    exact (follows_integer? focused n "player").then fun player => does_perform _
  | castSpell =>
    simp only [handle, Site.deed, Site.effect?, bind_assoc]
    refine (follows_text focused n "spell").then fun spell => ?_
    exact (follows_integer? focused n "player").then fun player => does_perform _
  | damage =>
    simp only [handle, Site.deed, Site.effect?, bind_assoc]
    refine (follows_integer? focused n "player").then fun player => ?_
    exact (follows_integer focused n "pts").then fun points => does_perform _
  | karma =>
    simp only [handle, Site.deed, Site.effect?, bind_assoc]
    refine (follows_text focused n "virtue").then fun virtue => ?_
    exact (follows_integerOrOne focused n "amount").then fun amount => does_perform _
  | music =>
    simp only [handle, Site.deed, Site.effect?, bind_assoc]
    exact (follows_text focused n "type").then fun track => does_perform _
  | ztats =>
    simp only [handle, Site.deed, Site.effect?, bind_assoc]
    exact (follows_integer? focused n "player").then fun player => does_perform _
  | _ => simp at asks

/-- **An action in place** does what its deed comes to. -/
theorem does_handle (action : Action) :
    Does host root script limit t (handle host n action) (Site.deed ⟨root, script, t.scope⟩ n action) := by
  cases action with
  | context => exact does_context focused n
  | unsetContext => exact does_unsetContext n
  | redirect => exact does_redirect focused n
  | loop => exact does_loop focused n
  | random => exact does_chance focused n
  | pay => exact does_pay focused n
  | branch => exact does_branch focused n
  | input => exact does_input focused n
  | assignment => exact does_assignment focused n
  | inclusion => exact does_inclusion focused n
  | wait =>
    simp only [handle, Site.deed]
    exact (follows_integer focused n "msecs").then fun millis _ => rfl
  | finish | stop | otherwise => exact fun _ => rfl
  | waitForKeypress => exact does_suspendForInput .keypress
  | move | sleep | cursor | add | lose | heal | castSpell | damage | karma | music | ztats =>
    exact does_effect focused n _ (by simp)

end Actions

end Colloquy.Slate
