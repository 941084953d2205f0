import Colloquy.Proofs.Script.Carry
import Colloquy.Script.Answer

/-!
# Unset variables and missing ones

A script never finds out whether a variable was made unset or never assigned.  Two scripts that differ in
nothing else answer every operation alike, and go on differing in nothing else
(`Script.Alike.answers_alike`).

### What is load-bearing

All that a script reads of its variables goes through `Scope.value`, and scopes are alike exactly if their
values agree (`Scope.alike_of_value`).  So everything read off a scope is the same for scopes that are
alike, as an equation between computations; and what is left to relate are the few places that write.

## Main definitions

* `Scope.Alike`, `Script.Alike`: no difference but unset names where the other has none.
* `Script.Operation`: everything that a caller can do with a script.
* `Script.perform`: operations one after the other, with all answers to them.
-/

namespace Colloquy

/-- Both computations give results that are related, or both raise the same fault. -/
inductive Related {α β : Type} (R : α → β → Prop) : Except Fault α → Except Fault β → Prop where
  | ok {a : α} {b : β} (related : R a b) : Related R (.ok a) (.ok b)
  | error (fault : Fault) : Related R (.error fault) (.error fault)

/-- The scopes differ in nothing but names that are unset in one and missing in the other. -/
structure Scope.Alike (s t : Scope) : Prop where
  store : ∀ name, s.store.get? name = t.store.get? name ∨
    (s.store.get? name = some .unset ∧ t.store.get? name = none) ∨
    (s.store.get? name = none ∧ t.store.get? name = some .unset)
  providers : s.providers = t.providers
  focus : s.focus = t.focus

namespace Scope

variable {s t : Scope}

theorem Alike.value (h : s.Alike t) : s.value = t.value := by
  funext name
  unfold Scope.value
  rcases h.store name with same | ⟨unset, missing⟩ | ⟨missing, unset⟩
  · rw [same]
  · rw [unset, missing]
    rfl
  · rw [unset, missing]
    rfl

/-- Scopes are alike as soon as all their variables have the same value. -/
theorem alike_of_value (value : ∀ name, s.value name = t.value name) (providers : s.providers = t.providers)
    (focus : s.focus = t.focus) : s.Alike t := by
  refine ⟨fun name => ?_, providers, focus⟩
  have same : (s.store.get? name).getD .unset = (t.store.get? name).getD .unset := value name
  revert same
  cases s.store.get? name with
  | none =>
    cases t.store.get? name with
    | none => exact fun _ => .inl rfl
    | some w => exact fun same => .inr (.inr ⟨rfl, congrArg some same.symm⟩)
  | some v =>
    cases t.store.get? name with
    | none => exact fun same => .inr (.inl ⟨congrArg some same, rfl⟩)
    | some w => exact fun same => .inl (congrArg some same)

namespace Alike

/-! ## Changes of a scope -/

theorem assign (h : s.Alike t) (name : String) (v : Value) : (s.assign name v).Alike (t.assign name v) := by
  refine alike_of_value (fun m => ?_) h.providers h.focus
  simp only [value_assign, h.value]

theorem forget (h : s.Alike t) (name : String) : (s.forget name).Alike (t.forget name) := by
  refine alike_of_value (fun m => ?_) h.providers h.focus
  simp only [value_forget, h.value]

/-- To make a variable unset is as good as to forget it. -/
theorem assign_forget (s : Scope) (name : String) : (s.assign name .unset).Alike (s.forget name) := by
  refine alike_of_value (fun m => ?_) rfl rfl
  simp only [value_assign, value_forget]

theorem withFocus (h : s.Alike t) (focus : List Node) :
    ({ s with focus := focus } : Scope).Alike { t with focus := focus } :=
  ⟨h.store, h.providers, rfl⟩

theorem widen? (h : s.Alike t) :
    Related (fun a b => a.1 = b.1 ∧ a.2.Alike b.2) s.widen? t.widen? := by
  unfold Scope.widen?
  rw [h.focus]
  split
  · exact .ok ⟨rfl, h.withFocus _⟩
  · exact .error _

theorem narrow (h : s.Alike t) (n : Node) : (s.narrow n).Alike (t.narrow n) :=
  ⟨h.store, h.providers, congrArg (n :: ·) h.focus⟩

/-! ## What is read off a scope -/

theorem resolve (h : s.Alike t) : s.resolve = t.resolve := by
  funext parts
  unfold Scope.resolve
  rw [h.providers]

theorem noun (h : s.Alike t) : s.noun = t.noun := by
  funext noun
  unfold Scope.noun
  rw [h.focus]

theorem narrower? (h : s.Alike t) : s.narrower? = t.narrower? := by
  funext label id
  unfold Scope.narrower?
  rw [h.focus]

theorem setting (h : s.Alike t) : s.setting = t.setting := by
  unfold Scope.setting
  rw [h.value, h.resolve]

theorem evaluate (h : s.Alike t) : s.evaluate = t.evaluate := by
  funext text
  unfold Scope.evaluate
  rw [h.setting]

theorem int? (h : s.Alike t) : s.int? = t.int? := by
  funext name
  unfold Scope.int?
  rw [h.value]

theorem str? (h : s.Alike t) : s.str? = t.str? := by
  funext name
  unfold Scope.str?
  rw [h.value]

section

variable {ρ : Type} [PatientSource ρ]

theorem apply (h : s.Alike t) : (s.apply : String → String → Draw ρ String) = t.apply := by
  funext function argument
  unfold Scope.apply
  rw [h.evaluate]

theorem resolveBlock (h : s.Alike t) : (s.resolveBlock : List Char → Draw ρ String) = t.resolveBlock := by
  funext block
  unfold Scope.resolveBlock
  rw [h.value, h.apply, h.resolve, h.noun]

mutual

theorem expand (h : s.Alike t) : ∀ f : Fragment, (s.expand f : Draw ρ (List Char)) = t.expand f
  | .char c => by
      rw [Scope.expand, Scope.expand]
  | .block inside => by
      rw [Scope.expand, Scope.expand, expandAll h inside, h.resolveBlock]

theorem expandAll (h : s.Alike t) :
    ∀ fs : List Fragment, (s.expandAll fs : Draw ρ (List Char)) = t.expandAll fs
  | [] => by
      rw [Scope.expandAll, Scope.expandAll]
  | f :: fs => by
      rw [Scope.expandAll, Scope.expandAll, expand h f, expandAll h fs]

end

theorem translate (h : s.Alike t) : (s.translate : String → Draw ρ String) = t.translate := by
  funext text
  unfold Scope.translate
  simp only [h.expandAll]

end

end Alike

end Scope

/-! ## Elements -/

namespace Site

variable {ρ : Type} [PatientSource ρ]

/-- The same place in scopes that are alike. -/
structure Alike (here there : Site) : Prop where
  root : here.root = there.root
  script : here.script = there.script
  scope : here.scope.Alike there.scope

variable {here there : Site}

namespace Alike

theorem locate? (h : here.Alike there) : here.locate? = there.locate? := by
  funext label id
  unfold Site.locate?
  rw [h.root, h.script]

theorem refusal (h : here.Alike there) : here.refusal = there.refusal := by
  funext block
  unfold Site.refusal
  rw [h.locate?]

theorem text? (h : here.Alike there) : (here.text? : Node → String → Draw ρ _) = there.text? := by
  funext n name
  unfold Site.text?
  rw [h.scope.translate]

theorem text (h : here.Alike there) : (here.text : Node → String → Draw ρ _) = there.text := by
  funext n name
  unfold Site.text
  rw [h.text?]

theorem integer? (h : here.Alike there) :
    (here.integer? : Node → String → Draw ρ _) = there.integer? := by
  funext n name
  unfold Site.integer?
  rw [h.text?, h.scope.evaluate]

theorem integer (h : here.Alike there) : (here.integer : Node → String → Draw ρ _) = there.integer := by
  funext n name
  unfold Site.integer
  rw [h.integer?]

theorem integerOrOne (h : here.Alike there) :
    (here.integerOrOne : Node → String → Draw ρ _) = there.integerOrOne := by
  funext n name
  unfold Site.integerOrOne
  rw [h.integer?]

theorem narrowing (h : here.Alike there) : (here.narrowing : Node → Draw ρ _) = there.narrowing := by
  funext n
  unfold Site.narrowing
  rw [h.text, h.text?, h.scope.narrower?]

theorem destination (h : here.Alike there) : (here.destination : Node → Draw ρ _) = there.destination := by
  funext n
  unfold Site.destination
  rw [h.text, h.text?, h.locate?]

theorem lastPass? (h : here.Alike there) :
    (here.lastPass? : Node → Int64 → Int64 → Draw ρ _) = there.lastPass? := by
  funext n start step
  unfold Site.lastPass?
  rw [h.integer?, h.integer]

theorem loop? (h : here.Alike there) : (here.loop? : Node → Draw ρ _) = there.loop? := by
  funext n
  unfold Site.loop?
  rw [h.text?, h.integerOrOne, h.lastPass?]

theorem weights (h : here.Alike there) (ns : List Node) :
    (here.weights ns : Draw ρ _) = there.weights ns := by
  induction ns with
  | nil => rfl
  | cons n ns ih =>
    unfold Site.weights
    rw [h.integerOrOne, ih]

theorem selected? (h : here.Alike there) : (here.selected? : Node → Draw ρ _) = there.selected? := by
  funext n
  unfold Site.selected?
  rw [h.integer?, h.weights]

theorem visibility (h : here.Alike there) : (here.visibility : Node → Draw ρ _) = there.visibility := by
  funext n
  unfold Site.visibility
  rw [h.text?]

theorem payment (h : here.Alike there) : (here.payment : Node → Draw ρ _) = there.payment := by
  funext n
  unfold Site.payment
  rw [h.integer, h.integerOrOne, h.text?]

theorem test (h : here.Alike there) : (here.test : Node → Draw ρ _) = there.test := by
  funext n
  unfold Site.test
  rw [h.text, h.scope.evaluate]

theorem request (h : here.Alike there) : (here.request : Node → Draw ρ _) = there.request := by
  funext n
  unfold Site.request
  rw [h.text, h.text?, h.integer?]

theorem assignment (h : here.Alike there) : (here.assignment : Node → Draw ρ _) = there.assignment := by
  funext n
  unfold Site.assignment
  rw [h.text, h.text?, h.scope.evaluate]

theorem included (h : here.Alike there) : (here.included : Node → Draw ρ _) = there.included := by
  funext n
  unfold Site.included
  rw [h.text, h.text?, h.root]

theorem effect? (h : here.Alike there) : (here.effect? : Node → Action → Draw ρ _) = there.effect? := by
  funext n action
  unfold Site.effect?
  rw [h.text, h.text?, h.integer?, h.integer, h.integerOrOne, h.visibility]

/-- **An element comes to the same deed** in scopes that are alike. -/
theorem deed (h : here.Alike there) : (here.deed : Node → Action → Draw ρ _) = there.deed := by
  funext n action
  unfold Site.deed
  cases action with
  | context => simp only [h.narrowing]
  | unsetContext =>
    have widened := h.scope.widen?
    generalize here.scope.widen? = a, there.scope.widen? = b at widened ⊢
    cases widened with
    | ok => rfl
    | error => rfl
  | redirect => simp only [h.destination]
  | wait => simp only [h.integer]
  | loop => simp only [h.loop?]
  | random => simp only [h.selected?]
  | pay => simp only [h.payment, h.refusal]
  | branch => simp only [h.test]
  | input => simp only [h.request]
  | assignment => simp only [h.assignment]
  | inclusion => simp only [h.included]
  | finish | stop | waitForKeypress | otherwise => rfl
  | _ => simp only [h.effect?]

end Alike

end Site

/-! ## The walk -/

/-- Scenes that differ in nothing but their scopes, which are alike. -/
structure Scene.Alike {ρ η : Type} (s t : Scene ρ η) : Prop where
  scope : s.scope.Alike t.scope
  random : s.random = t.random
  frames : s.frames = t.frames
  game : s.game = t.game
  notices : s.notices = t.notices

/-- What iterations come to: the same, in scenes that are alike. -/
def Scene.AlikeStep {ρ η α : Type} (a b : Scene ρ η × α) : Prop := a.1.Alike b.1 ∧ a.2 = b.2

namespace Scene.Alike

variable {ρ η : Type} {s t : Scene ρ η}

theorem withFrames (h : s.Alike t) (frames : List Frame) :
    ({ s with frames := frames } : Scene ρ η).Alike { t with frames := frames } :=
  ⟨h.scope, h.random, rfl, h.game, h.notices⟩

theorem withRandom (h : s.Alike t) (random : ρ) :
    ({ s with random := random } : Scene ρ η).Alike { t with random := random } :=
  ⟨h.scope, rfl, h.frames, h.game, h.notices⟩

theorem withScope (h : s.Alike t) {scope scope' : Scope} (alike : scope.Alike scope') :
    ({ s with scope := scope } : Scene ρ η).Alike { t with scope := scope' } :=
  ⟨alike, h.random, h.frames, h.game, h.notices⟩

theorem close (h : s.Alike t) (f : Frame) (outer : List Frame) :
    AlikeStep (s.close f outer) (t.close f outer) := by
  unfold Scene.close
  split
  · exact ⟨h.withFrames outer, rfl⟩
  · split
    · exact ⟨h.withFrames outer, rfl⟩
    · next l _ number _ =>
      refine ⟨⟨?_, h.random, rfl, h.game, h.notices⟩, rfl⟩
      dsimp only
      split
      · exact h.scope.assign _ _
      · exact h.scope

theorem enter (h : s.Alike t) (f : Frame) : (s.enter f).Alike (t.enter f) := by
  unfold Scene.enter
  refine ⟨?_, h.random, congrArg (f :: ·) h.frames, h.game, h.notices⟩
  dsimp only
  split
  · exact h.scope.assign _ _
  · exact h.scope

theorem jump (h : s.Alike t) (target : Node) : (s.jump target).Alike (t.jump target) := h.withFrames _

theorem enact (h : s.Alike t) (host : Host η) (deed : Deed) :
    AlikeStep (s.enact host deed) (t.enact host deed) := by
  cases deed with
  | proceed | pause | ask => exact ⟨h, rfl⟩
  | enter f => exact ⟨h.enter f, rfl⟩
  | jump target => exact ⟨h.jump target, rfl⟩
  | assign name v => exact ⟨h.withScope (h.scope.assign name v), rfl⟩
  | forget name => exact ⟨h.withScope (h.scope.forget name), rfl⟩
  | narrow n => exact ⟨h.withScope (h.scope.narrow n), rfl⟩
  | finish | halt => exact ⟨h.withFrames [], rfl⟩
  | widen =>
    unfold Scene.enact
    have widened := h.scope.widen?
    generalize s.scope.widen? = a, t.scope.widen? = b at widened ⊢
    cases widened with
    | ok alike => exact ⟨h.withScope alike.2, rfl⟩
    | error fault => exact ⟨h, rfl⟩
  | perform effect refused =>
    have answered (game : η) : ({ s with game := game } : Scene ρ η).Alike { t with game := game } :=
      ⟨h.scope, h.random, h.frames, rfl, h.notices⟩
    unfold Scene.enact
    dsimp only
    rw [h.game]
    rcases host effect t.game with ⟨fault | reply, game⟩
    · exact ⟨answered game, rfl⟩
    · cases reply with
      | done => exact ⟨answered game, rfl⟩
      | refused =>
        rcases refused with fault | _ | target
        · exact ⟨answered game, rfl⟩
        · exact ⟨answered game, rfl⟩
        · exact ⟨(answered game).jump target, rfl⟩

variable [PatientSource ρ]

theorem speak (h : s.Alike t) (raw : String) : AlikeStep (s.speak raw) (t.speak raw) := by
  unfold Scene.speak
  rw [h.scope.translate, h.random]
  dsimp only
  split
  · exact ⟨h, rfl⟩
  · split
    · exact ⟨h.withRandom _, rfl⟩
    · exact ⟨h.withRandom _, rfl⟩

theorem act (h : s.Alike t) (host : Host η) (root script n : Node) :
    AlikeStep (s.act host root script n) (t.act host root script n) := by
  unfold Scene.act
  split
  · refine ⟨⟨h.scope, h.random, h.frames, h.game, ?_⟩, rfl⟩
    exact congrArg (· ++ _) h.notices
  · next action _ =>
    have site : Site.Alike ⟨root, script, s.scope⟩ ⟨root, script, t.scope⟩ := ⟨rfl, rfl, h.scope⟩
    dsimp only
    rw [site.deed, h.random]
    split
    · next deed _ => exact (h.withRandom _).enact host deed
    · exact ⟨h.withRandom _, rfl⟩

/-- **An iteration comes to the same** in scenes that are alike. -/
theorem tick (h : s.Alike t) (host : Host η) (root script : Node) :
    AlikeStep (s.tick host root script) (t.tick host root script) := by
  unfold Scene.tick
  rw [h.frames]
  split
  · exact ⟨h, rfl⟩
  · split
    · exact h.close _ _
    · dsimp only
      split
      · exact (h.withFrames _).speak _
      · exact (h.withFrames _).act host root script _

/-- Walks come to the same, with the same fuel, or to nothing with it. -/
theorem walk (h : s.Alike t) (host : Host η) (root script : Node) (limit fuel left : Nat) :
    Option.Rel AlikeStep (Scene.walk host root script limit fuel left s)
      (Scene.walk host root script limit fuel left t) := by
  induction fuel generalizing left s t with
  | zero =>
    cases left with
    | zero => exact .some ⟨h, rfl⟩
    | succ left => exact .none
  | succ fuel ih =>
    cases left with
    | zero => exact .some ⟨h, rfl⟩
    | succ left =>
      unfold Scene.walk
      have ticked := h.tick host root script
      generalize s.tick host root script = a, t.tick host root script = b at ticked ⊢
      obtain ⟨s', step⟩ := a
      obtain ⟨t', step'⟩ := b
      obtain ⟨alike, rfl⟩ : s'.Alike t' ∧ step = step' := ticked
      cases step with
      | quiet => exact ih alike left
      | round => exact ih alike limit
      | shown output => exact .some ⟨alike, rfl⟩
      | failed fault => exact .some ⟨alike, rfl⟩

end Scene.Alike

/-! ## What a caller can do -/

namespace Script

/-- Everything that a caller can do with a script, whose games have this state. -/
inductive Operation (η : Type) where
  | load (root : Node) (id : String) (sub : Option (String × String))
  | unload
  | start (label : String)
  /-- A call for output, with the host of the game, and fuel. -/
  | next (host : Host η) (fuel : Nat)
  | submit (raw : String)
  | pushContext (label : String) (id : Option String)
  | popContext
  | withProvider (qualifier : String) (provider : Provider)
  | assign (name : String) (v : Value)
  | forget (name : String)
  | translate (text : String)
  | evaluate (text : String)
  | value (name : String)
  | int? (name : String)
  | str? (name : String)

/-- What a caller learns from an operation. -/
inductive Answer where
  | done (result : Except Fault Unit)
  | node (result : Except Fault Node)
  /-- The effects that were asked for, what was noticed, and what is shown. -/
  | output (effects : List Effect) (notices : List String) (result : Except Fault Output)
  | text (result : Except Fault String)
  | operand (result : Except Fault Expr.Operand)
  | value (v : Value)
  | integer (result : Except Fault Int64)

section

variable {ρ η : Type}

/-- The script behind an operation that changes it if it does not fail, and what is learnt. -/
def settle (s : Script ρ) : Except Fault (Script ρ) → Script ρ × Answer
  | .ok s' => (s', .done (.ok ()))
  | .error fault => (s, .done (.error fault))

/-- The script behind an operation that also finds a node, and what is learnt. -/
def settleNode (s : Script ρ) : Except Fault (Node × Script ρ) → Script ρ × Answer
  | .ok (n, s') => (s', .node (.ok n))
  | .error fault => (s, .node (.error fault))

/-- The script behind an operation other than a call for output, and what is learnt. -/
def operate [PatientSource ρ] (s : Script ρ) (game : η) :
    Operation η → Option ((Script ρ × Answer) × η)
  | .load root id sub => some (settle s (s.load root id sub), game)
  | .unload => some ((s.unload, .done (.ok ())), game)
  | .start label => some (settle s (s.start label), game)
  | .next host fuel =>
    (s.next host.logged fuel (game, [])).map fun a =>
      ((a.script, .output a.game.2 a.notices a.result), a.game.1)
  | .submit raw => some (settle s (s.submit raw), game)
  | .pushContext label id => some (settleNode s (s.pushContext label id), game)
  | .popContext => some (settleNode s s.popContext, game)
  | .withProvider qualifier provider => some ((s.withProvider qualifier provider, .done (.ok ())), game)
  | .assign name v => some ((s.assign name v, .done (.ok ())), game)
  | .forget name => some ((s.forget name, .done (.ok ())), game)
  | .translate text => some (((s.translate text).2, .text (s.translate text).1), game)
  | .evaluate text => some ((s, .operand (s.evaluate text)), game)
  | .value name => some ((s, .value (s.scope.value name)), game)
  | .int? name => some ((s, .integer (s.scope.int? name)), game)
  | .str? name => some ((s, .text (s.scope.str? name)), game)

/-- Operations one after the other: the script and the game behind them, and all answers.  There is nothing
behind a call that does not return. -/
def perform [PatientSource ρ] (s : Script ρ) (game : η) :
    List (Operation η) → Option ((Script ρ × List Answer) × η)
  | [] => some ((s, []), game)
  | o :: os =>
    match operate s game o with
    | none => none
    | some ((s, answer), game) =>
      (perform s game os).map fun later => ((later.1.1, answer :: later.1.2), later.2)

end

/-- Scripts that differ in nothing but their scopes, which are alike. -/
structure Alike {ρ : Type} (s t : Script ρ) : Prop where
  scope : s.scope.Alike t.scope
  random : s.random = t.random
  stepLimit : s.stepLimit = t.stepLimit
  play : s.play = t.play

/-- Calls for output that come to the same, with scripts behind them that are alike. -/
structure AlikeAdvance {ρ η : Type} (a b : Advance ρ η) : Prop where
  script : a.script.Alike b.script
  game : a.game = b.game
  notices : a.notices = b.notices
  result : a.result = b.result

/-- Scripts that are alike, with the same answers. -/
def AlikeAnswered {ρ α : Type} (a b : Script ρ × α) : Prop := a.1.Alike b.1 ∧ a.2 = b.2

/-- The same also of the games around them. -/
def AlikeReplied {ρ η α : Type} (a b : (Script ρ × α) × η) : Prop :=
  AlikeAnswered a.1 b.1 ∧ a.2 = b.2

namespace Alike

variable {ρ η : Type} {s t : Script ρ}

theorem withScope (h : s.Alike t) {scope scope' : Scope} (alike : scope.Alike scope') :
    ({ s with scope := scope } : Script ρ).Alike { t with scope := scope' } :=
  ⟨alike, h.random, h.stepLimit, h.play⟩

theorem withPass (h : s.Alike t) (pass : Pass) : (s.withPass pass).Alike (t.withPass pass) :=
  ⟨h.scope, h.random, h.stepLimit, congrArg (Option.map _) h.play⟩

theorem assign (h : s.Alike t) (name : String) (v : Value) : (s.assign name v).Alike (t.assign name v) :=
  h.withScope (h.scope.assign name v)

theorem settle (h : s.Alike t) {a b : Except Fault (Script ρ)} (results : Related Alike a b) :
    AlikeAnswered (settle s a) (Script.settle t b) := by
  cases results with
  | ok alike => exact ⟨alike, rfl⟩
  | error fault => exact ⟨h, rfl⟩

theorem settleNode (h : s.Alike t) {a b : Except Fault (Node × Script ρ)}
    (results : Related (fun a b => a.1 = b.1 ∧ a.2.Alike b.2) a b) :
    AlikeAnswered (settleNode s a) (Script.settleNode t b) := by
  cases results with
  | ok alike => exact ⟨alike.2, congrArg (Answer.node ∘ Except.ok) alike.1⟩
  | error fault => exact ⟨h, rfl⟩

theorem load (h : s.Alike t) (root : Node) (id : String) (sub : Option (String × String)) :
    Related Alike (s.load root id sub) (t.load root id sub) := by
  have loaded (base script : Node) : Alike
      { s with scope := { s.scope with focus := [base] }, play := some ⟨root, script, .idle⟩ }
      { t with scope := { t.scope with focus := [base] }, play := some ⟨root, script, .idle⟩ } :=
    ⟨h.scope.withFocus [base], h.random, h.stepLimit, rfl⟩
  unfold Script.load
  cases findScript? root id with
  | none => exact .error _
  | some script =>
    cases sub with
    | none => exact .ok (loaded script script)
    | some sub =>
      dsimp only
      cases root.findBelow? (.byId sub.1 (some sub.2)) with
      | none => exact .error _
      | some base => exact .ok (loaded base script)

theorem unload (h : s.Alike t) : s.unload.Alike t.unload :=
  ⟨h.scope.withFocus [], h.random, h.stepLimit, rfl⟩

theorem start (h : s.Alike t) (label : String) : Related Alike (s.start label) (t.start label) := by
  unfold Script.start
  rw [h.play]
  split
  · exact .error _
  · split
    · exact .error _
    · exact .ok (h.withPass _)

theorem submit (h : s.Alike t) (raw : String) : Related Alike (s.submit raw) (t.submit raw) := by
  unfold Script.submit
  rw [h.play]
  split
  · exact .error _
  · split
    · next request frames _ =>
      cases request.read raw with
      | error fault => exact .error fault
      | ok v =>
        cases request.target with
        | none => exact .ok (h.withPass _)
        | some name => exact .ok ((h.assign name v).withPass _)
    · exact .error _

theorem pushContext (h : s.Alike t) (label : String) (id : Option String) :
    Related (fun a b => a.1 = b.1 ∧ a.2.Alike b.2) (s.pushContext label id) (t.pushContext label id) := by
  unfold Script.pushContext
  rw [h.scope.narrower?]
  cases t.scope.narrower? label id with
  | error fault => exact .error fault
  | ok n => exact .ok ⟨rfl, h.withScope (h.scope.narrow n)⟩

theorem popContext (h : s.Alike t) :
    Related (fun a b => a.1 = b.1 ∧ a.2.Alike b.2) s.popContext t.popContext := by
  unfold Script.popContext
  have widened := h.scope.widen?
  generalize s.scope.widen? = a, t.scope.widen? = b at widened ⊢
  cases widened with
  | ok alike => exact .ok ⟨alike.1, h.withScope alike.2⟩
  | error fault => exact .error fault

variable [PatientSource ρ]

theorem translate (h : s.Alike t) (text : String) :
    (s.translate text).1 = (t.translate text).1 ∧ (s.translate text).2.Alike (t.translate text).2 := by
  unfold Script.translate
  rw [h.scope.translate, h.random]
  exact ⟨rfl, h.scope, rfl, h.stepLimit, h.play⟩

/-- **A call for output comes to the same**, or does not return for either. -/
theorem next (h : s.Alike t) (host : Host η) (fuel : Nat) (game : η) :
    Option.Rel AlikeAdvance (s.next host fuel game) (t.next host fuel game) := by
  unfold Script.next
  rw [h.play]
  split
  · exact .some ⟨h, rfl, rfl, rfl⟩
  · next p _ =>
    split
    · exact .some ⟨h, rfl, rfl, rfl⟩
    · exact .some ⟨h, rfl, rfl, rfl⟩
    · exact .some ⟨h, rfl, rfl, rfl⟩
    · next frames _ =>
      have scene : (s.scene frames game).Alike (t.scene frames game) := ⟨h.scope, h.random, rfl, rfl, rfl⟩
      have walked := scene.walk host p.root p.script t.stepLimit fuel t.stepLimit
      rw [h.stepLimit]
      generalize Scene.walk host p.root p.script t.stepLimit fuel t.stepLimit (s.scene frames game) = a,
        Scene.walk host p.root p.script t.stepLimit fuel t.stepLimit (t.scene frames game) = b at walked ⊢
      cases walked with
      | none => exact .none
      | some related =>
        obtain ⟨alike, same⟩ := related
        refine .some ⟨⟨alike.scope, alike.random, h.stepLimit, ?_⟩, alike.game, alike.notices, same⟩
        simp only [afterWalk, same, alike.frames]

/-- **An operation is answered alike.** -/
theorem operate (h : s.Alike t) (game : η) (o : Operation η) :
    Option.Rel AlikeReplied (operate s game o) (Script.operate t game o) := by
  cases o with
  | load root id sub => exact .some ⟨h.settle (h.load root id sub), rfl⟩
  | unload => exact .some ⟨⟨h.unload, rfl⟩, rfl⟩
  | start label => exact .some ⟨h.settle (h.start label), rfl⟩
  | next host fuel =>
    have called := h.next host.logged fuel (game, [])
    unfold Script.operate
    dsimp only
    generalize s.next host.logged fuel (game, []) = a, t.next host.logged fuel (game, []) = b at called ⊢
    cases called with
    | none => exact .none
    | some related =>
      refine .some ⟨⟨related.script, ?_⟩, congrArg Prod.fst related.game⟩
      simp only [related.game, related.notices, related.result]
  | submit raw => exact .some ⟨h.settle (h.submit raw), rfl⟩
  | pushContext label id => exact .some ⟨h.settleNode (h.pushContext label id), rfl⟩
  | popContext => exact .some ⟨h.settleNode h.popContext, rfl⟩
  | withProvider qualifier provider =>
    have providers := congrArg (·.insert qualifier provider) h.scope.providers
    exact .some ⟨⟨h.withScope ⟨h.scope.store, providers, h.scope.focus⟩, rfl⟩, rfl⟩
  | assign name v => exact .some ⟨⟨h.assign name v, rfl⟩, rfl⟩
  | forget name => exact .some ⟨⟨h.withScope (h.scope.forget name), rfl⟩, rfl⟩
  | translate text =>
    obtain ⟨same, alike⟩ := h.translate text
    exact .some ⟨⟨alike, congrArg Answer.text same⟩, rfl⟩
  | evaluate text =>
    exact .some ⟨⟨h, congrArg (fun f => Answer.operand (f text)) h.scope.evaluate⟩, rfl⟩
  | value name => exact .some ⟨⟨h, congrArg (fun f => Answer.value (f name)) h.scope.value⟩, rfl⟩
  | int? name => exact .some ⟨⟨h, congrArg (fun f => Answer.integer (f name)) h.scope.int?⟩, rfl⟩
  | str? name => exact .some ⟨⟨h, congrArg (fun f => Answer.text (f name)) h.scope.str?⟩, rfl⟩

/-- **Unset and missing variables cannot be told apart.**  Whatever a caller does with scripts that differ in
nothing else, it gets the same answers, with the same effects on the same game, and the scripts go on
differing in nothing else. -/
theorem answers_alike (h : s.Alike t) (game : η) (os : List (Operation η)) :
    Option.Rel AlikeReplied (perform s game os) (perform t game os) := by
  induction os generalizing s t game with
  | nil => exact .some ⟨⟨h, rfl⟩, rfl⟩
  | cons o os ih =>
    have operated := h.operate game o
    unfold perform
    generalize Script.operate s game o = a, Script.operate t game o = b at operated ⊢
    cases operated with
    | none => exact .none
    | @some a b related =>
      obtain ⟨⟨s', answer⟩, game'⟩ := a
      obtain ⟨⟨t', _⟩, _⟩ := b
      obtain ⟨⟨alike, rfl⟩, rfl⟩ : (s'.Alike t' ∧ _) ∧ _ := related
      have later := ih alike game'
      dsimp only
      generalize perform s' game' os = a, perform t' game' os = b at later ⊢
      cases later with
      | none => exact .none
      | some related =>
        exact .some ⟨⟨related.1.1, congrArg (answer :: ·) related.1.2⟩, related.2⟩

end Alike

/-! ## A key press -/

namespace Keypress

/-- A document that waits for a key behind an effect. -/
def document : Node :=
  .element 0 none "script" [("id", "s")] [.element 1 none "a" []
    [.element 2 none "sleep" [] [], .element 3 none "wait_for_keypress" [] []]]

/-- A sitting with that document, and a look at a variable. -/
def operations : List (Operation Unit) :=
  [.load document "s" none, .start "a", .next Host.obliging 9, .submit "", .str? "k"]

/-- A script without variables. -/
def missing : Script Listed := Script.new ⟨[]⟩ 10

/-- The same script with a variable that is unset. -/
def unset : Script Listed := missing.assign "k" .unset

theorem alike : unset.Alike missing := ⟨Scope.Alike.assign_forget missing.scope "k", rfl, rfl, rfl⟩

end Keypress

open Keypress in
/-- What is learnt of the variable is in both cases that it is unset. -/
theorem answers_alike_of_keypress :
    unset.scope.store.get? "k" = some .unset ∧ missing.scope.store.get? "k" = none ∧
      unset.Alike missing ∧
      Option.Rel AlikeReplied (perform unset () operations) (perform missing () operations) ∧
      ∃ s, perform unset () operations = some ((s, [.done (.ok ()), .done (.ok ()),
        .output [.sleep] [] (.ok (.input .keypress)), .done (.ok ()),
        .text (.error (.variableKind "k" "unset" "string"))]), ()) :=
  ⟨rfl, rfl, alike, alike.answers_alike () operations, _, rfl⟩

end Script

end Colloquy
