import Colloquy.Proofs.Script.Guard
import Colloquy.Proofs.Script.Iteration

/-!
# What deciding costs

What an element decides it decides by reading texts and expressions in its scope.  That draws random numbers
and may fail, and this is all that comes of it (`Site.behaves_deed`): the source is some draws further on, and
a fault is one of the script's own or one that a provider of the scope reports.

The code of the guard is not among those of the script's own faults (`Fault.isGuards`).  So an iteration that
fails with it has the fault from outside the script (`Scene.isForeign_of_tick`).

### What is load-bearing

`Draw.Behaves` is closed under all the ways to build a computation, so there is one lemma for each function
that an element's deed is put together from, and each is the composition of those before it.

## Main definitions

* `Draw.Behaves`: computations that only draw and raise faults of one kind.
* `Scope.Raises`: the faults that reading in a scope can raise.
* `Fault.IsForeign`: faults that the providers or the game can have made up.
* `Scene.Precedes`: what iterations never do to a scene.
-/

namespace Colloquy

/-! ## Draws -/

section Draws

variable {ρ : Type}

theorem stateAfter_add (next : ρ → UInt32 × ρ) (m n : Nat) (r : ρ) :
    stateAfter next (m + n) r = stateAfter next n (stateAfter next m r) := by
  induction m generalizing r with
  | zero => rw [Nat.zero_add, stateAfter]
  | succ m ih => rw [Nat.succ_add, stateAfter_succ, stateAfter_succ, ih]

/-- The search leaves the state behind some words. -/
theorem exists_stateAfter_firstBelow (next : ρ → UInt32 × ρ) (limit patience : Nat) (r : ρ) :
    ∃ k, (firstBelow next limit patience r).2 = stateAfter next k r := by
  induction patience generalizing r with
  | zero => exact ⟨1, rfl⟩
  | succ patience ih =>
    unfold firstBelow
    dsimp only
    split
    · exact ⟨1, rfl⟩
    · obtain ⟨k, same⟩ := ih (next r).2
      exact ⟨k + 1, same⟩

theorem exists_stateAfter_drawBelow [PatientSource ρ] (bound : UInt32) (r : ρ) :
    ∃ k, (drawBelow bound r).2 = stateAfter RandomSource.next k r := by
  unfold drawBelow
  split
  · exact ⟨0, rfl⟩
  · exact exists_stateAfter_firstBelow _ _ _ r

end Draws

/-! ## Computations -/

namespace Draw

variable {ρ α β : Type} [PatientSource ρ]

/-- The computation only draws, and fails only with faults of this kind. -/
structure Behaves (F : Fault → Prop) (d : Draw ρ α) : Prop where
  advances : ∀ r, ∃ k, (d.run.run r).2 = stateAfter RandomSource.next k r
  raises : ∀ r fault, (d.run.run r).1 = .error fault → F fault

variable {F : Fault → Prop} {d : Draw ρ α} {f : α → Draw ρ β}

theorem behaves_pure (a : α) : (pure a : Draw ρ α).Behaves F :=
  ⟨fun _ => ⟨0, rfl⟩, fun _ _ no => by cases no⟩

theorem behaves_throw {fault : Fault} (h : F fault) : (throw fault : Draw ρ α).Behaves F := by
  refine ⟨fun _ => ⟨0, rfl⟩, fun _ _ same => ?_⟩
  cases same
  exact h

/-- Behind a fault nothing more is done. -/
theorem behaves_throw_bind {fault : Fault} (h : F fault) : ((throw fault : Draw ρ α) >>= f).Behaves F := by
  refine ⟨fun _ => ⟨0, rfl⟩, fun _ _ same => ?_⟩
  cases same
  exact h

theorem behaves_lift {e : Except Fault α} (h : ∀ fault, e = .error fault → F fault) :
    (liftM e : Draw ρ α).Behaves F :=
  ⟨fun _ => ⟨0, rfl⟩, fun _ fault same => h fault same⟩

theorem behaves_below (bound : UInt32) : (Draw.below bound : Draw ρ UInt32).Behaves F :=
  ⟨fun r => exists_stateAfter_drawBelow bound r, fun _ _ no => by cases no⟩

theorem Behaves.bind (first : d.Behaves F) (next : ∀ a, (f a).Behaves F) : (d >>= f).Behaves F := by
  constructor
  · intro r
    rw [run_bind]
    obtain ⟨k, same⟩ := first.advances r
    rcases given : d.run.run r with ⟨_ | a, r'⟩
    · rw [given] at same
      exact ⟨k, same⟩
    · rw [given] at same
      obtain ⟨j, same'⟩ := (next a).advances r'
      refine ⟨k + j, ?_⟩
      rw [stateAfter_add, ← same]
      exact same'
  · intro r fault failed
    rw [run_bind] at failed
    have own := first.raises r
    rcases given : d.run.run r with ⟨_ | a, r'⟩
    · rw [given] at failed own
      cases failed
      exact own _ rfl
    · rw [given] at failed
      exact (next a).raises r' fault failed

end Draw

/-! ## Expressions -/

namespace Expr

variable {setting : Setting} {text : String} {fault : Fault}

/-- The fault is about the expression, or a dotted name in it has no text because of it. -/
def Blames (setting : Setting) (text : String) (fault : Fault) : Prop :=
  (∃ problem, fault = .expression text problem) ∨ ∃ parts, setting.resolve parts = .error fault

theorem blames_of_mapError {result : Except Problem Operand}
    (failed : result.mapError (.expression text) = .error fault) : Blames setting text fault := by
  cases result with
  | error problem =>
    cases failed
    exact .inl ⟨problem, rfl⟩
  | ok x => cases failed

theorem blames_of_wordValue {word : String} (failed : wordValue setting word = .error fault) :
    Blames setting text fault := by
  unfold wordValue at failed
  split at failed
  · cases answer : setting.resolve (Text.splitOn '.' word) with
    | error raised =>
      rw [answer] at failed
      cases failed
      exact .inr ⟨_, answer⟩
    | ok answered =>
      rw [answer] at failed
      cases failed
  · split at failed
    · cases failed
    · split at failed
      · cases failed
      · cases failed

/-- A tree has no value because of an operator, or because a name in it has no text. -/
theorem blames_of_eval {e : Expr} (failed : eval setting text e = .error fault) :
    Blames setting text fault := by
  induction e generalizing fault with
  | int | str | var => cases failed
  | word s => exact blames_of_wordValue failed
  | sign s e ih =>
    unfold eval at failed
    cases left : eval setting text e with
    | error raised =>
      rw [left] at failed
      cases failed
      exact ih left
    | ok x =>
      rw [left] at failed
      exact blames_of_mapError failed
  | binary s l r ihl ihr =>
    unfold eval at failed
    cases left : eval setting text l with
    | error raised =>
      rw [left] at failed
      cases failed
      exact ihl left
    | ok x =>
      rw [left] at failed
      cases right : eval setting text r with
      | error raised =>
        rw [right] at failed
        cases failed
        exact ihr right
      | ok y =>
        rw [right] at failed
        exact blames_of_mapError failed
  | missing reason =>
    cases failed
    exact .inl ⟨_, rfl⟩
  | broken e reason ih =>
    unfold eval at failed
    cases left : eval setting text e with
    | error raised =>
      rw [left] at failed
      cases failed
      exact ih left
    | ok x =>
      rw [left] at failed
      cases failed
      exact .inl ⟨_, rfl⟩

theorem blames_of_evaluate (failed : evaluate setting text = .error fault) : Blames setting text fault := by
  unfold evaluate at failed
  split at failed
  · cases failed
    exact .inl ⟨_, rfl⟩
  · next tokens read =>
    unfold evaluateTokens at failed
    split at failed
    · cases failed
      exact .inl ⟨_, rfl⟩
    · exact blames_of_eval failed

end Expr

/-! ## Texts -/

namespace Scope

variable {s : Scope} {fault : Fault}

/-- A provider of the scope answers some name with this fault. -/
def Reports (s : Scope) (fault : Fault) : Prop :=
  ∃ qualifier provider parts, s.providers.get? qualifier = some provider ∧ provider parts = .error fault

/-- What reading in the scope can raise: a fault that is not the guard's, or one that a provider reports. -/
def Raises (s : Scope) (fault : Fault) : Prop := fault.isGuards = true → s.Reports fault

theorem raises_own (own : fault.isGuards = false) : s.Raises fault := by
  intro guards
  rw [own] at guards
  cases guards

theorem raises_of_resolve {parts : List String} (failed : s.resolve parts = .error fault) : s.Raises fault := by
  unfold resolve at failed
  dsimp only at failed
  split at failed
  · next provider registered => exact fun _ => ⟨_, provider, parts, registered, failed⟩
  · cases failed
    exact raises_own rfl

theorem raises_of_noun {name : String} (failed : s.noun name = .error fault) : s.Raises fault := by
  unfold noun at failed
  split at failed
  · cases failed
    exact raises_own rfl
  · split at failed
    · cases failed
    · cases failed
      exact raises_own rfl

theorem raises_of_evaluate {text : String} (failed : s.evaluate text = .error fault) : s.Raises fault := by
  rcases Expr.blames_of_evaluate failed with ⟨problem, rfl⟩ | ⟨parts, unanswered⟩
  · exact raises_own (by cases problem <;> rfl)
  · exact raises_of_resolve unanswered

theorem raises_of_narrower? {label : String} {id : Option String}
    (failed : s.narrower? label id = .error fault) : s.Raises fault := by
  unfold narrower? at failed
  split at failed
  · cases failed
    exact raises_own rfl
  · split at failed
    · cases failed
    · cases failed
      exact raises_own rfl

theorem raises_of_widen? (failed : s.widen? = .error fault) : s.Raises fault := by
  unfold widen? at failed
  split at failed
  · cases failed
  · cases failed
    exact raises_own rfl

theorem raises_of_read {raw : String} (failed : Input.Kind.read raw = .error fault) : s.Raises fault := by
  unfold Input.Kind.read at failed
  dsimp only at failed
  split at failed
  · cases failed
  · split at failed
    · cases failed
    · cases failed
      exact raises_own rfl

variable {ρ : Type} [PatientSource ρ]

open Draw

theorem behaves_evaluate (text : String) :
    (liftM (s.evaluate text) : Draw ρ Expr.Operand).Behaves s.Raises :=
  behaves_lift fun _ => raises_of_evaluate

theorem behaves_apply (function argument : String) :
    (s.apply function argument : Draw ρ String).Behaves s.Raises := by
  unfold apply
  split
  · exact (behaves_evaluate argument).bind fun _ => behaves_pure _
  · split
    · exact (behaves_evaluate argument).bind fun _ => behaves_pure _
    · split
      · refine (behaves_evaluate argument).bind fun x => ?_
        split
        · exact (behaves_below _).bind fun _ => behaves_pure _
        · exact behaves_throw (raises_own rfl)
      · exact behaves_throw (raises_own rfl)

theorem behaves_resolveBlock (block : List Char) : (s.resolveBlock block : Draw ρ String).Behaves s.Raises := by
  unfold resolveBlock
  split
  · exact behaves_pure _
  · split
    · exact behaves_apply _ _
    · split
      · exact behaves_lift fun _ => raises_of_resolve
      · exact behaves_lift fun _ => raises_of_noun

mutual

theorem behaves_expand (s : Scope) : ∀ f : Fragment, (s.expand f : Draw ρ (List Char)).Behaves s.Raises
  | .char c => by
      rw [expand]
      exact behaves_pure _
  | .block inside => by
      rw [expand]
      exact (behaves_expandAll s inside).bind fun _ => (behaves_resolveBlock _).bind fun _ => behaves_pure _

theorem behaves_expandAll (s : Scope) :
    ∀ fs : List Fragment, (s.expandAll fs : Draw ρ (List Char)).Behaves s.Raises
  | [] => by
      rw [expandAll]
      exact behaves_pure _
  | f :: fs => by
      rw [expandAll]
      exact (behaves_expand s f).bind fun _ => (behaves_expandAll s fs).bind fun _ => behaves_pure _

end

/-- **Reading a text only draws**, and no fault that it raises of its own is the guard's. -/
theorem behaves_translate (text : String) : (s.translate text : Draw ρ String).Behaves s.Raises := by
  unfold translate
  refine (behaves_expandAll s _).bind fun _ => ?_
  split
  · exact behaves_pure _
  · exact behaves_throw (raises_own rfl)

end Scope

/-! ## Elements -/

namespace Site

open Draw

variable {ρ : Type} [PatientSource ρ] (site : Site) (n : Node) (name : String)

theorem behaves_text? : (site.text? n name : Draw ρ (Option String)).Behaves site.scope.Raises := by
  unfold text?
  split
  · exact (Scope.behaves_translate _).bind fun _ => behaves_pure _
  · exact behaves_pure _

theorem behaves_text : (site.text n name : Draw ρ String).Behaves site.scope.Raises := by
  unfold text
  refine (behaves_text? site n name).bind fun found => ?_
  split
  · exact behaves_pure _
  · exact behaves_throw (Scope.raises_own rfl)

theorem behaves_integer? : (site.integer? n name : Draw ρ (Option Int64)).Behaves site.scope.Raises := by
  unfold integer?
  refine (behaves_text? site n name).bind fun found => ?_
  split
  · refine (Scope.behaves_evaluate _).bind fun x => ?_
    split
    · exact behaves_pure _
    · exact behaves_throw (Scope.raises_own rfl)
  · exact behaves_pure _

theorem behaves_integer : (site.integer n name : Draw ρ Int64).Behaves site.scope.Raises := by
  unfold integer
  refine (behaves_integer? site n name).bind fun found => ?_
  split
  · exact behaves_pure _
  · exact behaves_throw (Scope.raises_own rfl)

theorem behaves_integerOrOne : (site.integerOrOne n name : Draw ρ Int64).Behaves site.scope.Raises :=
  (behaves_integer? site n name).bind fun _ => behaves_pure _

theorem behaves_narrowing : (site.narrowing n : Draw ρ Node).Behaves site.scope.Raises :=
  (behaves_text site n _).bind fun _ => (behaves_text? site n _).bind fun _ =>
    behaves_lift fun _ => Scope.raises_of_narrower?

theorem behaves_destination : (site.destination n : Draw ρ Node).Behaves site.scope.Raises := by
  unfold destination
  refine (behaves_text site n _).bind fun label => (behaves_text? site n _).bind fun id =>
    (behaves_text? site n _).bind fun fallback => ?_
  dsimp only
  split
  · exact behaves_pure _
  · exact behaves_throw (Scope.raises_own rfl)

theorem behaves_lastPass? (start step : Int64) :
    (site.lastPass? n start step : Draw ρ (Option Int64)).Behaves site.scope.Raises := by
  unfold lastPass?
  refine (behaves_integer? site n _).bind fun count? => ?_
  split
  · split
    · exact behaves_pure _
    · dsimp only
      split
      · exact behaves_pure _
      · exact behaves_throw (Scope.raises_own rfl)
  · exact (behaves_integer site n _).bind fun _ => behaves_pure _

theorem behaves_loop? : (site.loop? n : Draw ρ (Option Loop)).Behaves site.scope.Raises := by
  unfold loop?
  refine (behaves_text? site n _).bind fun iterator => (behaves_integerOrOne site n _).bind fun start =>
    (behaves_integerOrOne site n _).bind fun step => ?_
  split
  · exact behaves_throw_bind (Scope.raises_own rfl)
  · refine (behaves_lastPass? site n start step).bind fun last? => ?_
    split
    · exact behaves_pure _
    · exact behaves_pure _

theorem behaves_weights (ns : List Node) :
    (site.weights ns : Draw ρ (List (Node × Int64))).Behaves site.scope.Raises := by
  induction ns with
  | nil => exact behaves_pure _
  | cons n ns ih => exact (behaves_integerOrOne site n _).bind fun _ => ih.bind fun _ => behaves_pure _

theorem behaves_selected? : (site.selected? n : Draw ρ (Option Node)).Behaves site.scope.Raises := by
  unfold selected?
  refine (behaves_integer? site n _).bind fun chance? => ?_
  split
  · refine (behaves_below _).bind fun draw => ?_
    split
    · exact behaves_pure _
    · exact behaves_pure _
  · refine (behaves_weights site _).bind fun weighted => ?_
    split
    · exact behaves_throw (Scope.raises_own rfl)
    · split
      · exact behaves_throw (Scope.raises_own rfl)
      split
      · exact behaves_pure _
      · exact (behaves_below _).bind fun _ => behaves_pure _

theorem behaves_visibility : (site.visibility n : Draw ρ Bool).Behaves site.scope.Raises := by
  unfold visibility
  refine (behaves_text? site n _).bind fun enable => ?_
  split
  · exact behaves_pure _
  · split
    · exact behaves_pure _
    · split
      · exact behaves_pure _
      · exact behaves_throw (Scope.raises_own rfl)

theorem behaves_payment : (site.payment n : Draw ρ (Effect × Option String)).Behaves site.scope.Raises :=
  (behaves_integer site n _).bind fun _ => (behaves_integerOrOne site n _).bind fun _ =>
    (behaves_text? site n _).bind fun _ => behaves_pure _

theorem behaves_test : (site.test n : Draw ρ Expr.Operand).Behaves site.scope.Raises :=
  (behaves_text site n _).bind fun _ => Scope.behaves_evaluate _

theorem behaves_request : (site.request n : Draw ρ Input.Request).Behaves site.scope.Raises := by
  unfold request
  refine (behaves_text site n _).bind fun name => (behaves_lift fun _ => Scope.raises_of_read).bind fun kind =>
    (behaves_text? site n _).bind fun target => (behaves_integer? site n _).bind fun length? => ?_
  have options : ∀ maxLength : Option Nat, Draw.Behaves (ρ := ρ) site.scope.Raises (do
      let options ← site.text? n "options"
      return (⟨kind, target, maxLength, options.map Text.lower⟩ : Input.Request)) :=
    fun _ => (behaves_text? site n _).bind fun _ => behaves_pure _
  split
  · split
    · exact behaves_throw_bind (Scope.raises_own rfl)
    · exact options _
  · exact options _

theorem behaves_assignment : (site.assignment n : Draw ρ (String × Option Value)).Behaves site.scope.Raises := by
  unfold assignment
  refine (behaves_text site n _).bind fun name => (behaves_text? site n _).bind fun expr => ?_
  split
  · exact (Scope.behaves_evaluate _).bind fun _ => behaves_pure _
  · exact (behaves_text? site n _).bind fun _ => behaves_pure _

theorem behaves_included : (site.included n : Draw ρ Node).Behaves site.scope.Raises := by
  unfold included
  refine (behaves_text site n _).bind fun id => (behaves_text? site n _).bind fun block => ?_
  dsimp only
  split
  · exact behaves_pure _
  · exact behaves_throw (Scope.raises_own rfl)

theorem behaves_effect? (action : Action) :
    (site.effect? n action : Draw ρ (Option Effect)).Behaves site.scope.Raises := by
  unfold effect?
  split
  · exact (behaves_integer? site n _).bind fun _ => (behaves_integer? site n _).bind fun _ =>
      (behaves_integer? site n _).bind fun _ => behaves_pure _
  · exact behaves_pure _
  · exact (behaves_visibility site n).bind fun _ => behaves_pure _
  · exact (behaves_text site n _).bind fun _ => (behaves_text? site n _).bind fun _ =>
      (behaves_integerOrOne site n _).bind fun _ => behaves_pure _
  · exact (behaves_text site n _).bind fun _ => (behaves_text? site n _).bind fun _ =>
      (behaves_integerOrOne site n _).bind fun _ => behaves_pure _
  · exact (behaves_text? site n _).bind fun _ => (behaves_integer? site n _).bind fun _ => behaves_pure _
  · exact (behaves_text site n _).bind fun _ => (behaves_integer? site n _).bind fun _ => behaves_pure _
  · exact (behaves_integer? site n _).bind fun _ => (behaves_integer site n _).bind fun _ => behaves_pure _
  · exact (behaves_text site n _).bind fun _ => (behaves_integerOrOne site n _).bind fun _ => behaves_pure _
  · exact (behaves_text site n _).bind fun _ => behaves_pure _
  · exact (behaves_integer? site n _).bind fun _ => behaves_pure _
  · exact behaves_pure _

/-- **Deciding what an element does only draws**, and no fault that it raises of its own is the guard's. -/
theorem behaves_deed (action : Action) : (site.deed n action : Draw ρ Deed).Behaves site.scope.Raises := by
  cases action with
  | context => exact (behaves_narrowing site n).bind fun _ => behaves_pure _
  | unsetContext => exact (behaves_lift fun _ => Scope.raises_of_widen?).bind fun _ => behaves_pure _
  | finish | stop | waitForKeypress | otherwise => exact behaves_pure _
  | redirect => exact (behaves_destination site n).bind fun _ => behaves_pure _
  | wait => exact (behaves_integer site n _).bind fun _ => behaves_pure _
  | loop => exact (behaves_loop? site n).bind fun _ => behaves_pure _
  | random => exact (behaves_selected? site n).bind fun _ => behaves_pure _
  | pay => exact (behaves_payment site n).bind fun _ => behaves_pure _
  | branch => exact (behaves_test site n).bind fun _ => behaves_pure _
  | input => exact (behaves_request site n).bind fun _ => behaves_pure _
  | assignment => exact (behaves_assignment site n).bind fun _ => behaves_pure _
  | inclusion => exact (behaves_included site n).bind fun _ => behaves_pure _
  | move | sleep | cursor | add | lose | heal | castSpell | damage | karma | music | ztats =>
    exact (behaves_effect? site n _).bind fun _ => behaves_pure _

end Site

/-! ## Iterations -/

/-- Somebody outside the script can have made the fault up: a provider of the scope, or the game. -/
def Fault.IsForeign {η : Type} (host : Host η) (scope : Scope) (fault : Fault) : Prop :=
  scope.Reports fault ∨ ∃ effect game, (host effect game).1 = .error fault

theorem Fault.IsForeign.congr {η : Type} {host : Host η} {scope scope' : Scope} {fault : Fault}
    (h : fault.IsForeign host scope) (providers : scope.providers = scope'.providers) :
    fault.IsForeign host scope' := by
  unfold IsForeign Scope.Reports at h ⊢
  rw [← providers]
  exact h

namespace Scene

variable {ρ η : Type} [PatientSource ρ]

/-- The scene `t` can be behind `s`: its source is some draws further on, and its providers are the same. -/
structure Precedes (s t : Scene ρ η) : Prop where
  random : ∃ k, t.random = stateAfter RandomSource.next k s.random
  providers : t.scope.providers = s.scope.providers

variable {host : Host η} {root script : Node} {s t u : Scene ρ η} {fault : Fault}

theorem precedes_of_eq (random : t.random = s.random) (providers : t.scope.providers = s.scope.providers) :
    s.Precedes t :=
  ⟨⟨0, random⟩, providers⟩

theorem Precedes.trans (first : s.Precedes t) (later : t.Precedes u) : s.Precedes u := by
  obtain ⟨k, same⟩ := first.random
  obtain ⟨j, same'⟩ := later.random
  refine ⟨⟨k + j, ?_⟩, later.providers.trans first.providers⟩
  rw [stateAfter_add, ← same, same']

theorem precedes_close (f : Frame) (outer : List Frame) : s.Precedes (s.close f outer).1 := by
  unfold close
  split
  · exact precedes_of_eq rfl rfl
  · split
    · exact precedes_of_eq rfl rfl
    · refine precedes_of_eq rfl ?_
      dsimp only
      split <;> rfl

theorem precedes_enter (f : Frame) : s.Precedes (s.enter f) := by
  refine precedes_of_eq rfl ?_
  unfold enter
  dsimp only
  split <;> rfl

theorem precedes_enact (deed : Deed) : s.Precedes (s.enact host deed).1 := by
  cases deed with
  | proceed | jump | assign | forget | narrow | finish | halt | pause | ask => exact precedes_of_eq rfl rfl
  | enter f => exact precedes_enter f
  | widen =>
    unfold enact Scope.widen?
    dsimp only
    split
    · next widened =>
      split at widened
      · cases widened
        exact precedes_of_eq rfl rfl
      · cases widened
    · exact precedes_of_eq rfl rfl
  | perform effect refused =>
    unfold enact
    dsimp only
    split
    · exact precedes_of_eq rfl rfl
    · exact precedes_of_eq rfl rfl
    · split <;> exact precedes_of_eq rfl rfl

theorem precedes_speak (raw : String) : s.Precedes (s.speak raw).1 := by
  unfold speak
  dsimp only
  have advances := (Scope.behaves_translate (s := s.scope) (Text.trim raw)).advances s.random
  split
  · exact precedes_of_eq rfl rfl
  · generalize (s.scope.translate (Text.trim raw)).run.run s.random = drawn at advances
    obtain ⟨fault | text, random⟩ := drawn
    · exact ⟨advances, rfl⟩
    · exact ⟨advances, rfl⟩

theorem precedes_act (n : Node) : s.Precedes (s.act host root script n).1 := by
  unfold act
  cases Action.ofLabel? n.label with
  | none => exact precedes_of_eq rfl rfl
  | some action =>
    dsimp only
    have advances := (Site.behaves_deed ⟨root, script, s.scope⟩ n action).advances s.random
    generalize (Site.deed ⟨root, script, s.scope⟩ n action).run.run s.random = drawn at advances
    obtain ⟨fault | deed, random⟩ := drawn
    · exact ⟨advances, rfl⟩
    · have drawn : s.Precedes { s with random := random } := ⟨advances, rfl⟩
      exact drawn.trans (precedes_enact deed)

/-- **An iteration only draws**, apart from what it does to the variables, the focus and the blocks. -/
theorem precedes_tick (host : Host η) (root script : Node) (s : Scene ρ η) :
    s.Precedes (s.tick host root script).1 := by
  unfold tick
  split
  · exact precedes_of_eq rfl rfl
  · next f outer frames =>
    split
    · exact precedes_close f outer
    · next n rest content =>
      have behind : s.Precedes { s with frames := { f with rest := rest } :: outer } := precedes_of_eq rfl rfl
      dsimp only
      split
      · exact behind.trans (precedes_speak _)
      · exact behind.trans (precedes_act _)

theorem precedes_after (host : Host η) (root script : Node) (s : Scene ρ η) (n : Nat) :
    s.Precedes (s.after host root script n) := by
  induction n generalizing s with
  | zero => exact precedes_of_eq rfl rfl
  | succ n ih => exact (precedes_tick host root script s).trans (ih _)

/-! ### Faults with the guard's code -/

omit [PatientSource ρ] in
theorem isForeign_of_enact {action : Action} {deed : Deed} (own : deed.IsOf action)
    (fails : (s.enact host deed).2 = .failed fault) (guards : fault.isGuards = true) :
    fault.IsForeign host s.scope := by
  cases deed with
  | proceed | enter | jump | assign | forget | narrow | finish | halt | pause | ask => cases fails
  | widen =>
    unfold enact at fails
    dsimp only at fails
    split at fails
    · cases fails
    · next raised =>
      cases fails
      exact .inl (Scope.raises_of_widen? raised guards)
  | perform effect refused =>
    unfold enact at fails
    dsimp only at fails
    split at fails
    · next raised =>
      cases fails
      exact .inr ⟨effect, s.game, raised⟩
    · cases fails
    · split at fails
      · cases fails
        have never : fault.isGuards = false := own
        rw [never] at guards
        cases guards
      · cases fails
      · cases fails

theorem isForeign_of_speak {raw : String} (fails : (s.speak raw).2 = .failed fault)
    (guards : fault.isGuards = true) : fault.IsForeign host s.scope := by
  unfold speak at fails
  dsimp only at fails
  have raises := (Scope.behaves_translate (s := s.scope) (Text.trim raw)).raises s.random
  split at fails
  · cases fails
  · generalize (s.scope.translate (Text.trim raw)).run.run s.random = drawn at fails raises
    obtain ⟨raised | text, random⟩ := drawn
    · cases fails
      exact .inl (raises fault rfl guards)
    · cases fails

theorem isForeign_of_act {n : Node} (fails : (s.act host root script n).2 = .failed fault)
    (guards : fault.isGuards = true) : fault.IsForeign host s.scope := by
  unfold act at fails
  cases named : Action.ofLabel? n.label with
  | none =>
    rw [named] at fails
    cases fails
  | some action =>
    rw [named] at fails
    dsimp only at fails
    have raises := (Site.behaves_deed ⟨root, script, s.scope⟩ n action).raises s.random
    have own := Site.deed_isOf ⟨root, script, s.scope⟩ n action s.random
    generalize (Site.deed ⟨root, script, s.scope⟩ n action).run.run s.random = drawn at fails raises own
    obtain ⟨raised | deed, random⟩ := drawn
    · cases fails
      exact .inl (raises fault rfl guards)
    · exact isForeign_of_enact (s := { s with random := random }) (own deed rfl) fails guards

/-- **An iteration that fails with the guard's code** has the fault from outside the script. -/
theorem isForeign_of_tick (fails : (s.tick host root script).2 = .failed fault)
    (guards : fault.isGuards = true) : fault.IsForeign host s.scope := by
  obtain ⟨n, here, -⟩ := exists_node_of_failed fails
  rw [tick_of_node? here] at fails
  unfold visit at fails
  cases n with
  | text index origin raw => exact isForeign_of_speak (s := s.past) fails guards
  | element => exact isForeign_of_act (s := s.past) fails guards

end Scene

end Colloquy
