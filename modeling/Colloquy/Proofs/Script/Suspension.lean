import Colloquy.Proofs.Script.Acceptance
import Colloquy.Proofs.Script.Ending
import Colloquy.Proofs.Script.InPlace
import Colloquy.Proofs.Script.Iteration

/-!
# Waiting, ending and resting

A script that waits for an answer, is done or rests can be asked for its next output any number of times: it
shows the same each time and nothing happens.  An answer that is refused leaves the script as it was.  One
that is accepted goes into its variable, the request is dropped, and the pass goes on behind the element that
asked, in whatever blocks that stands (`Script.Reachable.suspension`).

### What is load-bearing

The frames of a waiting script stand behind the element that asked because the walk is behind a node before
the node does anything, and between the request and the answer no call touches the frames.  The induction
over the calls (`Script.Reachable.waitsBehindAsking`) carries that; only a call for output begins to wait.

## Main definitions

* `Script.calls`, `Script.Repeats`: calls for output in a row, and scripts that they change nothing about.
* `Input.Request.Allows`: the values that answers to a request can have.
* `Script.Answered`: what an accepted answer changes.
* `Script.Takes`, `Script.Refuses`: what comes of an answer.
-/

namespace Colloquy

/-! ## Values of answers -/

namespace Input

/-- The value is one that an answer to the request can have. -/
def Request.Allows (r : Request) (v : Value) : Prop :=
  match r.kind with
  | .keypress => v = .unset ∨ ∃ c : Char, v = .str (String.ofList [c])
  | .choice =>
    ∃ c : Char, v = .str (String.ofList [c]) ∧ ∀ choices, r.choices = some choices → c ∈ choices.toList
  | .number => ∃ i, v = .int i
  | .player => ∃ i, v = .int i ∧ 1 ≤ i.toInt ∧ i.toInt ≤ 8
  | .direction => ∃ letter ∈ ["n", "e", "s", "w"], v = .str letter
  | .string => ∃ text, v = .str text ∧ ∀ length, r.maxLength = some length → text.length ≤ length

theorem direction?_mem {word letter : String} (h : direction? word = some letter) :
    letter ∈ ["n", "e", "s", "w"] := by
  have among : letter ∈ ["n", "n", "e", "e", "s", "s", "w", "w"] :=
    List.mem_map_of_mem (f := Prod.snd) (mem_of_lookup h)
  simpa using among

/-- **What is read off an answer is allowed.** -/
theorem Request.allows_of_read {r : Request} {raw : String} {v : Value} (h : r.read raw = .ok v) :
    r.Allows v := by
  have accepts := read_eq_ok_iff.mp h
  unfold Allows
  cases accepts with
  | anyKey kind nothing =>
    rw [kind]
    exact .inl rfl
  | @key c rest kind begins =>
    rw [kind]
    exact .inr ⟨c, rfl⟩
  | @choice c rest kind begins offered =>
    rw [kind]
    exact ⟨c.toLower, rfl, offered⟩
  | @number i kind written =>
    rw [kind]
    exact ⟨i, rfl⟩
  | @player i kind written within =>
    rw [kind]
    exact ⟨i, rfl, within⟩
  | @direction letter kind named =>
    rw [kind]
    exact ⟨letter, direction?_mem named, rfl⟩
  | text kind free =>
    rw [kind]
    exact ⟨_, rfl, by simp [free]⟩
  | @start length kind limit =>
    rw [kind]
    refine ⟨_, rfl, fun length' limit' => ?_⟩
    rw [limit, Option.some.injEq] at limit'
    subst limit'
    rw [String.length_ofList, List.length_take]
    exact Nat.min_le_left _ _

theorem Request.code_of_read {r : Request} {raw : String} {fault : Fault} (h : r.read raw = .error fault) :
    fault.code = "SCRIPT_INPUT_INVALID" := by
  obtain ⟨detail, rfl⟩ := exists_invalid_of_read h
  rfl

end Input

/-! ## Answers -/

namespace Script

section

variable {ρ : Type} {s : Script ρ}

/-- The script `t` is what an accepted answer of this value makes of `s`: the variable that the request names
holds the value, the request is gone and the pass runs, and everything else is as it was. -/
structure Answered (request : Input.Request) (v : Value) (s t : Script ρ) : Prop where
  request_none : t.request? = none
  state_normal : t.state = .normal
  store : ∀ name, t.scope.store.get? name =
    if request.target = some name then some v else s.scope.store.get? name
  providers : t.scope.providers = s.scope.providers
  focus : t.scope.focus = s.scope.focus
  random : t.random = s.random
  stepLimit : t.stepLimit = s.stepLimit
  document : t.play.map (fun p => (p.root, p.script)) = s.play.map fun p => (p.root, p.script)
  frames : t.frames = s.frames
  idle : t.isIdle = s.isIdle

theorem get?_answeredScope (s : Script ρ) (request : Input.Request) (v : Value) (name : String) :
    (s.answeredScope request v).store.get? name =
      if request.target = some name then some v else s.scope.store.get? name := by
  unfold answeredScope
  cases request.target with
  | none => rfl
  | some target =>
    dsimp only [Scope.assign]
    rw [Table.get?_insert]
    have same : name = target ↔ some target = some name := by rw [Option.some_inj, eq_comm]
    exact if_congr same rfl rfl

theorem exists_waiting_of_request? {request : Input.Request} (asked : s.request? = some request) :
    ∃ p frames, s.play = some p ∧ p.pass = .waiting request frames := by
  obtain ⟨p, play, waits⟩ := Option.bind_eq_some_iff.mp asked
  cases pass : p.pass with
  | waiting request' frames =>
    rw [pass] at waits
    cases waits
    exact ⟨p, frames, play, pass⟩
  | idle | running | done =>
    rw [pass] at waits
    cases waits

section

variable {p : Play} {request : Input.Request} {frames : List Frame} {raw : String} {v : Value}

/-- A script that waits goes on with the value that is read off an answer. -/
theorem submit_of_read (play : s.play = some p) (pass : p.pass = .waiting request frames)
    (read : request.read raw = .ok v) :
    s.submit raw =
      .ok { s with scope := s.answeredScope request v, play := some { p with pass := .running frames } } := by
  unfold submit answeredScope
  rw [play]
  dsimp only
  rw [pass]
  dsimp only
  rw [read]
  cases request.target <;> simp [withPass, assign, play, bind, Except.bind, pure, Except.pure]

theorem submit_of_read_error {fault : Fault} (play : s.play = some p) (pass : p.pass = .waiting request frames)
    (read : request.read raw = .error fault) : s.submit raw = .error fault := by
  unfold submit
  rw [play]
  dsimp only
  rw [pass]
  dsimp only
  rw [read]
  rfl

/-- Going on with a value does what the request asks for and nothing else. -/
theorem answered_of_waiting (play : s.play = some p) (pass : p.pass = .waiting request frames) :
    Answered request v s
      { s with scope := s.answeredScope request v, play := some { p with pass := .running frames } } := by
  refine ⟨rfl, rfl, s.get?_answeredScope request v, ?_, ?_, rfl, rfl, ?_, ?_, ?_⟩
  · unfold answeredScope
    cases request.target <;> rfl
  · exact s.answeredScope_focus request v
  · rw [play]
    rfl
  · unfold Script.frames
    rw [play]
    dsimp only [Option.map_some]
    rw [pass]
    rfl
  · unfold isIdle
    rw [play]
    dsimp only
    rw [pass]

end

/-- An accepted answer does what it is asked for and nothing else. -/
theorem exists_answered_of_submit {t : Script ρ} {raw : String} (done : s.submit raw = .ok t) :
    ∃ request v, s.request? = some request ∧ request.Allows v ∧ Answered request v s t := by
  obtain ⟨p, request, frames, v, play, pass, read, rfl⟩ := exists_of_submit done
  refine ⟨request, v, ?_, Input.Request.allows_of_read read, answered_of_waiting play pass⟩
  rw [request?, play, Option.bind_some, pass]
  rfl

/-- A refused answer is invalid, unless there is nothing to answer. -/
theorem code_of_submit {raw : String} {fault : Fault} (failed : s.submit raw = .error fault) :
    fault.code = if s.request?.isSome then "SCRIPT_INPUT_INVALID" else "SCRIPT_NO_PENDING_INPUT" := by
  rcases s with ⟨scope, random, limit, _ | ⟨root, script, pass⟩⟩
  · cases failed
    rfl
  · cases pass with
    | idle | running | done =>
      cases failed
      rfl
    | waiting request frames =>
      unfold submit at failed
      dsimp only at failed
      cases read : request.read raw with
      | ok v =>
        rw [read] at failed
        cases failed
      | error raised =>
        rw [read] at failed
        cases failed
        exact Input.Request.code_of_read read

variable {request : Input.Request} {raw : String} {v : Value}

/-- The answer is accepted with this value: it answers what the script waits for, and nothing else changes. -/
def Takes (s : Script ρ) (raw : String) (v : Value) : Prop :=
  ∃ request t, s.request? = some request ∧ s.submit raw = .ok t ∧ Answered request v s t

/-- The answer is refused as invalid. -/
def Refuses (s : Script ρ) (raw : String) : Prop :=
  ∃ fault, s.submit raw = .error fault ∧ fault.code = "SCRIPT_INPUT_INVALID"

theorem takes_of_read (asked : s.request? = some request) (read : request.read raw = .ok v) :
    s.Takes raw v := by
  obtain ⟨p, frames, play, pass⟩ := exists_waiting_of_request? asked
  exact ⟨request, _, asked, submit_of_read play pass read, answered_of_waiting play pass⟩

theorem refuses_of_read {fault : Fault} (asked : s.request? = some request)
    (read : request.read raw = .error fault) : s.Refuses raw := by
  obtain ⟨p, frames, play, pass⟩ := exists_waiting_of_request? asked
  exact ⟨fault, submit_of_read_error play pass read, Input.Request.code_of_read read⟩

end

/-! ## Asking again -/

variable {ρ : Type}

section

variable [PatientSource ρ] {η : Type} (host : Host η) (fuel : Nat)

/-- What that many calls for output in a row come to. -/
def calls : Nat → Script ρ → η → Option (List (Advance ρ η))
  | 0, _, _ => some []
  | n + 1, s, game => (s.next host fuel game).bind fun a => (calls n a.script a.game).map (a :: ·)

end

/-- Calls for output, however many and whatever the game, show this output each time, and nothing else
comes of them. -/
def Repeats [PatientSource ρ] (s : Script ρ) (output : Output) : Prop :=
  ∀ (η : Type) (host : Host η) (fuel : Nat) (game : η) (n : Nat),
    calls host fuel n s game = some (List.replicate n ⟨s, game, [], .ok output⟩)

/-- What a script shows without a walk it shows again and again. -/
theorem repeats_of_still? [PatientSource ρ] {s : Script ρ} {output : Output}
    (h : s.still? = some (.ok output)) : s.Repeats output := by
  intro η host fuel game n
  induction n with
  | zero => rfl
  | succ n ih =>
    rw [calls, next_of_still? h, Option.bind_some, ih]
    rfl

variable {s : Script ρ}

theorem still?_of_request? {request : Input.Request} (asked : s.request? = some request) :
    s.still? = some (.ok (.input request)) := by
  rcases s with ⟨scope, random, limit, _ | ⟨root, script, pass⟩⟩
  · cases asked
  · cases pass with
    | waiting request' frames =>
      cases asked
      rfl
    | idle | running | done => cases asked

theorem still?_of_done (ended : s.state = .done) : s.still? = some (.ok .finished) := by
  rcases s with ⟨scope, random, limit, _ | ⟨root, script, pass⟩⟩
  · cases ended
  · cases pass with
    | done => rfl
    | idle | running | waiting => cases ended

theorem still?_of_idle (loaded : s.isLoaded = true) (idle : s.isIdle = true) :
    s.still? = some (.ok .stopped) := by
  rcases s with ⟨scope, random, limit, _ | ⟨root, script, pass⟩⟩
  · cases loaded
  · cases pass with
    | idle => rfl
    | running | waiting | done => cases idle

/-! ## Where a waiting script stands -/

/-- The blocks stand behind an element that asks. -/
def StandsBehindAsking (frames : List Frame) : Prop :=
  ∃ f outer n action, frames = f :: outer ∧ f.IsBehind n ∧ Action.ofLabel? n.label = some action ∧
    action.asks = true

/-- Every request that the script waits for was asked by the element that its pass is behind. -/
def WaitsBehindAsking (s : Script ρ) : Prop :=
  ∀ p request frames, s.play = some p → p.pass = .waiting request frames → StandsBehindAsking frames

theorem WaitsBehindAsking.of_play {σ : Type} {t : Script σ} (h : s.WaitsBehindAsking)
    (play : t.play = s.play) : t.WaitsBehindAsking :=
  fun p request frames some waits => h p request frames (play ▸ some) waits

/-- A script that does not wait. -/
theorem waitsBehindAsking_of_request? (none : s.request? = none) : s.WaitsBehindAsking := by
  intro p request frames play waits
  unfold request? at none
  rw [play, Option.bind_some, waits] at none
  cases none

theorem request?_withPass_running (s : Script ρ) (frames : List Frame) :
    (s.withPass (.running frames)).request? = none := by
  unfold withPass request?
  cases s.play with
  | none => rfl
  | some p => rfl

variable [PatientSource ρ]

/-- **A walk that comes to a request stands behind the element that asked.** -/
theorem standsBehindAsking_of_walk {η : Type} {host : Host η} {root script : Node} {limit fuel : Nat}
    {scene : Scene ρ η} {r : Scene ρ η × Except Fault Output} {request : Input.Request}
    (sound : scene.Sound root) (placed : script ∈ root.subtree)
    (walked : scene.walk host root script limit fuel limit = some r) (asked : r.2 = .ok (.input request)) :
    StandsBehindAsking r.1.frames := by
  cases Scene.exists_walk_iff.mp ⟨fuel, walked⟩ with
  | cut => cases asked
  | @loud n result goes room comes =>
    dsimp only at asked ⊢
    rw [asked] at comes
    have asks := Step.eq_shown_of_result? comes
    obtain ⟨m, action, here, named, does, random, behind⟩ := Scene.exists_node_of_asked asks
    obtain ⟨f, outer, frames, isBehind⟩ := (sound.after host placed n).exists_isBehind here
    rw [Scene.after_succ, behind]
    exact ⟨f, outer, m, action, frames, isBehind, named, does⟩

/-- A pass waits behind an output only if that is the request. -/
theorem eq_input_of_passAfter {frames frames' : List Frame} {output : Output} {request : Input.Request}
    (waits : output.passAfter frames = .waiting request frames') :
    output = .input request ∧ frames = frames' := by
  cases output with
  | input request' =>
    cases waits
    exact ⟨rfl, rfl⟩
  | text | wait | stopped | finished => cases waits

/-- **However a script came to wait**, its pass stands behind the element that asked. -/
theorem Reachable.waitsBehindAsking (h : s.Reachable) : s.WaitsBehindAsking := by
  induction h with
  | new => exact waitsBehindAsking_of_request? rfl
  | unload => exact waitsBehindAsking_of_request? rfl
  | load before done ih =>
    obtain ⟨_, _, _, _, rfl⟩ := exists_of_load done
    exact waitsBehindAsking_of_request? rfl
  | start before done ih =>
    obtain ⟨p, block, play, found, rfl⟩ := exists_of_start done
    exact waitsBehindAsking_of_request? (request?_withPass_running _ _)
  | next before done ih =>
    rcases exists_of_next done with ⟨result, -, rfl⟩ | ⟨p, frames, ⟨scene, result⟩, play, pass, walked, rfl⟩
    · exact ih
    · intro q request frames' some waits
      cases some
      cases result with
      | error fault => cases waits
      | ok output =>
        obtain ⟨rfl, rfl⟩ := eq_input_of_passAfter waits
        exact standsBehindAsking_of_walk (before.scene_sound play pass _)
          (before.sound.loaded p play).script_mem walked rfl
  | submit before done ih =>
    obtain ⟨_, _, _, _, _, _, _, rfl⟩ := exists_of_submit done
    exact waitsBehindAsking_of_request? rfl
  | pushContext before done ih =>
    obtain ⟨-, rfl⟩ := exists_of_pushContext done
    exact ih.of_play rfl
  | popContext before done ih =>
    obtain ⟨_, _, _, rfl⟩ := exists_of_popContext done
    exact ih.of_play rfl
  | assign _ _ _ ih | forget _ _ ih | translate _ _ ih | withProvider _ _ _ ih => exact ih.of_play rfl
  | withRandom _ _ ih => exact ih.of_play rfl

/-! ## Suspension -/

/-- Behind an accepted answer the pass goes on behind the element that asked. -/
theorem Reachable.walksOn_of_submit (h : s.Reachable) {t : Script ρ} {raw : String}
    (done : s.submit raw = .ok t) : StandsBehindAsking t.frames ∧ t.WalksOnFrom t.frames := by
  obtain ⟨p, request, frames, v, play, pass, read, rfl⟩ := exists_of_submit done
  exact ⟨h.waitsBehindAsking p request frames play pass, walksOnFrom_of_running rfl rfl⟩

/-- **What waits, is done or rests stays so, and answers are all or nothing.**  A script that waits for an
answer, is done or rests shows the same at every call for output, and nothing else comes of those calls.  An
answer that is refused changes nothing.  One that is accepted changes the request, the state and the variable
that the request names, which holds a value that the request allows; and the pass goes on behind the element
that asked, in the blocks that it stands in. -/
theorem Reachable.suspension (h : s.Reachable) :
    (s.state = .awaitingInput → ∃ request, s.request? = some request ∧ s.Repeats (.input request)) ∧
    (s.state = .done → s.Repeats .finished) ∧
    (s.isLoaded = true → s.isIdle = true → s.Repeats .stopped) ∧
    ∀ raw,
      (∃ fault, s.submit raw = .error fault ∧ (Call.submit raw).inPlace.run.run s = (.error fault, s) ∧
        fault.code = if s.request?.isSome then "SCRIPT_INPUT_INVALID" else "SCRIPT_NO_PENDING_INPUT") ∨
      ∃ t request v, s.submit raw = .ok t ∧ (Call.submit raw).inPlace.run.run s = (.ok (), t) ∧
        s.request? = some request ∧ request.Allows v ∧ Answered request v s t ∧
        StandsBehindAsking t.frames ∧ t.WalksOnFrom t.frames := by
  refine ⟨fun waits => ?_, fun ended => ?_, fun loaded idle => ?_, fun raw => ?_⟩
  · obtain ⟨request, asked⟩ := Option.isSome_iff_exists.mp (s.waiting_iff.mpr waits)
    exact ⟨request, asked, repeats_of_still? (still?_of_request? asked)⟩
  · exact repeats_of_still? (still?_of_done ended)
  · exact repeats_of_still? (still?_of_idle loaded idle)
  · have inPlace := Call.run_inPlace (.submit raw) s
    cases result : s.submit raw with
    | error fault =>
      rw [Call.apply, result] at inPlace
      exact .inl ⟨fault, rfl, inPlace, code_of_submit result⟩
    | ok t =>
      rw [Call.apply, result] at inPlace
      obtain ⟨request, v, asked, allows, answered⟩ := exists_answered_of_submit result
      obtain ⟨behind, walksOn⟩ := h.walksOn_of_submit result
      exact .inr ⟨t, request, v, rfl, inPlace, asked, allows, answered, behind, walksOn⟩

/-- A script that waits inside an included block, before and after a key is pressed. -/
theorem Reachable.suspension_inside_inclusion :
    ∃ (s t : Script Listed) (v : Value), s.state = .awaitingInput ∧ s.frames.length = 2 ∧
      s.Repeats (.input .keypress) ∧ s.submit "" = .ok t ∧ Answered .keypress v s t ∧
      StandsBehindAsking t.frames ∧ t.WalksOnFrom t.frames := by
  let inclusion : Node := .element 3 none "include" [("script", "s"), ("block", "b")] []
  let asking : Node := .element 5 none "b" [] [.element 6 none "wait_for_keypress" [] [], .text 7 none "Hello"]
  let root : Node := .element 0 none "library" []
    [.element 1 none "script" [("id", "s")] [.element 2 none "a" [] [inclusion, .text 4 none "Farewell"], asking]]
  have fresh : (Script.new (⟨[]⟩ : Listed) 10).Reachable := .new _ _
  have loaded := fresh.load (show (Script.new _ _).load root "s" none = .ok _ from rfl)
  have started := loaded.start (show Script.start _ "a" = .ok _ from rfl)
  have asked := started.next (show Script.next Host.obliging 10 _ () = some _ from rfl)
  obtain ⟨waits, -, -, answers⟩ := asked.suspension
  obtain ⟨request, same, again⟩ := waits rfl
  cases same
  rcases answers "" with ⟨fault, failed, -⟩ | ⟨t, request, v, done, -, same, -, answered, behind, walksOn⟩
  · cases failed
  · cases same
    exact ⟨_, t, v, rfl, rfl, again, done, answered, behind, walksOn⟩

end Script

end Colloquy
