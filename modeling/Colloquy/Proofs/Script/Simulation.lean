import Colloquy.Proofs.Script.Loop
import Colloquy.Proofs.Script.Performance

/-!
# A performance comes to what a recital tells

The walk through a document, with its stack of frames, carries out the recursion of a recital: whatever a
recital tells from some node on, the steps of a performance that stands in front of that node tell as well,
and where the recital leaves off the performance stands with the frames further out as they were.

### What carries the proof

The induction is on the fuel of the recital, and for each amount on the list of nodes of a content.  The
claim about a content (`Performance.Plays`) is about any frames further out and any loop that the content
belongs to, since a recital knows nothing of either.  For each action, what is decided is decided alike on
both sides, so `Performance.reaches_attempt` leaves only what is done with a decision.

A cut-off recital is matched as well: the performance is then at least as many steps on as there was
fuel.  So with enough fuel a recital tells whatever a performance comes to in any number of steps.

## Main results

* `Performance.reaches_element`: one element of any action.
* `Performance.reaches_node`, `Performance.plays_content`: a node, and the content of a node.
* `Performance.exists_after_recite`: all that follows a start.
-/

namespace Colloquy.Performance

open Recital

variable {ρ η : Type} [PatientSource ρ] {host : Host η} {root script : Node}

section

variable {s : Stage ρ η} {frames outer : List Frame} {first least : Nat}

/-! ## Ends of contents -/

/-- A content that comes to its end inside a frame is over once that frame is left. -/
theorem Reaches.leave_frame {p : Performance ρ η} {mid : List Frame} {r : Except Exit Unit × Stage ρ η}
    (h : p.Reaches host root script first least mid r)
    (leaves : ∀ s : Stage ρ η, (inside s mid).step host root script = inside s frames) :
    p.Reaches host root script first least frames r := by
  obtain ⟨_ | _, s⟩ := r
  · exact h
  · obtain ⟨k, comes⟩ := h
    refine ⟨k + 1, ?_⟩
    rw [after_add, comes]
    exact leaves s

theorem step_block (m : Node) (s : Stage ρ η) :
    (inside s (⟨m, [], none⟩ :: outer)).step host root script = inside s outer := rfl

theorem step_lastPass {m : Node} {l : Loop} (last : l.next? = none) (s : Stage ρ η) :
    (inside s (⟨m, [], some l⟩ :: outer)).step host root script = inside s outer := by
  show behind s (Scene.close (s.scene (⟨m, [], some l⟩ :: outer)) ⟨m, [], some l⟩ outer) = _
  unfold Scene.close
  dsimp only
  rw [last]
  rfl

theorem step_nextPass {m : Node} {l : Loop} {number : Int64} (next : l.next? = some number)
    (s : Stage ρ η) :
    (inside s (⟨m, [], some l⟩ :: outer)).step host root script =
      inside { s with scope := s.scope.count l.iterator number }
        (⟨m, m.children, some { l with current := number }⟩ :: outer) := by
  show behind s (Scene.close (s.scene (⟨m, [], some l⟩ :: outer)) ⟨m, [], some l⟩ outer) = _
  unfold Scene.close
  dsimp only
  rw [next]
  rfl

/-! ## Requests -/

/-- A request that waits hears the same answers. -/
theorem reaches_hear (request : Input.Request) (answers : List String) :
    ∀ s : Stage ρ η, s.answers = answers →
      (⟨s, .waiting request frames⟩ : Performance ρ η).Reaches host root script first least frames
        (hear request answers s) := by
  induction answers with
  | nil => exact fun s none => reaches_leave ⟨none, frames, rfl⟩ rfl
  | cons raw later ih =>
    intro s same
    refine Reaches.of_step ?_
    unfold step hear
    dsimp only
    rw [same]
    dsimp only
    cases request.read raw with
    | ok v => exact reaches_skip
    -- A rejected answer leaves the request where it is.
    | error fault => exact ih (s.reject fault later) rfl

theorem reaches_ask (request : Input.Request) :
    (behind s ((s.scene frames).enact host.logged (.ask request))).Reaches host root script first least frames
      (ask request s) :=
  reaches_hear request s.answers (s.record (.output (.input request))) rfl

/-! ## Effects -/

/-- An effect is put to the game alike, and what follows depends on its reply alone. -/
theorem reaches_put {effect : Effect} {refusal : Except Fault (Option Node)} {go : Reply → Recital ρ η Unit}
    (done : go .done = skip)
    (refused : go .refused =
      match refusal with
      | .ok (some target) => leave (.jump target)
      | .ok none => skip
      | .error fault => tell (.fault fault)) :
    (behind s ((s.scene frames).enact host.logged (.perform effect refusal))).Reaches host root script 0 least
      frames (put host effect go s) := by
  unfold put Scene.enact Host.logged
  dsimp only [Stage.scene]
  rcases host effect s.game with ⟨_ | reply, game⟩
  · exact reaches_skip
  · cases reply with
    | done =>
      dsimp only
      rw [done]
      exact reaches_skip
    | refused =>
      dsimp only
      rw [refused]
      rcases refusal with _ | _ | target
      · exact reaches_skip
      · exact reaches_skip
      · exact reaches_leave rfl rfl

/-! ## Decisions -/

/-- An element acts on what it decides as a recital goes on with it, if each deed does what the recital
does with the same decision. -/
theorem reaches_attempt {α : Type} {n : Node} {action : Action}
    (named : Action.ofLabel? n.label = some action) {decision : Scope → Draw ρ α} {deed : α → Deed}
    {go : α → Recital ρ η Unit}
    (settles : ∀ scope, (⟨root, script, scope⟩ : Site).deed n action =
      decision scope >>= fun x => pure (deed x))
    (next : ∀ x random, (decision s.scope).run.run s.random = (.ok x, random) →
      (behind (s.drawn random)
        (((s.drawn random).scene frames).enact host.logged (deed x))).Reaches host root script first least frames
          (go x (s.drawn random))) :
    (behind s ((s.scene frames).act host.logged root script n)).Reaches host root script first least frames
      (attempt decision go s) := by
  unfold Scene.act attempt
  rw [named]
  dsimp only [Stage.scene]
  rw [settles, Draw.run_bind]
  rcases decided : (decision s.scope).run.run s.random with ⟨_ | x, random⟩
  · exact reaches_skip
  · exact next x random decided

/-- An element without anything to decide. -/
theorem reaches_deed {n : Node} {action : Action} (named : Action.ofLabel? n.label = some action)
    {deed : Deed} {c : Recital ρ η Unit}
    (settles : ∀ scope, (⟨root, script, scope⟩ : Site).deed n action = (pure deed : Draw ρ Deed))
    (next : (behind s ((s.scene frames).enact host.logged deed)).Reaches host root script first least frames
      (c s)) :
    (behind s ((s.scene frames).act host.logged root script n)).Reaches host root script first least frames
      (c s) := by
  unfold Scene.act
  rw [named]
  dsimp only [Stage.scene]
  rw [settles]
  exact next

/-- A text says what a recital says. -/
theorem reaches_say (raw : String) :
    (behind s ((s.scene frames).speak raw)).Reaches host root script first least frames (say raw s) := by
  unfold Scene.speak say
  dsimp only
  split
  · exact reaches_skip
  · unfold attempt
    dsimp only [Stage.scene]
    rcases (s.scope.translate (Text.trim raw)).run.run s.random with ⟨_ | text, random⟩
    · exact reaches_skip
    · exact reaches_skip

/-- An action that is nothing but an effect. -/
theorem reaches_effect (effect : Option Effect) (s : Stage ρ η) :
    (behind s ((s.scene frames).enact host.logged (Site.effectDeed effect))).Reaches host root script 0 least
      frames
        ((match effect with
          | some effect => put host effect fun _ => skip
          | none => skip) s) := by
  cases effect with
  | none => exact reaches_skip
  | some effect => exact reaches_put rfl rfl

end

/-! ## Contents -/

/-- Running the content of any node as a recital is what a performance comes to that stands in front of the
content: it gets to the end of it, inside any frames and in any loop. -/
def Plays (host : Host η) (root script : Node) (first least : Nat) (run : Node → Recital ρ η Unit) : Prop :=
  ∀ (m : Node) (s : Stage ρ η) (loop : Option Loop) (outer : List Frame),
    (inside s (⟨m, m.children, loop⟩ :: outer)).Reaches host root script first least (⟨m, [], loop⟩ :: outer)
      (run m s)

section

variable {s : Stage ρ η} {frames outer : List Frame} {first least : Nat} {run : Node → Recital ρ η Unit}

theorem Plays.block (plays : Plays host root script first least run) (m : Node) (s : Stage ρ η) :
    (inside s (.block m :: frames)).Reaches host root script first least frames (run m s) :=
  (plays m s none frames).leave_frame (step_block m)

/-- The passes of a loop, the first of which is in progress. -/
theorem Plays.passes (plays : Plays host root script first least run) {n : Node} (later : List Int64) :
    ∀ (l : Loop) (s : Stage ρ η), l.IsLive → l.numbers = l.current :: later →
      (inside s (⟨n, n.children, some l⟩ :: outer)).Reaches host root script first least outer
        ((run n >>= fun _ => later.forM (round run n l.iterator)) s) := by
  induction later with
  | nil =>
    intro l s live numbers
    cases next : l.next? with
    | none => exact ((plays n s (some l) outer).leave_frame (step_lastPass next)).bind fun s => reaches_skip
    | some number =>
      obtain ⟨_, more⟩ := (live.next next).exists_numbers
      rw [live.numbers_of_next next, more] at numbers
      cases numbers
  | cons number later ih =>
    intro l s live numbers
    cases next : l.next? with
    | none =>
      rw [live.numbers_of_last next] at numbers
      cases numbers
    | some number' =>
      -- The pass behind this one is the first of those that are left.
      have liveNext := live.next next
      obtain ⟨_, more⟩ := liveNext.exists_numbers
      rw [live.numbers_of_next next, List.cons.injEq] at numbers
      obtain rfl : number' = number := (List.cons.inj (more.symm.trans numbers.2)).1
      refine (plays n s (some l) outer).bind fun s => Reaches.of_step ?_
      rw [step_nextPass next]
      exact ih { l with current := number' } { s with scope := s.scope.count l.iterator number' } liveNext
        numbers.2

/-- The passes of a loop from its first on. -/
theorem Plays.loop (plays : Plays host root script first least run) {n : Node} {l : Loop} (counts : l.step ≠ 0)
    (s : Stage ρ η) :
    (behind s ((s.scene frames).enact host.logged (Site.loopDeed n (some l)))).Reaches host root script first
      least frames
        ((l.numbers.forM (round run n l.iterator) : Recital ρ η Unit) s) := by
  unfold Site.loopDeed
  cases past : l.isPast with
  | true =>
    rw [Loop.numbers_of_isPast past]
    dsimp only
    rw [if_pos past]
    exact reaches_skip
  | false =>
    have live := Loop.isLive_of_not_isPast counts past
    obtain ⟨later, numbers⟩ := live.exists_numbers
    rw [numbers]
    have entered : behind s ((s.scene frames).enact host.logged (.enter ⟨n, n.children, some l⟩)) =
        inside { s with scope := s.scope.count l.iterator l.current }
          (⟨n, n.children, some l⟩ :: frames) := by
      rcases l with ⟨_ | name, current, last, step⟩ <;> rfl
    dsimp only
    rw [if_neg (by rw [past]; exact Bool.false_ne_true), entered]
    exact plays.passes later l { s with scope := s.scope.count l.iterator l.current } live numbers

/-- The content that a decision selects, if it selects one. -/
theorem Plays.selected (plays : Plays host root script first least run) (selected : Option Node) (s : Stage ρ η) :
    (behind s ((s.scene frames).enact host.logged (Site.contentDeed selected))).Reaches host root script first
      least frames
        ((match selected with
          | some m => run m
          | none => skip) s) := by
  cases selected with
  | none => exact reaches_skip
  | some m => exact plays.block m s

/-- **Every action does what it means**, if running the content of a node is played. -/
theorem Plays.reaches_element (plays : Plays host root script 0 least run) {n : Node} {action : Action}
    (named : Action.ofLabel? n.label = some action) (s : Stage ρ η) :
    (behind s ((s.scene frames).act host.logged root script n)).Reaches host root script 0 least frames
      (element host root script run n action s) := by
  cases action with
  | context => exact reaches_attempt named (fun _ => rfl) fun _ _ _ => reaches_skip
  | unsetContext =>
    refine reaches_attempt named (fun _ => rfl) ?_
    rintro ⟨m, widened⟩ random decided
    have found : s.scope.widen? = .ok (m, widened) := congrArg Prod.fst decided
    -- The focus is looked at to decide and once more to act, and nothing changes it in between.
    have again : behind (s.drawn random) (((s.drawn random).scene frames).enact host.logged .widen) =
        inside { s.drawn random with scope := widened } frames := by
      dsimp only [Scene.enact, Stage.scene, Stage.drawn]
      rw [found]
      rfl
    rw [again]
    exact reaches_skip
  | finish =>
    have ended : (⟨s.record (.output .finished), .done⟩ : Performance ρ η).Fits .finished := rfl
    exact reaches_deed named (fun _ => rfl) (reaches_leave ended rfl)
  | stop =>
    have stopped : (⟨s.record (.output .stopped), .idle⟩ : Performance ρ η).Fits .halted := rfl
    exact reaches_deed named (fun _ => rfl) (reaches_leave stopped rfl)
  | redirect => exact reaches_attempt named (fun _ => rfl) fun _ _ _ => reaches_leave rfl rfl
  | waitForKeypress => exact reaches_deed named (fun _ => rfl) (reaches_ask .keypress)
  | wait => exact reaches_attempt named (fun _ => rfl) fun _ _ _ => reaches_skip
  | loop =>
    refine reaches_attempt named (fun _ => rfl) fun found random decided => ?_
    cases found with
    | none => exact reaches_skip
    | some l =>
      have counts : l.step ≠ 0 := Site.loop?_gives s.random (some l) (by rw [decided]) l rfl
      exact plays.loop counts _
  | random => exact reaches_attempt named (fun _ => rfl) fun selected _ _ => plays.selected selected _
  | pay =>
    have settles : ∀ scope, (⟨root, script, scope⟩ : Site).deed n .pay =
        ((⟨root, script, scope⟩ : Site).payment n >>= fun x =>
            pure (x.1, (⟨root, script, scope⟩ : Site).refusal x.2) :
          Draw ρ (Effect × Except Fault (Option Node))) >>= fun x => pure (.perform x.1 x.2) := by
      intro scope
      rw [bind_assoc]
      rfl
    refine reaches_attempt named settles ?_
    rintro ⟨effect, refusal⟩ random -
    exact reaches_put rfl rfl
  | branch =>
    refine reaches_attempt named (fun _ => rfl) fun x random _ => ?_
    cases x.truthy with
    | true => exact plays.selected (some n) _
    | false => exact plays.selected (n.findChild? "else") _
  | otherwise => exact reaches_deed named (fun _ => rfl) reaches_skip
  | input => exact reaches_attempt named (fun _ => rfl) fun request _ _ => reaches_ask request
  | assignment =>
    refine reaches_attempt named (fun _ => rfl) ?_
    rintro ⟨name, v⟩ random -
    cases v with
    | none => exact reaches_skip
    | some v => exact reaches_skip
  | inclusion => exact reaches_attempt named (fun _ => rfl) fun target _ _ => plays.block target _
  | move | sleep | cursor | add | lose | heal | castSpell | damage | karma | music | ztats =>
    exact reaches_attempt named (fun _ => rfl) fun effect _ _ => reaches_effect effect _

end

/-! ## Nodes and contents -/

/-- The content of a node is played if its nodes are, in front of whatever follows them. -/
theorem plays_of_nodes {first least : Nat} {each : Node → Recital ρ η Unit}
    (nodes : ∀ (n owner : Node) (rest : List Node) (loop : Option Loop) (outer : List Frame)
      (s : Stage ρ η), (inside s (⟨owner, n :: rest, loop⟩ :: outer)).Reaches host root script first least
        (⟨owner, rest, loop⟩ :: outer) (each n s)) :
    Plays host root script first least fun m => m.children.forM each := by
  have all : ∀ (ns : List Node) (owner : Node) (loop : Option Loop) (outer : List Frame) (s : Stage ρ η),
      (inside s (⟨owner, ns, loop⟩ :: outer)).Reaches host root script first least
        (⟨owner, [], loop⟩ :: outer) ((ns.forM each : Recital ρ η Unit) s) := by
    intro ns owner loop outer
    induction ns with
    | nil => exact fun s => reaches_skip
    | cons n ns ih => exact fun s => (nodes n owner ns loop outer s).bind ih
  exact fun m s loop outer => all m.children m loop outer s

/-- **A node is played**: in front of it a performance comes to what a recital of the node tells, and then
stands behind it. -/
theorem reaches_node (fuel : Nat) : ∀ (n owner : Node) (rest : List Node) (loop : Option Loop)
    (outer : List Frame) (s : Stage ρ η), (inside s (⟨owner, n :: rest, loop⟩ :: outer)).Reaches host root
      script 1 fuel (⟨owner, rest, loop⟩ :: outer) (node host root script fuel n s) := by
  induction fuel with
  | zero => exact fun n owner rest loop outer s => reaches_leave ⟨_, rfl⟩ rfl
  | succ fuel ih =>
    intro n owner rest loop outer s
    have inner : Plays host root script 0 fuel fun m => m.children.forM (node host root script fuel) :=
      plays_of_nodes fun n owner rest loop outer s => (ih n owner rest loop outer s).mono (Nat.zero_le _)
        (Nat.le_refl _)
    refine Reaches.step ?_
    match n with
    | .text index origin raw =>
      have spoken : (inside s (⟨owner, .text index origin raw :: rest, loop⟩ :: outer)).step host root script =
          behind s ((s.scene (⟨owner, rest, loop⟩ :: outer)).speak raw) := rfl
      rw [spoken, node]
      exact reaches_say raw
    | .element index origin label attributes children =>
      rw [node]
      cases named : Action.ofLabel? label with
      | none =>
        have skipped : (inside s (⟨owner, .element index origin label attributes children :: rest, loop⟩ ::
            outer)).step host root script = inside s (⟨owner, rest, loop⟩ :: outer) := by
          show behind s (Scene.act _ _ _ _ (.element index origin label attributes children)) = _
          unfold Scene.act
          dsimp only [Node.label]
          rw [named]
          rfl
        rw [skipped]
        exact reaches_skip
      | some action =>
        have same : Action.ofLabel? (Node.element index origin label attributes children).label =
            some action := named
        have acted : (inside s (⟨owner, .element index origin label attributes children :: rest, loop⟩ ::
            outer)).step host root script = behind s ((s.scene (⟨owner, rest, loop⟩ :: outer)).act
              host.logged root script (.element index origin label attributes children)) := rfl
        rw [acted]
        exact inner.reaches_element same s

/-- **The content of a node is played.** -/
theorem plays_content (fuel : Nat) :
    Plays host root script 1 fuel (content host root script fuel : Node → Recital ρ η Unit) :=
  plays_of_nodes (reaches_node fuel)

/-! ## All that follows a start -/

/-- **A performance comes to what a recital tells.**  It stands where the recital leaves off, and if the
recital was cut off it took at least as many steps as there was fuel. -/
theorem exists_after_recite (fuel : Nat) : ∀ (target : Node) (s : Stage ρ η),
    ∃ k, ((inside s [.block target]).after host root script k).stage =
        (recite host root script fuel target s).2 ∧
      ((inside s [.block target]).after host root script k).Fits
        (recite host root script fuel target s).1 ∧
      ((recite host root script fuel target s).1 = .cut → fuel ≤ k) := by
  induction fuel with
  | zero => exact fun target s => ⟨0, rfl, ⟨_, rfl⟩, fun _ => Nat.zero_le _⟩
  | succ fuel ih =>
    intro target s
    have plays : (inside s [.block target]).Reaches host root script 1 (fuel + 1) []
        (content host root script (fuel + 1) target s) := (plays_content (fuel + 1)).block target s
    rw [recite]
    rcases told : content host root script (fuel + 1) target s with ⟨exit | _, s'⟩
    · rw [told] at plays
      obtain ⟨k, comes, fits, enough⟩ := plays
      cases exit with
      | jump next =>
        -- The jump itself is a step, which makes up for the fuel that following it costs.
        have lands : (inside s [.block target]).after host root script k = inside s' [.block next] := by
          rw [← comes]
          exact congrArg (Performance.mk _) fits
        obtain ⟨j, comes', fits', enough'⟩ := ih next s'
        refine ⟨k + j, ?_, ?_, fun cut => ?_⟩
        · rw [after_add, lands]
          exact comes'
        · rw [after_add, lands]
          exact fits'
        · have more := enough' cut
          change 1 ≤ k at enough
          omega
      | cut => exact ⟨k, comes, fits, fun _ => enough⟩
      | finished | halted | waiting => exact ⟨k, comes, fits, fun no => by cases no⟩
    · rw [told] at plays
      obtain ⟨k, comes⟩ := plays
      have ends : (inside s [.block target]).after host root script (k + 1) =
          ⟨s'.record (.output .finished), .done⟩ := by
        rw [after_add, comes]
        rfl
      refine ⟨k + 1, ?_, ?_, fun no => by cases no⟩
      · rw [ends]
      · rw [ends]
        rfl

/-- A recital of all that follows a start follows every jump. -/
theorem recite_ne_jump (fuel : Nat) (target next : Node) (s : Stage ρ η) :
    (recite host root script fuel target s).1 ≠ .jump next := by
  induction fuel generalizing target s with
  | zero => exact fun no => by cases no
  | succ fuel ih =>
    rw [recite]
    rcases content host root script (fuel + 1) target s with ⟨exit | _, s'⟩
    · cases exit with
      | jump onward => exact ih onward s'
      | finished | halted | waiting | cut => exact fun no => by cases no
    · exact fun no => by cases no

/-- **A recital with enough fuel tells whatever a performance comes to** in any number of steps. -/
theorem exists_recite_of_after (k : Nat) (target : Node) (s : Stage ρ η) :
    ∃ fuel, ((inside s [.block target]).after host root script k).stage.trace <+:
      (recite host root script fuel target s).2.trace := by
  refine ⟨k, ?_⟩
  have told : ∃ j, ((inside s [.block target]).after host root script j).stage =
      (recite host root script k target s).2 ∧ _ := exists_after_recite k target s
  obtain ⟨j, comes, fits, enough⟩ := told
  rw [← comes]
  rcases Nat.le_total k j with le | le
  · exact trace_prefix_after _ le
  · -- Then the recital was not cut off before `k` steps, so the performance rests from step `j` on.
    obtain ⟨more, rfl⟩ := Nat.exists_eq_add_of_le le
    cases exit : (recite host root script (j + more) target s).1 with
    | jump next => exact absurd exit (recite_ne_jump _ _ _ _)
    | cut =>
      have least := enough exit
      obtain rfl : more = 0 := by omega
      exact List.prefix_refl _
    | finished | halted | waiting =>
      rw [exit] at fits
      have same : (inside s [.block target]).after host root script (j + more) =
          (inside s [.block target]).after host root script j := by
        rw [after_add, fits.after_eq rfl more]
      exact same ▸ List.prefix_refl _

/-- **A performance that came to rest is where a recital left off** that was not cut off. -/
theorem exists_recite_of_rests {k : Nat} {target : Node} {s : Stage ρ η} {exit : Exit}
    (fits : ((inside s [.block target]).after host root script k).Fits exit) (rests : exit.worth 1 1 = 0) :
    ∃ fuel, (recite host root script fuel target s).1 ≠ .cut ∧
      ((inside s [.block target]).after host root script k).stage =
        (recite host root script fuel target s).2 ∧
      ((inside s [.block target]).after host root script k).Fits
        (recite host root script fuel target s).1 := by
  refine ⟨k + 1, ?_⟩
  have told : ∃ j, ((inside s [.block target]).after host root script j).stage =
      (recite host root script (k + 1) target s).2 ∧ _ := exists_after_recite (k + 1) target s
  obtain ⟨j, comes, fits', enough⟩ := told
  have uncut : (recite host root script (k + 1) target s).1 ≠ .cut := by
    intro cut
    -- Being cut off takes more steps than it took to come to rest, and behind those nothing runs.
    obtain ⟨more, rfl⟩ := Nat.exists_eq_add_of_le (Nat.le_of_succ_le (enough cut))
    rw [cut, after_add, fits.after_eq rests more] at fits'
    obtain ⟨frames, runs⟩ := fits'
    cases exit with
    | jump | cut => cases rests
    | finished | halted => cases fits.symm.trans runs
    | waiting request =>
      obtain ⟨_, waits, same⟩ := fits
      cases same.symm.trans runs
  have same : (inside s [.block target]).after host root script j =
      (inside s [.block target]).after host root script k := by
    rcases Nat.le_total k j with le | le
    · obtain ⟨more, rfl⟩ := Nat.exists_eq_add_of_le le
      rw [after_add, fits.after_eq rests more]
    · obtain ⟨more, rfl⟩ := Nat.exists_eq_add_of_le le
      have ended : (recite host root script (j + more + 1) target s).1.worth 1 1 = 0 := by
        cases left : (recite host root script (j + more + 1) target s).1 with
        | jump next => exact absurd left (recite_ne_jump _ _ _ _)
        | cut => exact absurd left uncut
        | finished | halted | waiting => rfl
      rw [after_add, fits'.after_eq ended more]
  rw [← same]
  exact ⟨uncut, comes, fits'⟩

end Colloquy.Performance
