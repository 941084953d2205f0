import Mathlib.Data.List.Basic
import Colloquy.Dialogue.Response

/-!
# Responses made anew

Each access to a response that is made anew runs its maker once, in the game that the access before has left, while
no earlier instance is kept.  What is seen is what the instance then made has in it, and that instance is kept.  If it
is such a response itself, its own maker is run once.  Appending a part runs nothing (`Response.watched_perform`).

### What is load-bearing

How often a maker is run does not show in what an access gives.  So the makers are watched: each run is written down
in a log that stands beside the game, together with whether an instance was kept.  What is written down is nothing
that a maker is told, so the watched response shows the same and leaves the same (`Response.watched_read`).

## Main definitions

* `Response.Call`, `Response.Call.perform`: what is done with a response, and what comes of it.
* `Response.Run`: a run of a maker, as it is written down.
* `Response.watched`: the response whose makers are watched.
* `Response.runs`: the runs of an access.
-/

namespace Colloquy.Response

variable {ι γ : Type}

/-! ## Calls -/

/-- What may be seen of a response. -/
inductive View where
  | parts | text | commands | display

/-- What is seen, or what is noticed instead. -/
inductive Seen where
  | parts (parts : List Part)
  | text (text : String)
  | commands (commands : List Command)
  | notices (notices : List String)

/-- What a view of these parts is. -/
def View.of (v : View) (parts : List Part) : Seen :=
  match v with
  | .parts => .parts parts
  | .text | .display => .text (Part.textOf parts)
  | .commands => .commands (Part.commandsOf parts)

/-- What is done with a response: it is accessed, or a part is appended to it. -/
inductive Call where
  | access (view : View)
  | append (part : Part)

/-- What comes of a call, the response afterwards and the game afterwards. -/
def Call.perform (c : Call) (r : Response γ) (game : γ) : Seen × Response γ × γ :=
  match c with
  | access .parts => (r.read game).map .parts id
  | access .text => (r.text game).map .text id
  | access .commands => (r.commands game).map .commands id
  | access .display => (r.display game).map .text id
  | append part => (.notices (r.append part).2, (r.append part).1, game)

/-- The response and the game after calls. -/
def afterCalls : List Call → Response γ → γ → Response γ × γ
  | [], r, game => (r, game)
  | c :: calls, r, game => afterCalls calls (c.perform r game).2.1 (c.perform r game).2.2

/-- Whatever is seen of a response is seen of its parts, which are read once. -/
theorem perform_access (v : View) (r : Response γ) (game : γ) :
    (Call.access v).perform r game = (v.of (r.read game).1, (r.read game).2) := by
  cases v <;> rfl

/-- A response that is made anew stays what it is, but for the instance it keeps. -/
theorem exists_perform_dynamic (c : Call) (param : String) (make : Bool → γ → Response γ) (change : Bool → γ → γ)
    (kept : Option (Response γ)) (game : γ) :
    ∃ kept', (c.perform (dynamic param make change kept) game).2.1 = dynamic param make change kept' := by
  cases c with
  | access v => exact ⟨_, by rw [perform_access, read_dynamic]⟩
  | append part => exact ⟨kept, rfl⟩

theorem exists_afterCalls_dynamic (calls : List Call) (param : String) (make : Bool → γ → Response γ)
    (change : Bool → γ → γ) (kept : Option (Response γ)) (game : γ) :
    ∃ kept' game', afterCalls calls (dynamic param make change kept) game =
      (dynamic param make change kept', game') := by
  induction calls generalizing kept game with
  | nil => exact ⟨kept, game, rfl⟩
  | cons c calls ih =>
    obtain ⟨kept', same⟩ := exists_perform_dynamic c param make change kept game
    rw [afterCalls, same]
    exact ih kept' _

/-! ## Runs of makers -/

/-- A run of a maker: whose maker, and how many others it is run inside; whether an instance was kept; and the state
of the game. -/
structure Run (ι γ : Type) where
  who : ι
  depth : Nat
  met : Bool
  game : γ

mutual

/-- The response with its makers watched: each run is written down in the log beside the game, before the game is
changed. -/
def watched (who : ι) : Nat → Response γ → Response (γ × List (Run ι γ))
  | _, fixed parts => fixed parts
  | depth, dynamic param make change kept =>
    dynamic param (fun met now => (make met now.1).watched who (depth + 1))
      (fun met now => (change met now.1, now.2 ++ [⟨who, depth, met, now.1⟩])) (watchedKept who (depth + 1) kept)

/-- The instance that is kept, with its makers watched. -/
def watchedKept (who : ι) : Nat → Option (Response γ) → Option (Response (γ × List (Run ι γ)))
  | _, none => none
  | depth, some r => some (r.watched who depth)

end

/-- The runs of makers when the response is read: its own, and inside it those for the instance that it makes. -/
def runs (who : ι) : Nat → Response γ → γ → List (Run ι γ)
  | _, fixed _, _ => []
  | depth, dynamic _ make change _, game =>
    ⟨who, depth, false, game⟩ :: (make false game).runs who (depth + 1) (change false game)

/-- **Watching changes nothing** but the log, in which the runs of the reading are written down. -/
theorem watched_read (who : ι) : ∀ (depth : Nat) (r : Response γ) (game : γ) (log : List (Run ι γ)),
    (r.watched who depth).read (game, log) =
      ((r.read game).1, (r.read game).2.1.watched who depth, (r.read game).2.2, log ++ r.runs who depth game)
  | _, fixed parts, game, log => by simp [watched, read, runs]
  | depth, dynamic param make change kept, game, log => by
      have made := watched_read who (depth + 1) (make false game) (change false game)
        (log ++ [⟨who, depth, false, game⟩])
      simp [watched, watchedKept, read_dynamic, runs, made]

/-- Each maker of a nest is run once. -/
theorem exists_map_depth_runs (who : ι) : ∀ (depth : Nat) (r : Response γ) (game : γ),
    ∃ n, (r.runs who depth game).map Run.depth = List.range' depth n
  | _, fixed _, _ => ⟨0, rfl⟩
  | depth, dynamic _ make change _, game => by
      obtain ⟨n, once⟩ := exists_map_depth_runs who (depth + 1) (make false game) (change false game)
      exact ⟨n + 1, by simp [runs, once, List.range'_succ]⟩

/-- No maker meets an instance. -/
theorem met_of_mem_runs (who : ι) : ∀ (depth : Nat) (r : Response γ) (game : γ),
    ∀ run ∈ r.runs who depth game, run.met = false
  | _, fixed _, _, run, among => by cases among
  | depth, dynamic _ make change _, game, run, among => by
      rw [runs, List.mem_cons] at among
      obtain rfl | among := among
      · rfl
      · exact met_of_mem_runs who (depth + 1) (make false game) (change false game) run among

/-- The runs that are not inside another one. -/
def outermost (log : List (Run ι γ)) : List (Run ι γ) := log.filter fun run => run.depth = 0

theorem outermost_append (log log' : List (Run ι γ)) : outermost (log ++ log') = outermost log ++ outermost log' :=
  List.filter_append ..

/-- **Reading runs the response's own maker once**, if it has one. -/
theorem outermost_runs (who : ι) (r : Response γ) (game : γ) :
    outermost (r.runs who 0 game) = if r.isDynamic then [⟨who, 0, false, game⟩] else [] := by
  cases r with
  | fixed parts => rfl
  | dynamic param make change kept =>
    obtain ⟨n, once⟩ := exists_map_depth_runs who 1 (make false game) (change false game)
    have inside : outermost ((make false game).runs who 1 (change false game)) = [] := by
      refine List.filter_eq_nil_iff.mpr fun run among => ?_
      have depth : run.depth ∈ List.range' 1 n := once ▸ List.mem_map_of_mem among
      have positive : 1 ≤ run.depth := (List.mem_range'_1.mp depth).1
      simp [Nat.ne_of_gt positive]
    rw [runs, ← List.singleton_append, outermost_append, inside]
    rfl

/-! ## Calls and runs -/

/-- Whether the call is an access. -/
def Call.isAccess : Call → Bool
  | access _ => true
  | append _ => false

/-- The runs of a call. -/
def Call.runs (who : ι) (c : Call) (r : Response γ) (game : γ) : List (Run ι γ) :=
  if c.isAccess then r.runs who 0 game else []

/-- The runs of calls. -/
def runsOfCalls (who : ι) : List Call → Response γ → γ → List (Run ι γ)
  | [], _, _ => []
  | c :: calls, r, game => c.runs who r game ++ runsOfCalls who calls (c.perform r game).2.1 (c.perform r game).2.2

theorem watched_perform (who : ι) (c : Call) (r : Response γ) (game : γ) (log : List (Run ι γ)) :
    c.perform (r.watched who 0) (game, log) =
      ((c.perform r game).1, (c.perform r game).2.1.watched who 0, (c.perform r game).2.2,
        log ++ c.runs who r game) := by
  cases c with
  | access v =>
    rw [perform_access, perform_access, watched_read]
    rfl
  | append part => cases r <;> simp [Call.perform, append, watched, Call.runs, Call.isAccess]

theorem watched_afterCalls (who : ι) (calls : List Call) (r : Response γ) (game : γ) (log : List (Run ι γ)) :
    afterCalls calls (r.watched who 0) (game, log) =
      ((afterCalls calls r game).1.watched who 0, (afterCalls calls r game).2,
        log ++ runsOfCalls who calls r game) := by
  induction calls generalizing r game log with
  | nil => simp [afterCalls, runsOfCalls]
  | cons c calls ih => simp [afterCalls, runsOfCalls, watched_perform, ih]

/-- As often as a response that is made anew is accessed, as often its maker is run. -/
theorem length_outermost_runsOfCalls (who : ι) (calls : List Call) (param : String) (make : Bool → γ → Response γ)
    (change : Bool → γ → γ) (kept : Option (Response γ)) (game : γ) :
    (outermost (runsOfCalls who calls (dynamic param make change kept) game)).length =
      (calls.filter Call.isAccess).length := by
  induction calls generalizing kept game with
  | nil => rfl
  | cons c calls ih =>
    obtain ⟨kept', same⟩ := exists_perform_dynamic c param make change kept game
    have own : (outermost (c.runs who (dynamic param make change kept) game)).length =
        if c.isAccess then 1 else 0 := by
      unfold Call.runs
      split
      · rw [outermost_runs]
        rfl
      · rfl
    rw [runsOfCalls, same, outermost_append, List.length_append, own, ih, List.filter_cons]
    split <;> simp [Nat.add_comm]

theorem met_of_mem_runsOfCalls (who : ι) (calls : List Call) (r : Response γ) (game : γ) :
    ∀ run ∈ runsOfCalls who calls r game, run.met = false := by
  induction calls generalizing r game with
  | nil => simp [runsOfCalls]
  | cons c calls ih =>
    intro run among
    rw [runsOfCalls, List.mem_append] at among
    obtain among | among := among
    · unfold Call.runs at among
      split at among
      · exact met_of_mem_runs who 0 r game run among
      · cases among
    · exact ih _ _ run among

/-- What calls do to a response that is made anew, watched under a name, at this state of the game and with this
instance kept. -/
structure MadeAnew (who : ι) (param : String) (make : Bool → γ → Response γ) (change : Bool → γ → γ)
    (kept : Option (Response γ)) (game : γ) : Prop where
  /-- An access runs the maker once, shows the instance that it makes and keeps it. -/
  access : ∀ (v : View) (log : List (Run ι γ)),
    let made := (make false game).read (change false game)
    (Call.access v).perform (dynamic param make change kept) game =
        (v.of made.1, dynamic param make change (some made.2.1), made.2.2) ∧
      (Call.access v).perform ((dynamic param make change kept).watched who 0) (game, log) =
        (v.of made.1, (dynamic param make change (some made.2.1)).watched who 0, made.2.2,
          log ++ ⟨who, 0, false, game⟩ :: (make false game).runs who 1 (change false game))
  /-- A fixed instance is shown as it is. -/
  plain : ∀ parts, make false game = fixed parts →
    (make false game).read (change false game) = (parts, fixed parts, change false game) ∧
      (make false game).runs who 1 (change false game) = []
  /-- An instance that is made anew itself shows the one that it makes, and keeps it. -/
  nested : ∀ param' make' change' kept', make false game = dynamic param' make' change' kept' →
    let made := (make' false (change false game)).read (change' false (change false game))
    (make false game).read (change false game) =
      (made.1, dynamic param' make' change' (some made.2.1), made.2.2)
  /-- Each maker of such a nest is run once. -/
  once : ∃ n, ((make false game).runs who 1 (change false game)).map Run.depth = List.range' 1 n
  /-- A part that is appended is not taken. -/
  append : ∀ (part : Part) (log : List (Run ι γ)),
    ((Call.append part).perform (dynamic param make change kept) game).2 = (dynamic param make change kept, game) ∧
      ((Call.append part).perform ((dynamic param make change kept).watched who 0) (game, log)).2 =
        ((dynamic param make change kept).watched who 0, game, log)

theorem madeAnew (who : ι) (param : String) (make : Bool → γ → Response γ) (change : Bool → γ → γ)
    (kept : Option (Response γ)) (game : γ) : MadeAnew who param make change kept game where
  access v log := by
    refine ⟨by rw [perform_access, read_dynamic], ?_⟩
    rw [watched_perform, perform_access]
    rfl
  plain parts made := by simp [made, read, runs]
  nested param' make' change' kept' made := by rw [made, read_dynamic]
  once := exists_map_depth_runs who 1 _ _
  append part log := ⟨rfl, by simp [Call.perform, Response.append, watched]⟩

/-- A second greeting is another one, and a part that is appended between the two is not heard. -/
example :
    let greeting : Response Bool :=
      dynamic "intro" (fun _ seen => .fixed [.text (if seen then "Welcome back." else "Greetings, stranger.")])
        (fun _ _ => true) none
    let met := afterCalls [.access .display, .append (.command .finish)] greeting false
    ((Call.access .text).perform met.1 met.2).1 = .text "Welcome back." := rfl

end Colloquy.Response
