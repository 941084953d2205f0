import Colloquy.Proofs.Script.Beats
import Colloquy.Proofs.Script.Terms

/-!
# How often the content of a loop is run

A loop runs its content once for each pass that its terms ask for, and at the beginning of each pass its
variable has the number of the pass (`Scene.terms_are_kept`).  What happens meanwhile is up to the content and
to the caller: other blocks and loops may be inside, nodes may fail, the walk may be suspended, and anything may
be stored in the variable and in what the attributes mention.  Only an iteration that takes the pass out of all
blocks (`Scene.Leaves`) keeps a loop from its passes, or content that leads into inclusions again and again.

### What is load-bearing

The number of blocks around a loop tells its own content from what is further inside: where there is just one
block more, the walk is in the content of the loop, at one of its nodes or at the end of a pass.  So what is
recorded of a loop is what happens there (`Scene.begun`, `Scene.visited`).

`Loop.Terms.Stands` is the invariant.  It says which pass the loop is in and what of its content is behind it.
One beat keeps it (`Stands.beat`), so every sequence of beats does (`Stands.through`), and what the beats add up
to is composed by `Advances.trans`.

## Main definitions

* `Scene.begun`, `Scene.visited`, `Scene.Stays`: beats inside a loop.
* `Loop.Terms.Begins`, `Loop.Terms.Stands`: where a loop stands.
* `Loop.Terms.Kept`: loops that keep to their terms.
-/

namespace Colloquy

/-! ## What is recorded of a loop -/

namespace Scene

variable {ρ η : Type} [PatientSource ρ]

section

variable (root script : Node) (depth : Nat)

/-- The scene in which a loop with that many blocks around it begins a further pass by this beat. -/
def begunBy (s : Scene ρ η) : Beat ρ η → List (Scene ρ η)
  | .tick host =>
    match s.tick host root script with
    | (t, .round) => if s.frames.length = depth + 1 then [t] else []
    | _ => []
  | .change _ _ _ _ => []

/-- The node of the loop's own content that this beat comes to. -/
def visitedBy (s : Scene ρ η) : Beat ρ η → List Node
  | .tick _ => if s.frames.length = depth + 1 then s.node?.toList else []
  | .change _ _ _ _ => []

/-- The scenes in which the loop begins further passes in these beats. -/
def begun : List (Beat ρ η) → Scene ρ η → List (Scene ρ η)
  | [], _ => []
  | b :: bs, s => s.begunBy root script depth b ++ begun bs (s.beat root script b)

/-- The nodes of the loop's own content that these beats come to. -/
def visited : List (Beat ρ η) → Scene ρ η → List Node
  | [], _ => []
  | b :: bs, s => s.visitedBy depth b ++ visited bs (s.beat root script b)

/-- The beat is inside the loop and does not leave it. -/
def StaysBy (s : Scene ρ η) : Beat ρ η → Prop
  | .tick host => depth < s.frames.length ∧ ¬ s.Leaves root script host
  | .change _ _ _ _ => True

/-- All these beats are inside the loop and do not leave it. -/
def Stays : List (Beat ρ η) → Scene ρ η → Prop
  | [], _ => True
  | b :: bs, s => s.StaysBy root script depth b ∧ Stays bs (s.beat root script b)

end

variable {root script : Node} {depth : Nat} {host : Host η} {s : Scene ρ η}

theorem Stays.append {bs bs' : List (Beat ρ η)} (h : s.Stays root script depth bs)
    (further : (s.through root script bs).Stays root script depth bs') :
    s.Stays root script depth (bs ++ bs') := by
  induction bs generalizing s with
  | nil => exact further
  | cons b bs ih => exact ⟨h.1, ih h.2 further⟩

theorem begunBy_of_ne_round (h : (s.tick host root script).2 ≠ .round) :
    s.begunBy root script depth (.tick host) = [] := by
  unfold begunBy
  dsimp only
  generalize s.tick host root script = ticked at h ⊢
  obtain ⟨t, step⟩ := ticked
  cases step with
  | round => exact absurd rfl h
  | quiet | shown | failed => rfl

theorem begunBy_of_length_ne (h : s.frames.length ≠ depth + 1) :
    s.begunBy root script depth (.tick host) = [] := by
  unfold begunBy
  dsimp only
  split
  · rw [if_neg h]
  · rfl

theorem begunBy_of_round (h : s.frames.length = depth + 1) (round : (s.tick host root script).2 = .round) :
    s.begunBy root script depth (.tick host) = [(s.tick host root script).1] := by
  unfold begunBy
  dsimp only
  generalize s.tick host root script = ticked at round ⊢
  obtain ⟨t, step⟩ := ticked
  cases round
  dsimp only
  rw [if_pos h]

/-! ## Inside a loop -/

omit [PatientSource ρ] in
/-- Leaving a block, or beginning its next pass, does nothing to those around it. -/
theorem exists_frames_close (s : Scene ρ η) (f : Frame) (outer : List Frame) :
    ∃ inner, (s.close f outer).1.frames = inner ++ outer := by
  unfold close
  split
  · exact ⟨[], rfl⟩
  · split
    · exact ⟨[], rfl⟩
    · exact ⟨[_], rfl⟩

/-- An iteration that does not leave does nothing to the blocks around the one in progress. -/
theorem exists_frames_tick {f : Frame} {outer : List Frame} (frames : s.frames = f :: outer)
    (stays : ¬ s.Leaves root script host) : ∃ inner, (s.tick host root script).1.frames = inner ++ outer := by
  cases content : f.rest with
  | nil =>
    rw [tick_of_nil_rest frames content]
    exact exists_frames_close s f outer
  | cons n rest =>
    have here := node?_of_frames frames content
    obtain ⟨-, inner, same⟩ := frames_tick here stays
    refine ⟨inner ++ [{ f with rest := rest }], ?_⟩
    rw [same, past, frames]
    dsimp only
    rw [content, List.tail_cons, List.append_assoc, List.singleton_append]

/-- Iterations inside the loop are followed by others. -/
theorem Stays.add {j k : Nat} (h : s.Stays root script depth (List.replicate j (.tick host)))
    (further : (s.after host root script j).Stays root script depth (List.replicate k (.tick host))) :
    s.Stays root script depth (List.replicate (j + k) (.tick host)) := by
  rw [← List.replicate_append_replicate]
  refine h.append ?_
  rwa [through_ticks]

/-- As long as the walk comes to no inclusion, it comes out of the loop, or is about to leave it. -/
theorem Sound.exists_ticks (h : s.Sound root) (placed : script ∈ root.subtree) (depth : Nat) (host : Host η) :
    ∃ k, s.Stays root script depth (List.replicate k (.tick host)) ∧
      ((s.after host root script k).frames.length ≤ depth ∨ (s.after host root script k).Leaves root script host ∨
        ∃ n, (s.after host root script k).node? = some n ∧ Action.ofLabel? n.label = some .inclusion) := by
  induction measure : s.ahead using Nat.strong_induction_on generalizing s with
  | h ahead ih =>
    subst measure
    rcases Nat.lt_or_ge depth s.frames.length with inside | outside
    · by_cases ends : s.Leaves root script host ∨
          ∃ n, s.node? = some n ∧ Action.ofLabel? n.label = some .inclusion
      · exact ⟨0, trivial, .inr ends⟩
      · rw [not_or, not_exists] at ends
        obtain ⟨stays, apart⟩ := ends
        have within : s.frames ≠ [] := List.ne_nil_of_length_pos (Nat.zero_lt_of_lt inside)
        have less := h.tick_ahead_lt_of_stays within stays fun n here named => apart n ⟨here, named⟩
        obtain ⟨k, further, comes⟩ := ih _ less (h.tick host placed) rfl
        exact ⟨k + 1, ⟨⟨inside, stays⟩, further⟩, comes⟩
    · exact ⟨0, trivial, .inl outside⟩

/-- **A walk comes out of a loop**, or is about to leave it, unless it comes to inclusions again and again. -/
theorem Sound.comes_out_or_includes (h : s.Sound root) (placed : script ∈ root.subtree) (depth : Nat)
    (host : Host η) :
    (∃ k, s.Stays root script depth (List.replicate k (.tick host)) ∧
      ((s.after host root script k).frames.length ≤ depth ∨
        (s.after host root script k).Leaves root script host)) ∨
    ∀ m, ∃ k, m ≤ k ∧ s.Stays root script depth (List.replicate k (.tick host)) ∧
      ∃ n, (s.after host root script k).node? = some n ∧ Action.ofLabel? n.label = some .inclusion := by
  refine or_iff_not_imp_left.mpr fun never m => ?_
  -- From anywhere inside, the walk comes to an inclusion.
  have soon {j : Nat} (stays : s.Stays root script depth (List.replicate j (.tick host))) :
      ∃ k, s.Stays root script depth (List.replicate (j + k) (.tick host)) ∧
        ∃ n, (s.after host root script (j + k)).node? = some n ∧ Action.ofLabel? n.label = some .inclusion := by
    obtain ⟨k, further, comes⟩ := (h.after host placed j).exists_ticks placed depth host
    have all := stays.add further
    rw [← after_add] at comes
    rcases comes with outside | leaves | included
    · exact absurd ⟨_, all, .inl outside⟩ never
    · exact absurd ⟨_, all, .inr leaves⟩ never
    · exact ⟨k, all, included⟩
  induction m with
  | zero =>
    obtain ⟨k, stays, included⟩ := soon (j := 0) trivial
    exact ⟨0 + k, Nat.zero_le _, stays, included⟩
  | succ m ih =>
    obtain ⟨k, le, stays, -⟩ := ih
    have further : s.Stays root script depth (List.replicate (k + 1) (.tick host)) := by
      refine stays.add ⟨⟨Nat.lt_of_not_ge fun outside => ?_, fun leaves => ?_⟩, trivial⟩
      · exact never ⟨k, stays, .inl outside⟩
      · exact never ⟨k, stays, .inr leaves⟩
    obtain ⟨j, all, included⟩ := soon further
    exact ⟨k + 1 + j, by omega, all, included⟩

end Scene

/-! ## Where a loop stands -/

namespace Loop.Terms

variable {ρ η : Type}

section

variable (t : Terms) (n : Node) (outer : List Frame)

/-- In this scene a loop with these terms begins this pass: all of its content is before it, its own number
is that of the pass, and so is the value of its variable. -/
structure Begins (k : Nat) (s : Scene ρ η) : Prop where
  exists_frames : ∃ l, t.IsPass k l ∧ s.frames = ⟨n, n.children, some l⟩ :: outer
  exists_value : ∀ name, t.iterator = some name →
    ∃ i : Int64, s.scope.value name = .int i ∧ i.toInt = t.number k

/-- Where a loop stands that has begun `k` passes after its first one, and what nodes of its content it has
come to. -/
inductive Stands : (k : Nat) → List Node → Scene ρ η → Prop where
  /-- In its pass `k`, with all of its content behind it `k` times, and some of it once more. -/
  | inside {k : Nat} {l : Loop} {s : Scene ρ η} (inner : List Frame) (before rest : List Node)
      (pass : t.IsPass k l) (frames : s.frames = inner ++ ⟨n, rest, some l⟩ :: outer)
      (content : before ++ rest = n.children) :
      Stands k ((List.replicate k n.children).flatten ++ before) s
  /-- Behind its last pass. -/
  | behind {k : Nat} {s : Scene ρ η} (last : k + 1 = t.passes) (frames : s.frames = outer) :
      Stands k (List.replicate t.passes n.children).flatten s

end

variable {t : Terms} {n : Node} {outer : List Frame} {k : Nat} {seen : List Node} {s : Scene ρ η}

/-- All of the content once more. -/
theorem flatten_replicate_succ (k : Nat) (content : List Node) :
    (List.replicate (k + 1) content).flatten = (List.replicate k content).flatten ++ content := by
  rw [List.replicate_succ', List.flatten_append, List.flatten_singleton]

theorem Stands.lt_passes (h : t.Stands n outer k seen s) : k < t.passes := by
  cases h with
  | inside _ _ _ pass => exact pass.lt_passes
  | behind last => omega

/-- A loop that the walk is out of is behind its last pass. -/
theorem Stands.over_of_length_le (h : t.Stands n outer k seen s) (outside : s.frames.length ≤ outer.length) :
    k + 1 = t.passes ∧ seen = (List.replicate t.passes n.children).flatten ∧ s.frames = outer := by
  cases h with
  | inside _ _ _ _ frames =>
    rw [frames, List.length_append, List.length_cons] at outside
    omega
  | behind last frames => exact ⟨last, rfl, frames⟩

theorem Begins.stands (h : t.Begins n outer 0 s) : t.Stands n outer 0 [] s := by
  obtain ⟨l, pass, frames⟩ := h.exists_frames
  exact .inside [] [] n.children pass frames (List.nil_append _)

variable [PatientSource ρ] {root script : Node} {host : Host η}

/-- An iteration in a block inside the loop does nothing to the loop. -/
theorem Stands.tick_of_inner {inner : List Frame} {g : Frame} {before rest : List Node} {l : Loop}
    (pass : t.IsPass k l) (frames : s.frames = g :: inner ++ ⟨n, rest, some l⟩ :: outer)
    (content : before ++ rest = n.children) (stays : ¬ s.Leaves root script host) :
    t.Stands n outer k ((List.replicate k n.children).flatten ++ before) (s.tick host root script).1 := by
  obtain ⟨inner', same⟩ := Scene.exists_frames_tick frames stays
  refine .inside (inner' ++ inner) before rest pass ?_ content
  rw [same, List.append_assoc]
  rfl

/-- An iteration at a node of the content. -/
theorem Stands.tick_of_node {before rest : List Node} {m : Node} {l : Loop} (pass : t.IsPass k l)
    (frames : s.frames = ⟨n, m :: rest, some l⟩ :: outer) (content : before ++ m :: rest = n.children)
    (stays : ¬ s.Leaves root script host) :
    (s.tick host root script).2 ≠ .round ∧
      t.Stands n outer k ((List.replicate k n.children).flatten ++ before ++ [m]) (s.tick host root script).1 := by
  have here : s.node? = some m := Scene.node?_of_frames frames rfl
  obtain ⟨quiet, inner, same⟩ := Scene.frames_tick here stays
  refine ⟨quiet, ?_⟩
  rw [List.append_assoc]
  refine .inside inner (before ++ [m]) rest pass ?_ ?_
  · rw [same, Scene.past, frames]
    rfl
  · rw [List.append_assoc, List.singleton_append, content]

/-- An iteration at the end of a pass. -/
theorem Stands.tick_of_end {l : Loop} (pass : t.IsPass k l) (frames : s.frames = ⟨n, [], some l⟩ :: outer) :
    ((s.tick host root script).2 = .round ∧ t.Begins n outer (k + 1) (s.tick host root script).1 ∨
      (s.tick host root script).2 = .quiet ∧ k + 1 = t.passes ∧ (s.tick host root script).1.frames = outer) := by
  rw [Scene.tick_of_nil_rest frames rfl]
  unfold Scene.close
  dsimp only
  cases next : l.next? with
  | none => exact .inr ⟨rfl, pass.last next, rfl⟩
  | some i =>
    have further := pass.next next
    refine .inl ⟨rfl, ⟨_, further, rfl⟩, fun name iterator => ⟨i, ?_, further.number_eq⟩⟩
    rw [← pass.iterator_eq] at iterator
    dsimp only
    rw [iterator]
    dsimp only
    rw [Scope.value_assign, if_pos rfl]

/-- A loop that stood at pass `k`, with these nodes behind it, has begun these passes since and come to these
nodes. -/
structure Advances (t : Terms) (n : Node) (outer : List Frame) (k : Nat) (seen : List Node)
    (begun : List (Scene ρ η)) (visited : List Node) (s : Scene ρ η) : Prop where
  begins : ∀ j u, begun[j]? = some u → t.Begins n outer (k + 1 + j) u
  stands : t.Stands n outer (k + begun.length) (seen ++ visited) s

omit [PatientSource ρ] in
/-- No pass has begun. -/
theorem Stands.advances {visited : List Node} (h : t.Stands n outer k (seen ++ visited) s) :
    t.Advances n outer k seen [] visited s where
  begins := by
    intro j u no
    cases no
  stands := h

omit [PatientSource ρ] in
/-- The next pass has begun, with all of the content behind the one before it. -/
theorem Begins.advances (h : t.Begins n outer (k + 1) s) :
    t.Advances n outer k ((List.replicate k n.children).flatten ++ n.children) [s] [] s where
  begins := by
    intro j u found
    cases j with
    | zero =>
      cases found
      exact h
    | succ j => cases found
  stands := by
    obtain ⟨l, pass, frames⟩ := h.exists_frames
    rw [← flatten_replicate_succ]
    exact .inside [] [] n.children pass frames (List.nil_append _)

omit [PatientSource ρ] in
theorem Advances.trans {begun begun' : List (Scene ρ η)} {visited visited' : List Node} {s' : Scene ρ η}
    (first : t.Advances n outer k seen begun visited s)
    (later : t.Advances n outer (k + begun.length) (seen ++ visited) begun' visited' s') :
    t.Advances n outer k seen (begun ++ begun') (visited ++ visited') s' where
  begins := by
    intro j u at_j
    rcases Nat.lt_or_ge j begun.length with less | ge
    · rw [List.getElem?_append_left less] at at_j
      exact first.begins j u at_j
    · rw [List.getElem?_append_right ge] at at_j
      have pass := later.begins _ u at_j
      have same : k + begun.length + 1 + (j - begun.length) = k + 1 + j := by omega
      rwa [same] at pass
  stands := by
    have stands := later.stands
    rwa [Nat.add_assoc, ← List.length_append, List.append_assoc] at stands

/-- What an iteration further inside adds to the loop is nothing. -/
theorem Stands.advances_of_inner {inner : List Frame} {g : Frame} {before rest : List Node} {l : Loop}
    (pass : t.IsPass k l) (frames : s.frames = g :: inner ++ ⟨n, rest, some l⟩ :: outer)
    (content : before ++ rest = n.children) (stays : ¬ s.Leaves root script host) :
    t.Advances n outer k ((List.replicate k n.children).flatten ++ before)
      (s.begunBy root script outer.length (.tick host)) (s.visitedBy outer.length (.tick host))
      (s.tick host root script).1 := by
  have deep : s.frames.length ≠ outer.length + 1 := by
    rw [frames, List.cons_append, List.length_cons, List.length_append, List.length_cons]
    omega
  rw [Scene.begunBy_of_length_ne deep, Scene.visitedBy, if_neg deep]
  refine Stands.advances ?_
  rw [List.append_nil]
  exact Stands.tick_of_inner pass frames content stays

/-- What an iteration in the content of the loop adds is a node or, at the end of a pass, the next pass. -/
theorem Stands.advances_of_content {before rest : List Node} {l : Loop} (pass : t.IsPass k l)
    (frames : s.frames = ⟨n, rest, some l⟩ :: outer) (content : before ++ rest = n.children)
    (stays : ¬ s.Leaves root script host) :
    t.Advances n outer k ((List.replicate k n.children).flatten ++ before)
      (s.begunBy root script outer.length (.tick host)) (s.visitedBy outer.length (.tick host))
      (s.tick host root script).1 := by
  have level : s.frames.length = outer.length + 1 := by rw [frames, List.length_cons]
  rw [Scene.visitedBy, if_pos level]
  cases rest with
  | cons m rest =>
    obtain ⟨quiet, stands⟩ := Stands.tick_of_node pass frames content stays
    have here : s.node? = some m := Scene.node?_of_frames frames rfl
    rw [Scene.begunBy_of_ne_round quiet, here]
    exact Stands.advances stands
  | nil =>
    have away : s.node? = none := by
      rw [Scene.node?, frames]
      rfl
    rw [away]
    rw [List.append_nil] at content
    cases content
    rcases Stands.tick_of_end pass frames with ⟨round, begins⟩ | ⟨quiet, last, frames⟩
    · rw [Scene.begunBy_of_round level round]
      exact begins.advances
    · rw [Scene.begunBy_of_ne_round (by rw [quiet]; exact nofun)]
      refine Stands.advances ?_
      rw [Option.toList_none, List.append_nil, ← flatten_replicate_succ, last]
      exact .behind last frames

/-- **One beat inside the loop** begins the next pass at most. -/
theorem Stands.beat (h : t.Stands n outer k seen s) (b : Beat ρ η)
    (stays : s.StaysBy root script outer.length b) :
    t.Advances n outer k seen (s.begunBy root script outer.length b) (s.visitedBy outer.length b)
      (s.beat root script b) := by
  cases b with
  | change scope random game notices =>
    refine Stands.advances ?_
    rw [Scene.visitedBy, List.append_nil]
    cases h with
    | inside inner before rest pass frames content => exact .inside inner before rest pass frames content
    | behind last frames => exact .behind last frames
  | tick host =>
    obtain ⟨within, stays⟩ := stays
    cases h with
    | behind last frames =>
      rw [frames] at within
      omega
    | inside inner before rest pass frames content =>
      -- Whether anything is further inside says if this is in the content of the loop itself.
      cases inner with
      | nil => exact Stands.advances_of_content pass frames content stays
      | cons g inner => exact Stands.advances_of_inner pass frames content stays

/-- **Beats inside the loop** begin its passes one by one. -/
theorem Stands.through (h : t.Stands n outer k seen s) {bs : List (Beat ρ η)}
    (stays : s.Stays root script outer.length bs) :
    t.Advances n outer k seen (s.begun root script outer.length bs) (s.visited root script outer.length bs)
      (s.through root script bs) := by
  induction bs generalizing k seen s with
  | nil =>
    refine Stands.advances ?_
    rw [Scene.visited, List.append_nil]
    exact h
  | cons b bs ih =>
    have first := h.beat b stays.1
    exact first.trans (ih first.stands stays.2)

/-- The terms are kept by a loop that was entered at the first scene, with those blocks around it, and that
these beats have not left. -/
structure Kept (root script : Node) (t : Terms) (n : Node) (outer : List Frame) (first : Scene ρ η)
    (bs : List (Beat ρ η)) : Prop where
  /-- Each pass begins with its number. -/
  begins : ∀ k u, (first :: first.begun root script outer.length bs)[k]? = some u → t.Begins n outer k u
  at_most : (first :: first.begun root script outer.length bs).length ≤ t.passes
  /-- All of the content is behind the loop once for each pass that is over, and in order. -/
  stands : t.Stands n outer (first.begun root script outer.length bs).length
    (first.visited root script outer.length bs) (first.through root script bs)
  /-- Outside the loop all passes are over. -/
  exactly : (first.through root script bs).frames = outer →
    (first :: first.begun root script outer.length bs).length = t.passes ∧
      first.visited root script outer.length bs = (List.replicate t.passes n.children).flatten
  /-- The walk comes out of the loop or to an element that takes it out of all blocks, unless its content leads
  into inclusions again and again. -/
  goes_on : ∀ host, (first.through root script bs).Sound root → script ∈ root.subtree →
    (∃ k, first.Stays root script outer.length (bs ++ List.replicate k (.tick host)) ∧
      ((first.through root script (bs ++ List.replicate k (.tick host))).frames = outer ∨
        (first.through root script (bs ++ List.replicate k (.tick host))).Leaves root script host)) ∨
    ∀ j, ∃ k, j ≤ k ∧ first.Stays root script outer.length (bs ++ List.replicate k (.tick host)) ∧
      ∃ m, (first.through root script (bs ++ List.replicate k (.tick host))).node? = some m ∧
        Action.ofLabel? m.label = some .inclusion
  /-- Calls that neither load a document nor begin a pass are further beats. -/
  calls : ∀ c c', Script.At root script c (first.through root script bs) →
    Relation.ReflTransGen Script.GoesOn c c' →
      ∃ bs', Script.At root script c' (first.through root script (bs ++ bs'))

/-- Where a loop stands that was entered at its first pass. -/
theorem Begins.stands_through {first : Scene ρ η} {bs : List (Beat ρ η)} (h : t.Begins n outer 0 first)
    (stays : first.Stays root script outer.length bs) :
    t.Stands n outer (first.begun root script outer.length bs).length
      (first.visited root script outer.length bs) (first.through root script bs) := by
  have stands := (h.stands.through stays).stands
  rwa [Nat.zero_add, List.nil_append] at stands

theorem Begins.kept {first : Scene ρ η} {bs : List (Beat ρ η)} (h : t.Begins n outer 0 first)
    (stays : first.Stays root script outer.length bs) : t.Kept root script n outer first bs where
  begins := by
    intro k u found
    cases k with
    | zero =>
      cases found
      exact h
    | succ k =>
      have pass := (h.stands.through stays).begins k u found
      rwa [Nat.zero_add, Nat.add_comm] at pass
  at_most := (h.stands_through stays).lt_passes
  stands := h.stands_through stays
  exactly := by
    intro outside
    obtain ⟨last, seen, -⟩ := (h.stands_through stays).over_of_length_le (by rw [outside])
    exact ⟨last, seen⟩
  goes_on := by
    intro host sound placed
    simp only [Scene.through_append, Scene.through_ticks]
    refine (sound.comes_out_or_includes placed outer.length host).imp ?_ fun includes j => ?_
    · rintro ⟨k, further, comes⟩
      have all := stays.append further
      refine ⟨k, all, comes.imp_left fun outside => ?_⟩
      have stands := h.stands_through all
      rw [Scene.through_append, Scene.through_ticks] at stands
      exact (stands.over_of_length_le outside).2.2
    · obtain ⟨k, le, further, included⟩ := includes j
      exact ⟨k, le, stays.append further, included⟩
  calls := by
    intro c c' stands goes
    obtain ⟨bs', behind⟩ := Script.exists_beats goes stands
    refine ⟨bs', ?_⟩
    rwa [Scene.through_append]

end Loop.Terms

/-! ## A loop is entered -/

namespace Scene

open Loop

variable {ρ η : Type} [PatientSource ρ] {root script : Node} {s : Scene ρ η} {n : Node} {t : Terms} {random : ρ}

/-- A loop whose terms can be read does what it makes of them. -/
theorem tick_of_terms (host : Host η) (here : s.node? = some n) (named : Action.ofLabel? n.label = some .loop)
    (read : (Site.terms ⟨root, script, s.scope⟩ n).run.run s.random = (.ok t, random)) :
    s.tick host root script =
      match t.settle n with
      | .ok found => ({ s.past with random := random } : Scene ρ η).enact host (Site.loopDeed n found)
      | .error fault => ({ s.past with random := random }, .failed fault) := by
  rw [tick_of_node? here]
  cases n with
  | text => cases named
  | element =>
    unfold visit act
    dsimp only
    rw [named]
    dsimp only
    have drawn := Site.deed_loop_run _ _ read
    change (Site.deed ⟨root, script, s.past.scope⟩ _ .loop).run.run s.past.random = _ at drawn
    rw [drawn]
    cases t.settle _ <;> rfl

omit [PatientSource ρ] in
/-- Inside a loop its variable has the number of its pass. -/
theorem value_enter (s : Scene ρ η) {f : Frame} {l : Loop} {name : String} (loop : f.loop = some l)
    (iterator : l.iterator = some name) : (s.enter f).scope.value name = .int l.current := by
  obtain ⟨owner, rest, _⟩ := f
  obtain ⟨_, current, last, step⟩ := l
  cases loop
  cases iterator
  exact (Scope.value_assign _ _ _ _).trans (if_pos rfl)

/-- Terms that do not overflow are passed over or lead into the first pass. -/
theorem enters_loop (host : Host η) (here : s.node? = some n) (named : Action.ofLabel? n.label = some .loop)
    (read : (Site.terms ⟨root, script, s.scope⟩ n).run.run s.random = (.ok t, random)) (fits : ¬ t.Overflows) :
    (s.tick host root script).2 = .quiet ∧
      (t.passes = 0 ∧ (s.tick host root script).1 = { s.past with random := random } ∨
        0 < t.passes ∧ t.Begins n s.past.frames 0 (s.tick host root script).1) := by
  have counts : t.step ≠ 0 := Site.terms_gives _ _ s.random t (by rw [read])
  obtain ⟨found, settled, ⟨none, proceeds⟩ | ⟨l, pass, enters⟩⟩ := Terms.settles n counts fits
  · rw [tick_of_terms host here named read, settled]
    dsimp only
    rw [proceeds]
    exact ⟨rfl, .inl ⟨none, rfl⟩⟩
  · rw [tick_of_terms host here named read, settled]
    dsimp only
    rw [enters]
    refine ⟨rfl, .inr ⟨pass.lt_passes, ⟨l, pass, rfl⟩, fun name iterator => ⟨l.current, ?_, pass.number_eq⟩⟩⟩
    exact value_enter _ rfl (pass.iterator_eq.trans iterator)

/-- **A loop keeps to its terms.**  At a loop whose terms can be read there is the fault for its range exactly if
they overflow, and otherwise nothing to show.  With an overflow or without a pass, nothing but the numbers drawn
for the terms is different behind the loop.  Otherwise the walk is inside the loop, and whatever then happens in
its content and between calls, the terms are kept. -/
theorem terms_are_kept (host : Host η) (here : s.node? = some n) (named : Action.ofLabel? n.label = some .loop)
    (read : (Site.terms ⟨root, script, s.scope⟩ n).run.run s.random = (.ok t, random)) :
    ((∃ fault, (s.tick host root script).2 = .failed fault ∧ fault.code = "SCRIPT_LOOP_RANGE") ↔ t.Overflows) ∧
    (¬ t.Overflows → (s.tick host root script).2 = .quiet) ∧
    (t.Overflows ∨ t.passes = 0 → (s.tick host root script).1 = { s.past with random := random }) ∧
    (¬ t.Overflows → 0 < t.passes → ∀ bs : List (Beat ρ η),
      (s.tick host root script).1.Stays root script s.past.frames.length bs →
        t.Kept root script n s.past.frames (s.tick host root script).1 bs) := by
  by_cases beyond : t.Overflows
  · have fails := tick_of_terms host here named read
    rw [t.settle_of_overflows n beyond] at fails
    rw [fails]
    exact ⟨iff_of_true ⟨_, rfl, rfl⟩ beyond, fun fits => absurd beyond fits, fun _ => rfl,
      fun fits => absurd beyond fits⟩
  · obtain ⟨quiet, enters⟩ := enters_loop host here named read beyond
    refine ⟨iff_of_false ?_ beyond, fun _ => quiet, fun none => ?_, fun _ some bs stays => ?_⟩
    · rintro ⟨fault, fails, -⟩
      rw [quiet] at fails
      cases fails
    · rcases enters with ⟨-, passed⟩ | ⟨some, -⟩
      · exact passed
      · rcases none with no | none
        · exact absurd no beyond
        · omega
    · rcases enters with ⟨none, -⟩ | ⟨-, begins⟩
      · omega
      · exact begins.kept stays

end Scene

/-! ## Two naps -/

namespace Naps

/-- A rest. -/
def nap : Node := .element 3 none "sleep" [] []

/-- Two rests, counted. -/
def loop : Node := .element 2 none "for" [("var", "i"), ("count", "2")] [nap]

/-- A block with that loop. -/
def block : Node := .element 1 none "a" [] [loop]

/-- A document with that block. -/
def document : Node := .element 0 none "script" [("id", "s")] [block]

/-- The terms of the loop. -/
def terms : Loop.Terms := ⟨some "i", 1, 1, .count 2⟩

/-- The scene in front of the loop. -/
def start : Scene Listed Unit := ⟨⟨.empty, .empty, [document]⟩, ⟨[]⟩, [.block block], (), []⟩

/-- The block behind the loop. -/
def behind : Frame := ⟨block, [], none⟩

/-- The scene inside the loop in this pass, with this to come of its content. -/
def inside (current : Int64) (rest : List Node) : Scene Listed Unit :=
  ⟨(start.scope.assign "i" (.int 1)), ⟨[]⟩, [⟨loop, rest, some ⟨some "i", current, 2, 1⟩⟩, behind], (), []⟩

theorem terms_eq (site : Site) : (site.terms loop : Draw Listed Loop.Terms) = pure terms := by
  have text : (site.text? loop "count" : Draw Listed _) = pure (some "2") := rfl
  have count : (site.integer? loop "count" : Draw Listed _) = pure (some 2) := by
    rw [Site.integer?, text, pure_bind]
    dsimp only
    rw [Carousel.evaluate_two]
    rfl
  have iterator : (site.text? loop "var" : Draw Listed _) = pure (some "i") := rfl
  have first : (site.integerOrOne loop "start" : Draw Listed _) = pure 1 := rfl
  have step : (site.integerOrOne loop "step" : Draw Listed _) = pure 1 := rfl
  rw [Site.terms, iterator, pure_bind, first, pure_bind, step, pure_bind, count]
  rfl

theorem fits : ¬ terms.Overflows := by
  rintro ⟨c, bound, -, beyond⟩
  cases bound
  revert beyond
  decide

theorem tick_start : start.tick Host.obliging document document = (inside 1 [nap], .quiet) := by
  have here : start.node? = some loop := rfl
  have read : (Site.terms ⟨document, document, start.scope⟩ loop).run.run start.random =
      (.ok terms, start.random) := by
    rw [terms_eq]
    rfl
  rw [Scene.tick_of_terms Host.obliging here rfl read]
  rfl

/-- Inside the loop nothing but rests is come to. -/
theorem stays_at {s : Scene Listed Unit} (h : s.node? = none ∨ s.node? = some nap) :
    ¬ s.Leaves document document Host.obliging := by
  refine Scene.not_leaves fun n here action named => ?_
  rcases h with none | there
  · rw [none] at here
    cases here
  · rw [there] at here
    cases here
    cases named
    rfl

theorem stays : (inside 1 [nap]).Stays document document 1 (List.replicate 4 (.tick Host.obliging)) :=
  ⟨⟨by decide, stays_at (.inr rfl)⟩, ⟨by decide, stays_at (.inl rfl)⟩, ⟨by decide, stays_at (.inr rfl)⟩,
    ⟨by decide, stays_at (.inl rfl)⟩, trivial⟩

end Naps

/-- The loop of two naps keeps to its terms: four iterations further on two passes have begun, both naps are
behind it, and it is over. -/
theorem Scene.terms_are_kept_by_naps :
    Naps.terms.Kept Naps.document Naps.document Naps.loop [Naps.behind] (Naps.inside 1 [Naps.nap])
        (List.replicate 4 (.tick Host.obliging)) ∧
      ((Naps.inside 1 [Naps.nap]).visited Naps.document Naps.document 1
        (List.replicate 4 (.tick Host.obliging)) = [Naps.nap, Naps.nap] ∧
      ((Naps.inside 1 [Naps.nap]).through Naps.document Naps.document
        (List.replicate 4 (.tick Host.obliging))).frames = [Naps.behind]) := by
  have here : Naps.start.node? = some Naps.loop := rfl
  have read : (Site.terms ⟨Naps.document, Naps.document, Naps.start.scope⟩ Naps.loop).run.run Naps.start.random =
      (.ok Naps.terms, Naps.start.random) := by
    rw [Naps.terms_eq]
    rfl
  obtain ⟨-, -, -, kept⟩ := Scene.terms_are_kept Host.obliging here rfl read
  rw [Naps.tick_start] at kept
  exact ⟨kept Naps.fits (by decide) _ Naps.stays, rfl, rfl⟩

end Colloquy
