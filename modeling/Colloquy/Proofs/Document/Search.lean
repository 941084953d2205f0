import Mathlib.Data.List.Lex
import Mathlib.Order.Lattice.Nat
import Colloquy.Proofs.Document

/-!
# Searches in document order

A node below another one is where a path of child numbers leads (`Node.below?`), and the document order is the
lexicographic order of the paths: a node stands in front of what is below it, and everything below a child in front
of the next child.  A search gives the first node below that it is asked for, and nothing only if there is none
(`Node.findBelow?_eq_iff`).

### What is load-bearing

`Wanted.Finds` speaks of any assignment of nodes to paths.  So what a search finds in a node, and what it finds in a
list of nodes, is one notion, and the search is put together from its parts as the paths are: a tree from its root
and the children (`Wanted.Finds.root`, `Wanted.Finds.children`), a list from its first tree and the others
(`Wanted.Finds.cons`).

## Main definitions

* `Node.at?`, `Node.below?`: the node that a path leads to.
* `Node.Answers`: the node is what a search asks for.
* `Wanted.Finds`: what is found, the first answer in document order or nothing.
-/

namespace Colloquy

open Text

namespace Node

/-- The node that a path of child numbers leads to. -/
def at? : Node → List Nat → Option Node
  | n, [] => some n
  | n, i :: path => n.children[i]?.bind fun child => child.at? path

/-- The node that a path leads to, its first number that of a tree in the list. -/
def among? (ns : List Node) : List Nat → Option Node
  | [] => none
  | i :: path => ns[i]?.bind fun n => n.at? path

/-- The node below `n` that a path leads to.  The empty path leads to `n`, which is not below itself. -/
def below? (n : Node) : List Nat → Option Node := among? n.children

/-- The node is what a search asks for: an element of the name, whose attribute, if one is asked for, has the value
apart from the case of ASCII letters. -/
structure Answers (n : Node) (w : Wanted) : Prop where
  element : n.isElement = true
  label : n.label = w.label
  having : ∀ name value, w.having = some (name, value) →
    ∃ found, n.attribute? name = some found ∧ lowerAscii found = lowerAscii value

theorem hasAttribute_iff {n : Node} {name value : String} :
    n.hasAttribute name value = true ↔
      ∃ found, n.attribute? name = some found ∧ lowerAscii found = lowerAscii value := by
  unfold hasAttribute
  cases n.attribute? name <;> simp [sameIgnoringAsciiCase]

theorem isHit_iff {n : Node} {w : Wanted} : isHit w n = true ↔ n.Answers w := by
  obtain ⟨label, having⟩ := w
  constructor
  · intro hit
    simp only [isHit, Bool.and_eq_true, beq_iff_eq] at hit
    refine ⟨hit.1.1, hit.1.2, ?_⟩
    rintro name value rfl
    exact hasAttribute_iff.mp hit.2
  · rintro ⟨element, rfl, having'⟩
    cases having with
    | none => simp [isHit, element]
    | some a => simp [isHit, element, hasAttribute_iff.mpr (having' a.1 a.2 rfl)]

namespace Wanted

/-- What a search finds where paths lead to nodes: the answer with the first path, or nothing if no path leads to
an answer. -/
inductive Finds (w : Wanted) (layout : List Nat → Option Node) : Option Node → Prop where
  | hit {m : Node} (path : List Nat) (there : layout path = some m) (answers : m.Answers w)
      (first : ∀ earlier < path, ∀ k, layout earlier = some k → ¬ k.Answers w) : w.Finds layout (some m)
  | miss (never : ∀ path k, layout path = some k → ¬ k.Answers w) : w.Finds layout none

namespace Finds

variable {w : Wanted} {layout : List Nat → Option Node} {n : Node} {ns : List Node} {a b : Option Node}

/-- There is one answer to a search. -/
theorem unique (one : w.Finds layout a) (other : w.Finds layout b) : a = b := by
  cases one with
  | hit path there answers first =>
    cases other with
    | hit path' there' answers' first' =>
      rcases lt_trichotomy path path' with lt | rfl | lt
      · exact absurd answers (first' path lt _ there)
      · rw [← there, there']
      · exact absurd answers' (first path' lt _ there')
    | miss never => exact absurd answers (never path _ there)
  | miss never =>
    cases other with
    | hit path there answers _ => exact absurd answers (never path _ there)
    | miss _ => rfl

/-- A root that is asked for is found in front of what is below it. -/
theorem root (answers : n.Answers w) : w.Finds n.at? (some n) :=
  .hit [] rfl answers fun earlier lt => absurd lt (List.not_lt_nil earlier)

/-- Where the root is not asked for, what is found below it is found. -/
theorem children (other : ¬ n.Answers w) (below : w.Finds n.below? a) : w.Finds n.at? a := by
  cases below with
  | hit path there answers first =>
    cases path with
    | nil => cases there
    | cons i path =>
      refine .hit (i :: path) there answers fun earlier lt k there' => ?_
      cases earlier with
      | nil => exact Option.some.inj there' ▸ other
      | cons j earlier => exact first (j :: earlier) lt k there'
  | miss never =>
    refine .miss fun path k there => ?_
    cases path with
    | nil => exact Option.some.inj there ▸ other
    | cons i path => exact never (i :: path) k there

/-- What is found in the first tree of a list is found, and failing that what is found in the others. -/
theorem cons (first : w.Finds n.at? a) (later : w.Finds (among? ns) b) :
    w.Finds (among? (n :: ns)) (a.or b) := by
  cases first with
  | hit path there answers first =>
    refine .hit (0 :: path) there answers fun earlier lt k there' => ?_
    cases earlier with
    | nil => cases there'
    | cons i earlier =>
      obtain none | ⟨rfl, sooner⟩ := List.cons_lt_cons_iff.mp lt
      · exact absurd none (Nat.not_lt_zero i)
      · exact first earlier sooner k there'
  | miss never =>
    cases later with
    | hit path there answers first =>
      cases path with
      | nil => cases there
      | cons i path =>
        refine .hit ((i + 1) :: path) there answers fun earlier lt k there' => ?_
        match earlier with
        | [] => cases there'
        | 0 :: earlier => exact never earlier k there'
        | (j + 1) :: earlier =>
          refine first (j :: earlier) ?_ k there'
          simpa [List.cons_lt_cons_iff] using lt
    | miss never' =>
      refine .miss fun path k there => ?_
      match path with
      | [] => cases there
      | 0 :: path => exact never path k there
      | (i + 1) :: path => exact never' (i :: path) k there

end Finds

end Wanted

mutual

theorem finds_findIn? (w : Wanted) : ∀ n : Node, w.Finds n.at? (findIn? w n)
  | element i o l as ns => by
      have below : w.Finds (element i o l as ns).below? (findAmong? w ns) := finds_findAmong? w ns
      rw [findIn?]
      split
      next hit => exact .root (isHit_iff.mp hit)
      next other => exact .children (mt isHit_iff.mpr other) below
  | text i o s => by
      refine .children ?_ (.miss fun path k there => ?_)
      · rintro ⟨element, -, -⟩
        cases element
      · cases path <;> cases there

theorem finds_findAmong? (w : Wanted) : ∀ ns : List Node, w.Finds (among? ns) (findAmong? w ns)
  | [] => .miss fun path k there => by cases path <;> cases there
  | n :: ns => by
      have parts := (finds_findIn? w n).cons (finds_findAmong? w ns)
      rw [findAmong?]
      cases found : findIn? w n <;> simpa [found] using parts

end

/-- **A search gives the first answer below the node in document order**, and nothing only if there is none. -/
theorem findBelow?_eq_iff {n : Node} {w : Wanted} {found : Option Node} :
    n.findBelow? w = found ↔ w.Finds n.below? found := by
  have finds : w.Finds n.below? (n.findBelow? w) := finds_findAmong? w n.children
  constructor
  · rintro rfl
    exact finds
  · exact finds.unique

/-- What is not found below a node is not found below any node of its tree. -/
theorem findBelow?_eq_none_of_mem_subtree {n m : Node} {w : Wanted} (within : m ∈ n.subtree)
    (missing : n.findBelow? w = none) : m.findBelow? w = none := by
  rw [findBelow?_eq, List.find?_eq_none] at missing ⊢
  intro k below
  exact missing k (mem_descendants_of_mem_subtree within below)

end Node

end Colloquy
