import Colloquy.Proofs.Document.Numbering

/-!
# Documents in an arena

A document may be kept as one list of cells, each with a link to its first child and one to its next
sibling.  Reading puts cells at the end of the list and links them afterwards; comments, instructions and
empty texts get none.  What comes of this is the list of the nodes of the numbered tree, in order, with the
links that the tree has (`Arena.importRoot_eq`), and following the links leads through all of it in order
(`Arena.isOrdered_arena`).

### What is load-bearing

A link is set when the node that it leads to is already there, so a part of the arena that has been read
still changes: its first cell is linked to the sibling behind it.  Nothing else of it ever changes.  So the
induction is about cells with a given link of the first (`Node.cells`), and it says of the arena in
front of them just which one link is added (`Arena.linkFirst`).

## Main definitions

* `Delivered`: a document with all that a reader of markup delivers.
* `Arena`, `Arena.importRoot`: the cells that come of it.
* `Node.arena`: the cells of a tree.
* `Arena.Visits`: following the links.
* `Arena.IsOrdered`: an arena that is a tree in document order.
-/

namespace Colloquy

/-- A document as it is delivered, with what is passed over. -/
inductive Delivered where
  | element (origin : Option Origin) (label : String) (attributes : List Attribute)
      (children : List Delivered)
  | text (origin : Option Origin) (value : String)
  /-- A comment or an instruction. -/
  | gap

/-- What is kept of a node, and its links. -/
structure Cell where
  isElement : Bool
  label : String
  attributes : List Attribute
  text? : Option String
  origin : Option Origin
  firstChild : Option Nat
  nextSibling : Option Nat

namespace Cell

/-- If the cell is one of a text, the text is not empty, and it has no name, no attributes and no children. -/
def IsPlain (e : Cell) : Prop :=
  e.isElement = false →
    e.label = "" ∧ e.attributes = [] ∧ e.firstChild = none ∧ ∃ value, e.text? = some value ∧ value ≠ ""

/-- The cell of an element that is not linked yet. -/
def ofElement (origin : Option Origin) (label : String) (attributes : List Attribute) : Cell :=
  ⟨true, label, attributes, none, origin, none, none⟩

/-- The cell of a text that is not linked yet. -/
def ofText (origin : Option Origin) (value : String) : Cell :=
  ⟨false, "", [], some value, origin, none, none⟩

end Cell

/-- The nodes of a document in the order in which they were read; a link is a place in the list. -/
abbrev Arena := List Cell

/-! ## Reading into an arena -/

namespace Arena

/-- Links a child to the child in front of it or, if it is the first, to its parent. -/
def appendChild (a : Arena) (parent : Nat) (last : Option Nat) (child : Nat) : Arena :=
  match last with
  | some previous => a.modify previous fun e => { e with nextSibling := some child }
  | none => a.modify parent fun e => { e with firstChild := some child }

mutual

/-- Reads one more child, and which child is the last one then. -/
def importNode (a : Arena) (parent : Nat) (last : Option Nat) : Delivered → Arena × Option Nat
  | .element origin label attributes children =>
    let grown := (importAll (a ++ [.ofElement origin label attributes]) a.length none children).1
    (grown.appendChild parent last a.length, some a.length)
  | .text origin value =>
    if value = "" then (a, last)
    else (appendChild (a ++ [.ofText origin value]) parent last a.length, some a.length)
  | .gap => (a, last)

/-- Reads more children, and which child is the last one then. -/
def importAll (a : Arena) (parent : Nat) (last : Option Nat) : List Delivered → Arena × Option Nat
  | [] => (a, last)
  | d :: ds =>
    let read := importNode a parent last d
    importAll read.1 parent read.2 ds

end

/-- The arena of a document whose outermost element is this. -/
def importRoot (origin : Option Origin) (label : String) (attributes : List Attribute)
    (children : List Delivered) : Arena :=
  (importAll [.ofElement origin label attributes] 0 none children).1

end Arena

/-! ## The tree that is read -/

namespace Delivered

mutual

/-- The node that is kept. -/
def node? : Delivered → Option Node
  | element origin label attributes children => some (.element 0 origin label attributes (nodes children))
  | text origin value => if value = "" then none else some (.text 0 origin value)
  | gap => none

/-- The nodes that are kept. -/
def nodes : List Delivered → List Node
  | [] => []
  | d :: ds =>
    match node? d with
    | some n => n :: nodes ds
    | none => nodes ds

end

end Delivered

namespace Node

mutual

/-- The cells of a tree, the first of which is linked to a sibling or to none. -/
def cells (next : Option Nat) : Node → Arena
  | element _ origin label attributes children =>
    { Cell.ofElement origin label attributes with
      firstChild := children.head?.map index, nextSibling := next } :: cellsAll children
  | text _ origin value => [{ Cell.ofText origin value with nextSibling := next }]

/-- The cells of trees that are siblings. -/
def cellsAll : List Node → Arena
  | [] => []
  | n :: ns => cells (ns.head?.map index) n ++ cellsAll ns

end

/-- The cells of a document. -/
def arena (n : Node) : Arena := n.cells none

mutual

theorem length_cells (next : Option Nat) : ∀ n : Node, (n.cells next).length = n.size
  | element i o l as ns => by
      rw [cells, List.length_cons, length_cellsAll ns, size_element]
  | text i o s => rfl

theorem length_cellsAll : ∀ ns : List Node, (cellsAll ns).length = sizes ns
  | [] => rfl
  | n :: ns => by
      rw [cellsAll, List.length_append, length_cells _ n, length_cellsAll ns, sizes_cons]

end

end Node

/-! ## What reading comes to -/

section

variable {α : Type} (f : α → α) (before more : List α)

theorem modify_append_of_lt {i : Nat} (inside : i < before.length) :
    (before ++ more).modify i f = before.modify i f ++ more := by
  induction before generalizing i with
  | nil => cases inside
  | cons x before ih =>
    cases i with
    | zero => rfl
    | succ i => simp [ih (Nat.lt_of_succ_lt_succ inside)]

theorem modify_append_cons (x : α) : (before ++ x :: more).modify before.length f = before ++ f x :: more := by
  induction before with
  | nil => rfl
  | cons y before ih => simp [ih]

theorem getElem?_append_cons (x : α) (inner behind : List α) :
    (before ++ x :: inner ++ behind)[before.length]? = some x := by
  simp

end

namespace Arena

/-- The parent and the last child so far are in the arena. -/
structure Within (a : Arena) (parent : Nat) (last : Option Nat) : Prop where
  parent : parent < a.length
  last : ∀ previous ∈ last, previous < a.length

variable {a : Arena} {parent : Nat} {last : Option Nat}

@[simp] theorem length_appendChild (child : Nat) : (a.appendChild parent last child).length = a.length := by
  cases last <;> simp [appendChild]

/-- A link is set in front of everything that has been read since. -/
theorem appendChild_append (within : a.Within parent last) (more : Arena) (child : Nat) :
    appendChild (a ++ more) parent last child = a.appendChild parent last child ++ more := by
  cases last with
  | none => exact modify_append_of_lt _ _ _ within.parent
  | some previous => exact modify_append_of_lt _ _ _ (within.last previous rfl)

/-- Only the first cell of a tree is linked to what is behind the tree. -/
theorem appendChild_cells (n : Node) (child : Nat) :
    appendChild (a ++ n.cells none) parent (some a.length) child = a ++ n.cells (some child) := by
  cases n with
  | element i o l as ns => exact modify_append_cons _ _ _ _
  | text i o s => exact modify_append_cons _ _ _ _

/-- The arena with the one link that reading these nodes as its next children adds to it. -/
def linkFirst (a : Arena) (parent : Nat) (last : Option Nat) : List Node → Arena
  | [] => a
  | _ :: _ => a.appendChild parent last a.length

/-- An element is in the arena with all that has been read below it. -/
theorem linkFirst_append (a : Arena) (o : Option Origin) (l : String) (as : List Attribute) (ns : List Node) :
    linkFirst (a ++ [.ofElement o l as]) a.length none ns ++ Node.cellsAll (Node.numberAll (a.length + 1) ns).1 =
      a ++ (Node.number a.length (.element 0 o l as ns)).1.cells none := by
  rw [Node.number_element, Node.cells, Node.head?_index_numberAll]
  cases ns with
  | nil => simp [linkFirst, Node.numberAll, Node.cellsAll, Cell.ofElement]
  | cons n ns =>
    have linked : appendChild (a ++ [.ofElement o l as]) a.length none (a.length + 1) =
        a ++ [{ Cell.ofElement o l as with firstChild := some (a.length + 1) }] := modify_append_cons _ _ _ _
    rw [linkFirst, List.length_append, List.length_singleton, linked, List.append_assoc]
    rfl

/-- A sibling behind a tree is linked to its first cell. -/
theorem linkFirst_cells (a : Arena) (parent : Nat) (n : Node) (ns : List Node) :
    linkFirst (a ++ (Node.number a.length n).1.cells none) parent (some a.length) ns ++
        Node.cellsAll (Node.numberAll (a.length + n.size) ns).1 =
      a ++ Node.cellsAll (Node.numberAll a.length (n :: ns)).1 := by
  have size : (a ++ (Node.number a.length n).1.cells none).length = a.length + n.size := by
    rw [List.length_append, Node.length_cells, Node.size_number]
  rw [Node.numberAll_cons, Node.cellsAll, Node.head?_index_numberAll, ← List.append_assoc]
  cases ns with
  | nil => rfl
  | cons m ms =>
    rw [linkFirst, size, appendChild_cells]
    rfl

mutual

/-- **A node that is kept is linked and its cells follow**; and what is not kept leaves no trace. -/
theorem importNode_eq : ∀ (d : Delivered) {a : Arena} {parent : Nat} {last : Option Nat},
    a.Within parent last → importNode a parent last d =
      match d.node? with
      | some n => (a.appendChild parent last a.length ++ (Node.number a.length n).1.cells none, some a.length)
      | none => (a, last)
  | .element o l as ds, a, parent, last, within => by
      have inside : Within (a ++ [.ofElement o l as]) a.length none := ⟨by simp, by simp⟩
      have size : List.length (a ++ [Cell.ofElement o l as]) = a.length + 1 := by simp
      rw [importNode, importAll_eq ds inside, size, linkFirst_append, Delivered.node?]
      dsimp only
      rw [appendChild_append within]
  | .text o v, a, parent, last, within => by
      rw [importNode, Delivered.node?]
      split
      · rfl
      · rw [appendChild_append within]
        rfl
  | .gap, _, _, _, _ => by
      rw [importNode, Delivered.node?]

theorem importAll_eq : ∀ (ds : List Delivered) {a : Arena} {parent : Nat} {last : Option Nat},
    a.Within parent last → (importAll a parent last ds).1 =
      a.linkFirst parent last (Delivered.nodes ds) ++
        Node.cellsAll (Node.numberAll a.length (Delivered.nodes ds)).1
  | [], a, parent, last, _ => by
      simp [importAll, Delivered.nodes, linkFirst, Node.numberAll, Node.cellsAll]
  | d :: ds, a, parent, last, within => by
      rw [importAll, importNode_eq d within, Delivered.nodes]
      cases d.node? with
      | none => exact importAll_eq ds within
      | some n =>
        have length : (a.appendChild parent last a.length).length = a.length := length_appendChild _
        have size : (a.appendChild parent last a.length ++
            (Node.number a.length n).1.cells none).length = a.length + n.size := by
          rw [List.length_append, length, Node.length_cells, Node.size_number]
        have inside : Within (a.appendChild parent last a.length ++ (Node.number a.length n).1.cells none)
            parent (some a.length) := by
          have grows := n.size_pos
          have parents := within.parent
          refine ⟨by omega, fun previous same => ?_⟩
          cases same
          omega
        have step := linkFirst_cells (a.appendChild parent last a.length) parent n (Delivered.nodes ds)
        rw [length] at step
        dsimp only
        rw [importAll_eq ds inside, size, step]
        rfl

end

/-- **What is read into an arena is the tree that is kept**, numbered from its root on. -/
theorem importRoot_eq (o : Option Origin) (l : String) (as : List Attribute) (ds : List Delivered) :
    importRoot o l as ds = (Node.numbered (.element 0 o l as (Delivered.nodes ds))).arena := by
  have inside : Within [.ofElement o l as] 0 none := ⟨Nat.zero_lt_one, by simp⟩
  exact (importAll_eq ds inside).trans (linkFirst_append [] o l as (Delivered.nodes ds))

/-! ## Following the links -/

/-- Following the links from a place, down before on, leads to these places. -/
inductive Visits (a : Arena) : Option Nat → List Nat → Prop where
  | nowhere : Visits a none []
  | cell {i : Nat} {e : Cell} {below behind : List Nat} (here : a[i]? = some e)
      (down : Visits a e.firstChild below) (on : Visits a e.nextSibling behind) :
      Visits a (some i) (i :: (below ++ behind))

/-- There is only one way to follow the links. -/
theorem Visits.unique {from? : Option Nat} {is js : List Nat} (h : a.Visits from? is) (h' : a.Visits from? js) :
    is = js := by
  induction h generalizing js with
  | nowhere =>
    cases h'
    rfl
  | cell here _ _ down on =>
    cases h' with
    | cell here' down' on' =>
      cases here.symm.trans here'
      rw [down down', on on']

/-- The links of the cell in this place are those of a tree in document order. -/
structure Linked (a : Arena) (i : Nat) (e : Cell) : Prop where
  firstChild : ∀ child, e.firstChild = some child → child = i + 1
  /-- The next sibling is behind the cell and all that the links lead to below it. -/
  nextSibling : ∀ next, e.nextSibling = some next →
    ∃ below, a.Visits e.firstChild below ∧ next = i + (1 + below.length)

/-- An arena that is a tree in document order. -/
structure IsOrdered (a : Arena) : Prop where
  /-- In front is an element that is nobody's sibling. -/
  root : ∃ e, a[0]? = some e ∧ e.isElement = true ∧ e.nextSibling = none
  /-- The links lead from the front to every place once, in order. -/
  visits : ∀ places, a.Visits (some 0) places ↔ places = List.range a.length
  linked : ∀ i e, a[i]? = some e → a.Linked i e
  plain : ∀ e ∈ a, e.IsPlain

mutual

/-- The links lead through a tree that is in the arena, and then on. -/
theorem visits_number : ∀ (n : Node) (before behind : Arena) {next : Option Nat} {later : List Nat},
    a = before ++ (Node.number before.length n).1.cells next ++ behind → a.Visits next later →
      a.Visits (some before.length) (List.range' before.length n.size ++ later)
  | .element i o l as ns, before, behind, next, later, whole, on => by
      rw [Node.number_element, Node.cells, Node.head?_index_numberAll] at whole
      have here := whole ▸ getElem?_append_cons before _ _ behind
      have below := visits_numberAll ns (before ++ [_]) behind
        (by rw [List.length_append, List.append_assoc before]; exact whole)
      rw [List.length_append, List.length_singleton] at below
      rw [Node.size_element, List.range'_succ, List.cons_append]
      exact .cell here below on
  | .text i o s, before, behind, next, later, whole, on => by
      rw [Node.number_text, Node.cells] at whole
      exact .cell (whole ▸ getElem?_append_cons before _ _ behind) .nowhere on

theorem visits_numberAll : ∀ (ns : List Node) (before behind : Arena),
    a = before ++ Node.cellsAll (Node.numberAll before.length ns).1 ++ behind →
      a.Visits (ns.head?.map fun _ => before.length) (List.range' before.length (Node.sizes ns))
  | [], _, _, _ => .nowhere
  | n :: ns, before, behind, whole => by
      rw [Node.numberAll_cons, Node.cellsAll, Node.head?_index_numberAll] at whole
      have size (next : Option Nat) : (before ++ (Node.number before.length n).1.cells next).length =
          before.length + n.size := by
        rw [List.length_append, Node.length_cells, Node.size_number]
      have others := visits_numberAll ns (before ++ (Node.number before.length n).1.cells _) behind
        (by rw [size, List.append_assoc before]; exact whole)
      rw [size] at others
      rw [Node.sizes_cons, ← List.range'_append_1]
      exact visits_number n before _ (by rw [whole, List.append_assoc, List.append_assoc, List.append_assoc]) others

end

mutual

theorem linked_number : ∀ (n : Node) (before behind : Arena) {next : Option Nat},
    a = before ++ (Node.number before.length n).1.cells next ++ behind →
      (∀ m ∈ next, m = before.length + n.size) →
        ∀ x ∈ ((Node.number before.length n).1.cells next).zipIdx before.length, a.Linked x.2 x.1
  | .element i o l as ns, before, behind, next, whole, behindAll => by
      rw [Node.number_element, Node.cells, Node.head?_index_numberAll] at whole ⊢
      have below : a.Visits _ _ := visits_numberAll ns (before ++ [_]) behind
        (by rw [List.length_append, List.append_assoc before]; exact whole)
      have others := linked_numberAll ns (before ++ [_]) behind
        (by rw [List.length_append, List.append_assoc before]; exact whole)
      rw [List.length_append, List.length_singleton] at below others
      rw [List.zipIdx_cons, List.forall_mem_cons]
      refine ⟨⟨fun child first => ?_, fun m sibling => ⟨_, below, ?_⟩⟩, others⟩
      · obtain ⟨-, -, rfl⟩ := Option.map_eq_some_iff.mp first
        rfl
      · rw [List.length_range', behindAll m sibling, Node.size_element, Nat.add_comm 1]
  | .text i o s, before, behind, next, whole, behindAll => by
      rw [Node.number_text, Node.cells, List.zipIdx_singleton, List.forall_mem_singleton]
      exact ⟨(fun child none => nomatch none), fun m sibling => ⟨[], .nowhere, behindAll m sibling⟩⟩

theorem linked_numberAll : ∀ (ns : List Node) (before behind : Arena),
    a = before ++ Node.cellsAll (Node.numberAll before.length ns).1 ++ behind →
      ∀ x ∈ (Node.cellsAll (Node.numberAll before.length ns).1).zipIdx before.length, a.Linked x.2 x.1
  | [], _, _, _ => by simp [Node.numberAll, Node.cellsAll]
  | n :: ns, before, behind, whole => by
      rw [Node.numberAll_cons, Node.cellsAll, Node.head?_index_numberAll] at whole ⊢
      have size (next : Option Nat) : ((Node.number before.length n).1.cells next).length = n.size := by
        rw [Node.length_cells, Node.size_number]
      have others := linked_numberAll ns (before ++ (Node.number before.length n).1.cells _) behind
        (by rw [List.length_append, size, List.append_assoc before]; exact whole)
      rw [List.length_append, size] at others
      rw [List.zipIdx_append, List.forall_mem_append, size]
      refine ⟨linked_number n before _ (by rw [whole, List.append_assoc, List.append_assoc, List.append_assoc]) ?_,
        others⟩
      intro m next
      obtain ⟨-, -, rfl⟩ := Option.map_eq_some_iff.mp next
      rfl

end

mutual

/-- Of a text only what is not empty is kept, and of it nothing but the text. -/
theorem plain_node? : ∀ (d : Delivered) {n : Node}, d.node? = some n →
    ∀ (i : Nat) (next : Option Nat), ∀ e ∈ (Node.number i n).1.cells next, e.IsPlain
  | .element o l as ds, n, kept, i, next => by
      rw [Delivered.node?, Option.some_inj] at kept
      rw [← kept, Node.number_element, Node.cells, List.forall_mem_cons]
      exact ⟨(fun element => nomatch element), plain_nodes ds (i + 1)⟩
  | .text o s, n, kept, i, next => by
      rw [Delivered.node?] at kept
      split at kept
      · cases kept
      · next some =>
        rw [Option.some_inj] at kept
        rw [← kept, Node.number_text, Node.cells, List.forall_mem_singleton]
        exact fun _ => ⟨rfl, rfl, rfl, s, rfl, some⟩
  | .gap, n, kept, _, _ => by
      rw [Delivered.node?] at kept
      cases kept

theorem plain_nodes : ∀ (ds : List Delivered) (i : Nat),
    ∀ e ∈ Node.cellsAll (Node.numberAll i (Delivered.nodes ds)).1, e.IsPlain
  | [], _ => by simp [Delivered.nodes, Node.numberAll, Node.cellsAll]
  | d :: ds, i => by
      rw [Delivered.nodes]
      split
      · next n kept =>
        rw [Node.numberAll_cons, Node.cellsAll, List.forall_mem_append]
        exact ⟨plain_node? d kept i _, plain_nodes ds (i + n.size)⟩
      · exact plain_nodes ds i

end

/-- **What is read into an arena is a tree in document order.** -/
theorem isOrdered_importRoot (o : Option Origin) (l : String) (as : List Attribute) (ds : List Delivered) :
    (importRoot o l as ds).IsOrdered := by
  have whole : importRoot o l as ds =
      [] ++ (Node.number 0 (.element 0 o l as (Delivered.nodes ds))).1.cells none ++ [] := by
    rw [importRoot_eq, List.nil_append, List.append_nil]
    rfl
  have visits := visits_number _ [] [] whole .nowhere
  have linked := linked_number _ [] [] whole (fun m none => nomatch none)
  have plain := plain_node? (.element o l as ds) rfl 0 none
  have size : (importRoot o l as ds).length = (Node.element 0 o l as (Delivered.nodes ds)).size := by
    rw [whole, List.append_nil, List.nil_append, Node.length_cells, Node.size_number]
  rw [List.append_nil, List.length_nil, ← List.range_eq_range', ← size] at visits
  rw [List.nil_append, List.append_nil] at whole
  rw [List.length_nil, ← whole] at linked
  rw [← whole] at plain
  refine ⟨?_, fun places => ⟨fun followed => followed.unique visits, fun same => same ▸ visits⟩, ?_, plain⟩
  · rw [whole, Node.number_element, Node.cells]
    exact ⟨_, rfl, rfl, rfl⟩
  · intro i e here
    exact linked (e, i) (List.mem_zipIdx_iff_getElem?.mpr (by simpa using here))

end Arena

end Colloquy
