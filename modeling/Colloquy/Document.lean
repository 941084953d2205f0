import Colloquy.Text.Lowercase

/-!
# Documents

A document is a tree of elements and texts.  Scripts and dialogues are both written as documents, and
everything a script refers to is found in its document by searching below a node.

Each node carries its index, its place in document order with the root at zero, and, if it was read
from a source, the place where it begins there.

## Main definitions

* `Node`: the trees, with `Node.label`, `Node.attribute?`, `Node.children`, `Node.content`.
* `Node.numbered`: the same tree with indices in document order.
* `Node.findBelow?`: the first element below a node with a label and, if asked, an attribute.
* `Node.descendants`: all nodes below a node, in document order.
* `Node.library`: several documents under one root.

`Node.findBelow?_eq` says that the search gives the first hit among the nodes below.
-/

namespace Colloquy

open Text

/-- Where a node begins in the text it was read from; lines and columns count from one. -/
structure Origin where
  source : String
  line : Nat
  column : Nat
  deriving DecidableEq

/-- An attribute's name and value. -/
abbrev Attribute := String × String

/-- A node of a document. -/
inductive Node where
  | element (index : Nat) (origin : Option Origin) (label : String) (attributes : List Attribute)
      (children : List Node)
  | text (index : Nat) (origin : Option Origin) (value : String)
  deriving Inhabited

namespace Node

/-- The node's place in document order. -/
def index : Node → Nat
  | element i _ _ _ _ => i
  | text i _ _ => i

/-- Where the node was read. -/
def origin : Node → Option Origin
  | element _ o _ _ _ => o
  | text _ o _ => o

/-- Whether the node is an element. -/
def isElement : Node → Bool
  | element _ _ _ _ _ => true
  | text _ _ _ => false

/-- The element's name; a text has the empty one. -/
def label : Node → String
  | element _ _ l _ _ => l
  | text _ _ _ => ""

/-- The attributes as they were written. -/
def attributes : Node → List Attribute
  | element _ _ _ as _ => as
  | text _ _ _ => []

/-- The value of the attribute of this name.  Where several have it, the last one counts. -/
def attribute? (n : Node) (name : String) : Option String :=
  n.attributes.reverse.lookup name

/-- The nodes directly below. -/
def children : Node → List Node
  | element _ _ _ _ ns => ns
  | text _ _ _ => []

/-- The text of a text node. -/
def text? : Node → Option String
  | element _ _ _ _ _ => none
  | text _ _ s => some s

/-- The elements directly below. -/
def childElements (n : Node) : List Node := n.children.filter isElement

/-- The first element directly below with this name. -/
def findChild? (n : Node) (label : String) : Option Node :=
  n.children.find? fun child => child.isElement && child.label == label

/-- The node as diagnostics show it: what it is, and where it was read if it was. -/
def describe (n : Node) : String :=
  let what := if n.isElement || n.origin.isNone then "<" ++ n.label ++ ">" else "text"
  match n.origin with
  | some o => what ++ " at " ++ o.source ++ ":" ++ toString o.line ++ ":" ++ toString o.column
  | none => what

mutual

/-- All text of the node and what is below it, in document order. -/
def content : Node → String
  | element _ _ _ _ ns => contents ns
  | text _ _ s => s

/-- All text of a list of nodes. -/
def contents : List Node → String
  | [] => ""
  | n :: ns => n.content ++ contents ns

end

mutual

/-- The node and everything below it, in document order. -/
def subtree : Node → List Node
  | element i o l as ns => element i o l as ns :: subtrees ns
  | text i o s => [text i o s]

/-- The nodes of a list and everything below them, in document order. -/
def subtrees : List Node → List Node
  | [] => []
  | n :: ns => n.subtree ++ subtrees ns

end

/-- Everything below the node, in document order. -/
def descendants (n : Node) : List Node := subtrees n.children

/-- How many nodes the tree has. -/
def size (n : Node) : Nat := n.subtree.length

mutual

/-- The tree with its indices in document order, beginning at `i`, and the index that follows. -/
def number (i : Nat) : Node → Node × Nat
  | element _ o l as ns =>
    let numbered := numberAll (i + 1) ns
    (element i o l as numbered.1, numbered.2)
  | text _ o s => (text i o s, i + 1)

/-- The trees with their indices in document order. -/
def numberAll (i : Nat) : List Node → List Node × Nat
  | [] => ([], i)
  | n :: ns =>
    let first := number i n
    let others := numberAll first.2 ns
    (first.1 :: others.1, others.2)

end

/-- The tree as a document of its own, its root at zero. -/
def numbered (n : Node) : Node := (number 0 n).1

/-! ## Searching -/

/-- What a search asks of an element: a name, and possibly an attribute with a value, whose ASCII
letters may differ in case. -/
structure Wanted where
  label : String
  having : Option Attribute

/-- A search for the name alone, or for the name and the attribute `id`. -/
def Wanted.byId (label : String) (id : Option String) : Wanted :=
  { label := label, having := id.map fun id => ("id", id) }

/-- Whether the node's attribute has the value, apart from the case of ASCII letters. -/
def hasAttribute (n : Node) (name value : String) : Bool :=
  match n.attribute? name with
  | some found => sameIgnoringAsciiCase found value
  | none => false

/-- Whether the node is what the search asks for. -/
def isHit (w : Wanted) (n : Node) : Bool :=
  n.isElement && n.label == w.label &&
    match w.having with
    | some a => n.hasAttribute a.1 a.2
    | none => true

mutual

/-- The first hit in the node and what is below it; a hit is found before what is below it. -/
def findIn? (w : Wanted) : Node → Option Node
  | element i o l as ns =>
    if isHit w (element i o l as ns) then some (element i o l as ns) else findAmong? w ns
  | text _ _ _ => none

/-- The first hit in a list of nodes and what is below them. -/
def findAmong? (w : Wanted) : List Node → Option Node
  | [] => none
  | n :: ns =>
    match findIn? w n with
    | some hit => some hit
    | none => findAmong? w ns

end

/-- The first hit below the node. -/
def findBelow? (n : Node) (w : Wanted) : Option Node := findAmong? w n.children

mutual

theorem findIn?_eq (w : Wanted) : ∀ n : Node, findIn? w n = n.subtree.find? (isHit w)
  | element i o l as ns => by
    rw [findIn?, subtree, List.find?_cons, findAmong?_eq w ns]
    split <;> simp_all
  | text i o s => by simp [findIn?, subtree, isHit, isElement]

theorem findAmong?_eq (w : Wanted) : ∀ ns : List Node, findAmong? w ns = (subtrees ns).find? (isHit w)
  | [] => rfl
  | n :: ns => by
    rw [findAmong?, subtrees, List.find?_append, findIn?_eq w n, findAmong?_eq w ns]
    cases n.subtree.find? (isHit w) <;> rfl

end

/-- The search gives the first hit, in document order, among the nodes below. -/
theorem findBelow?_eq (n : Node) (w : Wanted) : n.findBelow? w = n.descendants.find? (isHit w) :=
  findAmong?_eq w n.children

/-! ## Several documents -/

/-- Several documents as one: their roots, in order, below a root of their own. -/
def library (roots : List Node) : Node :=
  numbered (element 0 none "library" [] roots)

end Node

end Colloquy
