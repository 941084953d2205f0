import Colloquy.Document

/-!
# Nodes below nodes

What lies below a node, as a relation: `Node.subtree` lists a node with all that is below it, and
`Node.descendants` leaves the node itself out.  Being below is transitive and nothing is below itself,
because a tree is larger than what is below its root.

## Main results

* `Node.mem_subtree_trans`, `Node.mem_descendants_of_mem_subtree`: what is below what is below.
* `Node.size_lt_of_mem_descendants`: the order is well-founded.
* `Node.mem_descendants_of_findBelow?`: a search finds nodes below the one it begins at.
-/

namespace Colloquy.Node

theorem subtree_eq_cons (n : Node) : n.subtree = n :: n.descendants := by
  cases n with
  | element i o l as ns => rw [subtree, descendants, children]
  | text i o s => rfl

theorem mem_subtree_self (n : Node) : n ∈ n.subtree := by
  rw [subtree_eq_cons]
  exact List.mem_cons_self

theorem mem_subtree_of_mem_descendants {m n : Node} (h : m ∈ n.descendants) : m ∈ n.subtree := by
  rw [subtree_eq_cons]
  exact List.mem_cons_of_mem n h

theorem mem_subtrees_iff {m : Node} {ns : List Node} : m ∈ subtrees ns ↔ ∃ n ∈ ns, m ∈ n.subtree := by
  induction ns with
  | nil => simp [subtrees]
  | cons n ns ih => simp [subtrees, ih]

theorem mem_descendants_iff {m n : Node} : m ∈ n.descendants ↔ ∃ c ∈ n.children, m ∈ c.subtree :=
  mem_subtrees_iff

theorem mem_descendants_of_mem_children {m n : Node} (h : m ∈ n.children) : m ∈ n.descendants :=
  mem_descendants_iff.mpr ⟨m, h, m.mem_subtree_self⟩

mutual

theorem mem_subtree_trans {m k : Node} (below : k ∈ m.subtree) :
    ∀ n : Node, m ∈ n.subtree → k ∈ n.subtree
  | element i o l as ns, h => by
      rw [subtree, List.mem_cons] at h ⊢
      rcases h with rfl | h
      · rwa [subtree, List.mem_cons] at below
      · exact .inr (mem_subtrees_trans below ns h)
  | text i o s, h => by
      rw [subtree, List.mem_singleton] at h
      rwa [h] at below

theorem mem_subtrees_trans {m k : Node} (below : k ∈ m.subtree) :
    ∀ ns : List Node, m ∈ subtrees ns → k ∈ subtrees ns
  | [], h => by cases h
  | n :: ns, h => by
      rw [subtrees, List.mem_append] at h ⊢
      rcases h with h | h
      · exact .inl (mem_subtree_trans below n h)
      · exact .inr (mem_subtrees_trans below ns h)

end

/-- What is strictly below a node of a tree is strictly below its root. -/
theorem mem_descendants_of_mem_subtree {n m k : Node} (within : m ∈ n.subtree)
    (below : k ∈ m.descendants) : k ∈ n.descendants := by
  rw [subtree_eq_cons, List.mem_cons] at within
  rcases within with rfl | within
  · exact below
  · exact mem_subtrees_trans (mem_subtree_of_mem_descendants below) n.children within

mutual

/-- A tree is no smaller than what is in it. -/
theorem size_le_of_mem_subtree {m : Node} : ∀ n : Node, m ∈ n.subtree → m.size ≤ n.size
  | element i o l as ns, h => by
      rw [subtree, List.mem_cons] at h
      rcases h with rfl | h
      · exact Nat.le_refl _
      · have le := size_le_of_mem_subtrees ns h
        rw [size, size, subtree, List.length_cons]
        exact Nat.le_succ_of_le le
  | text i o s, h => by
      rw [subtree, List.mem_singleton] at h
      exact Nat.le_of_eq (congrArg size h)

theorem size_le_of_mem_subtrees {m : Node} :
    ∀ ns : List Node, m ∈ subtrees ns → m.size ≤ (subtrees ns).length
  | [], h => by cases h
  | n :: ns, h => by
      rw [subtrees, List.mem_append] at h
      rw [subtrees, List.length_append]
      rcases h with h | h
      · exact Nat.le_add_right_of_le (size_le_of_mem_subtree n h)
      · exact Nat.le_add_left_of_le (size_le_of_mem_subtrees ns h)

end

/-- **What is below a node is smaller.** -/
theorem size_lt_of_mem_descendants {m n : Node} (h : m ∈ n.descendants) : m.size < n.size := by
  have le : m.size ≤ n.descendants.length := size_le_of_mem_subtrees n.children h
  have size_eq : n.size = n.descendants.length + 1 := by rw [size, subtree_eq_cons, List.length_cons]
  rw [size_eq]
  exact Nat.lt_succ_of_le le

/-! ## Searches -/

theorem mem_descendants_of_findBelow? {n m : Node} {w : Wanted} (h : n.findBelow? w = some m) :
    m ∈ n.descendants := by
  rw [findBelow?_eq] at h
  exact List.mem_of_find?_eq_some h

theorem mem_children_of_findChild? {n m : Node} {label : String} (h : n.findChild? label = some m) :
    m ∈ n.children :=
  List.mem_of_find?_eq_some h

/-- What is found below a node of a tree is a node of the tree. -/
theorem mem_subtree_of_findBelow? {root n m : Node} {w : Wanted} (within : n ∈ root.subtree)
    (h : n.findBelow? w = some m) : m ∈ root.subtree :=
  mem_subtree_trans (mem_subtree_of_mem_descendants (mem_descendants_of_findBelow? h)) root within

end Colloquy.Node
