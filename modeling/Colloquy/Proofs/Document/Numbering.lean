import Colloquy.Proofs.Document

/-!
# Numbers in document order

A tree that is numbered from `i` on has the numbers from `i` on, as many as it has nodes, in document order
(`Node.map_index_number`).  Where it begins makes no other difference: from another number on it is the same
tree, moved (`Node.number_add`).

## Main definitions

* `Node.shift`: a tree with all its numbers moved.
* `Node.placed`: trees moved one behind the other.
-/

namespace Colloquy.Node

/-- How many nodes the trees have. -/
def sizes (ns : List Node) : Nat := (subtrees ns).length

theorem size_element (i : Nat) (o : Option Origin) (l : String) (as : List Attribute) (ns : List Node) :
    (element i o l as ns).size = sizes ns + 1 := by
  rw [size, subtree, List.length_cons, sizes]

theorem size_text (i : Nat) (o : Option Origin) (s : String) : (text i o s).size = 1 := rfl

@[simp] theorem sizes_nil : sizes [] = 0 := rfl

@[simp] theorem sizes_cons (n : Node) (ns : List Node) : sizes (n :: ns) = n.size + sizes ns := by
  rw [sizes, subtrees, List.length_append, size, sizes]

theorem size_pos (n : Node) : 0 < n.size := by
  rw [size, subtree_eq_cons]
  exact Nat.succ_pos _

/-! ## Numbering -/

mutual

/-- The number behind a tree is as far from its first as it has nodes. -/
theorem number_snd (i : Nat) : ∀ n : Node, (number i n).2 = i + n.size
  | element j o l as ns => by
      rw [number, size_element, numberAll_snd (i + 1) ns]
      omega
  | text j o s => rfl

theorem numberAll_snd (i : Nat) : ∀ ns : List Node, (numberAll i ns).2 = i + sizes ns
  | [] => rfl
  | n :: ns => by
      rw [numberAll, numberAll_snd (number i n).2 ns, number_snd i n, sizes_cons]
      omega

end

/-- The numbers of the first tree are followed by those of the others. -/
theorem numberAll_cons (i : Nat) (n : Node) (ns : List Node) :
    (numberAll i (n :: ns)).1 = (number i n).1 :: (numberAll (i + n.size) ns).1 := by
  rw [numberAll, number_snd]

theorem number_element (i j : Nat) (o : Option Origin) (l : String) (as : List Attribute) (ns : List Node) :
    (number i (element j o l as ns)).1 = element i o l as (numberAll (i + 1) ns).1 := by
  rw [number]

theorem number_text (i j : Nat) (o : Option Origin) (s : String) :
    (number i (text j o s)).1 = text i o s := by
  rw [number]

@[simp] theorem index_number (i : Nat) (n : Node) : (number i n).1.index = i := by
  cases n with
  | element j o l as ns => rw [number_element, index]
  | text j o s => rw [number_text, index]

/-- The first of the trees has the first number. -/
theorem head?_index_numberAll (i : Nat) (ns : List Node) :
    (numberAll i ns).1.head?.map index = ns.head?.map fun _ => i := by
  cases ns with
  | nil => rfl
  | cons n ns => simp [numberAll_cons]

mutual

/-- **A numbered tree has its numbers in document order.** -/
theorem map_index_number (i : Nat) : ∀ n : Node, (number i n).1.subtree.map index = List.range' i n.size
  | element j o l as ns => by
      rw [number_element, subtree, List.map_cons, map_index_numberAll (i + 1) ns, size_element, index,
        List.range'_succ]
  | text j o s => by
      rw [number_text, subtree, size_text]
      rfl

theorem map_index_numberAll (i : Nat) :
    ∀ ns : List Node, (subtrees (numberAll i ns).1).map index = List.range' i (sizes ns)
  | [] => rfl
  | n :: ns => by
      rw [numberAll_cons, subtrees, List.map_append, map_index_number i n,
        map_index_numberAll (i + n.size) ns, sizes_cons, List.range'_append_1]

end

/-- Numbering changes no sizes. -/
@[simp] theorem size_number (i : Nat) (n : Node) : (number i n).1.size = n.size := by
  have numbers := congrArg List.length (map_index_number i n)
  rwa [List.length_map, List.length_range'] at numbers

@[simp] theorem sizes_numberAll (i : Nat) (ns : List Node) : sizes (numberAll i ns).1 = sizes ns := by
  have numbers := congrArg List.length (map_index_numberAll i ns)
  rwa [List.length_map, List.length_range'] at numbers

/-! ## Moving -/

mutual

/-- The tree with all its numbers moved on by `k`. -/
def shift (k : Nat) : Node → Node
  | element i o l as ns => element (i + k) o l as (shiftAll k ns)
  | text i o s => text (i + k) o s

/-- The trees with all their numbers moved on by `k`. -/
def shiftAll (k : Nat) : List Node → List Node
  | [] => []
  | n :: ns => shift k n :: shiftAll k ns

end

mutual

/-- Numbered from `k` further on, a tree is the same, moved on by `k`. -/
theorem number_add (i k : Nat) : ∀ n : Node, (number (i + k) n).1 = (number i n).1.shift k
  | element j o l as ns => by
      have inside := numberAll_add (i + 1) k ns
      rw [Nat.add_right_comm] at inside
      rw [number_element, number_element, shift, inside]
  | text j o s => by
      rw [number_text, number_text, shift]

theorem numberAll_add (i k : Nat) :
    ∀ ns : List Node, (numberAll (i + k) ns).1 = shiftAll k (numberAll i ns).1
  | [] => rfl
  | n :: ns => by
      have others := numberAll_add (i + n.size) k ns
      rw [Nat.add_right_comm] at others
      rw [numberAll_cons, numberAll_cons, shiftAll, number_add i k n, others]

end

/-- What a node says of itself, apart from its number. -/
def facts (n : Node) : Bool × String × List Attribute × Option String × Option Origin × String :=
  (n.isElement, n.label, n.attributes, n.text?, n.origin, n.describe)

mutual

/-- Moving a tree changes nothing that its nodes say. -/
theorem map_facts_shift (k : Nat) : ∀ n : Node, (n.shift k).subtree.map facts = n.subtree.map facts
  | element i o l as ns => by
      rw [shift, subtree, subtree, List.map_cons, List.map_cons, map_facts_shiftAll k ns]
      rfl
  | text i o s => rfl

theorem map_facts_shiftAll (k : Nat) :
    ∀ ns : List Node, (subtrees (shiftAll k ns)).map facts = (subtrees ns).map facts
  | [] => rfl
  | n :: ns => by
      rw [shiftAll, subtrees, subtrees, List.map_append, List.map_append, map_facts_shift k n,
        map_facts_shiftAll k ns]

end

/-- Trees one behind the other: each is moved on by `k` and by the sizes of those in front of it. -/
def placed (k : Nat) : List Node → List Node
  | [] => []
  | n :: ns => n.shift k :: placed (k + n.size) ns

theorem map_facts_placed (k : Nat) (ns : List Node) :
    (subtrees (placed k ns)).map facts = (subtrees ns).map facts := by
  induction ns generalizing k with
  | nil => rfl
  | cons n ns ih =>
    rw [placed, subtrees, subtrees, List.map_append, List.map_append, map_facts_shift, ih]

/-- Numbered in a row, trees are the trees as documents of their own, moved one behind the other. -/
theorem numberAll_eq_placed (k : Nat) (ns : List Node) :
    (numberAll k ns).1 = placed k (ns.map numbered) := by
  induction ns generalizing k with
  | nil => rfl
  | cons n ns ih =>
    have first := number_add 0 k n
    rw [Nat.zero_add] at first
    rw [numberAll_cons, List.map_cons, placed, ih, numbered, size_number, first]

end Colloquy.Node
