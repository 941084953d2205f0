import Colloquy.Markup.Tree
import Colloquy.Proofs.Document.Arena
import Mathlib

/-!
# Documents as they are read

Every document that is read is a tree in document order, and so are several documents as one: the trees
that they are by themselves, one behind the other, below a root of their own
(`Arena.documents_are_ordered`).

### What is load-bearing

Texts are put together before they become nodes, so whether one is empty is known only when it is finished.
That nothing empty is ever finished is an invariant of the `Builder` (`Markup.Builder.Sound`), and with it a
document that was read is one that is kept as it is (`Node.IsRead`).

## Main definitions

* `Node.IsRead`: a tree of which nothing is passed over.
* `Arena.ofText?`, `Arena.ofTexts?`: one document, or several, read into an arena.
-/

namespace Colloquy

namespace Node

mutual

/-- The tree as it is delivered. -/
def delivered : Node → Delivered
  | element _ origin label attributes children => .element origin label attributes (deliveredAll children)
  | text _ origin value => .text origin value

/-- The trees as they are delivered. -/
def deliveredAll : List Node → List Delivered
  | [] => []
  | n :: ns => delivered n :: deliveredAll ns

end

/-- All of the tree is kept, and it has no numbers yet. -/
def IsRead (n : Node) : Prop := n.delivered.node? = some n

theorem nodes_deliveredAll {ns : List Node} (read : ∀ n ∈ ns, n.IsRead) :
    Delivered.nodes (deliveredAll ns) = ns := by
  induction ns with
  | nil => rfl
  | cons n ns ih =>
    rw [List.forall_mem_cons] at read
    have first : n.delivered.node? = some n := read.1
    rw [deliveredAll, Delivered.nodes, first]
    dsimp only
    rw [ih read.2]

theorem isRead_element {ns : List Node} (read : ∀ n ∈ ns, n.IsRead) (o : Option Origin) (l : String)
    (as : List Attribute) : (element 0 o l as ns).IsRead := by
  rw [IsRead, delivered, Delivered.node?, nodes_deliveredAll read]

theorem isRead_text {s : String} (some : s ≠ "") (o : Option Origin) : (text 0 o s).IsRead := by
  rw [IsRead, delivered, Delivered.node?, if_neg some]

end Node

namespace Markup.Builder

/-- What has been read so far is kept, only text inside an element may still grow, and what is around
everything is an element. -/
structure Sound (b : Builder) : Prop where
  children : ∀ u ∈ b.stack, ∀ n ∈ u.children, n.IsRead
  pending : b.pending.isSome → b.stack ≠ []
  root : ∀ r, b.root = some r → r.IsRead ∧ r.isElement = true

namespace Sound

variable {b : Builder}

/-- A finished node is put where it belongs. -/
theorem put (h : b.Sound) {n : Node} (read : n.IsRead) (outermost : b.stack = [] → n.isElement = true) :
    (b.put n).Sound := by
  unfold Builder.put
  split
  · next none =>
    refine ⟨h.children, h.pending, fun r same => ?_⟩
    cases same
    exact ⟨read, outermost none⟩
  · next inner outer some =>
    have children := some ▸ h.children
    rw [List.forall_mem_cons] at children
    refine ⟨?_, fun _ => List.cons_ne_nil _ _, h.root⟩
    rw [List.forall_mem_cons]
    exact ⟨List.forall_mem_cons.mpr ⟨read, children.1⟩, children.2⟩

theorem withoutPending (h : b.Sound) : ({ b with pending := none } : Builder).Sound :=
  ⟨h.children, (fun more => nomatch more), h.root⟩

/-- Text becomes a node only if it is not empty. -/
theorem flush (h : b.Sound) : b.flush.Sound ∧ b.flush.pending = none := by
  unfold Builder.flush
  split
  · next none => exact ⟨h, none⟩
  · next p cs some =>
    have inside : b.stack ≠ [] := h.pending (by rw [some]; rfl)
    dsimp only
    split
    · exact ⟨h.withoutPending, rfl⟩
    · next more =>
      have filled : String.ofList cs ≠ "" := by simpa using more
      refine ⟨h.withoutPending.put (Node.isRead_text filled _) (fun none => absurd none inside), ?_⟩
      unfold Builder.put
      split <;> rfl

theorem addText? (h : b.Sound) {b' : Builder} {p : Place} {cs : List Char}
    (added : b.addText? p cs = some b') : b'.Sound := by
  unfold Builder.addText? at added
  split at added
  · cases added
  · next inside =>
    have inside : b.stack ≠ [] := by simpa using inside
    split at added <;> cases added
    · exact ⟨h.children, fun _ => inside, h.root⟩
    · exact ⟨h.children, fun _ => inside, h.root⟩

theorem open? (h : b.Sound) {b' : Builder} {p : Place} {name : Name} {raws : List RawAttribute}
    {closed : Bool} (opened : b.open? p name raws closed = some b') : b'.Sound := by
  obtain ⟨sound, idle⟩ := h.flush
  unfold Builder.open? at opened
  dsimp only at opened
  split at opened
  · cases opened
  · obtain ⟨⟨attributes, spaces⟩, -, opened⟩ := Option.bind_eq_some_iff.mp opened
    dsimp only at opened
    have childless : ∀ n ∈ ([] : List Node), n.IsRead := fun n among => nomatch among
    split at opened
    · cases opened
    · split at opened
      · cases opened
        exact sound.put (Node.isRead_element childless _ _ _) (fun _ => rfl)
      · cases opened
        refine ⟨?_, fun _ => List.cons_ne_nil _ _, sound.root⟩
        exact List.forall_mem_cons.mpr ⟨childless, sound.children⟩

theorem close? (h : b.Sound) {b' : Builder} {name : Name} (closed : b.close? name = some b') :
    b'.Sound := by
  obtain ⟨sound, idle⟩ := h.flush
  unfold Builder.close? at closed
  dsimp only at closed
  split at closed
  · cases closed
  · next inner outer some =>
    split at closed
    · cases closed
      have children := some ▸ sound.children
      rw [List.forall_mem_cons] at children
      have left : ({ b.flush with stack := outer } : Builder).Sound :=
        ⟨children.2, (fun more => by rw [idle] at more; cases more), sound.root⟩
      refine left.put (Node.isRead_element ?_ _ _ _) (fun _ => rfl)
      exact fun n among => children.1 n (List.mem_reverse.mp among)
    · cases closed

/-- **What is read stays sound.** -/
theorem step? (h : b.Sound) {b' : Builder} {token : Place × Token} (stepped : b.step? token = some b') :
    b'.Sound := by
  obtain ⟨p, token⟩ := token
  cases token with
  | openTag name raws closed => exact h.open? stepped
  | closeTag name => exact h.close? stepped
  | verbatim raw => exact h.addText? stepped
  | gap =>
    cases stepped
    exact h.flush.1
  | text raw =>
    unfold Builder.step? at stepped
    dsimp only at stepped
    split at stepped
    · split at stepped
      · cases stepped
        exact h
      · cases stepped
    · obtain ⟨pieces, -, added⟩ := Option.bind_eq_some_iff.mp stepped
      exact h.addText? added

theorem run {tokens : List (Place × Token)} {b' : Builder} (h : b.Sound)
    (ran : tokens.foldlM Builder.step? b = some b') : b'.Sound := by
  induction tokens generalizing b with
  | nil =>
    cases ran
    exact h
  | cons token tokens ih =>
    rw [List.foldlM_cons] at ran
    obtain ⟨next, stepped, rest⟩ := Option.bind_eq_some_iff.mp ran
    exact ih (h.step? stepped) rest

end Sound

end Markup.Builder

open Markup

/-- What is read of a text is an element, and all of it is kept. -/
theorem Node.isRead_of_rootOfText? {source text : String} {root : Node}
    (read : rootOfText? source text = .ok root) : root.IsRead ∧ root.isElement = true := by
  have fresh : Builder.Sound ⟨source, [], none, none⟩ :=
    ⟨(fun u among => nomatch among), (fun more => nomatch more), fun r none => nomatch none⟩
  unfold rootOfText? at read
  dsimp only at read
  split at read
  · next root' built =>
    cases read
    obtain ⟨tokens, -, built⟩ := Option.bind_eq_some_iff.mp built
    obtain ⟨b, ran, built⟩ := Option.bind_eq_some_iff.mp built
    split at built
    · exact (fresh.run ran).root _ built
    · cases built
  · cases read

/-! ## One result for each -/

section

variable {α β : Type} {f : α → Except Fault β} {xs : List α}

theorem mapM_map {γ : Type} (g : β → γ) : (xs.mapM fun x => (f x).map g) = (xs.mapM f).map (List.map g) := by
  induction xs with
  | nil => rfl
  | cons x xs ih =>
    rw [List.mapM_cons, List.mapM_cons, ih]
    cases f x with
    | error fault => rfl
    | ok y => cases xs.mapM f <;> rfl

theorem exists_of_mapM {ys : List β} (all : xs.mapM f = .ok ys) : ∀ y ∈ ys, ∃ x ∈ xs, f x = .ok y := by
  induction xs generalizing ys with
  | nil =>
    cases all
    exact fun y among => nomatch among
  | cons x xs ih =>
    rw [List.mapM_cons] at all
    cases first : f x with
    | error fault =>
      rw [first] at all
      cases all
    | ok y =>
      cases others : xs.mapM f with
      | error fault =>
        rw [first, others] at all
        cases all
      | ok rest =>
        rw [first, others] at all
        cases all
        rw [List.forall_mem_cons]
        refine ⟨⟨x, List.mem_cons_self, first⟩, fun z among => ?_⟩
        obtain ⟨x', inside, found⟩ := ih others z among
        exact ⟨x', List.mem_cons_of_mem x inside, found⟩

theorem exists_error_mapM {x : α} {fault : Fault} (among : x ∈ xs) (fails : f x = .error fault) :
    ∃ first, xs.mapM f = .error first := by
  induction xs with
  | nil => cases among
  | cons y ys ih =>
    rw [List.mapM_cons]
    rcases List.mem_cons.mp among with rfl | later
    · rw [fails]
      exact ⟨fault, rfl⟩
    · obtain ⟨first, fails⟩ := ih later
      rw [fails]
      cases f y with
      | error earlier => exact ⟨earlier, rfl⟩
      | ok z => exact ⟨first, rfl⟩

end

/-! ## Documents in arenas -/

namespace Arena

/-- The arena of a document that was read. -/
def ofRoot (root : Node) : Arena :=
  importRoot root.origin root.label root.attributes (Node.deliveredAll root.children)

/-- The arena of the document that a text is. -/
def ofText? (source text : String) : Except Fault Arena := (Node.rootOfText? source text).map ofRoot

/-- The arena of the documents of several texts, each read as one more child of a root that has none of its
own. -/
def ofTexts? (sources : Table String) : Except Fault Arena :=
  if sources.entries.isEmpty then .error .emptyLibrary
  else do
    let read ← sources.entries.foldlM
      (fun read named => do
        let root ← Node.rootOfText? named.1 named.2
        return importNode read.1 0 read.2 root.delivered)
      (([.ofElement none "library" []], none) : Arena × Option Nat)
    return read.1

theorem ofRoot_eq {root : Node} (read : root.IsRead) (element : root.isElement = true) :
    ofRoot root = root.numbered.arena := by
  cases root with
  | text => cases element
  | element i o l as ns =>
    have kept : some (Node.element 0 o l as (Delivered.nodes (Node.deliveredAll ns))) =
        some (Node.element i o l as ns) := by
      rw [← read, Node.delivered, Delivered.node?]
    exact (importRoot_eq o l as _).trans (congrArg _ (congrArg Node.numbered (Option.some_inj.mp kept)))

/-- **A text is read into the arena of its document.** -/
theorem ofText?_eq (source text : String) : ofText? source text = (Node.ofText? source text).map Node.arena := by
  unfold ofText? Node.ofText?
  cases read : Node.rootOfText? source text with
  | error fault => rfl
  | ok root =>
    obtain ⟨kept, element⟩ := Node.isRead_of_rootOfText? read
    exact congrArg Except.ok (ofRoot_eq kept element)

theorem isOrdered_of_ofText? {source text : String} {a : Arena} (read : ofText? source text = .ok a) :
    a.IsOrdered := by
  unfold ofText? at read
  cases found : Node.rootOfText? source text with
  | error fault =>
    rw [found] at read
    cases read
  | ok root =>
    rw [found] at read
    cases read
    exact isOrdered_importRoot _ _ _ _

/-- Reading several documents one after the other is reading them as the children of one root. -/
theorem foldlM_importNode (es : List (String × String)) (read : Arena × Option Nat) :
    (es.foldlM (fun read named => do
        let root ← Node.rootOfText? named.1 named.2
        return importNode read.1 0 read.2 root.delivered) read : Except Fault (Arena × Option Nat)) =
      (es.mapM fun named => Node.rootOfText? named.1 named.2).map fun roots =>
        importAll read.1 0 read.2 (Node.deliveredAll roots) := by
  induction es generalizing read with
  | nil => rfl
  | cons named es ih =>
    rw [List.foldlM_cons, List.mapM_cons]
    cases Node.rootOfText? named.1 named.2 with
    | error fault => rfl
    | ok root =>
      refine (ih _).trans ?_
      cases es.mapM fun named => Node.rootOfText? named.1 named.2 with
      | error fault => rfl
      | ok roots => rfl

/-- **Several texts are read into the arena of their documents as one.** -/
theorem ofTexts?_eq (sources : Table String) :
    ofTexts? sources = (Node.libraryOfTexts? sources).map Node.arena := by
  unfold ofTexts? Node.libraryOfTexts?
  split
  · rfl
  · rw [foldlM_importNode]
    cases all : sources.entries.mapM fun named => Node.rootOfText? named.1 named.2 with
    | error fault => rfl
    | ok roots =>
      have kept : ∀ root ∈ roots, root.IsRead := by
        intro root among
        obtain ⟨named, -, read⟩ := exists_of_mapM all root among
        exact (Node.isRead_of_rootOfText? read).1
      have library := importRoot_eq none "library" [] (Node.deliveredAll roots)
      rw [Node.nodes_deliveredAll kept] at library
      exact congrArg Except.ok library

theorem isOrdered_of_ofTexts? {sources : Table String} {a : Arena} (read : ofTexts? sources = .ok a) :
    a.IsOrdered := by
  unfold ofTexts? at read
  split at read
  · cases read
  · rw [foldlM_importNode] at read
    cases all : sources.entries.mapM fun named => Node.rootOfText? named.1 named.2 with
    | error fault =>
      rw [all] at read
      cases read
    | ok roots =>
      rw [all] at read
      cases read
      exact isOrdered_importRoot none "library" [] (Node.deliveredAll roots)

end Arena

/-- Several texts that are documents are the trees of these documents, one behind the other below a root. -/
theorem Node.libraryOfTexts?_eq {sources : Table String} (some : sources.entries ≠ []) :
    libraryOfTexts? sources = (sources.entries.mapM fun named => ofText? named.1 named.2).map fun roots =>
      element 0 none "library" [] (placed 1 roots) := by
  have filled : sources.entries.isEmpty = false := by simpa using some
  unfold libraryOfTexts? ofText?
  rw [filled, mapM_map]
  cases sources.entries.mapM fun named => rootOfText? named.1 named.2 with
  | error fault => rfl
  | ok roots =>
    refine congrArg Except.ok ?_
    rw [library, numbered, number_element, numberAll_eq_placed]

/-! ## In the order of the names -/

namespace Table

variable {α : Type}

/-- The names of the entries are in order, and no name is there twice. -/
def IsSorted (es : List (String × α)) : Prop := es.Pairwise fun e e' => e.1 < e'.1

theorem mem_put {name : String} {v : α} {es : List (String × α)} {e : String × α}
    (among : e ∈ put name v es) : e = (name, v) ∨ e ∈ es := by
  induction es with
  | nil => exact .inl (List.mem_singleton.mp among)
  | cons first es ih =>
    unfold put at among
    split at among
    · exact (List.mem_cons.mp among).imp_right (List.mem_cons_of_mem _)
    · split at among
      · exact List.mem_cons.mp among
      · rcases List.mem_cons.mp among with same | among
        · exact .inr (same ▸ List.mem_cons_self)
        · exact (ih among).imp_right (List.mem_cons_of_mem _)

theorem isSorted_put {name : String} {v : α} {es : List (String × α)} (sorted : IsSorted es) :
    IsSorted (put name v es) := by
  induction es with
  | nil => exact List.pairwise_singleton _ _
  | cons first es ih =>
    obtain ⟨behind, rest⟩ := List.pairwise_cons.mp sorted
    unfold put
    split
    · next same => exact List.pairwise_cons.mpr ⟨fun e among => same ▸ behind e among, rest⟩
    · next other =>
      split
      · next before =>
        refine List.pairwise_cons.mpr ⟨?_, sorted⟩
        rw [List.forall_mem_cons]
        exact ⟨before, fun e among => String.lt_trans before (behind e among)⟩
      · next after =>
        have after : first.1 < name := Std.lt_of_le_of_ne (String.not_lt.mp after) (Ne.symm other)
        refine List.pairwise_cons.mpr ⟨fun e among => ?_, ih rest⟩
        rcases mem_put among with rfl | among
        · exact after
        · exact behind e among

theorem put_ne_nil (name : String) (v : α) (es : List (String × α)) : put name v es ≠ [] := by
  cases es with
  | nil => exact List.cons_ne_nil _ _
  | cons first es =>
    unfold put
    split
    · exact List.cons_ne_nil _ _
    · split <;> exact List.cons_ne_nil _ _

/-- A table of some entries is not empty. -/
theorem entries_ofList_ne_nil {es : List (String × α)} (some : es ≠ []) : (ofList es).entries ≠ [] := by
  have last (es : List (String × α)) (e : String × α) : (ofList (es ++ [e])).entries ≠ [] := by
    rw [ofList, List.foldl_append]
    exact put_ne_nil _ _ _
  rw [← List.dropLast_concat_getLast some]
  exact last _ _

/-- A table lists its names in order. -/
theorem isSorted_ofList (es : List (String × α)) : IsSorted (ofList es).entries := by
  have more (es : List (String × α)) {t : Table α} (sorted : IsSorted t.entries) :
      IsSorted (es.foldl (fun t e => t.insert e.1 e.2) t).entries := by
    induction es generalizing t with
    | nil => exact sorted
    | cons e es ih => exact ih (isSorted_put sorted)
  exact more es List.Pairwise.nil

end Table

namespace Arena

/-- **Documents are trees in document order.**  Whatever is delivered of a document, what is read of it into
an arena is the numbered tree of all that is kept of it, in document order; and so is what is read of a text
that is a document.  Several texts are read as one document: below a root of its own it has the documents,
in the order of their names, each moved behind the ones in front of it and otherwise as it is by itself.  If
one of the texts is no document, nothing is read. -/
theorem documents_are_ordered :
    (∀ origin label attributes children,
      (importRoot origin label attributes children).IsOrdered ∧
        importRoot origin label attributes children =
          (Node.numbered (.element 0 origin label attributes (Delivered.nodes children))).arena) ∧
    (∀ source text, ofText? source text = (Node.ofText? source text).map Node.arena ∧
      ∀ a, ofText? source text = .ok a → a.IsOrdered) ∧
    ∀ es : List (String × String), es ≠ [] →
      Table.IsSorted (Table.ofList es).entries ∧
      ofTexts? (.ofList es) = (Node.libraryOfTexts? (.ofList es)).map Node.arena ∧
      (∀ a, ofTexts? (.ofList es) = .ok a → a.IsOrdered) ∧
      (∀ roots, (Table.ofList es).entries.mapM (fun named => Node.ofText? named.1 named.2) = .ok roots →
        ∃ library, Node.libraryOfTexts? (.ofList es) = .ok library ∧
          library = .element 0 none "library" [] (Node.placed 1 roots) ∧
          library.descendants.map Node.facts = (Node.subtrees roots).map Node.facts) ∧
      ∀ named ∈ (Table.ofList es).entries, ∀ fault, Node.ofText? named.1 named.2 = .error fault →
        ∃ first, Node.libraryOfTexts? (.ofList es) = .error first ∧
          ofTexts? (.ofList es) = .error first := by
  refine ⟨fun origin label attributes children => ⟨isOrdered_importRoot _ _ _ _, importRoot_eq _ _ _ _⟩,
    fun source text => ⟨ofText?_eq source text, fun a read => isOrdered_of_ofText? read⟩, fun es some => ?_⟩
  have library := Node.libraryOfTexts?_eq (Table.entries_ofList_ne_nil some)
  refine ⟨Table.isSorted_ofList es, ofTexts?_eq _, fun a read => isOrdered_of_ofTexts? read, ?_, ?_⟩
  · intro roots read
    rw [read] at library
    exact ⟨_, library, rfl, Node.map_facts_placed 1 roots⟩
  · intro named among fault fails
    have failing : ∃ first, (Table.ofList es).entries.mapM (fun named => Node.ofText? named.1 named.2) =
        .error first := exists_error_mapM among fails
    obtain ⟨first, failed⟩ := failing
    rw [failed] at library
    refine ⟨first, library, ?_⟩
    rw [ofTexts?_eq, library]
    rfl

/-- Two texts, the second of which comes first by its name. -/
def twoTexts : List (String × String) := [("b.xml", "<b/>"), ("a.xml", "<a>one<!-- two --><c/></a>")]

/-- The two documents as one: the comment has gone, and the second document is moved behind the first. -/
theorem documents_are_ordered_of_two_texts :
    (∃ a, ofTexts? (.ofList twoTexts) = .ok a ∧ a.IsOrdered ∧ a.length = 5) ∧
      Node.libraryOfTexts? (.ofList twoTexts) = .ok (.element 0 none "library" []
        [.element 1 (some ⟨"a.xml", 1, 1⟩) "a" []
          [.text 2 (some ⟨"a.xml", 1, 4⟩) "one", .element 3 (some ⟨"a.xml", 1, 19⟩) "c" [] []],
        .element 4 (some ⟨"b.xml", 1, 1⟩) "b" [] []]) := by
  obtain ⟨-, -, several⟩ := documents_are_ordered
  obtain ⟨-, read, ordered, library, -⟩ := several twoTexts (List.cons_ne_nil _ _)
  have roots : (Table.ofList twoTexts).entries.mapM (fun named => Node.ofText? named.1 named.2) =
      .ok [.element 0 (some ⟨"a.xml", 1, 1⟩) "a" []
          [.text 1 (some ⟨"a.xml", 1, 4⟩) "one", .element 2 (some ⟨"a.xml", 1, 19⟩) "c" [] []],
        .element 0 (some ⟨"b.xml", 1, 1⟩) "b" [] []] := by
    cbv
  obtain ⟨_, library, rfl, -⟩ := library _ roots
  rw [library] at read
  exact ⟨⟨_, read, ordered _ read, rfl⟩, library⟩

end Arena

end Colloquy
