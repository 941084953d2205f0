import Colloquy.Dialogue.Source
import Colloquy.Proofs.Dialogue.Markup
import Colloquy.Proofs.Markup.Tree
import Colloquy.Proofs.Text.Layout

/-!
# The layout of a document

A dialogue can be laid out in its document at will.  Lines of a text are indented and parted by empty ones, and
commands are put on lines of their own, with blank texts around them (`Node.Relaid`).  None of this is heard: each
response has the same parts, none of which has layout left in it, and the outline of the dialogue is the same
(`Outline.layout_is_unheard`).

Reading fails on a document that was laid out anew exactly if it failed before, for the same reason and at the same
element (`ReadAlike`).  Only the place where that element stands may be another.

### What is load-bearing

Blank texts that come and go shift the places of the others, so nodes are not compared one by one but in pairs with
blank texts between them (`Node.Pairs`).  A blank text is no part of a response, and no element, and all that is read
of the nodes below an element is its parts and the elements among them.

Texts in a pair have the same speech because layout is all in which they differ (`Text.speech_eq_iff`).

## Main definitions

* `Node.Relaid`: documents that differ in layout only.
* `Node.Pairs`: lists of nodes that stand to each other in pairs, with blank texts between them.
* `ReadAlike`: readings that come to the same.
-/

namespace Colloquy

open Text

/-! ## Speech -/

namespace Text

/-- Speech is made of the lines of a text that are not blank. -/
theorem speech_eq (s : String) : Node.speech s = joinWith "\n" ((contentLines s.toList).map String.ofList) := by
  have trimmed : trim ∘ String.ofList = String.ofList ∘ trimChars := by
    funext line
    rw [Function.comp_apply, Function.comp_apply, trim, String.toList_ofList]
  have some : (fun line : String => decide (line ≠ "")) ∘ String.ofList = fun line => decide (line ≠ []) := by
    funext line
    simp
  rw [Node.speech, splitOn, List.map_map, trimmed, ← List.map_map, List.filter_map, some]
  rfl

theorem toList_speech (s : String) : (Node.speech s).toList = ['\n'].intercalate (contentLines s.toList) := by
  rw [speech_eq, joinWith, String.toList_intercalate, List.map_map]
  simp [Function.comp_def]

/-- **Speech is a text apart from its layout.** -/
theorem speech_eq_iff {s t : String} : Node.speech s = Node.speech t ↔ Relaid s t := by
  have laidOut (s : String) : Relaid s (Node.speech s) := by
    rw [Relaid, toList_speech]
    exact eqvGen_contentLines s.toList
  refine ⟨fun same => ?_, fun relaid => ?_⟩
  · have middle := laidOut s
    rw [same] at middle
    exact .trans _ _ _ middle (.symm _ _ (laidOut t))
  · rw [speech_eq, speech_eq, contentLines_eq_of_eqvGen relaid]

theorem speech_of_blank {s : String} (blank : isBlankText s = true) : Node.speech s = "" := by
  have lines := contentLines_append_blank (List.all_eq_true.mp blank) []
  rw [speech_eq, ← List.nil_append s.toList, lines]
  rfl

/-- There is no layout in speech. -/
theorem isPlain_speech {s : String} (some : Node.speech s ≠ "") : IsPlain (Node.speech s) := by
  refine ⟨((splitOn '\n' s).map trim).filter (· ≠ ""), fun none => ?_, fun line among => ?_, rfl⟩
  · rw [Node.speech, none] at some
    exact some rfl
  · obtain ⟨trimmed, nonempty⟩ := List.mem_filter.mp among
    obtain ⟨piece, there, rfl⟩ := List.mem_map.mp trimmed
    obtain ⟨cs, split, rfl⟩ := List.mem_map.mp there
    refine ⟨of_decide_eq_true nonempty, trim_trim _, fun feed => ?_⟩
    rw [trim, String.toList_ofList, String.toList_ofList] at feed
    exact absurd (of_mem_splitWhere split (mem_of_mem_trimChars feed)).2 (by decide)

theorem IsPlain.of_mem_splitOn {s line : String} (plain : IsPlain s) (among : line ∈ splitOn '\n' s) :
    isBlankText line = false ∧ trim line = line := by
  obtain ⟨lines, some, each, rfl⟩ := plain
  rw [splitOn_lines some fun line among => (each line among).2.2] at among
  obtain ⟨nonempty, trimmed, -⟩ := each line among
  refine ⟨Bool.eq_false_iff.mpr fun blank => nonempty ?_, trimmed⟩
  rw [← trimmed, trim, trimChars_of_blank (List.all_eq_true.mp blank)]

end Text

/-! ## Documents -/

namespace Node

/-- Nodes that stand to each other in pairs, with blank texts between them. -/
inductive Pairs (R : Node → Node → Prop) : List Node → List Node → Prop where
  | done : Pairs R [] []
  | pair {n n' : Node} {ns ns' : List Node} (same : R n n') (others : Pairs R ns ns') : Pairs R (n :: ns) (n' :: ns')
  | less (i : Nat) (o : Option Origin) {s : String} {ns ns' : List Node} (blank : isBlankText s = true)
      (others : Pairs R ns ns') : Pairs R (.text i o s :: ns) ns'
  | more (i : Nat) (o : Option Origin) {s : String} {ns ns' : List Node} (blank : isBlankText s = true)
      (others : Pairs R ns ns') : Pairs R ns (.text i o s :: ns')

/-- The same document but for its layout.  Nodes may stand in other places. -/
inductive Relaid : Node → Node → Prop where
  | text (i i' : Nat) (o o' : Option Origin) {s t : String} (same : Text.Relaid s t) :
      Relaid (.text i o s) (.text i' o' t)
  | element (i i' : Nat) (o o' : Option Origin) (label : String) (attributes : List Attribute) {ns ns' : List Node}
      (below : Pairs Relaid ns ns') : Relaid (.element i o label attributes ns) (.element i' o' label attributes ns')

end Node

/-- Readings that come to the same: the same was read, or the same is wrong with one element. -/
inductive ReadAlike {α : Type} : Except Fault α → Except Fault α → Prop where
  | ok (a : α) : ReadAlike (.ok a) (.ok a)
  | defect {n n' : Node} (same : n.Relaid n') (d : Dialogue.Defect) : ReadAlike (n.defect d) (n'.defect d)

namespace ReadAlike

variable {α β : Type} {x y : Except Fault α}

theorem bind (h : ReadAlike x y) {f g : α → Except Fault β} (further : ∀ a, ReadAlike (f a) (g a)) :
    ReadAlike (x >>= f) (y >>= g) := by
  cases h with
  | ok a => exact further a
  | defect same d => exact .defect same d

theorem map (h : ReadAlike x y) (f : α → β) : ReadAlike (x.map f) (y.map f) := by
  cases h with
  | ok a => exact .ok (f a)
  | defect same d => exact .defect same d

end ReadAlike

namespace Node

variable {n n' : Node} {ns ns' : List Node}

theorem Relaid.label_eq (h : n.Relaid n') : n.label = n'.label := by
  cases h <;> rfl

theorem Relaid.attribute?_eq (h : n.Relaid n') (name : String) : n.attribute? name = n'.attribute? name := by
  cases h <;> rfl

theorem Relaid.pairs_children (h : n.Relaid n') : Pairs Relaid n.children n'.children := by
  cases h with
  | text => exact .done
  | element _ _ _ _ _ _ below => exact below

/-- The elements in pairs are all elements there are. -/
theorem Pairs.forall₂_elements (h : Pairs Relaid ns ns') :
    List.Forall₂ Relaid (ns.filter isElement) (ns'.filter isElement) := by
  induction h with
  | done => exact .nil
  | @pair n n' ns ns' same others ih =>
    cases same with
    | text => exact ih
    | element _ _ _ _ _ _ below => exact .cons (.element _ _ _ _ _ _ below) ih
  | less _ _ _ _ ih => exact ih
  | more _ _ _ _ ih => exact ih

theorem Relaid.forall₂_childElements (h : n.Relaid n') : List.Forall₂ Relaid n.childElements n'.childElements :=
  h.pairs_children.forall₂_elements

/-- The first elements of a name are a pair. -/
theorem rel_find? (each : List.Forall₂ Relaid ns ns') (label : String) :
    Option.Rel Relaid (ns.find? (·.label == label)) (ns'.find? (·.label == label)) := by
  induction each with
  | nil => exact .none
  | cons same others ih =>
    rw [List.find?_cons, List.find?_cons, same.label_eq]
    split
    · exact .some same
    · exact ih

theorem Relaid.rel_findChild? (h : n.Relaid n') (label : String) :
    Option.Rel Relaid (n.findChild? label) (n'.findChild? label) := by
  have among (n : Node) : n.findChild? label = n.childElements.find? (·.label == label) := by
    rw [Node.childElements, List.find?_filter]
    simp [Node.findChild?, Bool.beq_eq_decide_eq]
  rw [among, among]
  exact rel_find? h.forall₂_childElements label

/-! ## Responses -/

theorem Relaid.readAlike_part? (h : n.Relaid n') : ReadAlike n.part? n'.part? := by
  cases h with
  | text i i' o o' same =>
    unfold Node.part?
    simp only [text?, speech_eq_iff.mpr same]
    exact .ok _
  | element i i' o o' label attributes below =>
    unfold Node.part?
    simp only [text?, Node.label]
    split
    · exact .ok _
    · exact .defect (.element i i' o o' label attributes below) _

/-- The parts that a list of nodes makes. -/
def partsOf (ns : List Node) : Except Fault (List Part) := (ns.mapM Node.part?).map (·.filterMap id)

theorem parts?_eq (n : Node) : n.parts? = partsOf n.children := by
  rw [parts?, partsOf]
  cases n.children.mapM Node.part? <;> rfl

theorem partsOf_cons (n : Node) (ns : List Node) :
    partsOf (n :: ns) = n.part? >>= fun p => (partsOf ns).map (p.toList ++ ·) := by
  rw [partsOf, partsOf, List.mapM_cons]
  cases n.part? with
  | error fault => rfl
  | ok p => cases ns.mapM Node.part? <;> cases p <;> rfl

theorem partsOf_blank (i : Nat) (o : Option Origin) {s : String} (blank : isBlankText s = true) (ns : List Node) :
    partsOf (.text i o s :: ns) = partsOf ns := by
  have none : (Node.text i o s).part? = .ok none := by
    unfold Node.part?
    simp only [text?, speech_of_blank blank, ↓reduceIte]
  rw [partsOf_cons, none]
  cases partsOf ns <;> rfl

theorem Pairs.readAlike_partsOf (h : Pairs Relaid ns ns') : ReadAlike (partsOf ns) (partsOf ns') := by
  induction h with
  | done => exact .ok []
  | pair same others ih =>
    rw [partsOf_cons, partsOf_cons]
    exact same.readAlike_part?.bind fun p => ih.map _
  | less i o blank others ih =>
    rw [partsOf_blank i o blank]
    exact ih
  | more i o blank others ih =>
    rw [partsOf_blank i o blank]
    exact ih

/-- **A response is the same however it is laid out.** -/
theorem Relaid.readAlike_parts? (h : n.Relaid n') : ReadAlike n.parts? n'.parts? := by
  rw [parts?_eq, parts?_eq]
  exact h.pairs_children.readAlike_partsOf

/-- There is no layout in a text that a node makes. -/
theorem isPlain_of_part? {s : String} (made : n.part? = .ok (some (.text s))) : IsPlain s := by
  cases n with
  | text i o written =>
    have said : (if speech written = "" then none else some (Part.text (speech written))) = some (.text s) :=
      Except.ok.inj made
    split at said
    · cases said
    · next nonempty =>
      cases said
      exact isPlain_speech nonempty
  | element i o label attributes ns =>
    unfold Node.part? at made
    simp only [text?] at made
    split at made <;> cases made

/-- There is no layout in a response. -/
theorem isPlain_of_parts? {parts : List Part} {s : String} (read : n.parts? = .ok parts) (among : .text s ∈ parts) :
    IsPlain s := by
  cases each : n.children.mapM Node.part? with
  | error fault =>
    rw [Node.parts?, each] at read
    cases read
  | ok found =>
    rw [Node.parts?, each] at read
    cases read
    obtain ⟨p, there, rfl⟩ := List.mem_filterMap.mp among
    obtain ⟨child, -, made⟩ := exists_of_mapM each _ there
    exact isPlain_of_part? made

theorem Relaid.readAlike_required (h : n.Relaid n') (name : String) : ReadAlike (n.required name) (n'.required name) := by
  rw [Node.required, Node.required, h.attribute?_eq]
  split
  · exact .ok _
  · exact .defect h _

end Node

/-! ## Dialogues -/

namespace Outline

variable {n n' : Node}

theorem readAlike_branch? (h : n.Relaid n') (label : String) : ReadAlike (branch? n label) (branch? n' label) := by
  have found := h.rel_findChild? label
  rw [branch?, branch?]
  revert found
  cases n.findChild? label <;> cases n'.findChild? label <;> rintro ⟨same⟩
  · exact .defect h _
  · exact same.readAlike_parts?

theorem Choice.readAlike_ofNode? (h : n.Relaid n') : ReadAlike (Choice.ofNode? n) (Choice.ofNode? n') := by
  rw [Choice.ofNode?, Choice.ofNode?]
  refine (h.readAlike_required "text").bind fun text => ?_
  refine (readAlike_branch? h "yes").bind fun yes => ?_
  exact (readAlike_branch? h "no").bind fun no => .ok _

theorem Entry.readAlike_ofNode? (h : n.Relaid n') : ReadAlike (Entry.ofNode? n) (Entry.ofNode? n') := by
  rw [Entry.ofNode?, Entry.ofNode?]
  refine (h.readAlike_required "name").bind fun names => ?_
  exact h.readAlike_parts?.bind fun parts => .ok _

/-- One element adds the same. -/
theorem rel_extend? (o : Outline) (h : n.Relaid n') : Option.Rel ReadAlike (o.extend? n) (o.extend? n') := by
  rw [extend?, extend?, h.label_eq]
  split
  · exact .some (h.readAlike_parts?.map _)
  · exact .some (h.readAlike_parts?.map _)
  · exact .some (h.readAlike_parts?.map _)
  · exact .some ((Choice.readAlike_ofNode? h).map _)
  · exact .some ((Entry.readAlike_ofNode? h).map _)
  · exact .none

/-- Elements in order add the same, and the same is noticed. -/
theorem readAlike_extendAll {ns ns' : List Node} (each : List.Forall₂ Node.Relaid ns ns') (o : Outline) :
    ReadAlike (o.extendAll ns).1 (o.extendAll ns').1 ∧ (o.extendAll ns).2 = (o.extendAll ns').2 := by
  induction each generalizing o with
  | nil => exact ⟨.ok o, rfl⟩
  | @cons n n' ns ns' same others ih =>
    have passed : o.passedOver n = o.passedOver n' := by rw [passedOver, passedOver, same.label_eq]
    have added := o.rel_extend? same
    rw [extendAll, extendAll, passed]
    generalize o.extend? n = found at added ⊢
    generalize o.extend? n' = found' at added ⊢
    cases added with
    | none =>
      obtain ⟨alike, noticed⟩ := ih o
      exact ⟨alike, congrArg (o.passedOver n' :: ·) noticed⟩
    | some alike =>
      cases alike with
      | ok o => exact ih o
      | defect element d => exact ⟨.defect element d, rfl⟩

theorem readAlike_ofAttributes? (h : n.Relaid n') : ReadAlike (ofAttributes? n) (ofAttributes? n') := by
  have turnAway : ReadAlike (turnAway? n) (turnAway? n') := by
    rw [turnAway?, turnAway?, h.attribute?_eq]
    split
    · exact .ok _
    · split
      · exact .ok _
      · exact .defect h _
  rw [ofAttributes?, ofAttributes?, h.label_eq, h.attribute?_eq, h.attribute?_eq]
  split
  · exact .defect h _
  · refine (h.readAlike_required "name").bind fun name => ?_
    exact turnAway.bind fun turnAway => .ok _

theorem readAlike_ofNode (h : n.Relaid n') :
    ReadAlike (ofNode n).1 (ofNode n').1 ∧ (ofNode n).2 = (ofNode n').2 := by
  have begun := readAlike_ofAttributes? h
  rw [ofNode, ofNode]
  generalize ofAttributes? n = read at begun ⊢
  generalize ofAttributes? n' = read' at begun ⊢
  cases begun with
  | ok o => exact readAlike_extendAll h.forall₂_childElements o
  | defect element d => exact ⟨.defect element d, rfl⟩

/-- **Layout is not heard.**  An element that was laid out anew, with lines of its texts indented or parted by blank
ones and with blank texts put in or left out, has the same parts.  A text among the parts of a response is not empty,
and no line of it is blank or has blanks around it.  A document that was laid out anew is read as the same outline,
and the same is noticed in it. -/
theorem layout_is_unheard :
    (∀ n n' : Node, n.Relaid n' → ReadAlike n.parts? n'.parts?) ∧
    (∀ (n : Node) (parts : List Part) (s : String), n.parts? = .ok parts → .text s ∈ parts →
      s ≠ "" ∧ ∀ line ∈ splitOn '\n' s, isBlankText line = false ∧ trim line = line) ∧
    (∀ root root' : Node, root.Relaid root' →
      ReadAlike (ofNode root).1 (ofNode root').1 ∧ (ofNode root).2 = (ofNode root').2) := by
  refine ⟨fun n n' relaid => relaid.readAlike_parts?, fun n parts s read among => ?_, fun root root' => readAlike_ofNode⟩
  have plain := Node.isPlain_of_parts? read among
  exact ⟨(speech_of_isPlain plain).2, fun line => plain.of_mem_splitOn⟩

/-! ### One dialogue in two layouts -/

/-- A dialogue without layout but for the one line end in its text. -/
def closeMarkup : String :=
  "<dialogue name=\"Guard\"><keyword name=\"job\">I guard\nthe gate.<ask/></keyword></dialogue>"

/-- The same dialogue, its lines indented. -/
def looseMarkup : String :=
  "<dialogue name=\"Guard\">\n  <keyword name=\"job\">\n    I guard\n    the gate.\n\n    <ask/>\n  </keyword>\n" ++
  "</dialogue>"

/-- The response without layout. -/
def closeResponse : Node :=
  .element 1 (some ⟨documentName, 1, 24⟩) "keyword" [("name", "job")] [
    .text 2 (some ⟨documentName, 1, 44⟩) "I guard\nthe gate.",
    .element 3 (some ⟨documentName, 2, 10⟩) "ask" [] []]

/-- The response with its lines indented. -/
def looseResponse : Node :=
  .element 2 (some ⟨documentName, 2, 3⟩) "keyword" [("name", "job")] [
    .text 3 (some ⟨documentName, 2, 23⟩) "\n    I guard\n    the gate.\n\n    ",
    .element 4 (some ⟨documentName, 6, 5⟩) "ask" [] [],
    .text 5 (some ⟨documentName, 6, 11⟩) "\n  "]

/-- The document without layout. -/
def closeRoot : Node :=
  .element 0 (some ⟨documentName, 1, 1⟩) "dialogue" [("name", "Guard")] [closeResponse]

/-- The document with its lines indented. -/
def looseRoot : Node :=
  .element 0 (some ⟨documentName, 1, 1⟩) "dialogue" [("name", "Guard")] [
    .text 1 (some ⟨documentName, 1, 24⟩) "\n  ", looseResponse, .text 6 (some ⟨documentName, 7, 13⟩) "\n"]

theorem ofText?_closeMarkup : Node.ofText? documentName closeMarkup = .ok closeRoot := by
  cbv

theorem ofText?_looseMarkup : Node.ofText? documentName looseMarkup = .ok looseRoot := by
  cbv

theorem relaid_response : closeResponse.Relaid looseResponse := by
  have said : Text.Relaid "I guard\nthe gate." "\n    I guard\n    the gate.\n\n    " :=
    speech_eq_iff.mp (by decide)
  refine .element _ _ _ _ _ _ (.pair (.text _ _ _ _ said) (.pair (.element _ _ _ _ _ _ .done) ?_))
  exact .more _ _ (by decide) .done

theorem relaid_root : closeRoot.Relaid looseRoot :=
  .element _ _ _ _ _ _ (.more _ _ (by decide) (.pair relaid_response (.more _ _ (by decide) .done)))

theorem parts?_looseResponse :
    looseResponse.parts? = .ok [.text "I guard\nthe gate.", .command .ask] := by
  rfl

theorem layout_is_unheard_of_guard :
    Node.ofText? documentName closeMarkup = .ok closeRoot ∧ Node.ofText? documentName looseMarkup = .ok looseRoot ∧
      closeResponse.Relaid looseResponse ∧ ReadAlike closeResponse.parts? looseResponse.parts? ∧
      looseResponse.parts? = .ok [.text "I guard\nthe gate.", .command .ask] ∧
      (∀ line ∈ splitOn '\n' "I guard\nthe gate.", isBlankText line = false ∧ trim line = line) ∧
      closeRoot.Relaid looseRoot ∧ ReadAlike (ofNode closeRoot).1 (ofNode looseRoot).1 ∧
      (ofNode closeRoot).2 = (ofNode looseRoot).2 := by
  have tidy := layout_is_unheard.2.1 _ _ _ parts?_looseResponse List.mem_cons_self
  obtain ⟨read, noticed⟩ := layout_is_unheard.2.2 _ _ relaid_root
  exact ⟨ofText?_closeMarkup, ofText?_looseMarkup, relaid_response, layout_is_unheard.1 _ _ relaid_response,
    parts?_looseResponse, tidy.2, relaid_root, read, noticed⟩

end Outline

end Colloquy
