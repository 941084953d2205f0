import Colloquy.Dialogue.Outline.Markup
import Colloquy.Proofs.Dialogue.Data
import Colloquy.Proofs.Text.Lowercase
import Colloquy.Proofs.Text.Split

/-!
# Outlines read from markup

A document that describes an outline is read as the outline, in whatever order its elements stand
(`Outline.ofNode_of_isMarkup`), and there is one for each outline (`Outline.isMarkup_toNode`).

### What is load-bearing

Reading drops the layout of a text and splits the keywords of an entry at their mark.  So what is read is what
was described if texts have no layout (`Text.IsPlain`) and keywords do not have the mark (`Outline.Plain`).

Elements are read one by one into an outline that grows.  What the elements still to come describe is what is
missing in it (`Outline.Adds`), and the first of them takes it one step on (`Outline.Adds.of_cons`).

## Main definitions

* `Text.IsPlain`, `Outline.Plain`: texts without layout, and outlines that can be written in markup.
* `Part.IsNode`, `Outline.Choice.IsNode`, `Outline.Entry.IsNode`: nodes that describe a part of a response, a
  question, and an entry.
* `Outline.Adds`, `Outline.IsMarkup`: elements that describe what is missing in an outline, and a document that
  describes an outline.
* `Outline.toNode`: a document of an outline.
-/

namespace Colloquy

open Text

namespace Text

/-- A text without layout: lines that are not empty and have no blanks around them. -/
def IsPlain (text : String) : Prop :=
  ∃ lines : List String, lines ≠ [] ∧ (∀ line ∈ lines, line ≠ "" ∧ trim line = line ∧ '\n' ∉ line.toList) ∧
    text = joinWith "\n" lines

/-- Lines that are put together are the lines of the text. -/
theorem splitOn_lines {lines : List String} (some : lines ≠ []) (whole : ∀ line ∈ lines, '\n' ∉ line.toList) :
    splitOn '\n' (joinWith "\n" lines) = lines :=
  splitOn_joinWith '\n' some whole

theorem speech_of_isPlain {text : String} (plain : IsPlain text) :
    Node.speech text = text ∧ text ≠ "" := by
  obtain ⟨lines, some, each, rfl⟩ := plain
  have split := splitOn_lines some fun line among => (each line among).2.2
  have trimmed : lines.map trim = lines :=
    (List.map_congr_left fun line among => (each line among).2.1).trans (List.map_id' lines)
  have kept : lines.filter (· ≠ "") = lines :=
    List.filter_eq_self.mpr fun line among => decide_eq_true (each line among).1
  refine ⟨by rw [Node.speech, split, trimmed, kept], fun empty => ?_⟩
  rw [empty] at split
  exact (each "" (split ▸ List.mem_singleton_self "")).1 rfl

end Text

theorem isBlank_toLower (c : Char) : isBlank c.toLower = isBlank c := by
  by_cases small : c.toNat < 128
  · exact (isSettledAscii_of_lt small).2.2
  · have large : ¬ (65 ≤ c.val ∧ c.val ≤ 90) := by
      intro upper
      have top : c.toNat ≤ 90 := UInt32.le_iff_toNat_le.mp upper.2
      omega
    have same : c.toLower = c := dif_neg large
    rw [same]

/-- A word that is the name of a command but for the case of its letters is read as the command. -/
theorem Command.ofWord?_of_same {c : Command} {word : String}
    (same : sameIgnoringAsciiCase c.name word = true) :
    trim word = word ∧ ofWord? word = some c := by
  have lowered : lowerAscii word = lowerAscii c.name := (eq_of_beq same).symm
  refine ⟨?_, ?_⟩
  · have letters : (lowerAscii c.name).toList.all (!isBlank ·) = true := by cases c <;> decide
    have solid : ∀ l ∈ word.toList, isBlank l = false := by
      intro l among
      have low : l.toLower ∈ (lowerAscii word).toList := by
        rw [lowerAscii, String.toList_ofList]
        exact List.mem_map_of_mem among
      rw [← isBlank_toLower]
      simpa using List.all_eq_true.mp letters _ (lowered ▸ low)
    rw [trim, trimChars_of_solid solid, String.ofList_toList]
  · have found : all.find? (fun c' => lowerAscii c'.name == lowerAscii c.name) = some c := by
      cases c <;> decide
    unfold ofWord? sameIgnoringAsciiCase
    rw [lowered]
    exact found

namespace Part

/-- A node that describes a part of a response: a text, or an empty element named like the command. -/
inductive IsNode : Part → Node → Prop where
  | text (i : Nat) (o : Option Origin) (s : String) : IsNode (.text s) (.text i o s)
  | command (i : Nat) (o : Option Origin) {c : Command} {label : String}
      (named : sameIgnoringAsciiCase c.name label = true) : IsNode (.command c) (.element i o label [] [])

/-- The node of a part. -/
def toNode : Part → Node
  | text s => .text 0 none s
  | command c => .element 0 none c.name [] []

theorem isNode_toNode (p : Part) : p.IsNode p.toNode := by
  cases p with
  | text s => exact .text 0 none s
  | command c => exact .command 0 none (beq_self_eq_true _)

/-- A part that can be written in markup. -/
def Plain : Part → Prop
  | text s => IsPlain s
  | command _ => True

theorem part?_of_isNode {p : Part} {n : Node} (plain : p.Plain) (isNode : p.IsNode n) :
    n.part? = .ok (some p) := by
  cases isNode with
  | text i o s =>
    obtain ⟨said, some⟩ := speech_of_isPlain plain
    show Except.ok (if Node.speech s = "" then none else Option.some (Part.text (Node.speech s))) = _
    rw [said, if_neg some]
  | command i o named =>
    obtain ⟨trimmed, found⟩ := Command.ofWord?_of_same named
    unfold Node.part?
    simp only [Node.text?, Node.label, trimmed, found]

theorem parts?_of_isNode {parts : List Part} {n : Node} (plain : ∀ p ∈ parts, p.Plain)
    (each : List.Forall₂ IsNode parts n.children) : n.parts? = .ok parts := by
  have read : n.children.mapM Node.part? = .ok (parts.map some) := by
    refine mapM_of_forall₂ (List.forall₂_map_left_iff.mpr ?_)
    exact ((List.forall₂_and_left _ _).mpr ⟨plain, each⟩).imp fun p n h => part?_of_isNode h.1 h.2
  rw [Node.parts?, read]
  show Except.ok ((parts.map some).filterMap id) = .ok parts
  simp

end Part

namespace Outline

/-! ## Elements -/

/-- The elements of a list that have this name. -/
def named (label : String) (ns : List Node) : List Node := ns.filter (·.label = label)

theorem named_cons (label : String) (n : Node) (ns : List Node) :
    named label (n :: ns) = if n.label = label then n :: named label ns else named label ns := by
  simp only [named, List.filter_cons, decide_eq_true_eq]

/-- An element whose content describes parts of a response. -/
def HoldsParts (parts : List Part) (n : Node) : Prop := List.Forall₂ Part.IsNode parts n.children

/-- One element describes a thing, or there is none and the thing is the one that is meant then. -/
def Once {α : Type} (isNode : α → Node → Prop) (ns : List Node) (missing a : α) : Prop :=
  (∃ n, ns = [n] ∧ isNode a n) ∨ ns = [] ∧ a = missing

theorem Once.of_cons {α : Type} {isNode : α → Node → Prop} {n : Node} {ns : List Node} {missing a : α}
    (once : Once isNode (n :: ns) missing a) : isNode a n ∧ Once isNode ns a a := by
  rcases once with ⟨n', only, isNode'⟩ | ⟨none, -⟩
  · cases only
    exact ⟨isNode', .inr ⟨rfl, rfl⟩⟩
  · cases none

theorem Once.of_nil {α : Type} {isNode : α → Node → Prop} {missing a : α}
    (once : Once isNode [] missing a) : a = missing := by
  rcases once with ⟨n, only, -⟩ | ⟨-, same⟩
  · cases only
  · exact same

/-- An element that describes a question. -/
structure Choice.IsNode (c : Choice) (n : Node) : Prop where
  text : n.attribute? "text" = some c.text
  yes : ∃ found, n.findChild? "yes" = some found ∧ HoldsParts c.yes found
  no : ∃ found, n.findChild? "no" = some found ∧ HoldsParts c.no found

/-- An element that describes an entry. -/
structure Entry.IsNode (e : Entry) (n : Node) : Prop where
  keywords : n.attribute? "name" = some (joinWith "|" e.keywords)
  parts : HoldsParts e.parts n

/-- A question whose parts can be written in markup. -/
structure Choice.Plain (c : Choice) : Prop where
  yes : ∀ p ∈ c.yes, p.Plain
  no : ∀ p ∈ c.no, p.Plain

/-- An entry that can be written in markup. -/
structure Entry.Plain (e : Entry) : Prop where
  some : e.keywords ≠ []
  unmarked : ∀ keyword ∈ e.keywords, aliasMark ∉ keyword.toList
  parts : ∀ p ∈ e.parts, p.Plain

theorem branch?_of_holdsParts {parts : List Part} {n found : Node} {label : String}
    (there : n.findChild? label = some found) (plain : ∀ p ∈ parts, p.Plain) (holds : HoldsParts parts found) :
    branch? n label = .ok parts := by
  rw [branch?, there]
  exact Part.parts?_of_isNode plain holds

theorem Choice.ofNode?_of_isNode {c : Choice} {n : Node} (plain : c.Plain) (isNode : c.IsNode n) :
    Choice.ofNode? n = .ok c := by
  obtain ⟨yes, yesThere, yesHolds⟩ := isNode.yes
  obtain ⟨no, noThere, noHolds⟩ := isNode.no
  rw [Choice.ofNode?, Node.required, isNode.text, branch?_of_holdsParts yesThere plain.yes yesHolds,
    branch?_of_holdsParts noThere plain.no noHolds]
  rfl

theorem Entry.ofNode?_of_isNode {e : Entry} {n : Node} (plain : e.Plain) (isNode : e.IsNode n) :
    Entry.ofNode? n = .ok e := by
  have split : splitOn aliasMark (joinWith "|" e.keywords) = e.keywords :=
    splitOn_joinWith '|' plain.some plain.unmarked
  rw [Entry.ofNode?, Node.required, isNode.keywords, Part.parts?_of_isNode plain.parts isNode.parts]
  show Except.ok (Entry.mk (splitOn aliasMark (joinWith "|" e.keywords)) e.parts) = _
  rw [split]

/-! ## Outlines -/

/-- An outline that can be written in markup. -/
structure Plain (o : Outline) : Prop where
  intro : ∀ p ∈ o.intro, p.Plain
  longIntro : ∀ p ∈ o.longIntro, p.Plain
  defaultAnswer : ∀ p ∈ o.defaultAnswer, p.Plain
  question : ∀ c, o.question = some c → c.Plain
  entries : ∀ e ∈ o.entries, e.Plain

/-- Elements that describe what one outline has more than another.  They may stand in any order. -/
structure Adds (o : Outline) (ns : List Node) (o' : Outline) : Prop where
  known : ∀ n ∈ ns, n.label ∈ ["intro", "longintro", "default", "question", "keyword"]
  name : o'.name = o.name
  pronoun : o'.pronoun = o.pronoun
  prompt : o'.prompt = o.prompt
  turnAway : o'.turnAway = o.turnAway
  intro : Once HoldsParts (named "intro" ns) o.intro o'.intro
  longIntro : Once HoldsParts (named "longintro" ns) o.longIntro o'.longIntro
  defaultAnswer : Once HoldsParts (named "default" ns) o.defaultAnswer o'.defaultAnswer
  question : Once (fun q n => ∃ c : Choice, q = some c ∧ c.IsNode n) (named "question" ns) o.question o'.question
  entries : ∃ es, o'.entries = o.entries ++ es ∧ List.Forall₂ Entry.IsNode es (named "keyword" ns)

theorem Adds.of_nil {o o' : Outline} (adds : o.Adds [] o') : o = o' := by
  obtain ⟨es, entries, each⟩ := adds.entries
  cases each
  rw [List.append_nil] at entries
  cases o
  cases o'
  simp only [Outline.mk.injEq]
  exact ⟨adds.name.symm, adds.pronoun.symm, adds.prompt.symm, adds.intro.of_nil.symm, adds.longIntro.of_nil.symm,
    adds.defaultAnswer.of_nil.symm, adds.turnAway.symm, adds.question.of_nil.symm, entries.symm⟩

/-- The first element is read, and the others describe what is missing then. -/
theorem Adds.of_cons {o o' : Outline} {n : Node} {ns : List Node} (plain : o'.Plain)
    (adds : o.Adds (n :: ns) o') : ∃ o₁, o.extend? n = some (.ok o₁) ∧ o₁.Adds ns o' := by
  obtain ⟨own, known⟩ := List.forall_mem_cons.mp adds.known
  obtain ⟨-, name, pronoun, prompt, turnAway, intro, longIntro, defaultAnswer, question, entries⟩ := adds
  simp only [List.mem_cons, List.not_mem_nil, or_false] at own
  -- In each case the element has one name, so it is in one of the lists of elements and in no other.
  rcases own with own | own | own | own | own <;>
    simp only [named_cons, own, ↓reduceIte, String.reduceEq] at intro longIntro defaultAnswer question entries
  · obtain ⟨holds, rest⟩ := intro.of_cons
    refine ⟨{ o with intro := o'.intro }, ?_,
      ⟨known, name, pronoun, prompt, turnAway, rest, longIntro, defaultAnswer, question, entries⟩⟩
    simp only [extend?, own, Part.parts?_of_isNode plain.intro holds]
    rfl
  · obtain ⟨holds, rest⟩ := longIntro.of_cons
    refine ⟨{ o with longIntro := o'.longIntro }, ?_,
      ⟨known, name, pronoun, prompt, turnAway, intro, rest, defaultAnswer, question, entries⟩⟩
    simp only [extend?, own, Part.parts?_of_isNode plain.longIntro holds]
    rfl
  · obtain ⟨holds, rest⟩ := defaultAnswer.of_cons
    refine ⟨{ o with defaultAnswer := o'.defaultAnswer }, ?_,
      ⟨known, name, pronoun, prompt, turnAway, intro, longIntro, rest, question, entries⟩⟩
    simp only [extend?, own, Part.parts?_of_isNode plain.defaultAnswer holds]
    rfl
  · obtain ⟨⟨c, asked, isNode⟩, rest⟩ := question.of_cons
    refine ⟨{ o with question := o'.question }, ?_,
      ⟨known, name, pronoun, prompt, turnAway, intro, longIntro, defaultAnswer, rest, entries⟩⟩
    simp only [extend?, own, Choice.ofNode?_of_isNode (plain.question c asked) isNode, asked]
    rfl
  · obtain ⟨es, whole, each⟩ := entries
    obtain ⟨e, es, isNode, others, rfl⟩ := List.forall₂_cons_right_iff.mp each
    have among : e ∈ o'.entries := whole ▸ List.mem_append_right _ List.mem_cons_self
    refine ⟨{ o with entries := o.entries ++ [e] }, ?_,
      ⟨known, name, pronoun, prompt, turnAway, intro, longIntro, defaultAnswer, question,
        es, by rw [whole, List.append_cons], others⟩⟩
    simp only [extend?, own, Entry.ofNode?_of_isNode (plain.entries e among) isNode]
    rfl

/-- Elements are read in order. -/
theorem extendAll_of_adds {o o' : Outline} {ns : List Node} (plain : o'.Plain) (adds : o.Adds ns o') :
    o.extendAll ns = (.ok o', []) := by
  induction ns generalizing o with
  | nil => rw [extendAll, adds.of_nil]
  | cons n ns ih =>
    obtain ⟨o₁, read, others⟩ := adds.of_cons plain
    rw [extendAll, read]
    exact ih others

/-- The outline of which there are only the attributes of its document. -/
def bare (o : Outline) : Outline :=
  { name := o.name, pronoun := o.pronoun, prompt := o.prompt, turnAway := o.turnAway }

/-- A document that describes an outline.  What is empty may be left out. -/
structure IsMarkup (o : Outline) (root : Node) : Prop where
  label : root.label = "dialogue"
  name : root.attribute? "name" = some o.name
  pronoun : Gives (root.attribute? "pronoun") id "" o.pronoun
  prompt : Gives (root.attribute? "prompt") id "" o.prompt
  turnAway : Gives (root.attribute? "turnaway") (fun n : UInt32 => toString n.toNat) 0 o.turnAway
  elements : o.bare.Adds root.childElements o

theorem turnAway?_of_isMarkup {o : Outline} {root : Node} (h : o.IsMarkup root) :
    turnAway? root = .ok o.turnAway := by
  rw [turnAway?]
  rcases h.turnAway with given | ⟨none, zero⟩
  · have digits : (toString o.turnAway.toNat).toList = Nat.toDigits 10 o.turnAway.toNat :=
      String.toList_ofList
    have small : o.turnAway.toNat ≤ UInt32.size - 1 := Nat.le_sub_one_of_lt o.turnAway.toNat_lt_size
    rw [given]
    dsimp only
    rw [digits, Decimal.trimChars_toDigits, Decimal.readNat?_toDigits small]
    exact congrArg Except.ok UInt32.ofNat_toNat
  · rw [none, zero]

/-- **A document that describes an outline is read as the outline.** -/
theorem ofNode_of_isMarkup {o : Outline} {root : Node} (plain : o.Plain) (h : o.IsMarkup root) :
    ofNode root = (.ok o, []) := by
  have attributes : ofAttributes? root = .ok o.bare := by
    rw [ofAttributes?, if_neg (not_not.mpr h.label), Node.required, h.name, turnAway?_of_isMarkup h, bare,
      ← h.pronoun.getD_eq, ← h.prompt.getD_eq]
    rfl
  rw [ofNode, attributes]
  exact extendAll_of_adds plain h.elements

/-! ## Writing -/

/-- An element that holds parts of a response. -/
def holder (label : String) (attributes : List Attribute) (parts : List Part) : Node :=
  .element 0 none label attributes (parts.map Part.toNode)

/-- The element of a question. -/
def Choice.toNode (c : Choice) : Node :=
  .element 0 none "question" [("text", c.text)] [holder "yes" [] c.yes, holder "no" [] c.no]

/-- The element of an entry. -/
def Entry.toNode (e : Entry) : Node := holder "keyword" [("name", joinWith "|" e.keywords)] e.parts

/-- The elements of an outline. -/
def elements (o : Outline) : List Node :=
  [holder "intro" [] o.intro, holder "longintro" [] o.longIntro, holder "default" [] o.defaultAnswer] ++
    (o.question.toList.map Choice.toNode ++ o.entries.map Entry.toNode)

/-- The document of an outline, with nothing left out. -/
def toNode (o : Outline) : Node :=
  .element 0 none "dialogue"
    [("name", o.name), ("pronoun", o.pronoun), ("prompt", o.prompt), ("turnaway", toString o.turnAway.toNat)]
    o.elements

theorem holdsParts_holder (label : String) (attributes : List Attribute) (parts : List Part) :
    HoldsParts parts (holder label attributes parts) :=
  List.forall₂_map_right_iff.mpr (List.forall₂_same.mpr fun p _ => p.isNode_toNode)

theorem Choice.isNode_toNode (c : Choice) : c.IsNode c.toNode where
  text := rfl
  yes := ⟨_, rfl, holdsParts_holder "yes" [] c.yes⟩
  no := ⟨_, rfl, holdsParts_holder "no" [] c.no⟩

theorem Entry.isNode_toNode (e : Entry) : e.IsNode e.toNode where
  keywords := rfl
  parts := holdsParts_holder ..

theorem named_map {α : Type} {write : α → Node} (own : String) (all : ∀ a, (write a).label = own)
    (label : String) (as : List α) :
    named label (as.map write) = if own = label then as.map write else [] := by
  induction as with
  | nil => simp [named]
  | cons a as ih =>
    rw [List.map_cons, named_cons, ih, all a]
    split <;> rfl

theorem named_elements (o : Outline) (label : String) :
    named label o.elements =
      named label [holder "intro" [] o.intro, holder "longintro" [] o.longIntro,
        holder "default" [] o.defaultAnswer] ++
      ((if "question" = label then o.question.toList.map Choice.toNode else []) ++
        (if "keyword" = label then o.entries.map Entry.toNode else [])) := by
  rw [← named_map "question" fun _ => rfl, ← named_map "keyword" fun _ => rfl, named, elements,
    List.filter_append, List.filter_append]
  rfl

theorem of_mem_elements {o : Outline} {n : Node} (among : n ∈ o.elements) :
    n.isElement = true ∧ n.label ∈ ["intro", "longintro", "default", "question", "keyword"] := by
  rcases List.mem_append.mp among with response | other
  · simp only [List.mem_cons, List.not_mem_nil, or_false] at response
    rcases response with rfl | rfl | rfl <;> simp [holder, Node.isElement, Node.label]
  · rcases List.mem_append.mp other with question | entry
    · obtain ⟨c, -, rfl⟩ := List.mem_map.mp question
      simp [Choice.toNode, Node.isElement, Node.label]
    · obtain ⟨e, -, rfl⟩ := List.mem_map.mp entry
      simp [Entry.toNode, holder, Node.isElement, Node.label]

theorem adds_elements (o : Outline) : o.bare.Adds o.elements o where
  known _ among := (of_mem_elements among).2
  name := rfl
  pronoun := rfl
  prompt := rfl
  turnAway := rfl
  intro := by
    rw [named_elements]
    exact .inl ⟨_, rfl, holdsParts_holder ..⟩
  longIntro := by
    rw [named_elements]
    exact .inl ⟨_, rfl, holdsParts_holder ..⟩
  defaultAnswer := by
    rw [named_elements]
    exact .inl ⟨_, rfl, holdsParts_holder ..⟩
  question := by
    rw [named_elements]
    cases o.question with
    | some c => exact .inl ⟨_, rfl, c, rfl, c.isNode_toNode⟩
    | none => exact .inr ⟨rfl, rfl⟩
  entries := by
    rw [named_elements]
    exact ⟨o.entries, rfl, List.forall₂_map_right_iff.mpr (List.forall₂_same.mpr fun e _ => e.isNode_toNode)⟩

/-- Every outline can be written in markup, but for what is not plain in it. -/
theorem isMarkup_toNode (o : Outline) : o.IsMarkup o.toNode where
  label := rfl
  name := rfl
  pronoun := .inl rfl
  prompt := .inl rfl
  turnAway := .inl rfl
  elements := by
    have all : o.toNode.childElements = o.elements :=
      List.filter_eq_self.mpr fun _ among => (of_mem_elements among).1
    rw [all]
    exact o.adds_elements

end Outline

end Colloquy
