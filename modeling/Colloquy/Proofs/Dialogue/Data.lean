import Colloquy.Dialogue.Outline.Data
import Colloquy.Proofs.Dialogue.Holding
import Mathlib.Data.List.Forall2

/-!
# Outlines read from data

An object that describes an outline is read as the outline, in whatever order its fields stand, and whether
what is empty in it is left out, null, or given (`Outline.ofJson?_of_isData`).  There is one for each outline
(`Outline.isData_toFields`).

### What is load-bearing

The fields of a record are looked for one by one, and what is left at the end has to be nothing.  So an
object whose names are distinct and known is read as if each field were looked up by its name
(`Json.Record.fields?_object`).

## Main definitions

* `Gives`: what is found under a name describes a thing.
* `Json.Record.Fits`: an object has the fields that a record demands.
* `Part.IsData`, `Outline.Choice.IsData`, `Outline.Entry.IsData`, `Outline.IsData`: data that describes parts
  of a response, a question, an entry, and an outline.
* `Outline.toFields`: the data of an outline.
-/

namespace Colloquy

/-! ## Reading many -/

/-- Things that are read one by one from what describes them. -/
theorem mapM_of_forall₂ {m : Type → Type} [Monad m] [LawfulMonad m] {α β : Type} {read : α → m β}
    {as : List α} {bs : List β} (each : List.Forall₂ (fun b a => read a = pure b) bs as) :
    as.mapM read = pure bs := by
  induction each with
  | nil => rw [List.mapM_nil]
  | cons first others ih => rw [List.mapM_cons, first, pure_bind, ih, pure_bind]

/-- What is found under a name describes a thing, or there is nothing and the thing is the one that is meant
then. -/
def Gives {α β : Type} (found : Option β) (write : α → β) (missing a : α) : Prop :=
  found = some (write a) ∨ found = none ∧ a = missing

theorem Gives.getD_eq {α : Type} {found : Option α} {missing a : α} (gives : Gives found id missing a) :
    found.getD missing = a := by
  rcases gives with given | ⟨none, same⟩
  · rw [given]
    rfl
  · rw [none, same]
    rfl

namespace Json

/-! ## Records -/

/-- Fields of an object that a record is read from: no name occurs twice, each one is known, and what has to
be there is there. -/
structure Record.Fits (r : Record) (fs : List (String × Json)) : Prop where
  distinct : (fs.map Prod.fst).Nodup
  known : ∀ f ∈ fs, f.1 ∈ r.fields.map Prod.fst
  given : ∀ rule ∈ r.fields, rule.2 = .always → rule.1 ∈ fs.map Prod.fst

/-- Fields that have the names of the record one by one. -/
theorem Record.Fits.of_names {r : Record} (distinct : (r.fields.map Prod.fst).Nodup)
    {fs : List (String × Json)} (same : fs.map Prod.fst = r.fields.map Prod.fst) : r.Fits fs where
  distinct := same ▸ distinct
  known _ among := same ▸ List.mem_map_of_mem among
  given _ among _ := same ▸ List.mem_map_of_mem among

theorem Record.split_eq {fs : List (String × Json)} (distinct : (fs.map Prod.fst).Nodup) (name : String) :
    split name fs = ((fs.lookup name).toList, fs.filter (·.1 ≠ name)) := by
  have others : fs.filter (·.1 != name) = fs.filter (·.1 ≠ name) :=
    List.filter_congr fun f _ => by rw [Bool.eq_iff_iff, bne_iff_ne, decide_eq_true_iff]
  have own : (fs.filter (·.1 == name)).map (·.2) = (fs.lookup name).toList := by
    clear others
    induction fs with
    | nil => rfl
    | cons f fs ih =>
      obtain ⟨fresh, distinct⟩ := List.nodup_cons.mp distinct
      rw [List.filter_cons, List.lookup_cons]
      by_cases same : f.1 = name
      · have alone : fs.filter (·.1 == name) = [] := by
          rw [List.filter_eq_nil_iff]
          intro f' there same'
          exact fresh (same ▸ beq_iff_eq.mp same' ▸ List.mem_map_of_mem there)
        rw [if_pos (beq_iff_eq.mpr same), alone, same, BEq.rfl]
        rfl
      · rw [if_neg (fun hit => same (beq_iff_eq.mp hit)), beq_false_of_ne (Ne.symm same), ih distinct]
  rw [split, others, own]

/-- The fields of an object are found by their names, in whatever order they stand. -/
theorem Record.ofObject?_eq {rules : List (String × Presence)} (rulesDistinct : (rules.map Prod.fst).Nodup)
    {fs : List (String × Json)} (distinct : (fs.map Prod.fst).Nodup)
    (known : ∀ f ∈ fs, f.1 ∈ rules.map Prod.fst)
    (given : ∀ rule ∈ rules, rule.2 = .always → rule.1 ∈ fs.map Prod.fst) (lenient : Bool) :
    ∃ own, ofObject? lenient rules fs = some own ∧ ∀ name, own.lookup name = fs.lookup name := by
  -- The first rule takes its field out of the object, so the object that is left is one for the other rules.
  induction rules generalizing fs with
  | nil =>
    have none : fs = [] := List.eq_nil_iff_forall_not_mem.mpr fun f among => by simpa using known f among
    exact ⟨[], by simp [ofObject?, none], fun _ => by rw [none]⟩
  | cons rule rules ih =>
    obtain ⟨name, presence⟩ := rule
    obtain ⟨fresh, rulesDistinct⟩ := List.nodup_cons.mp rulesDistinct
    have known' : ∀ f ∈ fs.filter (·.1 ≠ name), f.1 ∈ rules.map Prod.fst := by
      intro f among
      obtain ⟨there, other⟩ := List.mem_filter.mp among
      rcases List.mem_cons.mp (known f there) with same | later
      · exact absurd same (of_decide_eq_true other)
      · exact later
    have given' : ∀ rule ∈ rules, rule.2 = .always → rule.1 ∈ (fs.filter (·.1 ≠ name)).map Prod.fst := by
      intro rule among always
      obtain ⟨f, there, same⟩ := List.mem_map.mp (given rule (List.mem_cons_of_mem _ among) always)
      refine List.mem_map.mpr ⟨f, List.mem_filter.mpr ⟨there, decide_eq_true fun own => fresh ?_⟩, same⟩
      exact own ▸ same ▸ List.mem_map_of_mem among
    have distinct' : ((fs.filter (·.1 ≠ name)).map Prod.fst).Nodup :=
      (List.filter_sublist.map Prod.fst).nodup distinct
    obtain ⟨own, read, found⟩ := ih rulesDistinct distinct' known' given'
    rw [ofObject?, split_eq distinct]
    dsimp only
    cases held : fs.lookup name with
    | none =>
      have optional : presence ≠ .always := by
        intro always
        obtain ⟨f, there, same⟩ := List.mem_map.mp (given (name, presence) List.mem_cons_self always)
        exact bne_iff_ne.mp (List.lookup_eq_none_iff.mp held f there) same.symm
      refine ⟨own, (if_neg optional).trans read, fun name' => ?_⟩
      rw [found, lookup_filter_ne]
      split
      · next same => rw [same, held]
      · rfl
    | some j =>
      refine ⟨(name, j) :: own, by rw [Option.toList_some, read]; rfl, fun name' => ?_⟩
      rw [List.lookup_cons, found, lookup_filter_ne]
      by_cases same : name' = name
      · rw [same, BEq.rfl, held]
      · rw [beq_false_of_ne same, if_neg same]

theorem Record.fields?_object {r : Record} (distinct : (r.fields.map Prod.fst).Nodup)
    {fs : List (String × Json)} (fits : r.Fits fs) :
    ∃ own, r.fields? (.object fs) = some own ∧ ∀ name, own.lookup name = fs.lookup name :=
  ofObject?_eq distinct fits.distinct fits.known fits.given r.lenient

theorem fieldOr?_of_gives {α : Type} {own fs : List (String × Json)} {name : String}
    (found : own.lookup name = fs.lookup name) {write : α → Json} {read : Json → Option α}
    {missing a : α} (gives : Gives (fs.lookup name) write missing a) (reads : read (write a) = some a) :
    fieldOr? own name missing read = some a := by
  rw [fieldOr?, found]
  rcases gives with given | ⟨none, rfl⟩
  · rw [given]
    exact reads
  · rw [none]

theorem field?_of_lookup {α : Type} {own fs : List (String × Json)} {name : String} {j : Json}
    {read : Json → Option α} (found : own.lookup name = fs.lookup name) (given : fs.lookup name = some j) :
    field? own name read = read j := by
  rw [field?, found, given]
  rfl

end Json

open Json (field? fieldOr? nullOr?)

/-! ## Responses -/

namespace Part

/-- Data that describes the parts of a response: a list of them, or a text alone. -/
inductive IsData : List Part → Json → Prop where
  | text (s : String) : IsData [.text s] (.str s)
  | list (parts : List Part) : IsData parts (.list (parts.map toJson))

theorem ofJson?_toJson (p : Part) : ofJson? p.toJson = some p := by
  cases p with
  | text s => rfl
  | command c => cases c <;> rfl

theorem isReadable_toJson (p : Part) : p.toJson.isReadable = true := by
  cases p <;> rfl

theorem areReadable_map_toJson (parts : List Part) : Json.areReadable (parts.map toJson) = true := by
  induction parts with
  | nil => rfl
  | cons p parts ih => rw [List.map_cons, Json.areReadable, isReadable_toJson, ih]; rfl

theorem listOfJson?_of_isData {parts : List Part} {j : Json} (isData : IsData parts j) :
    listOfJson? j = some parts := by
  cases isData with
  | text s => rfl
  | list =>
    have each : List.Forall₂ (fun p j => ofJson? j = pure p) parts (parts.map toJson) := by
      rw [List.forall₂_map_right_iff]
      exact List.forall₂_same.mpr fun p _ => ofJson?_toJson p
    have readable : (Json.list (parts.map toJson)).isReadable = true := areReadable_map_toJson parts
    unfold listOfJson?
    rw [readable]
    exact mapM_of_forall₂ each

end Part

namespace Outline

/-- What is found under the name of a response describes its parts; nothing and null have none. -/
def GivesResponse (found : Option Json) (parts : List Part) : Prop :=
  (∃ j, found = some j ∧ Part.IsData parts j) ∨ (found = none ∨ found = some .null) ∧ parts = []

theorem response?_of_gives {own fs : List (String × Json)} {name : String} {parts : List Part}
    (found : own.lookup name = fs.lookup name) (gives : GivesResponse (fs.lookup name) parts) :
    response? own name = some parts := by
  rw [response?, fieldOr?, found]
  rcases gives with ⟨j, given, isData⟩ | ⟨none | null, rfl⟩
  · have other : nullOr? Part.listOfJson? j = (Part.listOfJson? j).map some := by cases isData <;> rfl
    rw [given]
    dsimp only
    rw [other, Part.listOfJson?_of_isData isData]
    rfl
  · rw [none]
    rfl
  · rw [null]
    rfl

/-! ## Outlines -/

/-- Fields that describe a question. -/
structure Choice.IsData (c : Choice) (fs : List (String × Json)) : Prop where
  fits : Choice.record.Fits fs
  text : fs.lookup "text" = some (.str c.text)
  yes : ∃ j, fs.lookup "yes" = some j ∧ Part.IsData c.yes j
  no : ∃ j, fs.lookup "no" = some j ∧ Part.IsData c.no j

theorem Choice.ofJson?_of_isData {c : Choice} {fs : List (String × Json)} (h : c.IsData fs) :
    Choice.ofJson? (.object fs) = some c := by
  obtain ⟨own, read, found⟩ := Json.Record.fields?_object (r := Choice.record) (by decide) h.fits
  obtain ⟨yes, yesGiven, yesData⟩ := h.yes
  obtain ⟨no, noGiven, noData⟩ := h.no
  have text : field? own "text" Json.str? = some c.text := Json.field?_of_lookup (found _) h.text
  have yes : field? own "yes" Part.listOfJson? = some c.yes :=
    (Json.field?_of_lookup (found _) yesGiven).trans (Part.listOfJson?_of_isData yesData)
  have no : field? own "no" Part.listOfJson? = some c.no :=
    (Json.field?_of_lookup (found _) noGiven).trans (Part.listOfJson?_of_isData noData)
  rw [Choice.ofJson?, read, Option.bind_eq_bind, Option.bind_some, text, yes, no]
  rfl

/-- Fields that describe an entry. -/
structure Entry.IsData (e : Entry) (fs : List (String × Json)) : Prop where
  fits : Entry.record.Fits fs
  keywords : fs.lookup "keywords" = some (.list (e.keywords.map .str))
  parts : ∃ j, fs.lookup "response" = some j ∧ Part.IsData e.parts j

theorem Entry.ofJson?_of_isData {e : Entry} {fs : List (String × Json)} (h : e.IsData fs) :
    Entry.ofJson? (.object fs) = some e := by
  obtain ⟨own, read, found⟩ := Json.Record.fields?_object (r := Entry.record) (by decide) h.fits
  obtain ⟨response, given, isData⟩ := h.parts
  have each : List.Forall₂ (fun k j => Json.str? j = pure k) e.keywords (e.keywords.map .str) := by
    rw [List.forall₂_map_right_iff]
    exact List.forall₂_same.mpr fun _ _ => rfl
  have keywords : field? own "keywords" (Json.items? Json.str?) = some e.keywords :=
    (Json.field?_of_lookup (found _) h.keywords).trans (mapM_of_forall₂ each)
  have parts : field? own "response" Part.listOfJson? = some e.parts :=
    (Json.field?_of_lookup (found _) given).trans (Part.listOfJson?_of_isData isData)
  rw [Entry.ofJson?, read, Option.bind_eq_bind, Option.bind_some, keywords, parts]
  rfl

/-- Fields that describe an outline.  What is empty may be left out. -/
structure IsData (o : Outline) (fs : List (String × Json)) : Prop where
  fits : record.Fits fs
  name : fs.lookup "name" = some (.str o.name)
  pronoun : Gives (fs.lookup "pronoun") .str "" o.pronoun
  prompt : Gives (fs.lookup "prompt") .str "" o.prompt
  intro : GivesResponse (fs.lookup "intro") o.intro
  longIntro : GivesResponse (fs.lookup "longIntro") o.longIntro
  defaultAnswer : GivesResponse (fs.lookup "defaultAnswer") o.defaultAnswer
  turnAway : Gives (fs.lookup "turnAwayProb") (fun n : Nat => .int n) 0 o.turnAway.toNat
  question : (∃ c qs, o.question = some c ∧ fs.lookup "question" = some (.object qs) ∧ c.IsData qs) ∨
    (fs.lookup "question" = none ∨ fs.lookup "question" = some .null) ∧ o.question = none
  entries : (∃ js, fs.lookup "keywords" = some (.list js) ∧
      List.Forall₂ (fun e j => ∃ es, j = .object es ∧ e.IsData es) o.entries js) ∨
    fs.lookup "keywords" = none ∧ o.entries = []

/-- **Data that describes an outline is read as the outline.** -/
theorem ofJson?_of_isData {o : Outline} {fs : List (String × Json)} (h : o.IsData fs) :
    ofJson? (.object fs) = some o := by
  obtain ⟨own, read, found⟩ := Json.Record.fields?_object (r := record) (by decide) h.fits
  have name : field? own "name" Json.str? = some o.name := Json.field?_of_lookup (found _) h.name
  have pronoun : fieldOr? own "pronoun" "" Json.str? = some o.pronoun :=
    Json.fieldOr?_of_gives (found _) h.pronoun rfl
  have prompt : fieldOr? own "prompt" "" Json.str? = some o.prompt :=
    Json.fieldOr?_of_gives (found _) h.prompt rfl
  have intro := response?_of_gives (found _) h.intro
  have longIntro := response?_of_gives (found _) h.longIntro
  have defaultAnswer := response?_of_gives (found _) h.defaultAnswer
  have turnAway : fieldOr? own "turnAwayProb" 0 (Json.nat? (UInt32.size - 1)) = some o.turnAway.toNat := by
    refine Json.fieldOr?_of_gives (found _) h.turnAway (if_pos ⟨Int.natCast_nonneg _, ?_⟩)
    exact Nat.le_sub_one_of_lt o.turnAway.toNat_lt_size
  have question : fieldOr? own "question" none (nullOr? Choice.ofJson?) = some o.question := by
    rw [fieldOr?, found]
    rcases h.question with ⟨c, qs, asked, given, isData⟩ | ⟨none | null, unasked⟩
    · rw [given, asked]
      exact congrArg (Option.map some) (Choice.ofJson?_of_isData isData)
    · rw [none, unasked]
    · rw [null, unasked]
      rfl
  have entries : fieldOr? own "keywords" [] (Json.items? Entry.ofJson?) = some o.entries := by
    rw [fieldOr?, found]
    rcases h.entries with ⟨js, given, each⟩ | ⟨none, empty⟩
    · rw [given]
      refine mapM_of_forall₂ (each.imp ?_)
      rintro e j ⟨es, rfl, isData⟩
      exact Entry.ofJson?_of_isData isData
    · rw [none, empty]
  rw [ofJson?, read, Option.bind_eq_bind, Option.bind_some, name, pronoun, prompt, intro, longIntro,
    defaultAnswer, turnAway, question, entries]
  simp only [Option.bind_eq_bind, Option.bind_some, UInt32.ofNat_toNat]
  rfl

/-! ## Writing -/

/-- The fields of a question. -/
def Choice.toFields (c : Choice) : List (String × Json) :=
  [("text", .str c.text), ("yes", .list (c.yes.map Part.toJson)), ("no", .list (c.no.map Part.toJson))]

/-- The fields of an entry. -/
def Entry.toFields (e : Entry) : List (String × Json) :=
  [("keywords", .list (e.keywords.map .str)), ("response", .list (e.parts.map Part.toJson))]

/-- The fields of an outline, with nothing left out. -/
def toFields (o : Outline) : List (String × Json) :=
  [("name", .str o.name), ("pronoun", .str o.pronoun), ("prompt", .str o.prompt),
    ("intro", .list (o.intro.map Part.toJson)), ("longIntro", .list (o.longIntro.map Part.toJson)),
    ("defaultAnswer", .list (o.defaultAnswer.map Part.toJson)), ("turnAwayProb", .int o.turnAway.toNat),
    ("question", (o.question.map fun c => Json.object c.toFields).getD .null),
    ("keywords", .list (o.entries.map fun e => .object e.toFields))]

theorem Choice.isData_toFields (c : Choice) : c.IsData c.toFields where
  fits := .of_names (by decide) rfl
  text := rfl
  yes := ⟨_, rfl, .list c.yes⟩
  no := ⟨_, rfl, .list c.no⟩

theorem Entry.isData_toFields (e : Entry) : e.IsData e.toFields where
  fits := .of_names (by decide) rfl
  keywords := rfl
  parts := ⟨_, rfl, .list e.parts⟩

/-- Every outline can be written as data. -/
theorem isData_toFields (o : Outline) : o.IsData o.toFields where
  fits := .of_names (by decide) rfl
  name := rfl
  pronoun := .inl rfl
  prompt := .inl rfl
  intro := .inl ⟨_, rfl, .list o.intro⟩
  longIntro := .inl ⟨_, rfl, .list o.longIntro⟩
  defaultAnswer := .inl ⟨_, rfl, .list o.defaultAnswer⟩
  turnAway := .inl rfl
  question := by
    cases asked : o.question with
    | some c => exact .inl ⟨c, c.toFields, rfl, by rw [toFields, asked]; rfl, c.isData_toFields⟩
    | none => exact .inr ⟨.inr (by rw [toFields, asked]; rfl), rfl⟩
  entries := by
    refine .inl ⟨_, rfl, List.forall₂_map_right_iff.mpr (List.forall₂_same.mpr fun e _ => ?_)⟩
    exact ⟨e.toFields, rfl, e.isData_toFields⟩

end Outline

end Colloquy
