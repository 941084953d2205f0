import Colloquy.Dialogue.Basic
import Colloquy.Proofs.Text.Lowercase
import Mathlib.Data.List.Find

/-!
# What a talker listens for

The keyword table of a dialogue is a function of what was done to it: it holds the registrations that no
later change of the same keyword undoes, in the order in which they were made.  Input is looked up whole
before it is looked up by its beginning, so no keyword hides another one that is said in full
(`Dialogue.followsChanges`).

### What is load-bearing

A key is its own kept form (`normalizeKeyword_normalizeKeyword`), so two changes are about the same entry
exactly if they have the same key, and a key that is not empty begins with a character that is not blank.
The second fact is why input of blanks finds nothing: it is not the empty keyword, and it begins like no
other.

## Main definitions

* `Keywords.Change`: a registration or a removal; `Dialogue.changeAll` makes many in order.
* `Keywords.standing`, `Keywords.latest?`: the table by its history, as a whole and for one key.
* `Dialogue.FollowsChanges`: what holds of a dialogue after changes.
-/

namespace Colloquy

open Text

/-! ## Keys -/

theorem toList_normalizeKeyword (raw : String) :
    (normalizeKeyword raw).toList = lowerAfter [] (trimChars raw.toList) := by
  rw [normalizeKeyword, lower, String.toList_ofList, trim, String.toList_ofList]

theorem isTrimmed_normalizeKeyword (raw : String) : IsTrimmed (normalizeKeyword raw).toList := by
  rw [toList_normalizeKeyword]
  exact isTrimmed_lowerAfter (isTrimmed_trimChars raw.toList)

/-- **A key is its own kept form.** -/
theorem normalizeKeyword_normalizeKeyword (raw : String) :
    normalizeKeyword (normalizeKeyword raw) = normalizeKeyword raw := by
  have trimmed : trim (normalizeKeyword raw) = normalizeKeyword raw := by
    rw [trim, trimChars_of_isTrimmed (isTrimmed_normalizeKeyword raw), String.ofList_toList]
  rw [normalizeKeyword, trimmed, normalizeKeyword, lower_lower]

theorem normalizeKeyword_of_blank {input : String} (blank : isBlankText input = true) :
    normalizeKeyword input = "" := by
  rw [← String.toList_inj, toList_normalizeKeyword, trimChars_of_blank (List.all_eq_true.mp blank)]
  rfl

theorem normalizeKeyword_empty : normalizeKeyword "" = "" := normalizeKeyword_of_blank rfl

/-- The input begins, lower-cased character by character, with the stem of a key that is not empty. -/
def BeginsLike (input key : String) : Prop :=
  key ≠ "" ∧ keywordStem key <+: input.toList.flatMap lowerChar

instance (input key : String) : Decidable (BeginsLike input key) :=
  inferInstanceAs (Decidable (_ ∧ _))

theorem keywordStem_eq_nil_iff {key : String} : keywordStem key = [] ↔ key = "" := by
  rw [keywordStem, List.take_eq_nil_iff]
  simp [keywordReach]

theorem matchesKeyword_empty {input : String} : matchesKeyword "" input = true ↔ input = "" := by
  simp [matchesKeyword, keywordStem]

theorem matchesKeyword_iff {key input : String} (some : key ≠ "") :
    matchesKeyword key input = true ↔ BeginsLike input key := by
  have stem : (keywordStem key).isEmpty = false := by
    simpa [List.isEmpty_eq_false_iff] using mt keywordStem_eq_nil_iff.mp some
  rw [matchesKeyword, stem, BeginsLike]
  simp [some]

/-- Input that begins with a blank begins like no key. -/
theorem not_beginsLike_of_blank {input key : String} (kept : normalizeKeyword key = key)
    (blank : isBlankText input = true) (said : input ≠ "") : ¬ BeginsLike input key := by
  rintro ⟨some, stem, begins⟩
  obtain ⟨k, ks, key_eq⟩ := List.exists_cons_of_ne_nil (mt String.toList_eq_nil_iff.mp some)
  obtain ⟨c, cs, input_eq⟩ := List.exists_cons_of_ne_nil (mt String.toList_eq_nil_iff.mp said)
  have solid : isBlank k = false := by
    have trimmed := isTrimmed_normalizeKeyword key
    rw [kept, key_eq] at trimmed
    exact trimmed.head k rfl
  have first : k ∈ lowerChar c := by
    obtain ⟨low, lows, low_eq⟩ := List.exists_cons_of_ne_nil (lowerChar_ne_nil c)
    rw [keywordStem, key_eq, input_eq, List.flatMap_cons, low_eq] at begins
    obtain ⟨rfl, -⟩ := List.cons.inj begins
    rw [low_eq]
    exact List.mem_cons_self
  have same := (settled_of_mem_lowerChar first).2
  rw [isBlankText, input_eq] at blank
  rw [solid, List.all_eq_true.mp blank c List.mem_cons_self] at same
  cases same

namespace Keywords

variable {α : Type}

/-! ## Histories -/

/-- A change of a keyword table. -/
inductive Change (α : Type) where
  | register (raw : String) (a : α)
  | remove (raw : String)

namespace Change

/-- The key that the change is about. -/
def key : Change α → String
  | register raw _ | remove raw => normalizeKeyword raw

/-- What the change registers. -/
def registered? : Change α → Option α
  | register _ a => some a
  | remove _ => none

/-- The entry that the change makes. -/
def listed? (c : Change α) : Option (String × α) := c.registered?.map fun a => (c.key, a)

end Change

/-- The table after a change. -/
def change (k : Keywords α) : Change α → Keywords α
  | .register raw a => k.register raw a
  | .remove raw => k.remove raw

/-- What the last change about a key left registered for it. -/
def latest? (cs : List (Change α)) (key : String) : Option α :=
  (cs.filter (·.key == key)).getLast?.bind Change.registered?

/-- The registrations that no later change about the same key undoes, in the order in which they were
made. -/
def standing : List (Change α) → List (String × α)
  | [] => []
  | c :: cs => if cs.any (·.key == c.key) then standing cs else c.listed?.toList ++ standing cs

theorem entries_change (k : Keywords α) (c : Change α) :
    (k.change c).entries = k.entries.filter (·.1 ≠ c.key) ++ c.listed?.toList := by
  cases c with
  | register raw a => rfl
  | remove raw => exact (List.append_nil _).symm

theorem fst_of_mem_listed? {c : Change α} {e : String × α} (h : e ∈ c.listed?.toList) : e.1 = c.key := by
  cases c with
  | register raw a => rw [List.mem_singleton.mp h, Change.key]
  | remove raw => cases h

/-- Of the entries that a table had before, those stay whose keys no change is about. -/
theorem entries_foldl_change (cs : List (Change α)) (k : Keywords α) :
    (cs.foldl change k).entries =
      k.entries.filter (fun e => !cs.any (·.key == e.1)) ++ standing cs := by
  induction cs generalizing k with
  | nil => simp [standing, List.filter_eq_self.mpr]
  | cons c cs ih =>
    have own : c.listed?.toList.filter (fun e => !cs.any (·.key == e.1)) =
        if cs.any (·.key == c.key) then [] else c.listed?.toList := by
      split
      · next later =>
        rw [List.filter_eq_nil_iff]
        intro e here
        rw [fst_of_mem_listed? here, later]
        decide
      · next last =>
        rw [List.filter_eq_self]
        intro e here
        rw [fst_of_mem_listed? here, Bool.eq_false_iff.mpr last]
        rfl
    rw [List.foldl_cons, ih, entries_change, List.filter_append, List.filter_filter, own, standing,
      List.append_assoc]
    congr 1
    · refine List.filter_congr fun e _ => ?_
      rw [List.any_cons, Bool.not_or, Bool.and_comm]
      by_cases same : c.key = e.1
      · simp [same]
      · rw [beq_false_of_ne same]
        simp [Ne.symm same]
    · split <;> simp

/-- **A table is the standing registrations of its history.** -/
theorem entries_eq_standing (cs : List (Change α)) : (cs.foldl change empty).entries = standing cs :=
  entries_foldl_change cs empty

/-- Registering a key again moves it behind the others. -/
example : standing [.register "job" 1, .register " Name " 2, .register "JOB" 3] =
    [("name", 2), ("job", 3)] := by decide +kernel

theorem exists_listed?_of_mem_standing {cs : List (Change α)} {e : String × α} (h : e ∈ standing cs) :
    ∃ c ∈ cs, c.listed? = some e := by
  induction cs with
  | nil => cases h
  | cons c cs ih =>
    rw [standing] at h
    split at h
    · obtain ⟨d, among, entry⟩ := ih h
      exact ⟨d, List.mem_cons_of_mem c among, entry⟩
    · rcases List.mem_append.mp h with here | behind
      · exact ⟨c, List.mem_cons_self, Option.mem_toList.mp here⟩
      · obtain ⟨d, among, entry⟩ := ih behind
        exact ⟨d, List.mem_cons_of_mem c among, entry⟩

theorem exists_of_mem_standing {cs : List (Change α)} {e : String × α} (h : e ∈ standing cs) :
    ∃ c ∈ cs, c.key = e.1 := by
  obtain ⟨c, among, entry⟩ := exists_listed?_of_mem_standing h
  exact ⟨c, among, (fst_of_mem_listed? (Option.mem_toList.mpr entry)).symm⟩

/-- No two standing registrations have the same key. -/
theorem nodup_standing (cs : List (Change α)) : ((standing cs).map Prod.fst).Nodup := by
  induction cs with
  | nil => exact List.nodup_nil
  | cons c cs ih =>
    rw [standing]
    split
    · exact ih
    · next last =>
      cases c with
      | remove raw => exact ih
      | register raw a =>
        refine List.nodup_cons.mpr ⟨fun among => ?_, ih⟩
        obtain ⟨e, there, same⟩ := List.mem_map.mp among
        obtain ⟨d, later, key⟩ := exists_of_mem_standing there
        exact last (List.any_eq_true.mpr ⟨d, later, beq_iff_eq.mpr (key.trans same)⟩)

theorem lookup_listed? (c : Change α) (key : String) :
    c.listed?.toList.lookup key = if c.key = key then c.registered? else none := by
  cases c with
  | register raw a =>
    simp only [Change.listed?, Change.registered?, Option.map_some, Option.toList_some, List.lookup_cons]
    by_cases same : (Change.register raw a).key = key
    · rw [if_pos same, same, BEq.rfl]
    · rw [if_neg same, beq_false_of_ne (Ne.symm same)]
      rfl
  | remove raw => simp [Change.listed?, Change.registered?]

/-- What stands for a key is what the last change about it left. -/
theorem lookup_standing (cs : List (Change α)) (key : String) :
    (standing cs).lookup key = latest? cs key := by
  induction cs with
  | nil => rfl
  | cons c cs ih =>
    by_cases same : c.key = key
    · subst same
      have changes : (c :: cs).filter (·.key == c.key) = c :: cs.filter (·.key == c.key) := by simp
      rw [standing, latest?, changes, List.getLast?_cons]
      by_cases later : cs.any (·.key == c.key) = true
      · have some : cs.filter (·.key == c.key) ≠ [] := by
          simpa [List.filter_eq_nil_iff] using later
        rw [if_pos later, ih, latest?, List.getLast?_eq_some_getLast some]
        rfl
      · have none : cs.filter (·.key == c.key) = [] := by
          simpa [List.filter_eq_nil_iff] using later
        rw [latest?, none] at ih
        rw [if_neg later, List.lookup_append, lookup_listed?, if_pos rfl, ih, none]
        simp
    · have others : (c :: cs).filter (·.key == key) = cs.filter (·.key == key) := by simp [same]
      rw [standing, latest?, others, ← latest?, ← ih]
      split
      · rfl
      · rw [List.lookup_append, lookup_listed?, if_neg same, Option.none_or]

/-! ## Looking up -/

/-- Each key is in the table once and in its kept form. -/
structure Tidy (k : Keywords α) : Prop where
  keys_nodup : (k.entries.map Prod.fst).Nodup
  keys_kept : ∀ e ∈ k.entries, normalizeKeyword e.1 = e.1

theorem tidy_foldl_change (cs : List (Change α)) : (cs.foldl change empty).Tidy := by
  refine ⟨?_, fun e among => ?_⟩
  · rw [entries_eq_standing]
    exact nodup_standing cs
  · rw [entries_eq_standing] at among
    obtain ⟨c, -, key⟩ := exists_of_mem_standing among
    rw [← key]
    cases c with
    | register raw t | remove raw => exact normalizeKeyword_normalizeKeyword raw

/-- There is nothing to be taken out for a key that the table does not hold. -/
theorem without_of_get?_eq_none {k : Keywords α} {key : String} (missing : k.get? key = none) :
    k.without key = k := by
  have others : k.entries.filter (·.1 ≠ key) = k.entries := by
    rw [List.filter_eq_self]
    intro e among
    exact decide_eq_true (bne_iff_ne.mp (List.lookup_eq_none_iff.mp missing e among)).symm
  rw [without, others]

theorem mem_iff_lookup {es : List (String × α)} (distinct : (es.map Prod.fst).Nodup) {key : String}
    {a : α} : (key, a) ∈ es ↔ es.lookup key = some a := by
  induction es with
  | nil => simp
  | cons e es ih =>
    obtain ⟨n, v⟩ := e
    obtain ⟨fresh, distinct'⟩ := List.nodup_cons.mp distinct
    rw [List.mem_cons, List.lookup_cons, ih distinct']
    by_cases same : key = n
    · subst same
      have missing : es.lookup key ≠ some a := fun found =>
        fresh (List.mem_map.mpr ⟨(key, a), (ih distinct').mpr found, rfl⟩)
      simp [missing, eq_comm]
    · rw [beq_false_of_ne same]
      simp [same]

theorem bothEmpty_iff {s t : String} :
    (s.toList.isEmpty == t.toList.isEmpty) = true ↔ (s = "" ↔ t = "") := by
  rw [beq_iff_eq, Bool.eq_iff_iff, List.isEmpty_iff, List.isEmpty_iff, String.toList_eq_nil_iff,
    String.toList_eq_nil_iff]

namespace Tidy

variable {k : Keywords α} (h : k.Tidy) {input : String}
include h

theorem mem_iff (key : String) (a : α) : (key, a) ∈ k.entries ↔ k.get? key = some a :=
  mem_iff_lookup h.keys_nodup

theorem missing_iff (key : String) : (∀ a, (key, a) ∉ k.entries) ↔ k.get? key = none := by
  rw [Option.eq_none_iff_forall_ne_some]
  exact forall_congr' fun a => not_congr (h.mem_iff key a)

/-- Input that is a key finds its entry, whatever else begins like it. -/
theorem find?_said {a : α} (held : (normalizeKeyword input, a) ∈ k.entries)
    (both : input = "" ↔ normalizeKeyword input = "") :
    k.find? input = some (normalizeKeyword input, a) := by
  rw [find?, if_pos (bothEmpty_iff.mpr both), (h.mem_iff _ a).mp held]
  rfl

/-- Other input finds the first key that it begins like. -/
theorem find?_begun
    (other : (∀ a, (normalizeKeyword input, a) ∉ k.entries) ∨ ¬ (input = "" ↔ normalizeKeyword input = "")) :
    k.find? input = k.entries.find? fun e => BeginsLike input e.1 := by
  have skipped : k.find? input = k.entries.find? fun e => matchesKeyword e.1 input := by
    rw [find?]
    rcases other with missing | apart
    · rw [(h.missing_iff _).mp missing, Option.map_none, ite_self]
    · rw [if_neg (mt bothEmpty_iff.mp apart)]
  rw [skipped]
  refine List.find?_congr fun e among => ?_
  by_cases empty : e.1 = ""
  · -- the empty keyword is there, so something was said
    have said : input ≠ "" := by
      rintro rfl
      rcases other with missing | apart
      · exact missing e.2 (by rwa [normalizeKeyword_empty, ← empty])
      · exact apart (by rw [normalizeKeyword_empty])
    rw [empty, Bool.eq_iff_iff, matchesKeyword_empty]
    simp [said, BeginsLike]
  · rw [Bool.eq_iff_iff, matchesKeyword_iff empty, decide_eq_true_iff]

theorem eq_empty_of_find? {a : α} (found : k.find? input = some ("", a)) : input = "" := by
  by_cases exact : (∃ a, (normalizeKeyword input, a) ∈ k.entries) ∧
      (input = "" ↔ normalizeKeyword input = "")
  · obtain ⟨⟨a', held⟩, both⟩ := exact
    rw [h.find?_said held both] at found
    obtain ⟨empty, -⟩ := Prod.mk.inj (Option.some.inj found)
    exact both.mpr empty
  · rw [not_and_or, not_exists] at exact
    rw [h.find?_begun exact] at found
    have begins : BeginsLike input "" := by simpa using List.find?_some found
    exact absurd rfl begins.1

theorem find?_blank (blank : isBlankText input = true) (said : input ≠ "") : k.find? input = none := by
  have other : ¬ (input = "" ↔ normalizeKeyword input = "") := by
    rw [normalizeKeyword_of_blank blank]
    simp [said]
  rw [h.find?_begun (.inr other), List.find?_eq_none]
  intro e among begins
  exact not_beginsLike_of_blank (h.keys_kept e among) blank said (of_decide_eq_true begins)

end Tidy

end Keywords

/-! ## Dialogues -/

namespace Dialogue

variable {γ : Type}

/-- The dialogue and the shelf after a change of the keywords. -/
def change : Dialogue × Shelf γ → Keywords.Change Ticket → Dialogue × Shelf γ
  | (d, s), .register raw t => d.addKeyword raw t s
  | (d, s), .remove raw => (d.removeKeyword raw s).2

/-- The dialogue and the shelf after changes in order. -/
def changeAll (start : Dialogue × Shelf γ) (cs : List (Keywords.Change Ticket)) : Dialogue × Shelf γ :=
  cs.foldl change start

theorem keywords_change (start : Dialogue × Shelf γ) (c : Keywords.Change Ticket) :
    (change start c).1.keywords = start.1.keywords.change c := by
  obtain ⟨d, s⟩ := start
  cases c with
  | register raw t => rfl
  | remove raw =>
    show (d.removeKeyword raw s).2.1.keywords = d.keywords.without (normalizeKeyword raw)
    rw [removeKeyword]
    cases held : d.keywords.get? (normalizeKeyword raw) with
    | some old => rfl
    | none => exact (Keywords.without_of_get?_eq_none held).symm

theorem keywords_changeAll (start : Dialogue × Shelf γ) (cs : List (Keywords.Change Ticket)) :
    (changeAll start cs).1.keywords = cs.foldl Keywords.change start.1.keywords := by
  induction cs generalizing start with
  | nil => rfl
  | cons c cs ih =>
    rw [changeAll, List.foldl_cons, List.foldl_cons, ← keywords_change]
    exact ih (change start c)

/-- What holds of a dialogue whose keywords were changed like this. -/
structure FollowsChanges (d : Dialogue) (cs : List (Keywords.Change Ticket)) : Prop where
  /-- The table lists the registrations that stand, in the order in which they were made. -/
  entries_eq : d.keywords.entries = Keywords.standing cs
  /-- It holds for a key what the last change about the key left. -/
  mem_iff : ∀ key t, (key, t) ∈ d.keywords.entries ↔ Keywords.latest? cs key = some t
  keys_nodup : (d.keywords.entries.map Prod.fst).Nodup
  /-- A key is its own kept form. -/
  keys_kept : ∀ e ∈ d.keywords.entries, normalizeKeyword e.1 = e.1
  /-- Input that is a key finds its entry, whatever was registered before it. -/
  finds_said : ∀ input t, (normalizeKeyword input, t) ∈ d.keywords.entries →
    (input = "" ↔ normalizeKeyword input = "") → d.keyword? input = some (normalizeKeyword input, t)
  /-- Other input finds the first entry that it begins like. -/
  finds_begun : ∀ input, ((∀ t, (normalizeKeyword input, t) ∉ d.keywords.entries) ∨
      ¬ (input = "" ↔ normalizeKeyword input = "")) →
    d.keyword? input = d.keywords.entries.find? fun e => BeginsLike input e.1
  /-- The empty keyword is found by saying nothing. -/
  eq_empty_of_finds_empty : ∀ input t, d.keyword? input = some ("", t) → input = ""
  /-- Blanks are something said, and find nothing. -/
  blank_finds_nothing : ∀ input, isBlankText input = true → input ≠ "" → d.keyword? input = none

/-- **The keyword table law.**  After any registrations and removals the table of a new dialogue lists each
key once, in its kept form and in the order of the latest registrations.  Input that is a key finds what was
registered for it last, even if it also begins like an older key; other input finds the first key that it
begins like. -/
theorem followsChanges (name : String) (s : Shelf γ) (cs : List (Keywords.Change Ticket)) :
    (changeAll (new name s) cs).1.FollowsChanges cs := by
  generalize changed : (changeAll (new name s) cs).1 = d
  have keywords_eq : d.keywords = cs.foldl Keywords.change .empty := by
    rw [← changed, keywords_changeAll]
    rfl
  have tidy : d.keywords.Tidy := keywords_eq ▸ Keywords.tidy_foldl_change cs
  have entries_eq : d.keywords.entries = Keywords.standing cs := by
    rw [keywords_eq, Keywords.entries_eq_standing]
  exact
    { entries_eq
      mem_iff := fun key t => by rw [tidy.mem_iff, Keywords.get?, entries_eq, Keywords.lookup_standing]
      keys_nodup := tidy.keys_nodup
      keys_kept := tidy.keys_kept
      finds_said := fun _ _ => tidy.find?_said
      finds_begun := fun _ => tidy.find?_begun
      eq_empty_of_finds_empty := fun _ _ => tidy.eq_empty_of_find?
      blank_finds_nothing := fun _ => tidy.find?_blank }

end Dialogue

end Colloquy
