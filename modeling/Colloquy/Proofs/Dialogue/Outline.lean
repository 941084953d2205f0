import Colloquy.Dialogue.Outline
import Colloquy.Proofs.Dialogue.Holding
import Colloquy.Proofs.Dialogue.Keyword

/-!
# What an outline is made into

The dialogue of an outline says what the outline says, on whatever shelf it is made (`Outline.tells_make`):
each response is on the shelf under its ticket, and the keywords of an entry share one ticket that no other
entry has.

### What is load-bearing

Who registers a response holds it himself until all keywords of the entry hold it.  So the response is there
when a keyword of the entry replaces an older one of the same entry, and a response goes from the shelf only
if no keyword is left that means it (`Dialogue.balanced_addKeyword`).

## Main definitions

* `Outline.table`: the keywords of an outline, each with the place and the parts of its entry.
* `Outline.Tells`: a dialogue on a shelf says what an outline says.
* `Dialogue.Agrees`: two dialogues on two shelves say the same.
-/

namespace Colloquy

open Text

variable {γ : Type}

/-! ## Tables -/

namespace Keywords

variable {α β : Type}

/-- The table with other things registered. -/
def map (f : α → β) (k : Keywords α) : Keywords β := ⟨k.entries.map fun e => (e.1, f e.2)⟩

/-- The change with another thing registered. -/
def Change.map (f : α → β) : Change α → Change β
  | register raw a => .register raw (f a)
  | remove raw => .remove raw

theorem change_map (f : α → β) (k : Keywords α) (c : Change α) :
    (k.map f).change (c.map f) = (k.change c).map f := by
  cases c <;> simp [change, Change.map, register, remove, without, map, List.filter_map, Function.comp_def]

theorem foldl_change_map (f : α → β) (cs : List (Change α)) (k : Keywords α) :
    (cs.map (Change.map f)).foldl change (k.map f) = (cs.foldl change k).map f := by
  induction cs generalizing k with
  | nil => rfl
  | cons c cs ih => rw [List.map_cons, List.foldl_cons, List.foldl_cons, change_map, ih]

theorem get?_map (f : α → β) (k : Keywords α) (key : String) : (k.map f).get? key = (k.get? key).map f :=
  lookup_map_val (fun _ => f) k.entries key

theorem find?_map (f : α → β) (k : Keywords α) (input : String) :
    (k.map f).find? input = (k.find? input).map fun e => (e.1, f e.2) := by
  have begun : ((k.map f).entries.find? fun e => matchesKeyword e.1 input) =
      (k.entries.find? fun e => matchesKeyword e.1 input).map fun e => (e.1, f e.2) :=
    List.find?_map ..
  rw [find?, find?]
  by_cases both : (input.toList.isEmpty == (normalizeKeyword input).toList.isEmpty) = true
  · rw [if_pos both, if_pos both, get?_map]
    cases k.get? (normalizeKeyword input) with
    | some a => rfl
    | none => exact begun
  · rw [if_neg both, if_neg both]
    exact begun

theorem Tidy.register {k : Keywords α} (tidy : k.Tidy) (raw : String) (a : α) : (k.register raw a).Tidy := by
  have others : ∀ e ∈ (k.without (normalizeKeyword raw)).entries, e ∈ k.entries ∧ e.1 ≠ normalizeKeyword raw :=
    fun e among => by simpa [without] using among
  refine ⟨?_, fun e among => ?_⟩
  · have rest : ((k.without (normalizeKeyword raw)).entries.map Prod.fst).Nodup :=
      (List.filter_sublist.map Prod.fst).nodup tidy.keys_nodup
    rw [Keywords.register, List.map_append, List.nodup_append]
    refine ⟨rest, by simp, fun key there key' last => ?_⟩
    obtain ⟨e, among, rfl⟩ := List.mem_map.mp there
    rw [List.mem_singleton.mp last]
    exact (others e among).2
  · rcases List.mem_append.mp among with there | last
    · exact tidy.keys_kept e (others e there).1
    · rw [List.mem_singleton.mp last]
      exact normalizeKeyword_normalizeKeyword raw

/-- How many keywords mean a response. -/
def holds (k : Keywords Ticket) (t : Ticket) : Nat := (k.entries.map Prod.snd).count t

theorem holds_register (k : Keywords Ticket) (raw : String) (t u : Ticket) :
    (k.register raw t).holds u = (k.without (normalizeKeyword raw)).holds u + t.once u := by
  rw [holds, register, List.map_append, List.count_append, ← holds, List.map_singleton, Ticket.count_cons,
    List.count_nil, Nat.zero_add]

/-- A keyword that is taken out held its response once. -/
theorem Tidy.holds_without {k : Keywords Ticket} (tidy : k.Tidy) {key : String} {old : Ticket}
    (held : k.get? key = some old) (u : Ticket) :
    k.holds u = (k.without key).holds u + old.once u := by
  obtain ⟨entries⟩ := k
  have distinct := tidy.keys_nodup
  clear tidy
  simp only [holds, without, get?] at held distinct ⊢
  induction entries with
  | nil => cases held
  | cons e entries ih =>
    obtain ⟨fresh, distinct⟩ := List.nodup_cons.mp distinct
    rw [List.lookup_cons] at held
    by_cases own : key = e.1
    · subst own
      have rest : entries.filter (·.1 ≠ e.1) = entries := by
        rw [List.filter_eq_self]
        intro e' among
        refine decide_eq_true fun same => fresh ?_
        exact same ▸ List.mem_map_of_mem among
      rw [BEq.rfl] at held
      cases held
      rw [List.filter_cons, if_neg (by simp), rest, List.map_cons, Ticket.count_cons]
    · rw [beq_false_of_ne own] at held
      rw [List.filter_cons, if_pos (by simpa using Ne.symm own), List.map_cons, List.map_cons,
        Ticket.count_cons, Ticket.count_cons, ih held distinct, Nat.add_right_comm]

end Keywords

/-! ## Holders -/

namespace Dialogue

variable {d : Dialogue} {s : Shelf γ} {n : Ticket → Nat} {t : Ticket}

/-- How often a dialogue holds a response. -/
def holds (d : Dialogue) (t : Ticket) : Nat := d.tickets.count t

theorem holds_pos {t : Ticket} (among : t ∈ d.tickets) (others : Nat) : 0 < d.holds t + others :=
  Nat.lt_of_lt_of_le (List.count_pos_iff.mpr among) (Nat.le_add_right ..)

theorem holds_eq (d : Dialogue) (t : Ticket) :
    d.holds t = { d with keywords := .empty }.holds t + d.keywords.holds t := by
  simp only [holds, tickets, Keywords.holds, Keywords.empty, List.count_append, List.map_nil,
    List.append_nil]
  exact Nat.add_right_comm ..

/-- Who registers a response hands over one holding of it. -/
theorem balanced_addKeyword (tidy : d.keywords.Tidy)
    (b : s.Balanced fun u => d.holds u + n u + t.once u) (raw : String) :
    (d.addKeyword raw t s).2.Balanced fun u => (d.addKeyword raw t s).1.holds u + n u := by
  have now : ∀ u, (d.addKeyword raw t s).1.holds u =
      { d with keywords := .empty }.holds u + ((d.keywords.without (normalizeKeyword raw)).holds u +
        t.once u) := fun u => by
    rw [holds_eq, ← Keywords.holds_register]
    rfl
  cases held : d.keywords.get? (normalizeKeyword raw) with
  | some old =>
    have let_go : (d.addKeyword raw t s).2 = s.release old := by rw [addKeyword, held]
    rw [let_go]
    refine Shelf.Balanced.release (b.congr fun u => ?_)
    rw [now, holds_eq, tidy.holds_without held]
    omega
  | none =>
    have nothing : (d.addKeyword raw t s).2 = s := by rw [addKeyword, held]
    rw [nothing]
    refine b.congr fun u => ?_
    rw [now, holds_eq, Keywords.without_of_get?_eq_none held]
    omega

theorem later_addKeyword (d : Dialogue) (raw : String) (t : Ticket) (s : Shelf γ) :
    s.Later (d.addKeyword raw t s).2 := by
  rw [addKeyword]
  cases d.keywords.get? (normalizeKeyword raw) with
  | some old => exact .release s old
  | none => exact .refl s

theorem fresh_addKeyword (d : Dialogue) (raw : String) (t : Ticket) (s : Shelf γ) :
    (d.addKeyword raw t s).2.fresh = s.fresh := by
  rw [addKeyword]
  cases d.keywords.get? (normalizeKeyword raw) with
  | some old => exact Shelf.fresh_release s old
  | none => rfl

end Dialogue

namespace Outline

variable {d : Dialogue} {s : Shelf γ} {n : Ticket → Nat} {t : Ticket}

/-! ## Making entries -/

theorem keywords_register (t : Ticket) (keywords : List String) (d : Dialogue) (s : Shelf γ) :
    (register t keywords d s).1 =
      { d with keywords := (keywords.map (.register · t)).foldl Keywords.change d.keywords } := by
  induction keywords generalizing d s with
  | nil => rfl
  | cons keyword keywords ih => exact ih ..

theorem fresh_register (t : Ticket) (keywords : List String) (d : Dialogue) (s : Shelf γ) :
    (register t keywords d s).2.fresh = s.fresh := by
  induction keywords generalizing d s with
  | nil => rfl
  | cons keyword keywords ih => exact (ih ..).trans (Dialogue.fresh_addKeyword d keyword t (s.hold t))

theorem later_register (t : Ticket) (keywords : List String) (d : Dialogue) (s : Shelf γ) :
    s.Later (register t keywords d s).2 := by
  induction keywords generalizing d s with
  | nil => exact .refl s
  | cons keyword keywords ih =>
    exact (Shelf.Later.hold s t).trans ((Dialogue.later_addKeyword d keyword t (s.hold t)).trans (ih ..))

/-- Each keyword takes a holding of its own, so who registers keeps his. -/
theorem balanced_register (tidy : d.keywords.Tidy) (b : s.Balanced fun u => d.holds u + n u)
    (held : 0 < n t) (keywords : List String) :
    (register t keywords d s).1.keywords.Tidy ∧
      (register t keywords d s).2.Balanced fun u => (register t keywords d s).1.holds u + n u := by
  induction keywords generalizing d s with
  | nil => exact ⟨tidy, b⟩
  | cons keyword keywords ih =>
    have shared := b.hold (t := t) (Nat.lt_of_lt_of_le held (Nat.le_add_left ..))
    exact ih (tidy.register keyword t) (Dialogue.balanced_addKeyword tidy shared keyword)

theorem balanced_entry (tidy : d.keywords.Tidy) (b : s.Balanced fun u => d.holds u + n u) (e : Entry) :
    (e.make d s).1.keywords.Tidy ∧
      (e.make d s).2.Balanced fun u => (e.make d s).1.holds u + n u := by
  -- Who makes the entry is one of those outside the dialogue until all its keywords are registered.
  have made : (s.add (.fixed e.parts)).2.Balanced fun u =>
      d.holds u + (n u + (s.add (.fixed e.parts)).1.once u) :=
    (b.add (.fixed e.parts)).congr fun u => Nat.add_assoc ..
  obtain ⟨tidy', registered⟩ := balanced_register tidy made
    (by rw [Ticket.once_self]; exact Nat.succ_pos _) e.keywords
  exact ⟨tidy', Shelf.Balanced.release (registered.congr fun u => (Nat.add_assoc ..).symm)⟩

theorem balanced_makeAll (tidy : d.keywords.Tidy) (b : s.Balanced fun u => d.holds u + n u)
    (entries : List Entry) :
    (makeAll entries d s).2.Balanced fun u => (makeAll entries d s).1.holds u + n u := by
  induction entries generalizing d s with
  | nil => exact b
  | cons e entries ih =>
    obtain ⟨tidy', b'⟩ := balanced_entry tidy b e
    exact ih tidy' b'

theorem fresh_entry (e : Entry) (d : Dialogue) (s : Shelf γ) : (e.make d s).2.fresh = s.fresh + 1 :=
  (Shelf.fresh_release ..).trans (fresh_register ..)

/-- From when the response of an entry was put on the shelf. -/
theorem later_add_entry (e : Entry) (d : Dialogue) (s : Shelf γ) :
    (s.add (.fixed e.parts)).2.Later (e.make d s).2 :=
  (later_register ..).trans (.release ..)

theorem later_makeAll (entries : List Entry) (d : Dialogue) (s : Shelf γ) :
    s.Later (makeAll entries d s).2 := by
  induction entries generalizing d s with
  | nil => exact .refl s
  | cons e entries ih => exact ((Shelf.Later.add s _).trans (later_add_entry e d s)).trans (ih ..)

/-- What is under the ticket of an entry is the response of the entry. -/
theorem response?_makeAll {entries : List Entry} {i : Nat} {e : Entry} (there : entries[i]? = some e)
    {r : Response γ} (held : (makeAll entries d s).2.response? ⟨s.fresh + i⟩ = some r) :
    r = .fixed e.parts := by
  induction entries generalizing d s i with
  | nil => cases there
  | cons e' entries ih =>
    cases i with
    | zero =>
      cases there
      have later := (later_add_entry e d s).trans (later_makeAll entries (e.make d s).1 (e.make d s).2)
      have given := later.response _ r (Nat.lt_succ_self _) held
      exact (Option.some.inj ((Shelf.response?_add_self s _).symm.trans given)).symm
    | succ i =>
      refine ih (d := (e'.make d s).1) (s := (e'.make d s).2) there ?_
      rw [fresh_entry, Nat.succ_add_eq_add_succ]
      exact held

/-- The keywords of entries, each with the place and the parts of its entry. -/
def changesFrom : Nat → List Entry → List (Keywords.Change (Nat × List Part))
  | _, [] => []
  | i, e :: entries => e.keywords.map (.register · (i, e.parts)) ++ changesFrom (i + 1) entries

/-- The keywords of an outline, each with the place and the parts of its entry. -/
def table (o : Outline) : Keywords (Nat × List Part) :=
  (changesFrom 0 o.entries).foldl Keywords.change .empty

theorem makeAll_eq (entries : List Entry) (d : Dialogue) (s : Shelf γ) (base i : Nat)
    (fresh : s.fresh = base + i) :
    (makeAll entries d s).1 =
      { d with keywords := ((changesFrom i entries).map
        (Keywords.Change.map fun v => ⟨base + v.1⟩)).foldl Keywords.change d.keywords } := by
  induction entries generalizing d s i with
  | nil => rfl
  | cons e entries ih =>
    have next : (e.make d s).2.fresh = base + (i + 1) := by rw [fresh_entry, fresh, Nat.add_assoc]
    have first : (e.make d s).1 = { d with keywords :=
        (e.keywords.map (.register · (⟨base + i⟩ : Ticket))).foldl Keywords.change d.keywords } := by
      rw [← fresh]
      exact keywords_register ..
    have others := ih (e.make d s).1 (e.make d s).2 (i + 1) next
    rw [first] at others
    have whole : (makeAll (e :: entries) d s).1 = (makeAll entries (e.make d s).1 (e.make d s).2).1 := rfl
    rw [whole, first, changesFrom, List.map_append, List.foldl_append, List.map_map]
    exact others

theorem exists_of_mem_changesFrom {entries : List Entry} {i : Nat}
    {c : Keywords.Change (Nat × List Part)} (among : c ∈ changesFrom i entries) :
    ∃ j e, entries[j]? = some e ∧ c.registered? = some (i + j, e.parts) := by
  induction entries generalizing i with
  | nil => cases among
  | cons e entries ih =>
    rcases List.mem_append.mp among with here | behind
    · obtain ⟨keyword, -, rfl⟩ := List.mem_map.mp here
      exact ⟨0, e, rfl, rfl⟩
    · obtain ⟨j, e', there, registered⟩ := ih behind
      exact ⟨j + 1, e', there, registered.trans (by rw [Nat.add_right_comm, Nat.add_assoc])⟩

/-- What a keyword of an outline means is the response of an entry. -/
theorem exists_of_mem_table {o : Outline} {e : String × (Nat × List Part)} (among : e ∈ o.table.entries) :
    ∃ entry, o.entries[e.2.1]? = some entry ∧ entry.parts = e.2.2 := by
  rw [table, Keywords.entries_eq_standing] at among
  obtain ⟨c, there, made⟩ := Keywords.exists_listed?_of_mem_standing among
  obtain ⟨j, entry, listed, registered⟩ := exists_of_mem_changesFrom there
  rw [Keywords.Change.listed?, registered] at made
  cases made
  exact ⟨entry, by rwa [Nat.zero_add], rfl⟩

/-! ## Making a dialogue -/

/-- A dialogue on a shelf says what an outline says.  There is a ticket for each entry, which the keywords
have that mean the entry. -/
structure Tells (o : Outline) (d : Dialogue) (s : Shelf γ) : Prop where
  name : d.name = o.name
  pronoun : d.pronoun = o.pronoun
  prompt : d.prompt = o.prompt
  turnAway : d.turnAway = o.turnAway
  intro : (s.read d.intro).1 = o.intro
  longIntro : (s.read d.longIntro).1 = o.longIntro
  defaultAnswer : (s.read d.defaultAnswer).1 = o.defaultAnswer
  question : d.question.map (fun q => (⟨q.text, (s.read q.yes).1, (s.read q.no).1⟩ : Choice)) = o.question
  keywords : ∃ ticketOf : Nat → Ticket, (∀ i j, ticketOf i = ticketOf j → i = j) ∧
    d.keywords = o.table.map (fun v => ticketOf v.1) ∧
    ∀ e ∈ o.table.entries, (s.read (ticketOf e.2.1)).1 = e.2.2

/-- The dialogue before its entries are made. -/
def opening (o : Outline) (s : Shelf γ) : Dialogue × Shelf γ := { o with entries := [] }.make s

theorem make_eq (o : Outline) (s : Shelf γ) :
    o.make s = makeAll o.entries (o.opening s).1 (o.opening s).2 := by
  unfold opening make
  cases o.question <;> rfl

/-- The three responses that each outline has are put on the shelf first. -/
theorem exists_opening (o : Outline) (s : Shelf γ) :
    let first := s.add (.fixed o.intro)
    let second := first.2.add (.fixed o.longIntro)
    let third := second.2.add (.fixed o.defaultAnswer)
    third.2.Later (o.opening s).2 ∧ ∃ question, (o.opening s).1 =
      ⟨o.name, o.pronoun, o.prompt, first.1, second.1, third.1, .empty, question, o.turnAway⟩ := by
  unfold opening make
  cases o.question with
  | none => exact ⟨.refl _, _, rfl⟩
  | some c => exact ⟨(Shelf.Later.add ..).trans (.add ..), _, rfl⟩

theorem keywords_opening (o : Outline) (s : Shelf γ) : (o.opening s).1.keywords = .empty := by
  obtain ⟨-, question, opening⟩ := o.exists_opening s
  rw [opening]

theorem balanced_opening (b : s.Balanced n) (o : Outline) :
    (o.opening s).2.Balanced fun u => (o.opening s).1.holds u + n u := by
  have three := ((b.add (.fixed o.intro)).add (.fixed o.longIntro)).add (.fixed o.defaultAnswer)
  unfold opening make
  cases o.question with
  | none =>
    refine three.congr fun u => ?_
    simp only [makeAll, Dialogue.holds, Dialogue.tickets, Dialogue.questionTickets, Keywords.empty,
      List.map_nil, List.append_nil, Ticket.count_cons, List.count_nil]
    omega
  | some c =>
    refine ((three.add (.fixed c.yes)).add (.fixed c.no)).congr fun u => ?_
    simp only [makeAll, Choice.make, Dialogue.holds, Dialogue.tickets, Dialogue.questionTickets,
      Keywords.empty, List.map_nil, List.append_nil, List.cons_append, List.nil_append, Ticket.count_cons,
      List.count_nil]
    omega

/-- A response is read that somebody still holds who came by it when it was put on the shelf. -/
theorem read_of_added {s s' : Shelf γ} {parts : List Part} (b : s'.Balanced n)
    (held : 0 < n (s.add (.fixed parts)).1) (later : (s.add (.fixed parts)).2.Later s') :
    (s'.read (s.add (.fixed parts)).1).1 = parts := by
  obtain ⟨r, there⟩ := Option.isSome_iff_exists.mp ((b.isSome_iff _).mpr held)
  have given := later.response _ r (Nat.lt_succ_self _) there
  rw [Shelf.response?_add_self] at given
  exact Shelf.read_of_fixed (there.trans given.symm)

theorem balanced_make (b : s.Balanced n) (o : Outline) :
    (o.make s).2.Balanced fun u => (o.make s).1.holds u + n u := by
  have tidy : (o.opening s).1.keywords.Tidy := o.keywords_opening s ▸ Keywords.tidy_foldl_change []
  rw [make_eq]
  exact balanced_makeAll tidy (balanced_opening b o) o.entries

theorem later_make (o : Outline) (s : Shelf γ) : (o.opening s).2.Later (o.make s).2 := by
  rw [make_eq]
  exact later_makeAll ..

theorem keywords_make (o : Outline) (s : Shelf γ) :
    (o.make s).1 = { (o.opening s).1 with
      keywords := o.table.map fun v => ⟨(o.opening s).2.fresh + v.1⟩ } := by
  have none : (o.opening s).1.keywords =
      Keywords.empty.map fun v : Nat × List Part => (⟨(o.opening s).2.fresh + v.1⟩ : Ticket) :=
    o.keywords_opening s
  rw [make_eq, makeAll_eq o.entries _ _ (o.opening s).2.fresh 0 rfl, none, Keywords.foldl_change_map]
  rfl

/-- The question of the dialogue is read from the shelf on which its responses were put. -/
theorem question_make {s' : Shelf γ} {m : Ticket → Nat} (o : Outline) (b : s'.Balanced m)
    (held : ∀ t ∈ Dialogue.questionTickets (o.opening s).1.question, 0 < m t)
    (later : (o.opening s).2.Later s') :
    (o.opening s).1.question.map
      (fun q => (⟨q.text, (s'.read q.yes).1, (s'.read q.no).1⟩ : Choice)) = o.question := by
  unfold opening make at held later ⊢
  cases asked : o.question with
  | none => rfl
  | some c =>
    simp only [asked, makeAll, Choice.make, Dialogue.questionTickets, List.mem_cons, List.not_mem_nil,
      or_false, forall_eq_or_imp, forall_eq] at held later ⊢
    have yes := read_of_added b held.1 ((Shelf.Later.add ..).trans later)
    have no := read_of_added b held.2 later
    rw [Option.map_some, yes, no]

/-- What a keyword of the outline means is read under the ticket of its entry. -/
theorem read_ticket (b : s.Balanced n) (o : Outline) {e : String × (Nat × List Part)}
    (among : e ∈ o.table.entries) : ((o.make s).2.read ⟨(o.opening s).2.fresh + e.2.1⟩).1 = e.2.2 := by
  obtain ⟨entry, listed, parts⟩ := exists_of_mem_table among
  have there : (⟨(o.opening s).2.fresh + e.2.1⟩ : Ticket) ∈ (o.make s).1.tickets := by
    have meant := List.mem_map_of_mem (f := fun e : String × (Nat × List Part) =>
      (⟨(o.opening s).2.fresh + e.2.1⟩ : Ticket)) among
    rw [keywords_make]
    simp only [Dialogue.tickets, Keywords.map, List.map_map]
    exact List.mem_append_left _ (List.mem_append_right _ meant)
  obtain ⟨r, given⟩ := Option.isSome_iff_exists.mp
    (((balanced_make b o).isSome_iff _).mpr (Dialogue.holds_pos there _))
  have fixed := response?_makeAll (d := (o.opening s).1) (s := (o.opening s).2) listed (make_eq o s ▸ given)
  rw [fixed, parts] at given
  exact Shelf.read_of_fixed given

/-- **The dialogue of an outline says what the outline says**, on whatever shelf it is made. -/
theorem tells_make (b : s.Balanced n) (o : Outline) : o.Tells (o.make s).1 (o.make s).2 := by
  have balanced := balanced_make b o
  have dialogue := o.keywords_make s
  obtain ⟨opened, question, opening⟩ := o.exists_opening s
  -- the shelves on the way from each of the three responses to the end
  have third := opened.trans (o.later_make s)
  have second := (Shelf.Later.add _ (.fixed o.defaultAnswer)).trans third
  have first := (Shelf.Later.add _ (.fixed o.longIntro)).trans second
  have asked : (o.make s).1.question = (o.opening s).1.question := by rw [dialogue]
  rw [opening] at dialogue
  refine
    { name := by rw [dialogue]
      pronoun := by rw [dialogue]
      prompt := by rw [dialogue]
      turnAway := by rw [dialogue]
      intro := ?_
      longIntro := ?_
      defaultAnswer := ?_
      question := ?_
      keywords := ⟨fun i => ⟨(o.opening s).2.fresh + i⟩, ?_, by rw [dialogue], fun e => read_ticket b o⟩ }
  · have intro : (o.make s).1.intro = (s.add (.fixed o.intro)).1 := by rw [dialogue]
    rw [intro]
    exact read_of_added balanced (Dialogue.holds_pos (by simp [Dialogue.tickets, intro]) _) first
  · have longIntro : (o.make s).1.longIntro = ((s.add (.fixed o.intro)).2.add (.fixed o.longIntro)).1 := by
      rw [dialogue]
    rw [longIntro]
    exact read_of_added balanced (Dialogue.holds_pos (by simp [Dialogue.tickets, longIntro]) _) second
  · have defaultAnswer : (o.make s).1.defaultAnswer =
        (((s.add (.fixed o.intro)).2.add (.fixed o.longIntro)).2.add (.fixed o.defaultAnswer)).1 := by
      rw [dialogue]
    rw [defaultAnswer]
    exact read_of_added balanced (Dialogue.holds_pos (by simp [Dialogue.tickets, defaultAnswer]) _) third
  · rw [asked]
    refine question_make o balanced (fun t among => Dialogue.holds_pos ?_ _) (o.later_make s)
    exact List.mem_append_right _ (asked ▸ among)
  · intro i j same
    exact Nat.add_left_cancel (congrArg Ticket.number same)

end Outline

/-! ## Dialogues that say the same -/

/-- Two dialogues, each on its shelf, say the same: what is asked of the one and of the other gives the same
texts and parts, and keywords share a response in the one if they do in the other. -/
structure Dialogue.Agrees (d₁ : Dialogue) (s₁ : Shelf γ) (d₂ : Dialogue) (s₂ : Shelf γ) : Prop where
  name : d₁.name = d₂.name
  pronoun : d₁.pronoun = d₂.pronoun
  prompt : d₁.prompt = d₂.prompt
  turnAway : d₁.turnAway = d₂.turnAway
  intro : (s₁.read d₁.intro).1 = (s₂.read d₂.intro).1
  longIntro : (s₁.read d₁.longIntro).1 = (s₂.read d₂.longIntro).1
  defaultAnswer : (s₁.read d₁.defaultAnswer).1 = (s₂.read d₂.defaultAnswer).1
  question : d₁.question.map (fun q => (q.text, (s₁.read q.yes).1, (s₁.read q.no).1)) =
    d₂.question.map fun q => (q.text, (s₂.read q.yes).1, (s₂.read q.no).1)
  /-- The keywords in their order, with the parts of their responses. -/
  keywords : d₁.keywords.entries.map (fun e => (e.1, (s₁.read e.2).1)) =
    d₂.keywords.entries.map fun e => (e.1, (s₂.read e.2).1)
  shared : ∀ key key', d₁.keywords.get? key = d₁.keywords.get? key' ↔
    d₂.keywords.get? key = d₂.keywords.get? key'
  /-- What the player says finds the same. -/
  found : ∀ input, (d₁.keyword? input).map (fun e => (e.1, (s₁.read e.2).1)) =
    (d₂.keyword? input).map fun e => (e.1, (s₂.read e.2).1)

namespace Outline.Tells

variable {o : Outline} {d d₁ d₂ : Dialogue} {s s₁ s₂ : Shelf γ}

theorem texts (h : o.Tells d s) :
    d.keywords.map (fun t => (s.read t).1) = o.table.map fun v => v.2 := by
  obtain ⟨ticketOf, -, keywords, parts⟩ := h.keywords
  rw [keywords, Keywords.map, Keywords.map, Keywords.map, List.map_map]
  exact congrArg Keywords.mk (List.map_congr_left fun e among => by
    rw [Function.comp_apply, parts e among])

theorem shared_iff (h : o.Tells d s) (key key' : String) :
    d.keywords.get? key = d.keywords.get? key' ↔
      (o.table.get? key).map (·.1) = (o.table.get? key').map (·.1) := by
  obtain ⟨ticketOf, apart, keywords, -⟩ := h.keywords
  rw [keywords, Keywords.get?_map, Keywords.get?_map]
  cases o.table.get? key with
  | none => cases o.table.get? key' <;> simp
  | some v =>
    cases o.table.get? key' with
    | none => simp
    | some v' =>
      simp only [Option.map_some, Option.some.injEq]
      exact ⟨apart _ _, congrArg ticketOf⟩

/-- Two dialogues that say what an outline says agree. -/
theorem agrees (h₁ : o.Tells d₁ s₁) (h₂ : o.Tells d₂ s₂) : d₁.Agrees s₁ d₂ s₂ where
  name := h₁.name.trans h₂.name.symm
  pronoun := h₁.pronoun.trans h₂.pronoun.symm
  prompt := h₁.prompt.trans h₂.prompt.symm
  turnAway := h₁.turnAway.trans h₂.turnAway.symm
  intro := h₁.intro.trans h₂.intro.symm
  longIntro := h₁.longIntro.trans h₂.longIntro.symm
  defaultAnswer := h₁.defaultAnswer.trans h₂.defaultAnswer.symm
  question := by
    have same := congrArg (Option.map fun c : Choice => (c.text, c.yes, c.no))
      (h₁.question.trans h₂.question.symm)
    simpa only [Option.map_map, Function.comp_def] using same
  keywords := congrArg Keywords.entries (h₁.texts.trans h₂.texts.symm)
  shared key key' := (h₁.shared_iff key key').trans (h₂.shared_iff key key').symm
  found input := by
    have same := congrArg (fun k => k.find? input) (h₁.texts.trans h₂.texts.symm)
    simpa only [Keywords.find?_map, Dialogue.keyword?] using same

end Outline.Tells

end Colloquy
