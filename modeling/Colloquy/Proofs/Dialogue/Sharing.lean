import Colloquy.Proofs.Dialogue.Outline

/-!
# Shared responses are counted

A response that keywords share has as many holders as keywords have it: after the dialogue of an outline is made,
and after whatever a host then registers and removes (`Dialogue.sharing_is_counted`).  It is released when the last
of these keywords gets another response or is removed, and not before.

### What is load-bearing

A ledger knows nothing of holders: it numbers the responses in the order in which they are made, and remembers for
each keyword which one was used last.  The table is the table of the ledger with tickets for numbers, and since
each response of the table was put on the shelf behind those that are held elsewhere, only keywords hold it
(`Ledger.Kept`).

## Main definitions

* `Dialogue.Edit`, `Dialogue.edit`: what a host does to the keywords of a dialogue.
* `Ledger`, `Ledger.note`: the responses that were made, and which of them were used for which keywords.
* `Ledger.Counts`: what the holders are according to a ledger.
-/

namespace Colloquy

variable {γ : Type}

namespace Keywords

variable {α β δ : Type}

theorem map_map (f : α → β) (g : β → δ) (k : Keywords α) : (k.map f).map g = k.map fun a => g (f a) := by
  simp only [map, List.map_map, Function.comp_def]

theorem get?_foldl_change (cs : List (Change α)) (key : String) :
    (cs.foldl change empty).get? key = latest? cs key := by
  rw [get?, entries_eq_standing, lookup_standing]

theorem Tidy.map {k : Keywords α} (tidy : k.Tidy) (f : α → β) : (k.map f).Tidy := by
  refine ⟨?_, fun e among => ?_⟩
  · rw [Keywords.map, List.map_map]
    exact tidy.keys_nodup
  · obtain ⟨e', among', rfl⟩ := List.mem_map.mp among
    exact tidy.keys_kept e' among'

/-- A table holds what some of its keywords mean. -/
theorem Tidy.holds_pos_iff {k : Keywords Ticket} (tidy : k.Tidy) {t : Ticket} :
    0 < k.holds t ↔ ∃ key, k.get? key = some t := by
  rw [holds, List.count_pos_iff, List.mem_map]
  constructor
  · rintro ⟨e, among, rfl⟩
    exact ⟨e.1, (tidy.mem_iff _ _).mp among⟩
  · rintro ⟨key, held⟩
    exact ⟨_, (tidy.mem_iff key t).mpr held, rfl⟩

end Keywords

namespace Dialogue

variable {d : Dialogue} {s : Shelf γ} {n : Ticket → Nat}

/-- A change that a host makes to the keywords of a dialogue.  The host does not hold a response himself
afterwards. -/
inductive Edit (γ : Type) where
  /-- Registers for a keyword the response of a key in the table. -/
  | share (raw key : String)
  /-- Registers a response that is new. -/
  | put (raw : String) (response : Response γ)
  | remove (raw : String)

/-- The dialogue and the shelf after an edit.  Nothing can be shared that is not in the table. -/
def edit : Dialogue × Shelf γ → Edit γ → Dialogue × Shelf γ
  | (d, s), .share raw key =>
    match d.keywords.get? key with
    | some t => d.addKeyword raw t (s.hold t)
    | none => (d, s)
  | (d, s), .put raw response => d.addKeyword raw (s.add response).1 (s.add response).2
  | (d, s), .remove raw => (d.removeKeyword raw s).2

theorem holds_pos_of_get? {key : String} {t : Ticket} (tidy : d.keywords.Tidy)
    (held : d.keywords.get? key = some t) : 0 < d.holds t := by
  rw [holds_eq]
  exact Nat.lt_of_lt_of_le (tidy.holds_pos_iff.mpr ⟨key, held⟩) (Nat.le_add_left ..)

/-- A keyword that is removed lets its response go. -/
theorem balanced_removeKeyword (tidy : d.keywords.Tidy) (b : s.Balanced fun u => d.holds u + n u) (raw : String) :
    (d.removeKeyword raw s).2.2.Balanced fun u => (d.removeKeyword raw s).2.1.holds u + n u := by
  have rest : ∀ u, { d with keywords := d.keywords.remove raw }.holds u =
      { d with keywords := .empty }.holds u + (d.keywords.without (normalizeKeyword raw)).holds u := fun u =>
    holds_eq ..
  rw [removeKeyword]
  cases held : d.keywords.get? (normalizeKeyword raw) with
  | some old =>
    refine Shelf.Balanced.release (b.congr fun u => ?_)
    show d.holds u + n u = { d with keywords := d.keywords.remove raw }.holds u + n u + old.once u
    rw [rest, holds_eq, tidy.holds_without held]
    omega
  | none => exact b

theorem later_removeKeyword (d : Dialogue) (raw : String) (s : Shelf γ) :
    s.Later (d.removeKeyword raw s).2.2 := by
  rw [removeKeyword]
  cases d.keywords.get? (normalizeKeyword raw) with
  | some old => exact .release s old
  | none => exact .refl s

theorem fresh_removeKeyword (d : Dialogue) (raw : String) (s : Shelf γ) :
    (d.removeKeyword raw s).2.2.fresh = s.fresh := by
  rw [removeKeyword]
  cases d.keywords.get? (normalizeKeyword raw) with
  | some old => exact Shelf.fresh_release s old
  | none => rfl

/-- But for its keywords, a dialogue stays as it is. -/
theorem others_removeKeyword (d : Dialogue) (raw : String) (s : Shelf γ) :
    { (d.removeKeyword raw s).2.1 with keywords := .empty } = { d with keywords := .empty } := by
  rw [removeKeyword]
  cases d.keywords.get? (normalizeKeyword raw) <;> rfl

end Dialogue

/-- The responses that were made for a table, numbered in order, and the changes of the table in which they were
used. -/
structure Ledger (γ : Type) where
  changes : List (Keywords.Change Nat)
  made : List (Response γ)

namespace Ledger

/-- The number of the response that was used when a key was last registered. -/
def meant? (l : Ledger γ) (key : String) : Option Nat := Keywords.latest? l.changes key

/-- The ledger after an edit. -/
def note (l : Ledger γ) : Dialogue.Edit γ → Ledger γ
  | .share raw key =>
    match l.meant? key with
    | some i => { l with changes := l.changes ++ [.register raw i] }
    | none => l
  | .put raw response => ⟨l.changes ++ [.register raw l.made.length], l.made ++ [response]⟩
  | .remove raw => { l with changes := l.changes ++ [.remove raw] }

/-- What the holders are according to a ledger whose responses have these tickets. -/
structure Counts (l : Ledger γ) (ticketOf : Nat → Ticket) (d : Dialogue) (s : Shelf γ) : Prop where
  /-- A keyword in the table has the response that was used when it was last registered. -/
  mem_iff : ∀ key t, (key, t) ∈ d.keywords.entries ↔ ∃ i, l.meant? key = some i ∧ ticketOf i = t
  /-- Two keywords share a response exactly if their latest registrations used the same one. -/
  shared : ∀ key t key' t', (key, t) ∈ d.keywords.entries → (key', t') ∈ d.keywords.entries →
    (t = t' ↔ l.meant? key = l.meant? key')
  /-- A response has as many holders as there are keywords that share it. -/
  holders : ∀ key t, (key, t) ∈ d.keywords.entries → s.holders t = d.keywords.holds t
  /-- A response is there, as it was made, as long as a keyword has it. -/
  kept : ∀ i r, l.made[i]? = some r → (∃ key, l.meant? key = some i) → s.response? (ticketOf i) = some r
  /-- It is gone as soon as no keyword has it. -/
  released : ∀ i, (∀ key, l.meant? key ≠ some i) → s.response? (ticketOf i) = none

/-- A dialogue on a shelf, where others hold responses as well, is as a ledger has it whose responses have the
tickets from a first one on. -/
structure Kept (l : Ledger γ) (first : Nat) (n : Ticket → Nat) (d : Dialogue) (s : Shelf γ) : Prop where
  keywords : d.keywords = (l.changes.foldl Keywords.change .empty).map fun i => (⟨first + i⟩ : Ticket)
  balanced : s.Balanced fun u => d.holds u + n u
  fresh : s.fresh = first + l.made.length
  made : ∀ i r, s.response? ⟨first + i⟩ = some r → l.made[i]? = some r
  /-- Only keywords hold the responses of the ledger. -/
  elsewhere : ∀ u, first ≤ u.number → { d with keywords := .empty }.holds u + n u = 0

namespace Kept

variable {l : Ledger γ} {first : Nat} {n : Ticket → Nat} {d d' : Dialogue} {s s' : Shelf γ}

theorem tidy (k : l.Kept first n d s) : d.keywords.Tidy := by
  rw [k.keywords]
  exact (Keywords.tidy_foldl_change l.changes).map _

theorem get?_eq (k : l.Kept first n d s) (key : String) :
    d.keywords.get? key = (l.meant? key).map fun i => ⟨first + i⟩ := by
  rw [k.keywords, Keywords.get?_map, Keywords.get?_foldl_change, meant?]

/-- The dialogue is as the ledger has it after a change of the table that leaves the rest of it as it is. -/
theorem change (k : l.Kept first n d s) {c : Keywords.Change Nat} {made : List (Response γ)}
    (keywords : d'.keywords = d.keywords.change (c.map fun i => ⟨first + i⟩))
    (others : { d' with keywords := .empty } = { d with keywords := .empty })
    (balanced : s'.Balanced fun u => d'.holds u + n u) (fresh : s'.fresh = first + made.length)
    (holds : ∀ i r, s'.response? ⟨first + i⟩ = some r → made[i]? = some r) :
    (⟨l.changes ++ [c], made⟩ : Ledger γ).Kept first n d' s' where
  keywords := by
    rw [keywords, k.keywords, Keywords.change_map, List.foldl_append]
    rfl
  balanced := balanced
  fresh := fresh
  made := holds
  elsewhere u behind := others ▸ k.elsewhere u behind

/-- No response is made anew under a ticket that was given out. -/
theorem made_of_later (k : l.Kept first n d s) (later : s.Later s') (fresh : s'.fresh = s.fresh)
    (balanced : s'.Balanced fun u => d'.holds u + n u) (i : Nat) (r : Response γ)
    (there : s'.response? ⟨first + i⟩ = some r) : l.made[i]? = some r := by
  have given : (⟨first + i⟩ : Ticket).number < s.fresh := by
    rw [← fresh]
    exact balanced.number_lt ((balanced.isSome_iff _).mp (Option.isSome_of_eq_some there))
  exact k.made i r (later.response _ r given there)

theorem share (k : l.Kept first n d s) (raw key : String) :
    (l.note (.share raw key)).Kept first n (Dialogue.edit (d, s) (.share raw key)).1
      (Dialogue.edit (d, s) (.share raw key)).2 := by
  have meant := k.get?_eq key
  rw [note, Dialogue.edit, meant]
  cases used : l.meant? key with
  | none => exact k
  | some i =>
    rw [used] at meant
    have held : 0 < d.holds ⟨first + i⟩ + n ⟨first + i⟩ :=
      Nat.lt_of_lt_of_le (Dialogue.holds_pos_of_get? k.tidy meant) (Nat.le_add_right ..)
    have balanced := Dialogue.balanced_addKeyword k.tidy (k.balanced.hold held) raw
    have fresh := Dialogue.fresh_addKeyword d raw ⟨first + i⟩ (s.hold ⟨first + i⟩)
    have later := (Shelf.Later.hold s ⟨first + i⟩).trans (Dialogue.later_addKeyword d raw ⟨first + i⟩ _)
    exact k.change rfl rfl balanced (fresh.trans k.fresh) (k.made_of_later later fresh balanced)

theorem put (k : l.Kept first n d s) (raw : String) (response : Response γ) :
    (l.note (.put raw response)).Kept first n (Dialogue.edit (d, s) (.put raw response)).1
      (Dialogue.edit (d, s) (.put raw response)).2 := by
  have ticket : (s.add response).1 = ⟨first + l.made.length⟩ := congrArg Ticket.mk k.fresh
  have balanced := Dialogue.balanced_addKeyword k.tidy (k.balanced.add response) raw
  have fresh := Dialogue.fresh_addKeyword d raw (s.add response).1 (s.add response).2
  have later := Dialogue.later_addKeyword d raw (s.add response).1 (s.add response).2
  have next : (s.add response).2.fresh = first + (l.made ++ [response]).length := by
    rw [List.length_append, ← Nat.add_assoc, ← k.fresh]
    rfl
  refine k.change (congrArg (d.keywords.register raw) ticket) rfl balanced (fresh.trans next) fun i r there => ?_
  have given : first + i < (s.add response).2.fresh := by
    rw [← fresh]
    exact balanced.number_lt ((balanced.isSome_iff _).mp (Option.isSome_of_eq_some there))
  have added := later.response _ r given there
  rcases Nat.lt_or_ge i l.made.length with old | new
  · rw [List.getElem?_append_left old]
    exact k.made i r ((Shelf.Later.add s response).response _ r (k.fresh ▸ Nat.add_lt_add_left old first) added)
  · have last : i = l.made.length := by
      rw [next, List.length_append] at given
      exact Nat.le_antisymm (Nat.le_of_lt_succ (Nat.lt_of_add_lt_add_left given)) new
    subst last
    rw [← ticket, Shelf.response?_add_self] at added
    rw [← added, List.getElem?_concat_length]

theorem remove (k : l.Kept first n d s) (raw : String) :
    (l.note (.remove raw)).Kept first n (Dialogue.edit (d, s) (.remove raw)).1
      (Dialogue.edit (d, s) (.remove raw)).2 := by
  have balanced := Dialogue.balanced_removeKeyword k.tidy k.balanced raw
  have fresh := Dialogue.fresh_removeKeyword d raw s
  exact k.change (Dialogue.keywords_change (d, s) (.remove raw)) (Dialogue.others_removeKeyword d raw s) balanced
    (fresh.trans k.fresh) (k.made_of_later (Dialogue.later_removeKeyword d raw s) fresh balanced)

theorem edit (k : l.Kept first n d s) (e : Dialogue.Edit γ) :
    (l.note e).Kept first n (Dialogue.edit (d, s) e).1 (Dialogue.edit (d, s) e).2 := by
  cases e with
  | share raw key => exact k.share raw key
  | put raw response => exact k.put raw response
  | remove raw => exact k.remove raw

theorem edits (k : l.Kept first n d s) (es : List (Dialogue.Edit γ)) :
    (es.foldl note l).Kept first n (es.foldl Dialogue.edit (d, s)).1 (es.foldl Dialogue.edit (d, s)).2 := by
  induction es generalizing l d s with
  | nil => exact k
  | cons e es ih => exact ih (k.edit e)

/-- Nobody but keywords holds a response of the ledger. -/
theorem holds_eq (k : l.Kept first n d s) (i : Nat) :
    d.holds ⟨first + i⟩ + n ⟨first + i⟩ = d.keywords.holds ⟨first + i⟩ := by
  have elsewhere := k.elsewhere ⟨first + i⟩ (Nat.le_add_right ..)
  rw [Dialogue.holds_eq]
  omega

theorem isSome_iff (k : l.Kept first n d s) (i : Nat) :
    (s.response? ⟨first + i⟩).isSome = true ↔ ∃ key, l.meant? key = some i := by
  rw [k.balanced.isSome_iff, k.holds_eq, k.tidy.holds_pos_iff]
  refine exists_congr fun key => ?_
  rw [k.get?_eq, Option.map_eq_some_iff]
  simp

theorem counts (k : l.Kept first n d s) : l.Counts (fun i => ⟨first + i⟩) d s := by
  have mem_iff : ∀ key t, (key, t) ∈ d.keywords.entries ↔
      ∃ i, l.meant? key = some i ∧ (⟨first + i⟩ : Ticket) = t := fun key t => by
    rw [k.tidy.mem_iff, k.get?_eq, Option.map_eq_some_iff]
  exact
    { mem_iff
      shared := fun key t key' t' among among' => by
        obtain ⟨i, meant, rfl⟩ := (mem_iff key t).mp among
        obtain ⟨i', meant', rfl⟩ := (mem_iff key' t').mp among'
        rw [meant, meant']
        simp
      holders := fun key t among => by
        obtain ⟨i, -, rfl⟩ := (mem_iff key t).mp among
        rw [k.balanced.holders, k.holds_eq]
      kept := fun i r there used => by
        obtain ⟨r', held⟩ := Option.isSome_iff_exists.mp ((k.isSome_iff i).mpr used)
        rw [held, ← k.made i r' held, there]
      released := fun i unused => by
        rw [← Option.not_isSome_iff_eq_none, k.isSome_iff]
        rintro ⟨key, used⟩
        exact unused key used }

end Kept

end Ledger

namespace Outline

variable {s : Shelf γ} {n : Ticket → Nat}

/-- The ledger of an outline: one response for each entry, used for all its keywords. -/
def ledger (o : Outline) : Ledger γ where
  changes := (changesFrom 0 o.entries).map (Keywords.Change.map Prod.fst)
  made := o.entries.map fun e => .fixed e.parts

theorem fresh_makeAll (entries : List Entry) (d : Dialogue) (s : Shelf γ) :
    (makeAll entries d s).2.fresh = s.fresh + entries.length := by
  induction entries generalizing d s with
  | nil => rfl
  | cons e entries ih =>
    have rest := ih (e.make d s).1 (e.make d s).2
    rw [fresh_entry, Nat.add_right_comm] at rest
    exact rest

/-- The dialogue of an outline is as the ledger of the outline has it. -/
theorem kept_make (b : s.Balanced n) (o : Outline) :
    (o.ledger : Ledger γ).Kept (o.opening s).2.fresh n (o.make s).1 (o.make s).2 where
  keywords := by
    have numbers : ((changesFrom 0 o.entries).map (Keywords.Change.map Prod.fst)).foldl Keywords.change .empty =
        o.table.map Prod.fst := Keywords.foldl_change_map Prod.fst _ .empty
    rw [keywords_make, ledger, numbers, Keywords.map_map]
  balanced := balanced_make b o
  fresh := by
    rw [make_eq, fresh_makeAll, ledger, List.length_map]
  made i r there := by
    have balanced := balanced_make b o
    have given : i < o.entries.length := by
      have lt := balanced.number_lt ((balanced.isSome_iff _).mp (Option.isSome_of_eq_some there))
      rw [make_eq, fresh_makeAll] at lt
      exact Nat.lt_of_add_lt_add_left lt
    have listed := List.getElem?_eq_getElem given
    rw [make_eq] at there
    rw [ledger, List.getElem?_map, listed, response?_makeAll listed there]
    rfl
  elsewhere u behind := by
    have opened : ({ (o.make s).1 with keywords := .empty } : Dialogue) = (o.opening s).1 := by
      rw [keywords_make, ← o.keywords_opening s]
    rw [opened]
    exact Nat.eq_zero_of_not_pos fun held =>
      Nat.not_lt_of_le behind ((balanced_opening b o).number_lt held)

end Outline

/-- **Shared responses are counted exactly.**  The dialogue of an outline, whatever document it was read from, is made
on a shelf where others may hold responses of theirs, and a host edits its keywords.  There is a ticket for each
response that is made for the table, of the outline or of the host, by which the holders are those that the ledger
tells after each edit. -/
theorem Dialogue.sharing_is_counted {s : Shelf γ} {n : Ticket → Nat} (b : s.Balanced n) (o : Outline) :
    ∃ ticketOf : Nat → Ticket, (∀ i j, ticketOf i = ticketOf j → i = j) ∧ ∀ edits : List (Dialogue.Edit γ),
      (edits.foldl Ledger.note o.ledger).Counts ticketOf (edits.foldl Dialogue.edit (o.make s)).1
        (edits.foldl Dialogue.edit (o.make s)).2 := by
  refine ⟨fun i => ⟨(o.opening s).2.fresh + i⟩, fun i j same => ?_, fun edits => ?_⟩
  · exact Nat.add_left_cancel (congrArg Ticket.number same)
  · exact ((Outline.kept_make b o).edits edits).counts

/-- A captain's word for a ship, taken over by a host for another word, outlives the first word. -/
theorem Dialogue.sharing_is_counted_of_captain :
    let o : Outline :=
      { name := "Captain"
        entries := [⟨["ship", "boat"], [.text "She is fast."]⟩, ⟨["boat"], [.text "A boat?"]⟩] }
    let edits : List (Dialogue.Edit Unit) := [.share "vessel" "ship", .put "boat" .empty, .remove "ship"]
    let done := edits.foldl Dialogue.edit (o.make (Shelf.new ()))
    (Shelf.new ()).Balanced (fun _ => 0) ∧ ∃ t : Ticket, ("vessel", t) ∈ done.1.keywords.entries ∧
      done.2.response? t = some (.fixed [.text "She is fast."]) ∧ done.2.holders t = done.1.keywords.holds t := by
  intro o edits done
  obtain ⟨ticketOf, -, counts⟩ := Dialogue.sharing_is_counted (Shelf.Balanced.new ()) o
  have meant : (edits.foldl Ledger.note o.ledger).meant? "vessel" = some 0 := by decide +kernel
  have made : (edits.foldl Ledger.note o.ledger).made[0]? = some (.fixed [.text "She is fast."]) := by
    have ship : (o.ledger : Ledger Unit).meant? "ship" = some 0 := by decide +kernel
    simp only [edits, List.foldl_cons, List.foldl_nil, Ledger.note, ship]
    rfl
  have among := ((counts edits).mem_iff "vessel" (ticketOf 0)).mpr ⟨0, meant, rfl⟩
  have kept := (counts edits).kept 0 _ made ⟨"vessel", meant⟩
  exact ⟨.new (), ticketOf 0, among, kept, (counts edits).holders _ _ among⟩

end Colloquy
