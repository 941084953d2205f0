import Colloquy.Dialogue.Holding

/-!
# Who holds what

The count that a shelf keeps for a response is the number of its holders, however many take the response and
let it go, as long as nobody lets go what he does not hold.  So a response is on the shelf exactly as long as
somebody holds it (`Shelf.Balanced.isSome_iff`), and it is the same response all that time (`Shelf.Later`).

### What is load-bearing

Who the holders are is not the shelf's concern: `Shelf.Balanced` compares the counts with any number of
holders, given for each ticket.  Each change of the shelf changes this number at one ticket by one.

## Main definitions

* `Shelf.Balanced`: the counts are these numbers of holders.
* `Shelf.Later`: a shelf after others have taken responses and let them go.
-/

namespace Colloquy

/-! ## Looking up -/

section Lookup

variable {κ α β : Type} [DecidableEq κ]

theorem lookup_map_val (g : κ → α → β) (es : List (κ × α)) (k : κ) :
    (es.map fun e => (e.1, g e.1 e.2)).lookup k = (es.lookup k).map (g k) := by
  induction es with
  | nil => rfl
  | cons e es ih =>
    rw [List.map_cons, List.lookup_cons, List.lookup_cons, ih]
    by_cases same : k = e.1
    · rw [same, BEq.rfl]
      rfl
    · rw [beq_false_of_ne same]

theorem lookup_filter_ne (es : List (κ × α)) (out k : κ) :
    (es.filter (·.1 ≠ out)).lookup k = if k = out then none else es.lookup k := by
  induction es with
  | nil => simp
  | cons e es ih =>
    rw [List.filter_cons, List.lookup_cons]
    by_cases gone : e.1 = out
    · rw [if_neg (by simp [gone]), ih, gone]
      by_cases same : k = out
      · rw [if_pos same, if_pos same]
      · rw [if_neg same, if_neg same, beq_false_of_ne same]
    · rw [if_pos (by simp [gone]), List.lookup_cons, ih]
      by_cases same : k = e.1
      · simp only [same, BEq.rfl, if_neg gone]
      · rw [beq_false_of_ne same]

end Lookup

/-- One holder of one ticket. -/
def Ticket.once (t u : Ticket) : Nat := if u = t then 1 else 0

@[simp] theorem Ticket.once_self (t : Ticket) : t.once t = 1 := if_pos rfl

theorem Ticket.once_of_ne {t u : Ticket} (other : u ≠ t) : t.once u = 0 := if_neg other

theorem Ticket.count_cons (t : Ticket) (ts : List Ticket) (u : Ticket) :
    (t :: ts).count u = ts.count u + t.once u := by
  rw [List.count_cons]
  by_cases same : u = t
  · simp [same]
  · simp [Ticket.once_of_ne same, Ne.symm same]

namespace Shelf

variable {γ : Type} {s s' s'' : Shelf γ} {n n' : Ticket → Nat} {t : Ticket}

/-- The response under a ticket. -/
def response? (s : Shelf γ) (t : Ticket) : Option (Response γ) := (s.get? t).map Held.response

/-! ## What is held after a change -/

theorem get?_add (s : Shelf γ) (r : Response γ) (u : Ticket) :
    (s.add r).2.get? u = if u = (s.add r).1 then some ⟨r, 1⟩ else s.get? u := by
  rw [get?, add, List.lookup_cons]
  by_cases same : u = ⟨s.fresh⟩
  · rw [if_pos same, same, BEq.rfl]
  · rw [if_neg same, beq_false_of_ne same, get?]

theorem response?_add_self (s : Shelf γ) (r : Response γ) :
    (s.add r).2.response? (s.add r).1 = some r := by
  rw [response?, get?_add, if_pos rfl]
  rfl

theorem get?_update (s : Shelf γ) (t : Ticket) (f : Held γ → Held γ) (u : Ticket) :
    (s.update t f).get? u = if u = t then (s.get? u).map f else s.get? u := by
  have keyed : (fun e : Ticket × Held γ => if e.1 = t then (e.1, f e.2) else e) =
      fun e => (e.1, if e.1 = t then f e.2 else e.2) := by
    funext e
    split <;> rfl
  rw [get?, update, keyed, lookup_map_val fun v h => if v = t then f h else h, ← get?]
  split
  · rfl
  · exact Option.map_id' ..

theorem get?_hold (s : Shelf γ) (t u : Ticket) :
    (s.hold t).get? u =
      if u = t then (s.get? u).map fun h => { h with holders := h.holders + 1 } else s.get? u :=
  get?_update ..

theorem get?_release (s : Shelf γ) (t u : Ticket) :
    (s.release t).get? u =
      if u = t then
        if s.holders t ≤ 1 then none else (s.get? u).map fun h => { h with holders := h.holders - 1 }
      else s.get? u := by
  unfold release
  split
  · rw [get?, lookup_filter_ne]
    rfl
  · exact get?_update ..

theorem fresh_release (s : Shelf γ) (t : Ticket) : (s.release t).fresh = s.fresh := by
  unfold Shelf.release
  split <;> rfl

theorem game_release (s : Shelf γ) (t : Ticket) : (s.release t).game = s.game := by
  unfold Shelf.release
  split <;> rfl

theorem holders_eq (s : Shelf γ) (t : Ticket) : s.holders t = ((s.get? t).map Held.holders).getD 0 := by
  unfold holders
  cases s.get? t <;> rfl

/-! ## Counts -/

/-- The count of each response is the number of its holders, and there is no response without one. -/
structure Balanced (s : Shelf γ) (n : Ticket → Nat) : Prop where
  holders : ∀ t, s.holders t = n t
  held : ∀ t h, s.get? t = some h → 0 < h.holders
  /-- Nothing is held under a ticket that has not been given out. -/
  fresh : ∀ t, s.fresh ≤ t.number → s.get? t = none

namespace Balanced

theorem congr (b : s.Balanced n) (same : ∀ t, n t = n' t) : s.Balanced n' :=
  ⟨fun t => (b.holders t).trans (same t), b.held, b.fresh⟩

/-- A response is on the shelf exactly as long as somebody holds it. -/
theorem isSome_iff (b : s.Balanced n) (t : Ticket) : (s.response? t).isSome = true ↔ 0 < n t := by
  rw [← b.holders t, holders_eq, response?]
  cases held : s.get? t with
  | none => simp
  | some h => simpa using b.held t h held

theorem number_lt (b : s.Balanced n) (held : 0 < n t) : t.number < s.fresh := by
  refine Nat.lt_of_not_le fun beyond => ?_
  have none := b.fresh t beyond
  rw [← b.holders t, holders_eq, none] at held
  exact Nat.lt_irrefl 0 held

theorem new (game : γ) : (Shelf.new game).Balanced fun _ => 0 :=
  ⟨fun _ => rfl, fun _ _ held => by simp [Shelf.new, get?] at held, fun _ _ => rfl⟩

theorem add (b : s.Balanced n) (r : Response γ) :
    (s.add r).2.Balanced fun u => n u + (s.add r).1.once u := by
  have unheld : n (s.add r).1 = 0 := Nat.eq_zero_of_not_pos fun held =>
    Nat.lt_irrefl _ (b.number_lt held)
  refine ⟨fun u => ?_, fun u h held => ?_, fun u beyond => ?_⟩
  · rw [holders_eq, get?_add]
    by_cases own : u = (s.add r).1
    · rw [if_pos own, own, unheld, Ticket.once_self]
      rfl
    · rw [if_neg own, Ticket.once_of_ne own, ← holders_eq, b.holders, Nat.add_zero]
  · rw [get?_add] at held
    split at held
    · cases held
      exact Nat.one_pos
    · exact b.held u h held
  · have other : u ≠ (s.add r).1 := by
      rintro rfl
      exact Nat.lt_irrefl _ (Nat.lt_of_succ_le beyond)
    rw [get?_add, if_neg other]
    exact b.fresh u (Nat.le_of_succ_le beyond)

/-- Who holds a response may let somebody else hold it. -/
theorem hold (b : s.Balanced n) (held : 0 < n t) : (s.hold t).Balanced fun u => n u + t.once u := by
  refine ⟨fun u => ?_, fun u h there => ?_, fun u beyond => ?_⟩
  · have count := b.holders u
    rw [holders_eq] at count ⊢
    rw [get?_hold]
    by_cases own : u = t
    · subst own
      cases found : s.get? u with
      | none =>
        rw [found] at count
        rw [← count] at held
        exact absurd held (Nat.lt_irrefl 0)
      | some h =>
        rw [found] at count
        rw [if_pos rfl, Ticket.once_self, ← count]
        rfl
    · rw [if_neg own, count, Ticket.once_of_ne own, Nat.add_zero]
  · rw [get?_hold] at there
    split at there
    · obtain ⟨h', -, rfl⟩ := Option.map_eq_some_iff.mp there
      exact Nat.succ_pos _
    · exact b.held u h there
  · rw [get?_hold]
    have none := b.fresh u beyond
    rw [none]
    split <;> rfl

/-- One of the holders lets go. -/
theorem release (b : s.Balanced fun u => n u + t.once u) : (s.release t).Balanced n := by
  have count := b.holders t
  rw [Ticket.once_self] at count
  -- The last holder takes the response from the shelf, so the count and what is there change together.
  refine ⟨fun u => ?_, fun u h there => ?_, fun u beyond => ?_⟩
  · rw [holders_eq, get?_release]
    by_cases own : u = t
    · subst own
      rw [if_pos rfl]
      split
      · show 0 = n u
        omega
      · rw [holders_eq] at count
        cases found : s.get? u with
        | none =>
          rw [found] at count
          cases count
        | some h =>
          rw [found] at count
          exact Nat.sub_eq_of_eq_add count
    · rw [if_neg own, ← holders_eq, b.holders, Ticket.once_of_ne own, Nat.add_zero]
  · rw [get?_release] at there
    split at there
    · next own =>
      split at there
      · cases there
      · next many =>
        obtain ⟨h', found, rfl⟩ := Option.map_eq_some_iff.mp there
        rw [own] at found
        rw [holders_eq, found] at many
        exact Nat.sub_pos_of_lt (Nat.lt_of_not_le many)
    · exact b.held u h there
  · have none := b.fresh u (fresh_release s t ▸ beyond)
    rw [get?_release, none]
    split
    · split <;> rfl
    · rfl

end Balanced

/-! ## Responses stay what they are -/

/-- A shelf after others have put responses there, taken them and let them go: no other response is under a
ticket that had been given out before. -/
structure Later (s s' : Shelf γ) : Prop where
  fresh : s.fresh ≤ s'.fresh
  game : s'.game = s.game
  response : ∀ t r, t.number < s.fresh → s'.response? t = some r → s.response? t = some r

namespace Later

theorem refl (s : Shelf γ) : s.Later s := ⟨Nat.le_refl _, rfl, fun _ _ _ there => there⟩

theorem trans (h : s.Later s') (h' : s'.Later s'') : s.Later s'' :=
  ⟨Nat.le_trans h.fresh h'.fresh, h'.game.trans h.game, fun t r given there =>
    h.response t r given (h'.response t r (Nat.lt_of_lt_of_le given h.fresh) there)⟩

theorem add (s : Shelf γ) (r : Response γ) : s.Later (s.add r).2 := by
  refine ⟨Nat.le_succ _, rfl, fun t r' given there => ?_⟩
  have other : t ≠ (s.add r).1 := by
    rintro rfl
    exact Nat.lt_irrefl _ given
  rwa [response?, get?_add, if_neg other] at there

theorem hold (s : Shelf γ) (t : Ticket) : s.Later (s.hold t) := by
  refine ⟨Nat.le_refl _, rfl, fun u r _ there => ?_⟩
  rw [response?, get?_hold] at there
  split at there
  · rwa [Option.map_map] at there
  · exact there

theorem release (s : Shelf γ) (t : Ticket) : s.Later (s.release t) := by
  refine ⟨Nat.le_of_eq (fresh_release s t).symm, game_release s t, fun u r _ there => ?_⟩
  rw [response?, get?_release] at there
  split at there
  · split at there
    · cases there
    · rwa [Option.map_map] at there
  · exact there

end Later

/-- Reading a fixed response. -/
theorem read_of_fixed {parts : List Part} (there : s.response? t = some (.fixed parts)) :
    (s.read t).1 = parts := by
  obtain ⟨h, found, fixed⟩ := Option.map_eq_some_iff.mp there
  rw [read, found]
  simp only [fixed, Response.read]

end Shelf

end Colloquy
