import Colloquy.Proofs.Text.Trim
import Colloquy.Text.Lowercase

/-!
# What lower-casing leaves

The lower-case form of a text is its own lower-case form, and it has blanks where the text has them.

### What is load-bearing

Both are facts about the table.  They are not looked up code point by code point but run by run: the code
points that a run leads to keep clear of every run, and so do the blanks (`Run.isSettled`).  Every other
fact here follows from that one computation.

## Main results

* `settled_of_mem_lowerChar`: the characters of a lower-case form.
* `lower_lower`, `isTrimmed_lowerAfter`: texts.
* `lowerAfter_eq_flatMap`: without a capital sigma a text is lower-cased character by character.
-/

namespace Colloquy.Text

namespace Lowercase

/-! ## The table -/

/-- The first code point that the run leads to. -/
def Run.lowest (r : Run) : Nat := (r.first + r.offset).toNat

/-- The last code point that the run leads to. -/
def Run.highest (r : Run) : Nat := (r.last + r.offset).toNat

/-- No code point that the run leads to is in the stretch. -/
def Run.missesStretch (r : Run) (stretch : Nat × Nat) : Bool :=
  r.highest.blt stretch.1 || stretch.2.blt r.lowest

/-- No code point that the run leads to is in the run `s`.  Where capitals and small letters take turns, the
two runs overlap and differ in parity. -/
def Run.misses (r s : Run) : Bool :=
  r.missesStretch (s.first, s.last) ||
    (s.step == 2 && (r.step == 2 || r.first == r.last) && r.lowest % 2 != s.first % 2)

/-- The code points of blanks, by stretches. -/
def blankStretches : CharClass :=
  [(9, 13), (32, 32), (0x85, 0x85), (0xA0, 0xA0), (0x1680, 0x1680), (0x2000, 0x200A), (0x2028, 0x2029),
   (0x202F, 0x202F), (0x205F, 0x205F), (0x3000, 0x3000)]

/-- The run leads from characters that are not blank to characters that are neither blank nor in a run. -/
def Run.isSettled (r : Run) : Bool :=
  decide (0 ≤ r.first + r.offset) && decide (r.highest < 0x110000) && r.missesStretch (0xD800, 0xDFFF) &&
    r.missesStretch (0x130, 0x130) && runs.all r.misses && blankStretches.all r.missesStretch &&
    blankStretches.all fun s => r.last.blt s.1 || s.2.blt r.first

theorem isSettled_of_mem_runs : ∀ r ∈ runs, r.isSettled = true :=
  List.all_eq_true.mp (by decide +kernel : runs.all Run.isSettled = true)

theorem isBlank_iff {c : Char} : isBlank c = true ↔ blankStretches.has c = true := by
  simp [isBlank, blankStretches, CharClass.has]
  omega

/-- A code point of a run, and where the run leads from it. -/
structure Run.Leads (r : Run) (n m : Nat) : Prop where
  first_le : r.first ≤ n
  le_last : n ≤ r.last
  mod_step : (n - r.first) % r.step = 0
  lowered : (n + r.offset).toNat = m

theorem Run.lowered?_eq_some_iff {r : Run} {n : Nat} {c : Char} :
    r.lowered? n = some c ↔ ∃ m, r.Leads n m ∧ Char.ofNat m = c := by
  unfold lowered?
  constructor
  · intro found
    split at found
    · next within => exact ⟨_, ⟨within.1, within.2.1, within.2.2, rfl⟩, Option.some.inj found⟩
    · cases found
  · rintro ⟨m, ⟨first_le, le_last, mod_step, rfl⟩, rfl⟩
    rw [if_pos ⟨first_le, le_last, mod_step⟩]

namespace Run.Leads

variable {r : Run} {n m : Nat}

/-- What `Run.isSettled` checks, one fact for each thing that a character can be. -/
theorem facts (h : r.Leads n m) (settled : r.isSettled = true) :
    ((r.lowest : Int) = r.first + r.offset ∧ r.lowest ≤ m ∧ m ≤ r.highest ∧ (m : Int) = n + r.offset) ∧
      (Char.ofNat m).toNat = m ∧ m ≠ 0x130 ∧ (∀ s ∈ runs, r.misses s = true) ∧
      ∀ s ∈ blankStretches, (r.highest < s.1 ∨ s.2 < r.lowest) ∧ (r.last < s.1 ∨ s.2 < r.first) := by
  obtain ⟨first_le, le_last, -, lowered⟩ := h
  simp only [isSettled, Bool.and_eq_true, decide_eq_true_eq, List.all_eq_true, missesStretch,
    Bool.or_eq_true, Nat.blt_eq] at settled
  obtain ⟨⟨⟨⟨⟨⟨positive, small⟩, scalar⟩, dotted⟩, apart⟩, solid⟩, solid'⟩ := settled
  have within : (r.lowest : Int) = r.first + r.offset ∧ r.lowest ≤ m ∧ m ≤ r.highest ∧
      (m : Int) = n + r.offset := by
    unfold lowest highest
    omega
  have valid : m.isValidChar := by
    show m < 0xD800 ∨ 0xDFFF < m ∧ m < 0x110000
    omega
  refine ⟨within, ?_, by omega, apart, fun s among => ⟨solid s among, solid' s among⟩⟩
  rw [Char.ofNat, dif_pos valid]
  rfl

/-- No run leads on from where a run leads. -/
theorem not_leads (h : r.Leads n m) (settled : r.isSettled = true) {s : Run} (among : s ∈ runs)
    (k : Nat) : ¬ s.Leads m k := by
  rintro ⟨first_le', le_last', mod_step', -⟩
  obtain ⟨⟨lowest, low, high, shifted⟩, -, -, apart, -⟩ := h.facts settled
  have miss := apart s among
  simp only [misses, missesStretch, Bool.or_eq_true, Nat.blt_eq, Bool.and_eq_true, beq_iff_eq,
    bne_iff_ne] at miss
  obtain ⟨first_le, le_last, mod_step, -⟩ := h
  rcases miss with (below | above) | ⟨⟨two, alternate⟩, parity⟩
  · omega
  · omega
  · rw [two] at mod_step'
    rcases alternate with alternate | single
    · rw [alternate] at mod_step
      omega
    · omega

/-- Neither what a run leads from nor what it leads to is blank. -/
theorem isBlank_eq_false (h : r.Leads n m) (settled : r.isSettled = true) {c : Char}
    (one : c.toNat = n ∨ c.toNat = m) : isBlank c = false := by
  obtain ⟨⟨-, low, high, -⟩, -, -, -, solid⟩ := h.facts settled
  rw [Bool.eq_false_iff, Ne, isBlank_iff, CharClass.has_iff]
  rintro ⟨s, among, above, below⟩
  have apart := solid s among
  have first_le := h.first_le
  have le_last := h.le_last
  omega

end Run.Leads

/-- Either no run leads from the code point, or the first that does gives the form. -/
theorem findSome?_cases (n : Nat) :
    (runs.findSome? (·.lowered? n) = none ∧ ∀ r ∈ runs, ∀ m, ¬ r.Leads n m) ∨
      ∃ r ∈ runs, ∃ m, r.Leads n m ∧ runs.findSome? (·.lowered? n) = some (Char.ofNat m) := by
  cases found : runs.findSome? (·.lowered? n) with
  | none =>
    refine .inl ⟨rfl, fun r among m leads => ?_⟩
    have here := Run.lowered?_eq_some_iff.mpr ⟨m, leads, rfl⟩
    rw [List.findSome?_eq_none_iff.mp found r among] at here
    cases here
  | some c =>
    obtain ⟨r, among, lowered⟩ := List.exists_of_findSome?_eq_some found
    obtain ⟨m, leads, rfl⟩ := Run.lowered?_eq_some_iff.mp lowered
    exact .inr ⟨r, among, m, leads, rfl⟩

end Lowercase

/-! ## Characters -/

open Lowercase

/-- A character from which no run leads is its own lower-case form. -/
theorem lowerChar_eq_self {c : Char} (undotted : c.toNat ≠ 0x130)
    (none : ∀ r ∈ runs, ∀ m, ¬ r.Leads c.toNat m) : lowerChar c = [c] := by
  unfold lowerChar
  split
  · unfold Char.toLower
    rw [dif_neg]
    rintro ⟨above, below⟩
    exact none ⟨0x41, 0x5A, 1, 32⟩ (List.Mem.head _) _
      ⟨UInt32.le_iff_toNat_le.mp above, UInt32.le_iff_toNat_le.mp below, Nat.mod_one _, rfl⟩
  · rw [if_neg (by rintro rfl; exact undotted rfl)]
    rcases findSome?_cases c.toNat with ⟨missing, -⟩ | ⟨r, among, m, leads, -⟩
    · rw [missing]
    · exact absurd leads (none r among m)

/-- What the ASCII characters are checked for one by one. -/
def isSettledAscii (n : Nat) : Bool :=
  (Char.ofNat n).toLower.toNat < 128 && (Char.ofNat n).toLower.toLower == (Char.ofNat n).toLower &&
    isBlank (Char.ofNat n).toLower == isBlank (Char.ofNat n)

theorem isSettledAscii_of_lt {c : Char} (small : c.toNat < 128) :
    c.toLower.toNat < 128 ∧ c.toLower.toLower = c.toLower ∧ isBlank c.toLower = isBlank c := by
  have checked := List.all_eq_true.mp (by decide : (List.range 128).all isSettledAscii = true) c.toNat
    (List.mem_range.mpr small)
  simpa [isSettledAscii, Char.ofNat_toNat, and_assoc] using checked

/-- The characters of a lower-case form are their own lower-case forms, and blank if the character is. -/
theorem settled_of_mem_lowerChar {c d : Char} (h : d ∈ lowerChar c) :
    lowerChar d = [d] ∧ isBlank d = isBlank c := by
  by_cases small : c.toNat < 128
  · obtain ⟨small', again, blank⟩ := isSettledAscii_of_lt small
    rw [lowerChar, if_pos small, List.mem_singleton] at h
    subst h
    exact ⟨by rw [lowerChar, if_pos small', again], blank⟩
  by_cases dotted : c = '\u0130'
  · subst dotted
    have two : d = 'i' ∨ d = '\u0307' := by simpa [lowerChar] using h
    rcases two with rfl | rfl <;> decide +kernel
  rcases findSome?_cases c.toNat with ⟨missing, none⟩ | ⟨r, among, m, leads, found⟩
  · have undotted : c.toNat ≠ 0x130 := fun h => dotted (Char.toNat_inj.mp h)
    rw [lowerChar_eq_self undotted none, List.mem_singleton] at h
    subst h
    exact ⟨lowerChar_eq_self undotted none, rfl⟩
  · rw [lowerChar, if_neg small, if_neg dotted, found, List.mem_singleton] at h
    subst h
    have settled := isSettled_of_mem_runs r among
    obtain ⟨-, same, undotted, -⟩ := leads.facts settled
    refine ⟨lowerChar_eq_self (by rwa [same]) fun s there k => ?_, ?_⟩
    · rw [same]
      exact leads.not_leads settled there k
    · rw [leads.isBlank_eq_false settled (.inl rfl), leads.isBlank_eq_false settled (.inr same)]

theorem toLower_eq_self {c : Char} (large : ¬ c.toNat < 128) : c.toLower = c := by
  unfold Char.toLower
  rw [dif_neg]
  rintro ⟨-, below⟩
  have small : c.toNat ≤ 0x5A := UInt32.le_iff_toNat_le.mp below
  omega

/-- Folding ASCII letters leaves what is its own lower-case form. -/
theorem toLower_of_lowerChar_eq_self {c : Char} (same : lowerChar c = [c]) : c.toLower = c := by
  by_cases small : c.toNat < 128
  · rw [lowerChar, if_pos small, List.singleton_inj] at same
    exact same
  · exact toLower_eq_self small

/-- Folding ASCII letters is done once, and keeps blanks apart from what is not blank. -/
theorem settled_toLower (c : Char) : c.toLower.toLower = c.toLower ∧ isBlank c.toLower = isBlank c := by
  by_cases small : c.toNat < 128
  · exact (isSettledAscii_of_lt small).2
  · simp only [toLower_eq_self small, and_self]

/-- Only the dotted capital I has a lower-case form of more than one character. -/
theorem exists_lowerChar_cons (c : Char) :
    ∃ d rest, lowerChar c = d :: rest ∧ (rest = [] ↔ c ≠ '\u0130') := by
  by_cases dotted : c = '\u0130'
  · subst dotted
    exact ⟨'i', ['\u0307'], by decide +kernel, by decide⟩
  · have single : ∃ d, lowerChar c = [d] := by
      unfold lowerChar
      split
      · exact ⟨_, rfl⟩
      · split <;> exact ⟨_, rfl⟩
    obtain ⟨d, form⟩ := single
    exact ⟨d, [], form, by simp [dotted]⟩

theorem lowerChar_ne_nil (c : Char) : lowerChar c ≠ [] := by
  unfold lowerChar
  split
  · simp
  · split
    · simp
    · split <;> simp

theorem lowerChar_sigma : lowerChar 'Σ' = ['σ'] := by decide +kernel

/-! ## Texts -/

/-- What stands for the first character of a text in its lower-case form: characters that are their own
lower-case forms and blank if it is. -/
theorem exists_lowerAfter_cons (before : List Char) (c : Char) (cs : List Char) :
    ∃ low, low ≠ [] ∧ (∀ d ∈ low, lowerChar d = [d] ∧ isBlank d = isBlank c) ∧
      lowerAfter before (c :: cs) = low ++ lowerAfter (c :: before) cs := by
  refine ⟨_, ?_, ?_, rfl⟩
  · split
    · split <;> simp
    · exact lowerChar_ne_nil c
  · split
    · next sigma =>
      subst sigma
      split <;> simp only [List.mem_singleton, forall_eq] <;> decide +kernel
    · exact fun d => settled_of_mem_lowerChar

theorem lowerChar_of_mem_lowerAfter {before cs : List Char} {d : Char} (h : d ∈ lowerAfter before cs) :
    lowerChar d = [d] := by
  induction cs generalizing before with
  | nil => cases h
  | cons c cs ih =>
    obtain ⟨low, -, settled, split⟩ := exists_lowerAfter_cons before c cs
    rw [split, List.mem_append] at h
    rcases h with here | behind
    · exact (settled d here).1
    · exact ih behind

/-- Without a capital sigma a text is lower-cased character by character. -/
theorem lowerAfter_eq_flatMap {before cs : List Char} (h : 'Σ' ∉ cs) :
    lowerAfter before cs = cs.flatMap lowerChar := by
  induction cs generalizing before with
  | nil => rfl
  | cons c cs ih =>
    have other : c ≠ 'Σ' := by
      rintro rfl
      exact h List.mem_cons_self
    simp only [lowerAfter, if_neg other, List.flatMap_cons]
    rw [ih fun among => h (List.mem_cons_of_mem c among)]

/-- The lower-case form of a text has the form of every character but the capital sigma. -/
theorem mem_lowerAfter {before cs : List Char} {c d : Char} (listed : c ∈ cs) (other : c ≠ 'Σ')
    (h : d ∈ lowerChar c) : d ∈ lowerAfter before cs := by
  induction cs generalizing before with
  | nil => cases listed
  | cons e cs ih =>
    rw [lowerAfter, List.mem_append]
    rcases List.mem_cons.mp listed with rfl | behind
    · rw [if_neg other]
      exact .inl h
    · exact .inr (ih behind)

theorem lowerAfter_eq_self {before cs : List Char} (h : ∀ c ∈ cs, lowerChar c = [c]) :
    lowerAfter before cs = cs := by
  have noSigma : 'Σ' ∉ cs := by
    intro among
    have same := h _ among
    rw [lowerChar_sigma] at same
    exact absurd same (by decide)
  rw [lowerAfter_eq_flatMap noSigma]
  clear noSigma
  induction cs with
  | nil => rfl
  | cons c cs ih =>
    rw [List.flatMap_cons, h c List.mem_cons_self, ih fun d among => h d (List.mem_cons_of_mem c among)]
    rfl

theorem head_lowerAfter {before cs : List Char} {d : Char}
    (h : (lowerAfter before cs).head? = some d) : ∃ c, cs.head? = some c ∧ isBlank d = isBlank c := by
  cases cs with
  | nil => cases h
  | cons c cs =>
    obtain ⟨low, some, settled, split⟩ := exists_lowerAfter_cons before c cs
    rw [split, List.head?_append, Option.or_of_isSome (List.isSome_head?.mpr some)] at h
    exact ⟨c, rfl, (settled d (List.mem_of_head? h)).2⟩

theorem last_lowerAfter {before cs : List Char} {d : Char}
    (h : (lowerAfter before cs).getLast? = some d) :
    ∃ c, cs.getLast? = some c ∧ isBlank d = isBlank c := by
  induction cs generalizing before with
  | nil => cases h
  | cons c cs ih =>
    obtain ⟨low, some, settled, split⟩ := exists_lowerAfter_cons before c cs
    rw [split] at h
    cases cs with
    | nil =>
      rw [lowerAfter, List.append_nil] at h
      exact ⟨c, rfl, (settled d (List.mem_of_getLast? h)).2⟩
    | cons c' cs =>
      obtain ⟨low', some', -, split'⟩ := exists_lowerAfter_cons (c :: before) c' cs
      have goesOn : lowerAfter (c :: before) (c' :: cs) ≠ [] := by simp [split', some']
      rw [List.getLast?_append, Option.or_of_isSome (List.getLast?_isSome.mpr goesOn)] at h
      exact ih h

theorem isTrimmed_lowerAfter {before cs : List Char} (h : IsTrimmed cs) :
    IsTrimmed (lowerAfter before cs) := by
  refine ⟨fun d first => ?_, fun d last => ?_⟩
  · obtain ⟨c, there, same⟩ := head_lowerAfter first
    exact same.trans (h.head c there)
  · obtain ⟨c, there, same⟩ := last_lowerAfter last
    exact same.trans (h.last c there)

@[simp] theorem toList_lower (s : String) : (lower s).toList = lowerAfter [] s.toList := String.toList_ofList

/-- One character by itself has no neighbours. -/
theorem toList_lower_singleton (c : Char) : (lower (String.ofList [c])).toList = lowerChar c := by
  rw [toList_lower, String.toList_ofList]
  by_cases sigma : c = 'Σ'
  · subst sigma
    decide +kernel
  · exact lowerAfter_append_singleton_of_ne [] sigma

/-- What folding ASCII letters makes of a character of a text is in the lower-case form of the text just if it is the
lower-case form of the character. -/
theorem toLower_mem_lower_iff {s : String} {c : Char} (listed : c ∈ s.toList) :
    c.toLower ∈ (lower s).toList ↔ lowerChar c = [c.toLower] := by
  rw [toList_lower]
  constructor
  · intro among
    by_cases small : c.toNat < 128
    · rw [lowerChar, if_pos small]
    · rw [toLower_eq_self small] at among ⊢
      exact lowerChar_of_mem_lowerAfter among
  · intro folded
    refine mem_lowerAfter listed ?_ (by rw [folded]; exact List.mem_singleton_self _)
    rintro rfl
    rw [lowerChar_sigma] at folded
    exact absurd folded (by decide)

/-! ## Final sigmas -/

/-- One of the first `n` characters of the lower-case form is a final sigma that stands for a capital one; `earlier`
is what stands in front of the text, nearest character first. -/
def HasFinalSigma (earlier : List Char) (n : Nat) (cs : List Char) : Prop :=
  ∃ before after, cs = before ++ 'Σ' :: after ∧ (before.flatMap lowerChar).length < n ∧
    wordGoesOn (before.reverse ++ earlier) = true ∧ wordGoesOn after = false

/-- The sigma is the first character, or one of the others. -/
theorem hasFinalSigma_cons {earlier : List Char} {n : Nat} {c : Char} {cs : List Char} :
    HasFinalSigma earlier n (c :: cs) ↔
      (c = 'Σ' ∧ 0 < n ∧ wordGoesOn earlier = true ∧ wordGoesOn cs = false) ∨
        HasFinalSigma (c :: earlier) (n - (lowerChar c).length) cs := by
  constructor
  · rintro ⟨before, after, split, less, goesOn, ends⟩
    cases before with
    | nil =>
      obtain ⟨rfl, rfl⟩ := List.cons.inj split
      exact .inl ⟨rfl, less, goesOn, ends⟩
    | cons d before =>
      obtain ⟨rfl, rest⟩ := List.cons.inj split
      rw [List.flatMap_cons, List.length_append] at less
      rw [List.reverse_cons, List.append_assoc, List.singleton_append] at goesOn
      exact .inr ⟨before, after, rest, by omega, goesOn, ends⟩
  · rintro (⟨rfl, less, goesOn, ends⟩ | ⟨before, after, rfl, less, goesOn, ends⟩)
    · exact ⟨[], cs, rfl, less, goesOn, ends⟩
    · refine ⟨c :: before, after, rfl, ?_, ?_, ends⟩
      · rw [List.flatMap_cons, List.length_append]
        omega
      · rwa [List.reverse_cons, List.append_assoc, List.singleton_append]

theorem length_lowerAfter (before cs : List Char) :
    (lowerAfter before cs).length = (cs.flatMap lowerChar).length := by
  induction cs generalizing before with
  | nil => rfl
  | cons c cs ih =>
    rw [lowerAfter, List.length_append, ih, List.flatMap_cons, List.length_append]
    split
    · next sigma =>
      rw [sigma, lowerChar_sigma]
      split <;> rfl
    · rfl

/-- **Where the two ways to lower-case a text agree.**  Lower-cased as a whole, a text begins as it does lower-cased
character by character, up to the first final sigma. -/
theorem take_lowerAfter_eq_iff {earlier cs : List Char} {n : Nat} :
    (lowerAfter earlier cs).take n = (cs.flatMap lowerChar).take n ↔ ¬ HasFinalSigma earlier n cs := by
  induction cs generalizing earlier n with
  | nil => simp [lowerAfter, HasFinalSigma]
  | cons c cs ih =>
    rw [hasFinalSigma_cons, not_or, ← ih, lowerAfter, List.flatMap_cons]
    by_cases final : c = 'Σ' ∧ wordGoesOn earlier = true ∧ wordGoesOn cs = false
    · -- The two forms of the sigma are different characters.
      obtain ⟨rfl, goesOn, ends⟩ := final
      rw [if_pos rfl, goesOn, ends, lowerChar_sigma]
      cases n with
      | zero => simp
      | succ n => simp
    · have alike : (if c = 'Σ' then if wordGoesOn earlier && !wordGoesOn cs then ['ς'] else ['σ']
          else lowerChar c) = lowerChar c := by
        split
        · next sigma =>
          rw [sigma, lowerChar_sigma, if_neg]
          simpa [sigma] using final
        · rfl
      rw [alike, List.take_append, List.take_append, List.append_cancel_left_eq]
      exact (and_iff_right fun here => final ⟨here.1, here.2.2⟩).symm

theorem lower_lower (s : String) : lower (lower s) = lower s := by
  rw [lower, lower, String.toList_ofList, lowerAfter_eq_self fun _ => lowerChar_of_mem_lowerAfter]

end Colloquy.Text
