import Colloquy.Proofs.Script.Suspension
import Colloquy.Proofs.Text.Lowercase
import Colloquy.Proofs.Text.Split

/-!
# Answers in normal form

What is read off an answer is a normal form of it: written out and read again, it is the same value.  That holds
for every kind of answer and every request, but for one case (`Input.Request.answers_settle`).  A text is trimmed
first and cut to its length then, and where the cut falls behind a blank the value ends in that blank; read again,
it loses its blanks at the end.  What is left then is read as itself from there on.

### What is load-bearing

Every step of reading an answer is done once and for all: trimming (`trimChars_of_isTrimmed`), folding
(`settled_toLower`), reading an integer (`Decimal.readInt?_write`), taking the first characters.  Two of them do
not go together: the first characters of a trimmed text need not be trimmed (`isTrimmed_take_iff`).

## Main definitions

* `EndsAtBlank`: the first characters of a text end in a blank.
* `Input.Request.CutsAtBlank`: the one case.
-/

namespace Colloquy

open Text

/-! ## The first characters of a trimmed text -/

namespace Text

/-- The last of that many characters at the start of the text is blank. -/
def EndsAtBlank (cs : List Char) (length : Nat) : Prop :=
  ∃ kept blank rest, cs = kept ++ blank :: rest ∧ isBlank blank = true ∧ length = kept.length + 1

/-- The first characters of a trimmed text are trimmed unless the last of them is blank. -/
theorem isTrimmed_take_iff {cs : List Char} (trimmed : IsTrimmed cs) (length : Nat) :
    IsTrimmed (cs.take length) ↔ ¬ EndsAtBlank cs length := by
  constructor
  · rintro ⟨-, last⟩ ⟨kept, blank, rest, rfl, isBlank, rfl⟩
    have ends : ((kept ++ blank :: rest).take (kept.length + 1)).getLast? = some blank := by
      simp [List.take_append]
    rw [last blank ends] at isBlank
    cases isBlank
  · intro whole
    refine ⟨fun c first => ?_, fun c last => ?_⟩
    · rw [List.head?_take] at first
      split at first
      · cases first
      · exact trimmed.head c first
    · rw [Bool.eq_false_iff]
      intro blank
      -- A text that is not cut ends where the trimmed text does.
      by_cases cut : length < cs.length
      · obtain ⟨kept, split⟩ := List.getLast?_eq_some_iff.mp last
        have parts : cs = kept ++ c :: cs.drop length := by
          rw [← List.singleton_append, ← List.append_assoc, ← split, List.take_append_drop]
        have count : length = kept.length + 1 := by
          have taken := congrArg List.length split
          rw [List.length_take, List.length_append, List.length_singleton] at taken
          omega
        exact whole ⟨kept, c, cs.drop length, parts, blank, count⟩
      · rw [List.take_of_length_le (Nat.le_of_not_lt cut)] at last
        rw [trimmed.last c last] at blank
        cases blank

end Text

namespace Input.Request

variable {r : Request} {cs : List Char} {raw : String} {v : Value}

/-! ## Values that are read as themselves -/

/-- What is accepted for a value of any kind but a text is accepted for it again. -/
theorem Accepts.again (other : r.kind ≠ .string) (trimmed : IsTrimmed cs) (accepts : r.Accepts cs v) :
    r.Accepts (trimChars v.toText.toList) v := by
  cases accepts with
  | anyKey kind nothing => exact .anyKey kind rfl
  | @key c rest kind begins =>
    subst begins
    exact .key kind (trimChars_ofList_singleton (trimmed.head c rfl))
  | @choice c rest kind begins offered =>
    subst begins
    obtain ⟨folded, blank⟩ := settled_toLower c
    have whole := trimChars_ofList_singleton (blank.trans (trimmed.head c rfl))
    -- The value is folded when it is read again, which leaves it as it is.
    have accepted : r.Accepts _ (.str (String.ofList [c.toLower.toLower])) :=
      .choice kind whole (by rwa [folded])
    rwa [folded] at accepted
  | number kind written =>
    refine .number kind ?_
    rw [Value.toText, Decimal.trimChars_write, Decimal.readInt?_write]
  | player kind written within =>
    refine .player kind ?_ within
    rw [Value.toText, Decimal.trimChars_write, Decimal.readInt?_write]
  | direction kind named =>
    have known := direction?_mem named
    simp only [List.mem_cons, List.not_mem_nil, or_false] at known
    refine .direction kind ?_
    rcases known with rfl | rfl | rfl | rfl <;> rfl
  | text kind | start kind => exact absurd kind other

/-! ## Texts -/

/-- The answer is a text that is longer than it may be, and is cut behind a blank. -/
def CutsAtBlank (r : Request) (raw : String) : Prop :=
  r.kind = .string ∧ ∃ length, r.maxLength = some length ∧ EndsAtBlank (trimChars raw.toList) length

/-- A text that is short enough is trimmed and no more. -/
theorem read_of_short (kind : r.kind = .string)
    (short : ∀ length, r.maxLength = some length → (trimChars raw.toList).length ≤ length) :
    r.read raw = .ok (.str (trim raw)) := by
  rw [read_eq_ok_iff]
  cases limit : r.maxLength with
  | none => exact .text kind limit
  | some length =>
    have start : r.Accepts (trimChars raw.toList) _ := .start kind limit
    rwa [List.take_of_length_le (short length limit)] at start

/-- What is read off a text is trimmed unless it is cut behind a blank. -/
theorem isTrimmed_of_read (kind : r.kind = .string) {text : String} (accepted : r.read raw = .ok (.str text)) :
    IsTrimmed text.toList ↔ ¬ r.CutsAtBlank raw := by
  have trimmed := isTrimmed_trimChars raw.toList
  have accepts := read_eq_ok_iff.mp accepted
  generalize value : Value.str text = v at accepts
  cases accepts with
  | text _ free =>
    cases value
    rw [String.toList_ofList]
    exact iff_of_true trimmed (by simp [CutsAtBlank, free])
  | start _ limit =>
    cases value
    rw [String.toList_ofList, isTrimmed_take_iff trimmed]
    simp [CutsAtBlank, kind, limit]
  | anyKey kind' | key kind' | choice kind' | number kind' | player kind' | direction kind' =>
    rw [kind] at kind'
    cases kind'

/-- A text is read again without the blanks that the cut has left at its end. -/
theorem read_string_again (kind : r.kind = .string) (accepted : r.read raw = .ok v) :
    ∃ text, v = .str text ∧ r.read text = .ok (.str (trim text)) ∧
      r.read (trim text) = .ok (.str (trim text)) ∧ (trim text = text ↔ ¬ r.CutsAtBlank raw) := by
  -- All that matters about the text is that it is short enough not to be cut again.
  have allowed := allows_of_read accepted
  rw [Allows, kind] at allowed
  obtain ⟨text, rfl, short⟩ := allowed
  have short' : ∀ length, r.maxLength = some length → (trimChars text.toList).length ≤ length := by
    intro length limit
    exact Nat.le_trans (length_trimChars_le _) (short length limit)
  have again : r.read (trim text) = .ok (.str (trim (trim text))) := by
    refine read_of_short kind fun length limit => ?_
    rw [trim, String.toList_ofList]
    exact Nat.le_trans (length_trimChars_le _) (short' length limit)
  rw [trim_trim] at again
  refine ⟨text, rfl, read_of_short kind short', again, ?_⟩
  rw [← isTrimmed_of_read kind accepted, isTrimmed_iff, trim, ← String.toList_inj, String.toList_ofList]

/-! ## Answers and their values -/

/-- **What is read off an answer is in normal form, unless the answer is cut behind a blank.**  The value of an
accepted answer, written out, is accepted by the same request, and its value is read as itself from then on.  It is
the same value, unless a text was cut behind a blank; then it is that text without the blanks at its ends, and another
one.  A script that waits for the answer takes all of them. -/
theorem answers_settle (accepted : r.read raw = .ok v) :
    ∃ w, r.read v.toText = .ok w ∧ r.read w.toText = .ok w ∧ (w = v ↔ ¬ r.CutsAtBlank raw) ∧
      (r.CutsAtBlank raw → ∃ text, v = .str text ∧ w = .str (trim text)) ∧
      ∀ (ρ : Type) (s : Script ρ), s.request? = some r →
        s.Takes raw v ∧ s.Takes v.toText w ∧ s.Takes w.toText w := by
  by_cases kind : r.kind = .string
  · obtain ⟨text, rfl, again, settled, same⟩ := read_string_again kind accepted
    refine ⟨.str (trim text), again, settled, ?_, fun _ => ⟨text, rfl, rfl⟩, fun ρ s asked => ?_⟩
    · rw [Value.str.injEq]
      exact same
    · exact ⟨Script.takes_of_read asked accepted, Script.takes_of_read asked again,
        Script.takes_of_read asked settled⟩
  · have again := read_eq_ok_iff.mpr ((read_eq_ok_iff.mp accepted).again kind (isTrimmed_trimChars _))
    have whole : ¬ r.CutsAtBlank raw := fun cuts => kind cuts.1
    refine ⟨v, again, again, iff_of_true rfl whole, fun cuts => absurd cuts whole, fun ρ s asked => ?_⟩
    exact ⟨Script.takes_of_read asked accepted, Script.takes_of_read asked again,
      Script.takes_of_read asked again⟩

/-- The number of a player may be written with a sign, zeros and blanks, and is read as itself then. -/
theorem answers_settle_player :
    let r : Request := ⟨.player, some "who", none, none⟩
    r.read " +007 " = .ok (.int 7) ∧ r.read "7" = .ok (.int 7) := by
  intro r
  have accepted : r.read " +007 " = .ok (.int 7) := by decide
  obtain ⟨w, again, -, same, -⟩ := answers_settle accepted
  have whole : ¬ r.CutsAtBlank " +007 " := fun cuts => absurd cuts.1 (by decide)
  rw [same.mpr whole] at again
  exact ⟨accepted, again⟩

/-- A text of two words that is cut behind the blank between them is not read as itself. -/
theorem exists_unsettled_answer :
    let r : Request := ⟨.string, some "said", some 3, none⟩
    r.read "ab cd" = .ok (.str "ab ") ∧ r.read (Value.str "ab ").toText = .ok (.str "ab") ∧
      r.read (Value.str "ab ").toText ≠ .ok (.str "ab ") := by
  decide

end Input.Request

end Colloquy
