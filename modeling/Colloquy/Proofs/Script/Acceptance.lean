import Colloquy.Script.Answer

/-!
# Which answers are accepted

What a request reads off an answer, as a relation with one case for each way to be accepted
(`Input.Request.read_eq_ok_iff`).  Blanks at the ends of an answer do not matter, so the relation is between the
characters in between and the value.  An answer that is not accepted is refused as invalid and for no other reason
(`Input.Request.exists_invalid_of_read`).  Whatever else is shown about answers is shown case by case from these two,
and does not look into the reading again.

## Main definitions

* `Input.Request.Accepts`: the accepted answers and their values.
-/

namespace Colloquy.Input

open Text

variable {r : Request} {cs : List Char} {raw : String} {v : Value}

/-- An answer with these characters between its blanks is accepted and has this value. -/
inductive Request.Accepts (r : Request) (cs : List Char) : Value → Prop where
  | anyKey (kind : r.kind = .keypress) (nothing : cs = []) : Accepts r cs .unset
  | key {c : Char} {rest : List Char} (kind : r.kind = .keypress) (begins : cs = c :: rest) :
      Accepts r cs (.str (String.ofList [c]))
  | choice {c : Char} {rest : List Char} (kind : r.kind = .choice) (begins : cs = c :: rest)
      (offered : ∀ choices, r.choices = some choices → c.toLower ∈ choices.toList) :
      Accepts r cs (.str (String.ofList [c.toLower]))
  | number {i : Int64} (kind : r.kind = .number) (written : Decimal.readInt? cs = some i) : Accepts r cs (.int i)
  | player {i : Int64} (kind : r.kind = .player) (written : Decimal.readInt? cs = some i)
      (within : 1 ≤ i.toInt ∧ i.toInt ≤ partySize) : Accepts r cs (.int i)
  | direction {letter : String} (kind : r.kind = .direction)
      (named : direction? (lowerAscii (String.ofList cs)) = some letter) : Accepts r cs (.str letter)
  | text (kind : r.kind = .string) (free : r.maxLength = none) : Accepts r cs (.str (String.ofList cs))
  | start {length : Nat} (kind : r.kind = .string) (limit : r.maxLength = some length) :
      Accepts r cs (.str (String.ofList (cs.take length)))

theorem Request.accepts_of_read (accepted : r.read raw = .ok v) : r.Accepts (trimChars raw.toList) v := by
  unfold read at accepted
  cases kind : r.kind with
  | keypress =>
    simp only [kind] at accepted
    split at accepted
    · next nothing =>
      cases accepted
      exact .anyKey kind nothing
    · next begins =>
      cases accepted
      exact .key kind begins
  | choice =>
    simp only [kind] at accepted
    split at accepted
    · cases accepted
    · next begins =>
      split at accepted
      · next free =>
        cases accepted
        exact .choice kind begins (by simp [free])
      · next given =>
        split at accepted
        · next among =>
          cases accepted
          exact .choice kind begins (by simpa [given] using among)
        · cases accepted
  | number =>
    simp only [kind] at accepted
    split at accepted
    · next written =>
      cases accepted
      exact .number kind written
    · cases accepted
  | player =>
    simp only [kind] at accepted
    split at accepted
    · next written =>
      split at accepted
      · next within =>
        cases accepted
        exact .player kind written within
      · cases accepted
    · cases accepted
  | direction =>
    simp only [kind] at accepted
    split at accepted
    · next named =>
      cases accepted
      exact .direction kind named
    · cases accepted
  | string =>
    simp only [kind] at accepted
    split at accepted
    · next limit =>
      cases accepted
      exact .start kind limit
    · next free =>
      cases accepted
      exact .text kind free

theorem Request.read_of_accepts (accepts : r.Accepts (trimChars raw.toList) v) : r.read raw = .ok v := by
  cases accepts with
  | anyKey kind nothing => simp [read, kind, nothing]
  | key kind begins => simp [read, kind, begins]
  | choice kind begins offered =>
    cases given : r.choices with
    | none => simp [read, kind, begins, given]
    | some choices => simp [read, kind, begins, given, offered choices given]
  | number kind written => simp [read, kind, written]
  | player kind written within => simp [read, kind, written, within]
  | direction kind named => simp [read, kind, named]
  | text kind free => simp [read, kind, free]
  | start kind limit => simp [read, kind, limit]

/-- **What is read off an answer.** -/
theorem Request.read_eq_ok_iff : r.read raw = .ok v ↔ r.Accepts (trimChars raw.toList) v :=
  ⟨accepts_of_read, read_of_accepts⟩

/-- An answer is refused as invalid and for no other reason. -/
theorem Request.exists_invalid_of_read {fault : Fault} (refused : r.read raw = .error fault) :
    ∃ detail, fault = .invalidInput raw r.kind detail := by
  unfold read at refused
  grind

end Colloquy.Input
