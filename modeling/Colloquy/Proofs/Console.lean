import Colloquy.Console

/-!
# Sessions on lines

Where bytes are a text and neither reading nor writing fails, a session is asked line by line: each
question is answered by the next line of the text, and by nothing behind the last one (`Tape.ask_line`,
`Tape.ask_end`).

### What is load-bearing

A line feed is one byte, and that byte occurs in no other character (`mem_utf8EncodeChar`), so lines may
be split in bytes or in characters.

## Main definitions

* `Text.utf8`: the bytes of a text.
* `IsLines`, `splitLines`: the lines of a text, each with its line feed.
* `Tape.step`, `Tape.Run`: a session turn by turn, with all places where it stood.
-/

namespace Colloquy

namespace Text

/-- The bytes of a text. -/
def utf8 (cs : List Char) : List UInt8 := cs.flatMap String.utf8EncodeChar

@[simp] theorem utf8_nil : utf8 [] = [] := rfl

theorem utf8_append (cs ds : List Char) : utf8 (cs ++ ds) = utf8 cs ++ utf8 ds :=
  List.flatMap_append

theorem utf8_lineFeed : utf8 ['\n'] = [10] := by decide

theorem utf8_ne_nil {cs : List Char} (some : cs ≠ []) : utf8 cs ≠ [] := by
  obtain ⟨c, cs, rfl⟩ := List.exists_cons_of_ne_nil some
  intro none
  have first : (String.utf8EncodeChar c).length = 0 := by
    rw [(List.append_eq_nil_iff.mp none).1]
    rfl
  have size := c.utf8Size_pos
  rw [String.length_utf8EncodeChar] at first
  omega

/-- The byte of a line feed is in no other character. -/
theorem mem_utf8EncodeChar {c : Char} (feed : 10 ∈ String.utf8EncodeChar c) : c = '\n' := by
  have distinct : ∀ n, n < 256 → (10 : UInt8) = UInt8.ofNat n → n = 10 := by
    intro n small same
    have value := congrArg UInt8.toNat same
    rw [UInt8.toNat_ofNat_of_lt' small] at value
    exact value.symm
  have code : c.val.toNat = 10 := by
    unfold String.utf8EncodeChar at feed
    dsimp only at feed
    split at feed
    · exact distinct _ (by omega) (List.mem_singleton.mp feed)
    · exfalso
      split at feed
      · simp only [List.mem_cons, List.not_mem_nil, or_false] at feed
        rcases feed with here | here <;> have := distinct _ (by omega) here <;> omega
      · split at feed
        · simp only [List.mem_cons, List.not_mem_nil, or_false] at feed
          rcases feed with here | here | here <;> have := distinct _ (by omega) here <;> omega
        · simp only [List.mem_cons, List.not_mem_nil, or_false] at feed
          rcases feed with here | here | here | here <;> have := distinct _ (by omega) here <;> omega
  exact Char.ext (UInt32.toNat_inj.mp code)

theorem mem_utf8 {cs : List Char} (feed : 10 ∈ utf8 cs) : '\n' ∈ cs := by
  obtain ⟨c, among, here⟩ := List.mem_flatMap.mp feed
  exact mem_utf8EncodeChar here ▸ among

end Text

open Text

/-! ## Lines -/

/-- Lines of a text, each with its line feed; the last may lack it. -/
inductive IsLines : List (List Char) → Prop where
  | nil : IsLines []
  | last {line : List Char} (some : line ≠ []) (whole : '\n' ∉ line) : IsLines [line]
  | cons {line : List Char} {lines : List (List Char)} (whole : '\n' ∉ line) (rest : IsLines lines) :
      IsLines ((line ++ ['\n']) :: lines)

theorem IsLines.tail {line : List Char} {lines : List (List Char)} (split : IsLines (line :: lines)) :
    IsLines lines := by
  cases split with
  | last => exact .nil
  | cons _ rest => exact rest

/-- The lines of a text, each with its line feed. -/
def splitLines : List Char → List (List Char)
  | [] => []
  | c :: cs =>
    if c = '\n' then [c] :: splitLines cs
    else
      match splitLines cs with
      | [] => [[c]]
      | line :: lines => (c :: line) :: lines

theorem flatten_splitLines (cs : List Char) : (splitLines cs).flatten = cs := by
  induction cs with
  | nil => rfl
  | cons c cs ih =>
    unfold splitLines
    split
    · rw [List.flatten_cons, ih]
      rfl
    · split
      · next none =>
        rw [none] at ih
        rw [← ih]
        rfl
      · next line lines some =>
        rw [some] at ih
        rw [← ih]
        rfl

theorem isLines_splitLines (cs : List Char) : IsLines (splitLines cs) := by
  induction cs with
  | nil => exact .nil
  | cons c cs ih =>
    unfold splitLines
    split
    · next feed => exact feed ▸ @IsLines.cons [] _ List.not_mem_nil ih
    · next other =>
      split
      · exact .last (List.cons_ne_nil _ _) (by simpa using Ne.symm other)
      · next line lines some =>
        rw [some] at ih
        cases ih with
        | last _ whole => exact .last (List.cons_ne_nil _ _) (by simp [whole, Ne.symm other])
        | @cons line _ whole rest =>
          exact @IsLines.cons (c :: line) _ (by simp [whole, Ne.symm other]) rest

namespace Tape

/-! ## Reading a line -/

theorem splitLine?_of_feed {line : List UInt8} (whole : 10 ∉ line) (rest : List UInt8) :
    splitLine? (line ++ [10] ++ rest) = some (line ++ [10], rest) := by
  induction line with
  | nil => rfl
  | cons b line ih =>
    rw [List.mem_cons, not_or] at whole
    obtain ⟨other, whole⟩ := whole
    rw [List.cons_append, List.cons_append, splitLine?, if_neg (Ne.symm other), ih whole]
    rfl

theorem splitLine?_of_not_mem {bytes : List UInt8} (whole : 10 ∉ bytes) : splitLine? bytes = none := by
  induction bytes with
  | nil => rfl
  | cons b bytes ih =>
    rw [List.mem_cons, not_or] at whole
    obtain ⟨other, whole⟩ := whole
    rw [splitLine?, if_neg (Ne.symm other), ih whole]
    rfl

/-- The bytes of a text are read as the text. -/
theorem lineOf_utf8 (cs : List Char) : lineOf (utf8 cs) = .ok (some (chomp (String.ofList cs))) := by
  have bytes : ByteArray.mk (utf8 cs).toArray = cs.utf8Encode :=
    ByteArray.ext List.data_toByteArray.symm
  have valid : cs.utf8Encode.IsValidUTF8 := .intro cs rfl
  have text : String.fromUTF8? cs.utf8Encode = some (String.ofList cs) := by
    rw [String.fromUTF8?, dif_pos valid]
    exact congrArg some (String.toByteArray_inj.mp String.toByteArray_ofList.symm)
  rw [lineOf, bytes, text]

/-- Neither reading nor writing fails. -/
structure Steady (t : Tape) : Prop where
  cut : t.cut = false
  room : t.room = none

/-- The tape with this text still to be read, and more written and noticed. -/
def after (t : Tape) (text : List Char) (written noticed : List String) : Tape :=
  { t with
    input := utf8 text
    written := t.written ++ written.toArray
    noticed := t.noticed ++ noticed }

theorem Steady.after {t : Tape} (steady : t.Steady) (text : List Char) (written noticed : List String) :
    (t.after text written noticed).Steady :=
  ⟨steady.cut, steady.room⟩

/-- Where there is room for everything, every text is written. -/
theorem write_of_free {t : Tape} (free : t.room = none) (text : String) :
    t.write text = (.ok (), { t with written := t.written.push text }) := by
  rw [Tape.write, free]

theorem Steady.write {t : Tape} (steady : t.Steady) (text : String) :
    t.write text = (.ok (), { t with written := t.written.push text }) :=
  write_of_free steady.room text

theorem write_after {t : Tape} (steady : t.Steady) (cs : List Char) (written noticed : List String)
    (text : String) :
    (t.after cs written noticed).write text = (.ok (), t.after cs (written ++ [text]) noticed) := by
  rw [(steady.after cs written noticed).write]
  simp [after]

theorem note_after (t : Tape) (cs : List Char) (written noticed notices : List String) :
    (t.after cs written noticed).note notices = t.after cs written (noticed ++ notices) := by
  simp [after, note]

theorem readLine_after {t : Tape} (steady : t.Steady) {line : List Char} {lines : List (List Char)}
    (split : IsLines (line :: lines)) (written noticed : List String) :
    (t.after (line :: lines).flatten written noticed).readLine =
      (.ok (some (chomp (String.ofList line))), t.after lines.flatten written noticed) := by
  cases split with
  | last some whole =>
    have unsplit : splitLine? (utf8 line) = none := splitLine?_of_not_mem fun feed => whole (mem_utf8 feed)
    have filled : (utf8 line).isEmpty = false := by simpa using utf8_ne_nil some
    simp only [readLine, after, List.flatten_cons, List.flatten_nil, List.append_nil, unsplit, steady.cut,
      filled, lineOf_utf8]
    rfl
  | @cons line _ whole rest =>
    have split : splitLine? (utf8 ((line ++ ['\n']) :: lines).flatten) =
        some (utf8 (line ++ ['\n']), utf8 lines.flatten) := by
      rw [List.flatten_cons, utf8_append, utf8_append, utf8_lineFeed]
      exact splitLine?_of_feed (fun feed => whole (mem_utf8 feed)) _
    simp only [readLine, after, split, lineOf_utf8]

/-- A question is answered by the next line. -/
theorem ask_line {t : Tape} (steady : t.Steady) {line : List Char} {lines : List (List Char)}
    (split : IsLines (line :: lines)) (written noticed : List String) (prompt : String) :
    (t.after (line :: lines).flatten written noticed).ask prompt =
      (.ok (some (chomp (String.ofList line))), t.after lines.flatten (written ++ [prompt]) noticed) := by
  simp only [ask, write_after steady, readLine_after steady split]

/-- Behind the last line a question is not answered. -/
theorem ask_end {t : Tape} (steady : t.Steady) (written noticed : List String) (prompt : String) :
    (t.after [] written noticed).ask prompt =
      (.ok none, t.after [] (written ++ [prompt, "\n"]) noticed) := by
  have none : (t.after [] (written ++ [prompt]) noticed).readLine =
      (.ok none, t.after [] (written ++ [prompt]) noticed) := by
    simp [readLine, after, splitLine?, steady.cut]
  simp only [ask, write_after steady, none]
  simp

/-! ## Runs -/

section Run

variable {σ : Type}

/-- Carries out a move: where the session stands next, or how it ended. -/
def follow (m : Move σ) (t : Tape) : (σ ⊕ Except Fault Unit) × Tape :=
  match m with
  | .go text notices next =>
    match (t.note notices).write text with
    | (.ok (), t) => (.inl next, t)
    | (.error fault, t) => (.inr (.error fault), t)
  | .stop text notices result =>
    match (t.note notices).write text with
    | (.ok (), t) => (.inr result, t)
    | (.error fault, t) => (.inr (.error fault), t)

/-- One turn of a session: where it stands next, or how it ended. -/
def step (turn : σ → Turn σ) (s : σ) (t : Tape) : (σ ⊕ Except Fault Unit) × Tape :=
  match turn s with
  | .move m => t.follow m
  | .ask prompt resume =>
    match t.ask prompt with
    | (.ok line, t) => t.follow (resume line)
    | (.error fault, t) => (.inr (.error fault), t)

/-- A session is carried on turn by turn. -/
theorem converse_succ (turn : σ → Turn σ) (fuel : Nat) (s : σ) (t : Tape) :
    converse turn (fuel + 1) s t =
      match step turn s t with
      | (.inl next, t) => converse turn fuel next t
      | (.inr result, t) => some (result, t) := by
  rw [converse, step]
  cases turn s with
  | move m =>
    cases m
    all_goals
      dsimp only [follow]
      generalize write _ _ = outcome
      rcases outcome with ⟨_ | _, _⟩ <;> rfl
  | ask prompt resume =>
    dsimp only
    rcases t.ask prompt with ⟨fault | line, t⟩
    · rfl
    · dsimp only
      cases resume line
      all_goals
        dsimp only [follow]
        generalize write _ _ = outcome
        rcases outcome with ⟨_ | _, _⟩ <;> rfl

/-- A session that comes to its end: all places where it stood, how it ended, and the tape then. -/
inductive Run (turn : σ → Turn σ) : σ → Tape → List σ → Except Fault Unit → Tape → Prop where
  | last {s : σ} {t t' : Tape} {result : Except Fault Unit} (ends : step turn s t = (.inr result, t')) :
      Run turn s t [s] result t'
  | more {s next : σ} {t t' t'' : Tape} {places : List σ} {result : Except Fault Unit}
      (goes : step turn s t = (.inl next, t')) (rest : Run turn next t' places result t'') :
      Run turn s t (s :: places) result t''

/-- With fuel for each place, a session that comes to its end is carried on to there. -/
theorem Run.converse {turn : σ → Turn σ} {s : σ} {t t' : Tape} {places : List σ}
    {result : Except Fault Unit} (run : Run turn s t places result t') {fuel : Nat}
    (enough : places.length ≤ fuel) : converse turn fuel s t = some (result, t') := by
  induction run generalizing fuel with
  | last ends =>
    obtain ⟨fuel, rfl⟩ := Nat.exists_eq_add_of_le' enough
    exact (converse_succ ..).trans (by rw [ends])
  | more goes rest ih =>
    obtain ⟨fuel, rfl⟩ := Nat.exists_eq_add_of_le' (Nat.le_trans (Nat.le_add_left 1 _) enough)
    have left : _ ≤ fuel := Nat.le_of_succ_le_succ enough
    exact (converse_succ ..).trans (by rw [goes]; exact ih left)

/-- A session that is carried on to its end has stood in some places on the way. -/
theorem exists_run_of_converse {turn : σ → Turn σ} {fuel : Nat} {s : σ} {t t' : Tape}
    {result : Except Fault Unit} (ends : converse turn fuel s t = some (result, t')) :
    ∃ places, Run turn s t places result t' := by
  induction fuel generalizing s t with
  | zero => cases ends
  | succ fuel ih =>
    rw [converse_succ] at ends
    rcases went : step turn s t with ⟨next | result', later⟩
    · rw [went] at ends
      obtain ⟨places, run⟩ := ih ends
      exact ⟨s :: places, .more went run⟩
    · rw [went] at ends
      cases ends
      exact ⟨[s], .last went⟩

/-- A session stands in the same places whenever it is carried on from the same tape. -/
theorem Run.unique {turn : σ → Turn σ} {s : σ} {t t₁ t₂ : Tape} {places₁ places₂ : List σ}
    {result₁ result₂ : Except Fault Unit} (run₁ : Run turn s t places₁ result₁ t₁)
    (run₂ : Run turn s t places₂ result₂ t₂) :
    places₁ = places₂ ∧ result₁ = result₂ ∧ t₁ = t₂ := by
  induction run₁ generalizing places₂ with
  | last ends =>
    cases run₂ with
    | last ends' =>
      cases ends.symm.trans ends'
      exact ⟨rfl, rfl, rfl⟩
    | more goes _ => cases ends.symm.trans goes
  | more goes _ ih =>
    cases run₂ with
    | last ends => cases goes.symm.trans ends
    | more goes' rest =>
      cases goes.symm.trans goes'
      obtain ⟨rfl, same⟩ := ih rest
      exact ⟨rfl, same⟩

theorem follow_go {t : Tape} (steady : t.Steady) (cs : List Char) (written noticed : List String)
    (text : String) (notices : List String) (next : σ) :
    (t.after cs written noticed).follow (.go text notices next) =
      (.inl next, t.after cs (written ++ [text]) (noticed ++ notices)) := by
  simp only [follow, note_after, write_after steady]

theorem follow_stop {t : Tape} (steady : t.Steady) (cs : List Char) (written noticed : List String)
    (text : String) (notices : List String) (result : Except Fault Unit) :
    (t.after cs written noticed).follow (.stop text notices result : Move σ) =
      (.inr result, t.after cs (written ++ [text]) (noticed ++ notices)) := by
  simp only [follow, note_after, write_after steady]

end Run

end Tape

end Colloquy
