import Colloquy.Proofs.Script.Blocks
import Colloquy.Proofs.Script.Deed
import Colloquy.Proofs.Script.InPlace

/-!
# Texts put together

If a text leaves no block open, translating it with another text behind it is translating the one and then the
other: the numbers are drawn in the same order, the results stand side by side, and the first of the two that
fails is the fault (`Script.Effort.translates_in_turn`).  What a block stands for is put between them as it is,
braces and all.

### What is load-bearing

A closing brace that closes nothing stands for itself, but only while nothing is open in front of it; so a text
with such braces does not read the same wherever it stands, and `IsRead` does not hold of it.  It does read the
same on top of any finished text.  The stack of open blocks then differs at its bottom only
(`Template.Partial.onTop`), and no character looks at the bottom but one that closes the last open block.

## Main definitions

* `Template.openBlocks`: the number of blocks that a text leaves open.
* `Template.Nested`: texts in which every brace has its partner.
* `Draw.Concurs`: the same draws, and results that concur.
* `Script.Effort.translate`: translating in place.
-/

namespace Colloquy

open Text

/-! ## Open blocks -/

namespace Template

/-- The number of open blocks behind one more character.  A closing brace closes a block if there is one. -/
def countOpen (count : Nat) (c : Char) : Nat :=
  if c = '\x7b' then count + 1 else if c = '\x7d' then count - 1 else count

/-- The number of blocks that the text leaves open. -/
def openBlocks (cs : List Char) : Nat := cs.foldl countOpen 0

example : openBlocks "\x7d a \x7b$b\x7d c \x7d".toList = 0 ∧ openBlocks "\x7b\x7b$b\x7d".toList = 1 := by decide

/-- Every brace of the text has its partner in the text. -/
inductive Nested : List Char → Prop where
  | nil : Nested []
  | char {c : Char} {cs : List Char} (plain : isPlain c = true) (later : Nested cs) : Nested (c :: cs)
  | block {inside cs : List Char} (inner : Nested inside) (later : Nested cs) :
      Nested ('\x7b' :: (inside ++ ['\x7d']) ++ cs)

theorem Nested.of_plain {cs : List Char} (plain : ∀ c ∈ cs, isPlain c = true) : Nested cs := by
  induction cs with
  | nil => exact .nil
  | cons c cs ih =>
    rw [List.forall_mem_cons] at plain
    exact .char plain.1 (ih plain.2)

/-- Such a text has its own fragments wherever it stands. -/
theorem Nested.exists_isRead {cs : List Char} (h : Nested cs) : ∃ fs, IsRead cs fs := by
  induction h with
  | nil => exact ⟨[], fun _ _ => rfl⟩
  | @char c cs plain later ih =>
    obtain ⟨fs, read⟩ := ih
    have first : IsRead [c] [.char c] := IsRead.plain (List.forall_mem_singleton.mpr plain)
    exact ⟨_, first.append read⟩
  | block inner later ihInner ihLater =>
    obtain ⟨fs, readInner⟩ := ihInner
    obtain ⟨gs, readLater⟩ := ihLater
    exact ⟨_, readInner.block.append readLater⟩

namespace Partial

theorem length_outer_read (p : Partial) (c : Char) : (p.read c).outer.length = countOpen p.outer.length c := by
  unfold read countOpen
  split
  · rfl
  · split
    · cases p.outer <;> rfl
    · rfl

theorem length_outer_foldl (cs : List Char) (p : Partial) :
    (cs.foldl read p).outer.length = cs.foldl countOpen p.outer.length := by
  induction cs generalizing p with
  | nil => rfl
  | cons c cs ih => rw [List.foldl_cons, List.foldl_cons, ih, length_outer_read]

/-! ### On top of a finished text -/

/-- The stack with fragments of an earlier text under its bottom. -/
def bury (base : List Fragment) : List (List Fragment) → List (List Fragment)
  | [] => []
  | [bottom] => [bottom ++ base]
  | around :: outer => around :: bury base outer

theorem getLast?_bury (base : List Fragment) (outer : List (List Fragment)) :
    (bury base outer).getLast? = outer.getLast?.map (· ++ base) := by
  induction outer with
  | nil => rfl
  | cons around outer ih =>
    cases outer with
    | nil => rfl
    | cons next outer => simp_all [bury, List.getLast?_cons]

/-- The text part of the way through, if the fragments of an earlier text were there when it began. -/
def onTop (base : List Fragment) (p : Partial) : Partial :=
  match p.outer with
  | [] => ⟨p.inner ++ base, []⟩
  | around :: outer => ⟨p.inner, bury base (around :: outer)⟩

/-- What was there before does not change how a character is read. -/
theorem read_onTop (base : List Fragment) (p : Partial) (c : Char) :
    (p.onTop base).read c = (p.read c).onTop base := by
  obtain ⟨inner, outer⟩ := p
  by_cases opening : c = '\x7b'
  · subst opening
    cases outer <;> rfl
  by_cases closing : c = '\x7d'
  · subst closing
    match outer with
    | [] => rfl
    | [_] => rfl
    | _ :: _ :: _ => rfl
  cases outer <;> simp [read, onTop, opening, closing]

theorem foldl_read_onTop (base : List Fragment) (cs : List Char) (p : Partial) :
    cs.foldl read (p.onTop base) = (cs.foldl read p).onTop base := by
  induction cs generalizing p with
  | nil => rfl
  | cons c cs ih => rw [List.foldl_cons, read_onTop, ih, List.foldl_cons]

theorem finish_onTop (base : List Fragment) (p : Partial) :
    (p.onTop base).finish = ⟨base.reverse ++ p.finish.fragments, p.finish.closed⟩ := by
  obtain ⟨inner, outer⟩ := p
  cases outer with
  | nil => simp [onTop, finish]
  | cons around outer =>
    rw [onTop, finish, finish]
    dsimp only
    rw [getLast?_bury, List.getLast?_cons]
    simp

end Partial

/-! ### Closed texts -/

variable {cs : List Char}

/-- Behind a text that leaves nothing open, the stack has nothing but the text's fragments. -/
theorem foldl_read_of_closed (closed : openBlocks cs = 0) :
    cs.foldl Partial.read ⟨[], []⟩ = ⟨(ofChars cs).fragments.reverse, []⟩ ∧ (ofChars cs).closed = true := by
  have none : (cs.foldl Partial.read ⟨[], []⟩).outer = [] := by
    rw [← List.length_eq_zero_iff, Partial.length_outer_foldl]
    exact closed
  unfold ofChars
  generalize cs.foldl Partial.read ⟨[], []⟩ = p at none
  obtain ⟨inner, outer⟩ := p
  subst none
  simp [Partial.finish]

/-- **A text behind a closed one** is read as it is alone. -/
theorem ofChars_append (closed : openBlocks cs = 0) (ds : List Char) :
    ofChars (cs ++ ds) = ⟨(ofChars cs).fragments ++ (ofChars ds).fragments, (ofChars ds).closed⟩ := by
  obtain ⟨read, -⟩ := foldl_read_of_closed closed
  have start : (⟨(ofChars cs).fragments.reverse, []⟩ : Partial) =
      Partial.onTop (ofChars cs).fragments.reverse ⟨[], []⟩ := rfl
  rw [ofChars, List.foldl_append, read, start, Partial.foldl_read_onTop, Partial.finish_onTop, List.reverse_reverse]
  rfl

theorem openBlocks_append (closed : openBlocks cs = 0) (ds : List Char) :
    openBlocks (cs ++ ds) = openBlocks ds := by
  rw [openBlocks, List.foldl_append, ← openBlocks, closed, openBlocks]

theorem IsRead.openBlocks_eq {fs : List Fragment} (h : IsRead cs fs) : openBlocks cs = 0 := by
  have counted := Partial.length_outer_foldl cs ⟨[], []⟩
  rw [h] at counted
  exact counted.symm

end Template

/-! ## Computations that concur -/

namespace Draw

variable {σ α β : Type}

/-- The computations leave the same behind, and come to the same value or to faults of one code. -/
def Concurs (d d' : Draw σ α) : Prop :=
  ∀ r, (d.run.run r).2 = (d'.run.run r).2 ∧ Expr.Concurs (d.run.run r).1 (d'.run.run r).1

theorem Concurs.refl (d : Draw σ α) : d.Concurs d := fun _ => ⟨rfl, .refl _⟩

theorem Concurs.trans {d d' d'' : Draw σ α} (h : d.Concurs d') (h' : d'.Concurs d'') : d.Concurs d'' :=
  fun r => ⟨(h r).1.trans (h' r).1, (h r).2.trans (h' r).2⟩

theorem concurs_throw {fault fault' : Fault} (code : fault.code = fault'.code) :
    (throw fault : Draw σ α).Concurs (throw fault') :=
  fun _ => ⟨rfl, .error code⟩

/-- What concurs and goes on in ways that concur, concurs. -/
theorem Concurs.bind {d d' : Draw σ α} {f f' : α → Draw σ β} (first : d.Concurs d')
    (later : ∀ a, (f a).Concurs (f' a)) : (d >>= f).Concurs (d' >>= f') := by
  intro r
  obtain ⟨left, result⟩ := first r
  rw [run_bind, run_bind]
  generalize d.run.run r = x at left result
  generalize d'.run.run r = y at left result
  obtain ⟨x, s⟩ := x
  obtain ⟨y, s'⟩ := y
  dsimp only at left result
  subst left
  cases result with
  | ok a => exact later a s
  | error code => exact ⟨rfl, .error code⟩

theorem Concurs.bind_right (d : Draw σ α) {f f' : α → Draw σ β} (later : ∀ a, (f a).Concurs (f' a)) :
    (d >>= f).Concurs (d >>= f') :=
  (Concurs.refl d).bind later

end Draw

/-! ## Translations -/

namespace Scope

open Template

variable {ρ : Type} [PatientSource ρ] (s : Scope) {first : String}

/-- **A text behind a closed one is translated behind it.** -/
theorem translate_append (closed : openBlocks first.toList = 0) (second : String) :
    (s.translate (first ++ second) : Draw ρ String).Concurs do
      let x ← s.translate first
      let y ← s.translate second
      return x ++ y := by
  obtain ⟨-, shut⟩ := foldl_read_of_closed closed
  rw [translate, String.toList_append, ofChars_append closed, translate, translate]
  dsimp only
  simp only [expandAll_append, shut, if_true, bind_assoc]
  refine .bind_right _ fun cs => ?_
  rw [pure_bind]
  refine .bind_right _ fun ds => ?_
  rw [pure_bind]
  split
  · rw [pure_bind, String.ofList_append]
    exact .refl _
  -- The faults name different texts.
  · exact Draw.concurs_throw rfl

/-- A block stands for what the text inside it resolves to. -/
theorem translate_block {inside : String} (nested : Nested inside.toList) :
    (s.translate ("\x7b" ++ inside ++ "\x7d") : Draw ρ String) =
      s.translate inside >>= fun block => s.resolveBlock (trimChars block.toList) := by
  obtain ⟨fs, read⟩ := nested.exists_isRead
  have whole : ("\x7b" ++ inside ++ "\x7d").toList = '\x7b' :: (inside.toList ++ ['\x7d']) := by
    simp
  rw [translate, translate, whole, read.block.ofChars_eq, read.ofChars_eq]
  simp only [expandAll, expand, if_true, bind_assoc, pure_bind, String.toList_ofList, List.append_nil,
    String.ofList_toList, bind_pure]

/-- A block and another text, behind a closed text. -/
theorem translate_append_block (closed : openBlocks first.toList = 0) {inside : String}
    (nested : Nested inside.toList) (second : String) :
    (s.translate (first ++ ("\x7b" ++ inside ++ "\x7d") ++ second) : Draw ρ String).Concurs do
      let x ← s.translate first
      let block ← s.translate inside
      let v ← s.resolveBlock (trimChars block.toList)
      let y ← s.translate second
      return x ++ v ++ y := by
  obtain ⟨fs, read⟩ := nested.exists_isRead
  have shut : openBlocks (first ++ ("\x7b" ++ inside ++ "\x7d")).toList = 0 := by
    rw [String.toList_append, openBlocks_append closed]
    simpa using read.block.openBlocks_eq
  refine (s.translate_append shut second).trans ?_
  refine ((s.translate_append closed _).bind fun _ => .refl _).trans ?_
  simp only [s.translate_block nested, bind_assoc, pure_bind]
  exact .refl _

/-- A block that names a variable, and another text, behind a closed text. -/
theorem translate_append_variable (closed : openBlocks first.toList = 0) {name : String}
    (plain : ∀ c ∈ name.toList, isPlain c = true) (trimmed : IsTrimmed name.toList) (second : String) :
    (s.translate (first ++ ("\x7b" ++ ("$" ++ name) ++ "\x7d") ++ second) : Draw ρ String).Concurs do
      let x ← s.translate first
      let v ← pure (s.value name)
      let y ← s.translate second
      return x ++ v.toText ++ y := by
  have plain' : ∀ c ∈ ("$" ++ name).toList, isPlain c = true := by
    simpa using ⟨by decide, plain⟩
  have whole : ("$" ++ name).toList = '$' :: name.toList := by simp
  have inTurn := s.translate_append_block (ρ := ρ) closed (Nested.of_plain plain') second
  simp only [s.translate_plain plain', pure_bind, whole, s.resolveBlock_variable trimmed, String.ofList_toList]
    at inTurn
  simpa using inTurn

end Scope

/-! ## Translating in place -/

namespace Script.Effort

open Template

variable {ρ α β : Type}

/-- Draws from the script's source, with the names that the script has. -/
def draw (d : Scope → Draw ρ α) : Effort ρ α := fun s =>
  let drawn := (d s.scope).run.run s.random
  (drawn.1, { s with random := drawn.2 })

theorem run_draw (d : Scope → Draw ρ α) (s : Script ρ) :
    (draw d).run.run s =
      (((d s.scope).run.run s.random).1, { s with random := ((d s.scope).run.run s.random).2 }) :=
  rfl

/-- Drawing changes no name, so what is drawn later has the same names. -/
theorem draw_bind (d : Scope → Draw ρ α) (f : Scope → α → Draw ρ β) :
    draw (fun scope => d scope >>= f scope) = draw d >>= fun a => draw fun scope => f scope a := by
  refine ExceptT.ext (StateT.ext fun s => ?_)
  rw [run_draw, Draw.run_bind, Draw.run_bind, run_draw]
  rcases (d s.scope).run.run s.random with ⟨_ | a, random⟩ <;> rfl

theorem draw_concurs {d d' : Scope → Draw ρ α} (h : ∀ scope, (d scope).Concurs (d' scope)) :
    Draw.Concurs (draw d : Effort ρ α) (draw d') := by
  intro s
  obtain ⟨left, result⟩ := h s.scope s.random
  exact ⟨congrArg (fun random => { s with random := random }) left, result⟩

variable [PatientSource ρ]

/-- Replaces the blocks of a text with the numbers that the script draws. -/
def translate (text : String) : Effort ρ String := fun s => s.translate text

/-- The text that a block stands for, given by what is inside it. -/
def resolve (block : String) : Effort ρ String := draw fun scope => scope.resolveBlock (trimChars block.toList)

/-- The value of a variable. -/
def value (name : String) : Effort ρ Value := do return (← get).scope.value name

theorem translate_eq_draw (text : String) :
    (translate text : Effort ρ String) = draw fun scope => scope.translate text :=
  rfl

/-- **Texts are translated in turn.**  A text that leaves no block open, and any text behind it, are translated one
after the other; of two that fail, the first is the fault.  A text without braces is left as it is.  Between the
two, a block stands for what its inside resolves to, and the text of a variable stands there as it is. -/
theorem translates_in_turn {first : String} (closed : openBlocks first.toList = 0) (second : String) :
    Draw.Concurs (translate (first ++ second) : Effort ρ String) (do
      let x ← translate first
      let y ← translate second
      return x ++ y) ∧
    (∀ text : String, (∀ c ∈ text.toList, isPlain c = true) → (translate text : Effort ρ String) = pure text) ∧
    (∀ inside : String, Nested inside.toList →
      Draw.Concurs (translate (first ++ ("\x7b" ++ inside ++ "\x7d") ++ second) : Effort ρ String) (do
        let x ← translate first
        let block ← translate inside
        let v ← resolve block
        let y ← translate second
        return x ++ v ++ y)) ∧
    ∀ name : String, (∀ c ∈ name.toList, isPlain c = true) → IsTrimmed name.toList →
      Draw.Concurs (translate (first ++ ("\x7b" ++ ("$" ++ name) ++ "\x7d") ++ second) : Effort ρ String) (do
        let x ← translate first
        let v ← value name
        let y ← translate second
        return x ++ v.toText ++ y) := by
  refine ⟨?append, ?plain, ?block, ?named⟩
  case append =>
    have inTurn := draw_concurs fun scope => scope.translate_append (ρ := ρ) closed second
    simp only [draw_bind] at inTurn
    exact inTurn
  case plain =>
    intro text plain
    simp only [translate_eq_draw, Scope.translate_plain _ plain]
    rfl
  case block =>
    intro inside nested
    have inTurn := draw_concurs fun scope => scope.translate_append_block (ρ := ρ) closed nested second
    simp only [draw_bind] at inTurn
    exact inTurn
  case named =>
    intro name plain trimmed
    have inTurn := draw_concurs fun scope => scope.translate_append_variable (ρ := ρ) closed plain trimmed second
    simp only [draw_bind] at inTurn
    exact inTurn

/-- A script whose variable holds a text with braces. -/
def bracing : Script Listed := (Script.new ⟨[]⟩ 10).assign "x" (.str "\x7b$x\x7d")

/-- Behind a brace that closes nothing, the text of the variable is put in and not read again. -/
theorem translates_in_turn_with_braces :
    openBlocks "\x7d <".toList = 0 ∧
      (translate "\x7d <\x7b$x\x7d>").run.run bracing = (.ok "\x7d <\x7b$x\x7d>", bracing) := by
  have closed : openBlocks "\x7d <".toList = 0 := by decide
  obtain ⟨-, -, -, named⟩ := translates_in_turn (ρ := Listed) closed ">"
  have plain : ∀ c ∈ "x".toList, isPlain c = true := List.all_eq_true.mp (by decide)
  have solid : ∀ c ∈ "x".toList, isBlank c = false := by simp [isBlank]
  obtain ⟨left, result⟩ := named "x" plain (isTrimmed_of_solid solid) bracing
  refine ⟨closed, Prod.ext ?_ left⟩
  exact Expr.Concurs.eq_ok result

end Script.Effort

end Colloquy
