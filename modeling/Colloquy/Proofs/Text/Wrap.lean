import Mathlib.Data.List.Chain
import Mathlib.Data.List.Forall2
import Colloquy.Proofs.Text.Split
import Colloquy.Text.Wrap

/-!
# Rows of words

Wrapping keeps every word and respects the width.  The rows of a text are an arrangement of the parts of its words
(`IsLayout`): a word that has room in a row is one part, and a longer one is cut into parts that fill a row each, but
for the last (`IsCut`).  Rows are filled as far as words go, and a row that is wrapped again is one row
(`wrapping_keeps_words`).

### What is load-bearing

A part carries what stands before it and behind it in its word, so that the conditions on a layout can be read off
its rows alone.  Rows are made from the left with one row open; an open row holds no part with more of its word
behind it, and that is why whole words may be added to it (`hasLayout`).

## Main definitions

* `WordPart`, `WordPart.word`, `joined`: parts of words, and the text of a row of them.
* `IsCut`: a word as its parts.
* `IsRow`, `IsLayout`: rows, and how parts are arranged in rows.
* `HasLayout`: what the rows of words behind an open row are.
* `IsTidy`: a text with single spaces between its words and none around them.
-/

namespace Colloquy.Text

/-! ## Words -/

/-- A run of characters that are not blank, and of which there are some. -/
def IsWord (w : List Char) : Prop := w ≠ [] ∧ ∀ c ∈ w, isBlank c = false

theorem isWord_of_mem_words {cs w : List Char} (among : w ∈ words cs) : IsWord w := by
  obtain ⟨within, some⟩ := List.mem_filter.mp among
  exact ⟨of_decide_eq_true some, eq_false_of_mem_splitWhere within⟩

/-- A blank parts the words in front of it from those behind it. -/
theorem words_append_blank {c : Char} (blank : isBlank c = true) (cs ds : List Char) :
    words (cs ++ c :: ds) = words cs ++ words ds := by
  simp only [words, splitWhere_eq_splitOnP]
  rw [List.splitOnP_append_cons cs ds blank, List.filter_append]

theorem IsWord.words_eq {w : List Char} (h : IsWord w) : words w = [w] := by
  rw [words, splitWhere_eq_splitOnP, List.splitOnP_eq_singleton h.2]
  exact List.filter_eq_self.mpr (by simpa using h.1)

/-- The words of a text are its characters but the blanks. -/
theorem flatten_words (cs : List Char) : (words cs).flatten = cs.filter (! isBlank ·) := by
  rw [words, ← flatten_splitWhere]
  induction splitWhere isBlank cs with
  | nil => rfl
  | cons piece pieces ih =>
    rw [List.flatten_cons, ← ih]
    cases piece <;> rfl

/-! ## Parts of words -/

/-- A part of a word, with what stands before it and behind it in the word. -/
structure WordPart where
  before : List Char
  text : List Char
  behind : List Char

/-- The whole word. -/
def WordPart.word (p : WordPart) : List Char := p.before ++ p.text ++ p.behind

/-- A word that is not cut. -/
def WordPart.whole (w : List Char) : WordPart := ⟨[], w, []⟩

@[simp] theorem WordPart.word_whole (w : List Char) : (whole w).word = w := List.append_nil w

@[simp] theorem WordPart.text_whole (w : List Char) : (whole w).text = w := rfl

/-- The text of a row: its parts with a space between neighbours. -/
def joined (row : List WordPart) : List Char := [' '].intercalate (row.map WordPart.text)

/-- What is left of a word behind `before`, as its parts: what has room in a row is one part, and of what has not,
the first part fills a row. -/
inductive IsCut (width : Nat) : List Char → List Char → List WordPart → Prop where
  | rest {before w : List Char} (some : w ≠ []) (fits : w.length ≤ width) : IsCut width before w [⟨before, w, []⟩]
  | full {before text rest : List Char} {parts : List WordPart} (full : text.length = width) (more : rest ≠ [])
      (later : IsCut width (before ++ text) rest parts) :
      IsCut width before (text ++ rest) (⟨before, text, rest⟩ :: parts)

/-- A word that has room in a row is not cut. -/
theorem IsCut.eq_whole {width : Nat} {w : List Char} {parts : List WordPart} (cut : IsCut width [] w parts)
    (fits : w.length ≤ width) : parts = [.whole w] := by
  cases cut with
  | rest => rfl
  | full full more =>
    rw [List.length_append] at fits
    have := List.length_pos_iff.mpr more
    omega

theorem IsCut.flatten_text {width : Nat} {before w : List Char} {parts : List WordPart}
    (cut : IsCut width before w parts) : (parts.map WordPart.text).flatten = w := by
  induction cut with
  | rest => exact List.append_nil _
  | full full more later ih => rw [List.map_cons, List.flatten_cons, ih]

theorem joined_cons_cons (p q : WordPart) (row : List WordPart) :
    joined (p :: q :: row) = p.text ++ ' ' :: joined (q :: row) := by
  simp only [joined, List.map_cons]
  rw [List.intercalate_cons_cons, List.append_assoc]
  rfl

theorem joined_singleton (p : WordPart) : joined [p] = p.text := List.intercalate_singleton

theorem joined_append {row row' : List WordPart} (some : row ≠ []) (some' : row' ≠ []) :
    joined (row ++ row') = joined row ++ ' ' :: joined row' := by
  induction row with
  | nil => exact absurd rfl some
  | cons p row ih =>
    obtain ⟨q, row', rfl⟩ := List.exists_cons_of_ne_nil some'
    cases row with
    | nil => rw [List.singleton_append, joined_cons_cons, joined_singleton]
    | cons o row =>
      rw [List.cons_append, List.cons_append, joined_cons_cons, joined_cons_cons, ← List.cons_append,
        ih (List.cons_ne_nil o row), List.append_assoc]
      rfl

section

variable {row : List WordPart} (solid : ∀ p ∈ row, IsWord p.text)

include solid

theorem joined_ne_nil (some : row ≠ []) : joined row ≠ [] := by
  obtain ⟨p, row, rfl⟩ := List.exists_cons_of_ne_nil some
  have first := (solid p List.mem_cons_self).1
  cases row with
  | nil =>
    rw [joined_singleton]
    exact first
  | cons q row =>
    rw [joined_cons_cons]
    exact List.append_ne_nil_of_left_ne_nil first _

theorem isEmpty_joined : (joined row).isEmpty = row.isEmpty := by
  cases row with
  | nil => rfl
  | cons p row =>
    rw [List.isEmpty_cons, List.isEmpty_eq_false_iff]
    exact joined_ne_nil solid (List.cons_ne_nil p row)

/-- A word that is added to a row, with a space in front of it if it is not the first. -/
theorem joined_concat (p : WordPart) :
    (if (joined row).isEmpty then p.text else joined row ++ ' ' :: p.text) = joined (row ++ [p]) := by
  rw [isEmpty_joined solid]
  cases row with
  | nil => exact (joined_singleton p).symm
  | cons q row =>
    rw [joined_append (List.cons_ne_nil q row) (List.cons_ne_nil p []), joined_singleton]
    rfl

end

theorem length_joined_concat {row : List WordPart} (some : row ≠ []) (p : WordPart) :
    (joined (row ++ [p])).length = (joined row).length + 1 + p.text.length := by
  rw [joined_append some (List.cons_ne_nil p []), joined_singleton, List.length_append, List.length_cons]
  omega

theorem length_le_joined_concat (row : List WordPart) (p : WordPart) :
    p.text.length ≤ (joined (row ++ [p])).length := by
  cases row with
  | nil => rw [List.nil_append, joined_singleton]
  | cons q row =>
    rw [length_joined_concat (List.cons_ne_nil q row)]
    exact Nat.le_add_left _ _

theorem length_joined_le_append (row more : List WordPart) : (joined row).length ≤ (joined (row ++ more)).length := by
  cases row with
  | nil => exact Nat.zero_le _
  | cons p row =>
    cases more with
    | nil => rw [List.append_nil]
    | cons q more =>
      rw [joined_append (List.cons_ne_nil p row) (List.cons_ne_nil q more), List.length_append]
      exact Nat.le_add_right _ _

/-! ## Rows -/

/-- A row of parts of words: it is no longer than the width, the parts of a word that is cut are the first of their
rows, and those with more of the word behind them are alone in their rows. -/
structure IsRow (width : Nat) (row : List WordPart) : Prop where
  solid : ∀ p ∈ row, IsWord p.text
  fits : (joined row).length ≤ width
  fresh : ∀ p ∈ row, width < p.word.length → row.head? = some p
  alone : ∀ p ∈ row, p.behind ≠ [] → row = [p]

/-- The second row begins because it must: with the rest of a word that was cut, or with a word that has no room in
the row before it. -/
def MustBegin (width : Nat) (row next : List WordPart) : Prop :=
  ∀ p, next.head? = some p → p.before ≠ [] ∨ width < (joined row).length + 1 + p.word.length

/-- The parts are arranged in rows in their order, and no row begins before it must. -/
structure IsLayout (width : Nat) (parts : List WordPart) (layout : List (List WordPart)) : Prop where
  inOrder : layout.flatten = parts
  some : [] ∉ layout
  areRows : ∀ row ∈ layout, IsRow width row
  greedy : layout.IsChain (MustBegin width)

theorem isRow_nil (width : Nat) : IsRow width [] :=
  ⟨List.forall_mem_nil _, Nat.zero_le width, List.forall_mem_nil _, List.forall_mem_nil _⟩

/-- A part that has room in a row is a row of its own. -/
theorem isRow_singleton {width : Nat} {p : WordPart} (solid : IsWord p.text) (fits : p.text.length ≤ width) :
    IsRow width [p] where
  solid := List.forall_mem_singleton.mpr solid
  fits := by
    rw [joined_singleton]
    exact fits
  fresh := List.forall_mem_singleton.mpr fun _ => rfl
  alone := List.forall_mem_singleton.mpr fun _ => rfl

/-- A row to which words may still be added. -/
def IsOpen (row : List WordPart) : Prop := ∀ p ∈ row, p.behind = []

/-- A whole word is added to an open row. -/
theorem IsRow.concat {width : Nat} {row : List WordPart} {w : List Char} (h : IsRow width row) (isOpen : IsOpen row)
    (word : IsWord w) (fits : (joined (row ++ [.whole w])).length ≤ width) : IsRow width (row ++ [.whole w]) where
  solid := List.forall_mem_append.mpr ⟨h.solid, List.forall_mem_singleton.mpr word⟩
  fits := fits
  fresh := by
    refine List.forall_mem_append.mpr ⟨fun p among long => ?_, List.forall_mem_singleton.mpr fun long => ?_⟩
    · rw [List.head?_append, h.fresh p among long, Option.some_or]
    · -- A word in a row is no longer than the row.
      have short := length_le_joined_concat row (.whole w)
      rw [WordPart.word_whole] at long
      rw [WordPart.text_whole] at short
      omega
  alone := by
    refine List.forall_mem_append.mpr ⟨fun p among more => ?_, List.forall_mem_singleton.mpr fun more => ?_⟩
    · exact absurd (isOpen p among) more
    · exact absurd rfl more

/-- A row is put in front of a layout that must begin a row. -/
theorem IsLayout.cons {width : Nat} {parts row : List WordPart} {layout : List (List WordPart)}
    (h : IsLayout width parts layout) (isRow : IsRow width row) (some : row ≠ [])
    (must : ∀ next ∈ layout.head?, MustBegin width row next) : IsLayout width (row ++ parts) (row :: layout) where
  inOrder := congrArg (row ++ ·) h.inOrder
  some := fun among => (List.mem_cons.mp among).elim (fun none => some none.symm) h.some
  areRows := List.forall_mem_cons.mpr ⟨isRow, h.areRows⟩
  greedy := List.isChain_cons.mpr ⟨must, h.greedy⟩

/-- The rows of words behind an open row are a layout of the parts of the row and of the words, and its first row goes
on where the open row stops. -/
def HasLayout (width : Nat) (row : List WordPart) (ws : List (List Char)) : Prop :=
  ∃ cuts layout, List.Forall₂ (IsCut width []) ws cuts ∧ rows width (joined row) ws = layout.map joined ∧
    IsLayout width (row ++ cuts.flatten) layout ∧ (row ≠ [] → ∃ more rest, layout = (row ++ more) :: rest)

theorem pieces_ne_nil (width : Nat) (w : List Char) : pieces width w ≠ [] := by
  rw [pieces]
  split <;> exact List.cons_ne_nil _ _

section

variable {width : Nat} {ws : List (List Char)} {row : List WordPart} {w : List Char}

theorem HasLayout.nil (isRow : IsRow width row) : HasLayout width row [] := by
  have none : IsLayout width [] [] := ⟨rfl, List.not_mem_nil, List.forall_mem_nil _, .nil⟩
  rw [HasLayout, rows, isEmpty_joined isRow.solid]
  cases row with
  | nil => exact ⟨[], [], .nil, rfl, none, fun some => absurd rfl some⟩
  | cons p row =>
    exact ⟨[], [p :: row], .nil, rfl, none.cons isRow (List.cons_ne_nil p row) nofun,
      fun _ => ⟨[], [], by rw [List.append_nil]⟩⟩

/-- A word with room in the open row. -/
theorem HasLayout.whole (isRow : IsRow width row) (word : IsWord w)
    (fits : (joined (row ++ [.whole w])).length ≤ width) (h : HasLayout width (row ++ [.whole w]) ws) :
    HasLayout width row (w :: ws) := by
  obtain ⟨cuts, layout, areCuts, same, isLayout, begins⟩ := h
  have short : w.length ≤ width := Nat.le_trans (length_le_joined_concat row (.whole w)) fits
  have extended := joined_concat isRow.solid (.whole w)
  rw [WordPart.text_whole] at extended
  refine ⟨[.whole w] :: cuts, layout, .cons (.rest word.1 short) areCuts, ?_, ?_, fun _ => ?_⟩
  · rw [rows]
    dsimp only
    rw [extended, if_pos fits, same]
  · rw [List.flatten_cons, ← List.append_assoc]
    exact isLayout
  · obtain ⟨more, rest, rfl⟩ := begins (List.append_ne_nil_of_right_ne_nil _ (List.cons_ne_nil _ _))
    exact ⟨.whole w :: more, rest, by rw [List.append_assoc]; rfl⟩

/-- The rows of a word that begins a row, and of the words behind it: its last part stands in an open row. -/
theorem exists_layout_of_cut (positive : 0 < width) {before : List Char} (word : IsWord w)
    (later : ∀ p : WordPart, IsWord p.text → p.text.length ≤ width → p.behind = [] → HasLayout width [p] ws) :
    ∃ parts cuts layout, IsCut width before w parts ∧ List.Forall₂ (IsCut width []) ws cuts ∧
      (pieces width w).dropLast ++ rows width ((pieces width w).getLast?.getD []) ws = layout.map joined ∧
      IsLayout width (parts ++ cuts.flatten) layout ∧
      ∃ p more rest, layout = (p :: more) :: rest ∧ p.before = before ∧ p.word = before ++ w := by
  fun_induction pieces width w generalizing before with
  | case1 w whole =>
    have fits : w.length ≤ width := whole.resolve_left (Nat.pos_iff_ne_zero.mp positive)
    obtain ⟨cuts, layout, areCuts, same, isLayout, begins⟩ := later ⟨before, w, []⟩ word fits rfl
    obtain ⟨more, rest, rfl⟩ := begins (List.cons_ne_nil _ _)
    rw [joined_singleton] at same
    exact ⟨_, cuts, _, .rest word.1 fits, areCuts, same, isLayout, _, more, rest, rfl, rfl, List.append_nil _⟩
  | case2 w long ih =>
    have length : (w.take width).length = width := by
      rw [List.length_take]
      omega
    have parted : w.take width ++ w.drop width = w := List.take_append_drop width w
    have left : w.drop width ≠ [] := by
      rw [ne_eq, List.drop_eq_nil_iff]
      omega
    have wordLeft : IsWord (w.drop width) := ⟨left, fun c among => word.2 c (List.mem_of_mem_drop among)⟩
    have wordTaken : IsWord (w.take width) := by
      refine ⟨List.length_pos_iff.mp (by rwa [length]), fun c among => word.2 c (List.mem_of_mem_take among)⟩
    obtain ⟨parts, cuts, layout, isCut, areCuts, same, isLayout, p, more, rest, rfl, continues, whole⟩ :=
      @ih (before ++ w.take width) wordLeft
    obtain ⟨piece, others, split⟩ := List.exists_cons_of_ne_nil (pieces_ne_nil width (w.drop width))
    let first : WordPart := ⟨before, w.take width, w.drop width⟩
    have cut : IsCut width before w (first :: parts) := by
      have cut : IsCut width before (w.take width ++ w.drop width) (first :: parts) := .full length left isCut
      rwa [parted] at cut
    refine ⟨first :: parts, cuts, [first] :: (p :: more) :: rest, cut, areCuts, ?_, ?_, first, [], _, rfl, rfl, ?_⟩
    · rw [split, List.dropLast_cons_cons, List.getLast?_cons_cons, ← split, List.cons_append, same, List.map_cons,
        List.map_cons, List.map_cons, joined_singleton]
    · refine isLayout.cons (isRow_singleton wordTaken (Nat.le_of_eq length)) (List.cons_ne_nil _ _) ?_
      -- The next row goes on with the word.
      rintro _ ⟨⟩ _ ⟨⟩
      rw [continues]
      exact .inl (List.append_ne_nil_of_right_ne_nil _ wordTaken.1)
    · rw [WordPart.word, List.append_assoc, parted]

/-- A word with no room in the open row begins the next one. -/
theorem HasLayout.fresh (positive : 0 < width) (isRow : IsRow width row) (word : IsWord w)
    (beyond : ¬ (joined (row ++ [.whole w])).length ≤ width)
    (later : ∀ p : WordPart, IsWord p.text → p.text.length ≤ width → p.behind = [] → HasLayout width [p] ws) :
    HasLayout width row (w :: ws) := by
  obtain ⟨parts, cuts, layout, isCut, areCuts, same, isLayout, p, more, rest, rfl, -, whole⟩ :=
    @exists_layout_of_cut width ws w positive [] word later
  have extended := joined_concat isRow.solid (.whole w)
  rw [WordPart.text_whole] at extended
  rw [HasLayout, rows]
  dsimp only
  rw [extended, if_neg beyond, isEmpty_joined isRow.solid]
  cases row with
  | nil => exact ⟨parts :: cuts, _, .cons isCut areCuts, same, isLayout, fun some => absurd rfl some⟩
  | cons q row =>
    refine ⟨parts :: cuts, (q :: row) :: (p :: more) :: rest, .cons isCut areCuts, ?_, ?_, fun _ => ?_⟩
    · rw [List.map_cons, ← same]
      rfl
    · refine isLayout.cons isRow (List.cons_ne_nil q row) ?_
      -- The next row begins with the word, and the word is too long for this one.
      rintro _ ⟨⟩ _ ⟨⟩
      rw [length_joined_concat (List.cons_ne_nil q row), WordPart.text_whole] at beyond
      rw [whole]
      exact .inr (Nat.lt_of_not_le beyond)
    · exact ⟨[], _, by rw [List.append_nil]⟩

/-- **Words are laid out behind an open row.** -/
theorem hasLayout (positive : 0 < width) (areWords : ∀ w ∈ ws, IsWord w) (isRow : IsRow width row)
    (isOpen : IsOpen row) : HasLayout width row ws := by
  induction ws generalizing row with
  | nil => exact .nil isRow
  | cons w ws ih =>
    rw [List.forall_mem_cons] at areWords
    obtain ⟨word, areWords⟩ := areWords
    by_cases fits : (joined (row ++ [.whole w])).length ≤ width
    · have isOpen' : IsOpen (row ++ [.whole w]) :=
        List.forall_mem_append.mpr ⟨isOpen, List.forall_mem_singleton.mpr rfl⟩
      exact .whole isRow word fits (ih areWords (isRow.concat isOpen word fits) isOpen')
    · refine .fresh positive isRow word fits fun p solid short last => ?_
      exact ih areWords (isRow_singleton solid short) (List.forall_mem_singleton.mpr last)

end

/-! ## The text of a row -/

/-- A text with no blanks around it, and with no blanks in it but single spaces. -/
structure IsTidy (cs : List Char) : Prop where
  trimmed : IsTrimmed cs
  spaces : ∀ c ∈ cs, isBlank c = true → c = ' '
  single : cs.IsChain fun c d => isBlank c = false ∨ isBlank d = false

theorem isTidy_of_solid {cs : List Char} (solid : ∀ c ∈ cs, isBlank c = false) : IsTidy cs where
  trimmed := isTrimmed_of_solid solid
  spaces c among blank := by
    rw [solid c among] at blank
    cases blank
  single := by
    induction cs with
    | nil => exact .nil
    | cons c cs ih =>
      rw [List.forall_mem_cons] at solid
      exact List.isChain_cons.mpr ⟨fun _ _ => .inl solid.1, ih solid.2⟩

/-- A word and a space in front of a tidy text. -/
theorem IsTidy.word_append {w cs : List Char} (word : IsWord w) (tidy : IsTidy cs) (some : cs ≠ []) :
    IsTidy (w ++ ' ' :: cs) where
  trimmed := by
    refine ⟨fun c first => ?_, fun c last => ?_⟩
    · rw [List.head?_append_of_ne_nil _ word.1] at first
      exact word.2 c (List.mem_of_head? first)
    · rw [List.getLast?_append_of_ne_nil _ (List.cons_ne_nil _ _), List.getLast?_cons_of_ne_nil some] at last
      exact tidy.trimmed.last c last
  spaces := by
    refine List.forall_mem_append.mpr ⟨fun c among blank => ?_, List.forall_mem_cons.mpr ⟨fun _ => rfl, tidy.spaces⟩⟩
    rw [word.2 c among] at blank
    cases blank
  single := by
    refine (isTidy_of_solid word.2).single.append ?_ fun c last _ _ => .inl (word.2 c (List.mem_of_getLast? last))
    exact List.isChain_cons.mpr ⟨fun c first => .inr (tidy.trimmed.head c first), tidy.single⟩

theorem isTidy_joined {row : List WordPart} (solid : ∀ p ∈ row, IsWord p.text) : IsTidy (joined row) := by
  induction row with
  | nil => exact isTidy_of_solid (List.forall_mem_nil _)
  | cons p row ih =>
    rw [List.forall_mem_cons] at solid
    cases row with
    | nil =>
      rw [joined_singleton]
      exact isTidy_of_solid solid.1.2
    | cons q row =>
      rw [joined_cons_cons]
      exact (ih solid.2).word_append solid.1 (joined_ne_nil solid.2 (List.cons_ne_nil q row))

/-- The words of a row are the texts of its parts. -/
theorem words_joined {row : List WordPart} (solid : ∀ p ∈ row, IsWord p.text) :
    words (joined row) = row.map WordPart.text := by
  induction row with
  | nil => rfl
  | cons p row ih =>
    rw [List.forall_mem_cons] at solid
    cases row with
    | nil => rw [joined_singleton, solid.1.words_eq, List.map_singleton]
    | cons q row =>
      rw [joined_cons_cons, words_append_blank rfl, solid.1.words_eq, ih solid.2, List.map_cons]
      rfl

/-- What has room in one row is one row. -/
theorem rows_of_fits {width : Nat} {row more : List WordPart} (solid : ∀ p ∈ row ++ more, IsWord p.text)
    (some : row ++ more ≠ []) (fits : (joined (row ++ more)).length ≤ width) :
    rows width (joined row) (more.map WordPart.text) = [joined (row ++ more)] := by
  have solidRow : ∀ p ∈ row, IsWord p.text := fun p among => solid p (List.mem_append_left _ among)
  induction more generalizing row with
  | nil =>
    rw [List.append_nil] at some ⊢
    rw [List.map_nil, rows, isEmpty_joined solidRow, if_neg (by simpa using some)]
  | cons p more ih =>
    have split : row ++ p :: more = row ++ [p] ++ more := by rw [List.append_assoc]; rfl
    rw [split] at solid some fits ⊢
    rw [List.map_cons, rows]
    dsimp only
    rw [joined_concat solidRow p, if_pos (Nat.le_trans (length_joined_le_append _ more) fits)]
    exact ih solid some fits fun q among => solid q (List.mem_append_left _ among)

/-! ## Wrapped text -/

theorem flatten_text_cuts {width : Nat} {ws : List (List Char)} {cuts : List (List WordPart)}
    (areCuts : List.Forall₂ (IsCut width []) ws cuts) : (cuts.flatten.map WordPart.text).flatten = ws.flatten := by
  induction areCuts with
  | nil => rfl
  | cons cut _ ih =>
    rw [List.flatten_cons, List.map_append, List.flatten_append, cut.flatten_text, ih, List.flatten_cons]

/-- A row that is wrapped is one row. -/
theorem IsRow.wrap_joined {width : Nat} {row : List WordPart} (positive : 0 < width) (h : IsRow width row)
    (some : row ≠ []) : wrap width (String.ofList (joined row)) = [String.ofList (joined row)] := by
  have one : rows width [] (row.map WordPart.text) = [joined row] := @rows_of_fits width [] row h.solid some h.fits
  rw [wrap, if_neg (Nat.pos_iff_ne_zero.mp positive), String.toList_ofList, words_joined h.solid, one]
  rfl

/-- The rows of a text are those of a layout of its words; of a text without words there is one row, and it is
empty. -/
theorem exists_layout_of_wrap {width : Nat} (positive : 0 < width) (s : String) :
    ∃ cuts layout, List.Forall₂ (IsCut width []) (words s.toList) cuts ∧ IsLayout width cuts.flatten layout ∧
      wrap width s = if layout = [] then [""] else layout.map fun row => String.ofList (joined row) := by
  have areWords : ∀ w ∈ words s.toList, IsWord w := fun _ => isWord_of_mem_words
  obtain ⟨cuts, layout, areCuts, same, isLayout, -⟩ :=
    hasLayout positive areWords (isRow_nil width) (List.forall_mem_nil _)
  refine ⟨cuts, layout, areCuts, isLayout, ?_⟩
  change rows width [] (words s.toList) = layout.map joined at same
  rw [wrap, if_neg (Nat.pos_iff_ne_zero.mp positive), same]
  cases layout with
  | nil => rfl
  | cons row layout => exact (List.map_map ..).trans (if_neg (List.cons_ne_nil _ _)).symm

/-- **Wrapping keeps every word and respects the width.**  The rows of a text are a layout of the parts of its words:
a word that has no more characters than the width is one part, and a longer one begins a row and is cut into parts
that fill a row each and a rest that is not empty; and no row begins before it must.  There is at least one row.
Every row has at most as many characters as the width, has single spaces between its words and none around them, and
is the only row when it is wrapped again.  Without blanks the rows are the text without blanks. -/
theorem wrapping_keeps_words {width : Nat} (positive : 1 ≤ width) (s : String) :
    (∃ cuts layout, List.Forall₂ (IsCut width []) (words s.toList) cuts ∧ IsLayout width cuts.flatten layout ∧
      wrap width s = if layout = [] then [""] else layout.map fun row => String.ofList (joined row)) ∧
    (∀ w parts, IsCut width [] w parts → w.length ≤ width → parts = [.whole w]) ∧
    wrap width s ≠ [] ∧
    (∀ row ∈ wrap width s, row.length ≤ width ∧ IsTidy row.toList ∧ wrap width row = [row]) ∧
    (wrap width s).flatMap (fun row => row.toList.filter (! isBlank ·)) = s.toList.filter (! isBlank ·) := by
  obtain ⟨cuts, layout, areCuts, isLayout, same⟩ := exists_layout_of_wrap positive s
  refine ⟨⟨cuts, layout, areCuts, isLayout, same⟩, fun _ _ => IsCut.eq_whole, ?some, ?each, ?all⟩
  case some =>
    rw [same]
    split
    · exact List.cons_ne_nil _ _
    · next some => simpa using some
  case each =>
    rw [same]
    split
    · refine List.forall_mem_singleton.mpr ⟨Nat.zero_le _, isTidy_of_solid (List.forall_mem_nil _), ?_⟩
      rw [wrap, if_neg (Nat.pos_iff_ne_zero.mp positive)]
      rfl
    · refine List.forall_mem_map.mpr fun row among => ?_
      have isRow := isLayout.areRows row among
      have some : row ≠ [] := fun none => isLayout.some (none ▸ among)
      rw [String.length_ofList, String.toList_ofList]
      exact ⟨isRow.fits, isTidy_joined isRow.solid, isRow.wrap_joined positive some⟩
  case all =>
    have parts : layout.flatMap (fun row => (joined row).filter (! isBlank ·)) = s.toList.filter (! isBlank ·) := by
      have row : ∀ row ∈ layout, (joined row).filter (! isBlank ·) = (row.map WordPart.text).flatten := by
        intro row among
        rw [← flatten_words, words_joined (isLayout.areRows row among).solid]
      rw [← flatten_words, ← flatten_text_cuts areCuts, ← isLayout.inOrder, List.flatMap_congr row]
      simp [List.flatMap, List.map_flatten, List.flatten_flatten, Function.comp_def]
    rw [same, ← parts]
    split
    · next none =>
      rw [none]
      rfl
    · simp [List.flatMap_map]

/-- A word longer than a row is cut, and its first part is a row that stays as it is. -/
theorem wrapping_keeps_words_of_bowyer :
    1 ≤ 4 ∧ "abcd" ∈ wrap 4 "ok abcdefg" ∧ wrap 4 "abcd" = ["abcd"] ∧
      (wrap 4 "ok abcdefg").flatMap (fun row => row.toList.filter (! isBlank ·)) = "okabcdefg".toList := by
  have four : 1 ≤ 4 := by decide
  obtain ⟨-, -, -, each, all⟩ := wrapping_keeps_words four "ok abcdefg"
  have among : "abcd" ∈ wrap 4 "ok abcdefg" := by decide +kernel
  exact ⟨four, among, (each "abcd" among).2.2, all⟩

end Colloquy.Text
