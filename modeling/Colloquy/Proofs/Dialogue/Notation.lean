import Mathlib
import Colloquy.Dialogue.Source
import Colloquy.Proofs.Dialogue.Markup
import Colloquy.Proofs.Dialogue.Outline

/-!
# Both notations say the same

Data and a document that describe an outline are read as dialogues that agree in all that can be asked of them
(`Outline.notations_agree`): what each response says, which keywords there are and in which order, and which of
them have one response together.

The notations share nothing but the outline in the middle.  Each is read as what it describes
(`Outline.ofJson?_of_isData`, `Outline.ofNode_of_isMarkup`), and what is made of an outline says what the outline
says (`Outline.tells_make`).  There is something to read for each outline (`Outline.isData_toFields`,
`Outline.isMarkup_toNode`).
-/

namespace Colloquy.Outline

variable {γ : Type}

theorem ofText_data {o : Outline} {text : String} {fs : List (String × Json)}
    (read : Json.ofText? text = some (.object fs)) (isData : o.IsData fs) : ofText text .data = (.ok o, []) := by
  simp only [ofText, read, Option.bind_some, ofJson?_of_isData isData]

theorem ofText_markup {o : Outline} (plain : o.Plain) {text : String} {root : Node}
    (read : Node.ofText? documentName text = .ok root) (isMarkup : o.IsMarkup root) :
    ofText text .markup = (.ok o, []) := by
  simp only [ofText, read, ofNode_of_isMarkup plain isMarkup]

/-- **Data and a document that describe an outline are read as dialogues that agree**, and they say what the
outline says, whatever else was put on the shelves before. -/
theorem notations_agree {o : Outline} (plain : o.Plain) {data markup : String} {fs : List (String × Json)}
    {root : Node} (dataRead : Json.ofText? data = some (.object fs)) (isData : o.IsData fs)
    (markupRead : Node.ofText? documentName markup = .ok root) (isMarkup : o.IsMarkup root)
    {s₁ s₂ : Shelf γ} {n₁ n₂ : Ticket → Nat} (b₁ : s₁.Balanced n₁) (b₂ : s₂.Balanced n₂) :
    ofText data .data = (.ok o, []) ∧ ofText markup .markup = (.ok o, []) ∧
      (o.make s₁).1.Agrees (o.make s₁).2 (o.make s₂).1 (o.make s₂).2 ∧
      o.Tells (o.make s₁).1 (o.make s₁).2 := by
  have tells₁ := tells_make b₁ o
  have tells₂ := tells_make b₂ o
  exact ⟨ofText_data dataRead isData, ofText_markup plain markupRead isMarkup, tells₁.agrees tells₂, tells₁⟩

/-! ### One outline in both notations -/

/-- A guard, whose second entry takes a keyword from the first. -/
def guard : Outline :=
  { name := "Guard", turnAway := 9,
    entries := [⟨["bye", ""], [.command .finish, .text "Farewell."]⟩, ⟨["job", "bye"], [.text "I guard."]⟩] }

/-- The guard in data. -/
def guardData : String :=
  "\x7b\"keywords\":[\x7b\"keywords\":[\"bye\",\"\"],\"response\":[\x7b\"command\":\"END\"\x7d,\"Farewell.\"]\x7d," ++
  "\x7b\"response\":\"I guard.\",\"keywords\":[\"job\",\"bye\"]\x7d],\"name\":\"Guard\",\"turnAwayProb\":9\x7d"

/-- The guard in markup. -/
def guardMarkup : String :=
  "<dialogue name=\"Guard\" turnaway=\"9\"><keyword name=\"bye|\"><end/>Farewell.</keyword>\n" ++
  "<keyword name=\"job|bye\">I guard.</keyword></dialogue>"

/-- The fields of the data. -/
def guardFields : List (String × Json) :=
  [("keywords", .list [
      .object [("keywords", .list [.str "bye", .str ""]),
        ("response", .list [.object [("command", .str "END")], .str "Farewell."])],
      .object [("response", .str "I guard."), ("keywords", .list [.str "job", .str "bye"])]]),
    ("name", .str "Guard"), ("turnAwayProb", .int 9)]

/-- The root of the document. -/
def guardRoot : Node :=
  .element 0 (some ⟨documentName, 1, 1⟩) "dialogue" [("name", "Guard"), ("turnaway", "9")] [
    .element 1 (some ⟨documentName, 1, 37⟩) "keyword" [("name", "bye|")] [
      .element 2 (some ⟨documentName, 1, 58⟩) "end" [] [],
      .text 3 (some ⟨documentName, 1, 64⟩) "Farewell."],
    .text 4 (some ⟨documentName, 1, 83⟩) "\n",
    .element 5 (some ⟨documentName, 2, 1⟩) "keyword" [("name", "job|bye")] [
      .text 6 (some ⟨documentName, 2, 25⟩) "I guard."]]

set_option maxRecDepth 4000 in
theorem ofText?_guardData : Json.ofText? guardData = some (.object guardFields) := by
  cbv

theorem ofText?_guardMarkup : Node.ofText? documentName guardMarkup = .ok guardRoot := by
  cbv

theorem isPlain_line {line : String} (some : line ≠ "") (trimmed : Text.trim line = line)
    (whole : '\n' ∉ line.toList) : Text.IsPlain line :=
  ⟨[line], List.cons_ne_nil _ _, by simpa using ⟨some, trimmed, whole⟩, rfl⟩

theorem plain_guard : guard.Plain where
  intro := by simp [guard]
  longIntro := by simp [guard]
  defaultAnswer := by simp [guard]
  question := by simp [guard]
  entries := by
    have farewell : Text.IsPlain "Farewell." := isPlain_line (by decide) (by decide) (by decide)
    have job : Text.IsPlain "I guard." := isPlain_line (by decide) (by decide) (by decide)
    simp only [guard, List.forall_mem_cons, List.not_mem_nil, false_implies, implies_true, and_true]
    exact ⟨⟨by decide, by decide, by simpa [Part.Plain] using farewell⟩,
      ⟨by decide, by decide, by simpa [Part.Plain] using job⟩⟩

theorem isData_guardFields : guard.IsData guardFields where
  fits := ⟨by decide, by decide, by decide⟩
  name := rfl
  pronoun := .inr ⟨rfl, rfl⟩
  prompt := .inr ⟨rfl, rfl⟩
  intro := .inr ⟨.inl rfl, rfl⟩
  longIntro := .inr ⟨.inl rfl, rfl⟩
  defaultAnswer := .inr ⟨.inl rfl, rfl⟩
  turnAway := .inl rfl
  question := .inr ⟨.inl rfl, rfl⟩
  entries := by
    refine .inl ⟨_, rfl, .cons ⟨_, rfl, ?_⟩ (.cons ⟨_, rfl, ?_⟩ .nil)⟩
    · exact ⟨⟨by decide, by decide, by decide⟩, rfl, _, rfl, .list [.command .finish, .text "Farewell."]⟩
    · exact ⟨⟨by decide, by decide, by decide⟩, rfl, _, rfl, .text "I guard."⟩

theorem isMarkup_guardRoot : guard.IsMarkup guardRoot where
  label := rfl
  name := rfl
  pronoun := .inr ⟨rfl, rfl⟩
  prompt := .inr ⟨rfl, rfl⟩
  turnAway := .inl rfl
  elements := by
    refine ⟨by decide, rfl, rfl, rfl, rfl, .inr ⟨rfl, rfl⟩, .inr ⟨rfl, rfl⟩, .inr ⟨rfl, rfl⟩, .inr ⟨rfl, rfl⟩,
      guard.entries, rfl, .cons ⟨rfl, ?_⟩ (.cons ⟨rfl, ?_⟩ .nil)⟩
    · exact .cons (.command _ _ (by decide)) (.cons (.text ..) .nil)
    · exact .cons (.text ..) .nil

theorem notations_agree_of_guard :
    ofText guardData .data = (.ok guard, []) ∧ ofText guardMarkup .markup = (.ok guard, []) ∧
      (guard.make (.new ())).1.Agrees (guard.make (.new ())).2 (guard.make (.new ())).1
        (guard.make (.new ())).2 ∧
      guard.Tells (guard.make (.new ())).1 (guard.make (.new ())).2 :=
  notations_agree plain_guard ofText?_guardData isData_guardFields ofText?_guardMarkup isMarkup_guardRoot
    (.new ()) (.new ())

end Colloquy.Outline
