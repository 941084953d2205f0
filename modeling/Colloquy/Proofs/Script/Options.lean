import Colloquy.Proofs.Script.Blocks
import Colloquy.Proofs.Script.Suspension
import Colloquy.Proofs.Text.Lowercase

/-!
# The options of a choice

An element that asks for a choice lists the characters to choose from, and keeps their lower-case forms.  Of an
answer only the ASCII letters are lower-cased.  So a listed character can be chosen as it stands just if folding
ASCII letters gives its lower-case form (`Scene.listed_choices`): an ASCII character can, and so can every other
one that is its own lower-case form, but no other capital.  Its lower-case form can be chosen even then, but for
two letters.  A capital sigma at the end of a word is kept as a final sigma, which is not the lower-case form of a
sigma by itself; and the dotted capital I has a form of two characters, of which an answer keeps the first.

### What is load-bearing

What is kept of the list consists of characters that are their own lower-case forms
(`lowerChar_of_mem_lowerAfter`), and has the form of every character of the list but the capital sigma
(`mem_lowerAfter`).  An answer is accepted if one character is in there (`Input.Request.read_choice`), so which
answers are accepted is a question about these two facts alone.

## Main definitions

* `Site.question`: what an element asks for, apart from the options.
* `Script.OffersChoice`: what comes of the answers that a listed character stands for.
-/

namespace Colloquy

open Text

/-! ## Answers to a choice -/

/-- An answer to a choice is accepted just if its first character, folded, is one of the options. -/
theorem Input.Request.read_choice {r : Input.Request} {options raw : String} {c : Char} {cs : List Char}
    (kind : r.kind = .choice) (choices : r.choices = some options) (begins : trimChars raw.toList = c :: cs) :
    r.read raw =
      if c.toLower ∈ options.toList then .ok (.str (String.ofList [c.toLower]))
      else .error (.invalidInput raw .choice ("expected one of \"" ++ options ++ "\"")) := by
  rw [read, kind]
  dsimp only
  rw [begins]
  dsimp only
  rw [choices]
  simp only [List.contains_iff_mem]

namespace Script

variable {ρ : Type} {s : Script ρ} {request : Input.Request} {raw : String}

section

variable {options : String} {c : Char} {cs : List Char} (asked : s.request? = some request)
  (kind : request.kind = .choice) (choices : request.choices = some options)

include asked kind choices

theorem takes_choice (begins : trimChars raw.toList = c :: cs) (among : c.toLower ∈ options.toList) :
    s.Takes raw (.str (String.ofList [c.toLower])) :=
  takes_of_read asked ((Input.Request.read_choice kind choices begins).trans (if_pos among))

theorem refuses_choice (begins : trimChars raw.toList = c :: cs) (missing : c.toLower ∉ options.toList) :
    s.Refuses raw :=
  refuses_of_read asked ((Input.Request.read_choice kind choices begins).trans (if_neg missing))

end

/-- How a script that waits for one of the characters of `options` answers to one of them. -/
structure OffersChoice (s : Script ρ) (options : String) (c : Char) : Prop where
  /-- Where folding ASCII letters gives the lower-case form, both ways to write it are accepted for it. -/
  folded : lowerChar c = [c.toLower] → ∀ raw ∈ [String.ofList [c], lower (String.ofList [c])],
    s.Takes raw (.str (lower (String.ofList [c])))
  /-- Everywhere else the character as it stands is refused. -/
  unfolded : lowerChar c ≠ [c.toLower] → s.Refuses (String.ofList [c])
  /-- The lower-case form is accepted for its first character, which is all of it but for the dotted capital I. -/
  lowered : (c = 'Σ' → 'σ' ∈ (lower options).toList) →
    ∃ d rest, lowerChar c = d :: rest ∧ (rest = [] ↔ c ≠ '\u0130') ∧
      s.Takes (lower (String.ofList [c])) (.str (String.ofList [d]))
  /-- The form of a capital sigma is refused if every sigma of the list is a final one. -/
  final : c = 'Σ' → 'σ' ∉ (lower options).toList → s.Refuses (lower (String.ofList [c]))

section

variable {options : String} {c d : Char} {rest : List Char}

/-- Of a lower-case form as an answer nothing is trimmed off, and its first character is not folded further. -/
theorem trimChars_lowered (solid : isBlank c = false) (form : lowerChar c = d :: rest) :
    trimChars (lower (String.ofList [c])).toList = d :: rest ∧ d.toLower = d := by
  have first : d ∈ lowerChar c := by
    rw [form]
    exact List.mem_cons_self
  constructor
  · rw [toList_lower_singleton, trimChars_of_solid fun e among => (settled_of_mem_lowerChar among).2.trans solid,
      form]
  · exact toLower_of_lowerChar_eq_self (settled_of_mem_lowerChar first).1

variable (asked : s.request? = some request) (kind : request.kind = .choice)
  (choices : request.choices = some (lower options)) (solid : isBlank c = false)

include asked kind choices solid

theorem takes_lowered (form : lowerChar c = d :: rest) (kept : d ∈ (lower options).toList) :
    s.Takes (lower (String.ofList [c])) (.str (String.ofList [d])) := by
  obtain ⟨begins, settled⟩ := trimChars_lowered solid form
  rw [← settled] at kept
  have taken := takes_choice asked kind choices begins kept
  rwa [settled] at taken

theorem refuses_lowered (form : lowerChar c = d :: rest) (missing : d ∉ (lower options).toList) :
    s.Refuses (lower (String.ofList [c])) := by
  obtain ⟨begins, settled⟩ := trimChars_lowered solid form
  rw [← settled] at missing
  exact refuses_choice asked kind choices begins missing

/-- **A choice is offered by its lower-case form.** -/
theorem offersChoice_of_request? (listed : c ∈ options.toList) : s.OffersChoice options c := by
  obtain ⟨d, rest, form, single⟩ := exists_lowerChar_cons c
  have first : d ∈ lowerChar c := by
    rw [form]
    exact List.mem_cons_self
  have sigma_first (sigma : c = 'Σ') : d = 'σ' := by
    rw [sigma, lowerChar_sigma] at first
    exact List.mem_singleton.mp first
  constructor
  case folded =>
    intro folded
    have kept : c.toLower ∈ (lower options).toList := (toLower_mem_lower_iff listed).mpr folded
    have stored : lower (String.ofList [c]) = String.ofList [c.toLower] := by
      rw [← String.toList_inj, toList_lower_singleton, folded, String.toList_ofList]
    rw [List.forall_mem_cons, List.forall_mem_singleton]
    constructor
    · rw [stored]
      exact takes_choice asked kind choices (trimChars_ofList_singleton solid) kept
    · have taken := takes_lowered asked kind choices solid folded kept
      rwa [← stored] at taken
  case unfolded =>
    intro unfolded
    exact refuses_choice asked kind choices (trimChars_ofList_singleton solid)
      (mt (toLower_mem_lower_iff listed).mp unfolded)
  case lowered =>
    intro sigma_kept
    refine ⟨d, rest, form, single, takes_lowered asked kind choices solid form ?_⟩
    -- The form of a capital sigma depends on its neighbours in the list, so the list need not have it.
    by_cases sigma : c = 'Σ'
    · rw [sigma_first sigma]
      exact sigma_kept sigma
    · rw [toList_lower]
      exact mem_lowerAfter listed sigma first
  case final =>
    intro sigma missing
    refine refuses_lowered asked kind choices solid form ?_
    rwa [sigma_first sigma]

end

end Script

/-! ## Asking for a choice -/

namespace Site

variable {ρ : Type} [PatientSource ρ] (site : Site) (n : Node)

/-- What an element asks for, apart from the options: the kind of answer, the variable that takes it, and the most
characters that it keeps. -/
def question : Draw ρ (Input.Kind × Option String × Option Nat) := do
  let name ← site.text n "type"
  let kind ← Input.Kind.read name
  let target ← site.text? n "name"
  match ← site.integer? n "maxlen" with
  | some length =>
    if length.toInt < 0 then throw (.negativeLength length)
    else return (kind, target, some length.toInt.toNat)
  | none => return (kind, target, none)

theorem request_eq_question_bind :
    (site.request n : Draw ρ Input.Request) = site.question n >>= fun (kind, target, maxLength) => do
      let options ← site.text? n "options"
      return ⟨kind, target, maxLength, options.map lower⟩ := by
  simp only [request, question, bind_assoc]
  refine bind_congr fun name => bind_congr fun kind => bind_congr fun target => bind_congr fun length => ?_
  cases length with
  | none => rfl
  | some length =>
    dsimp only
    split <;> rfl

variable {site n} {kind : Input.Kind} {target : Option String} {maxLength : Option Nat} {options : Option String}
  {r r' random : ρ}

/-- The options are read last, and kept in lower case. -/
theorem deed_input_run (asks : (site.question n).run.run r = (.ok (kind, target, maxLength), r'))
    (lists : (site.text? n "options").run.run r' = (.ok options, random)) :
    (site.deed n .input).run.run r =
      (.ok (.ask ⟨kind, target, maxLength, options.map lower⟩), random) := by
  rw [deed, request_eq_question_bind, bind_assoc, Draw.run_bind, asks]
  dsimp only
  rw [bind_assoc, Draw.run_bind, lists]
  rfl

end Site

/-- **Which of the listed characters can be chosen.**  An element that asks for a choice whose options come to a
text asks for one of the characters of its lower-case form.  While a script waits for that, every character of the
text that is not blank is accepted as it stands if folding ASCII letters gives its lower-case form, and is refused
otherwise.  Its lower-case form is accepted then, too; otherwise it is refused for a capital sigma that is listed
only at ends of words, and is accepted for its first character elsewhere. -/
theorem Scene.listed_choices {ρ η : Type} [PatientSource ρ] (host : Host η) (root script : Node) {s : Scene ρ η}
    {n : Node} {target : Option String} {maxLength : Option Nat} {options : String} {r random : ρ}
    (here : s.node? = some n) (named : Action.ofLabel? n.label = some .input)
    (asks : (Site.question ⟨root, script, s.scope⟩ n).run.run s.random =
      (.ok (.choice, target, maxLength), r))
    (lists : (Site.text? ⟨root, script, s.scope⟩ n "options").run.run r = (.ok (some options), random)) :
    let request : Input.Request := ⟨.choice, target, maxLength, some (lower options)⟩
    s.tick host root script = ({ s.past with random := random }, .shown (.input request)) ∧
      ∀ t : Script ρ, t.request? = some request →
        ∀ c ∈ options.toList, isBlank c = false → t.OffersChoice options c := by
  intro request
  constructor
  · rw [tick_of_deed here named (Site.deed_input_run asks lists)]
    rfl
  · intro t waits c listed solid
    exact Script.offersChoice_of_request? waits rfl rfl solid listed

/-! ## A poll -/

namespace Poll

/-- An element that asks for one of the options. -/
def asking (options : String) : Node :=
  .element 2 none "input" [("type", "choice"), ("name", "answer"), ("options", options)] []

/-- A block that has nothing but the question. -/
def go (options : String) : Node := .element 1 none "go" [] [asking options]

/-- A script with nothing but that block. -/
def main (options : String) : Node := .element 0 none "script" [("id", "s")] [go options]

/-- What is asked for. -/
def request (options : String) : Input.Request := ⟨.choice, some "answer", none, some (lower options)⟩

/-- The script in front of the question. -/
def started (options : String) : Script Listed :=
  ⟨{ Scope.initial with focus := [main options] }, ⟨[]⟩, 10,
    some ⟨main options, main options, .running [.block (go options)]⟩⟩

/-- The script that waits for the answer. -/
def waiting (options : String) : Script Listed :=
  (started options).withPass (.waiting (request options) [⟨go options, [], none⟩])

/-- The scene in which the question is met. -/
def facing (options : String) : Scene Listed Unit := (started options).scene [.block (go options)] ()

variable {options : String}

theorem started_of_load :
    ∃ loaded, (Script.new ⟨[]⟩ 10).load (main options) "s" none = .ok loaded ∧
      loaded.start "go" = .ok (started options) :=
  ⟨_, rfl, rfl⟩

theorem asks : (Site.question ⟨main options, main options, (facing options).scope⟩ (asking options)).run.run
    (facing options).random = (.ok (.choice, some "answer", none), (facing options).random) := by
  have choice : ∀ c ∈ "choice".toList, Template.isPlain c = true := List.all_eq_true.mp (by decide)
  have answer : ∀ c ∈ "answer".toList, Template.isPlain c = true := List.all_eq_true.mp (by decide)
  rw [Site.question, Site.text_of_plain _ rfl choice, Site.text?_of_plain _ rfl answer]
  rfl

theorem lists (plain : ∀ c ∈ options.toList, Template.isPlain c = true) :
    (Site.text? ⟨main options, main options, (facing options).scope⟩ (asking options) "options").run.run
      (facing options).random = (.ok (some options), (facing options).random) := by
  rw [Site.text?_of_plain _ rfl plain]
  rfl

/-- Called for its output, the script waits. -/
theorem next_started (plain : ∀ c ∈ options.toList, Template.isPlain c = true) :
    (started options).next Host.obliging 10 () =
      some ⟨waiting options, (), [], .ok (.input (request options))⟩ := by
  have asked : (facing options).tick Host.obliging (main options) (main options) =
      ((facing options).past, .shown (.input (request options))) :=
    Scene.tick_of_deed rfl rfl (Site.deed_input_run asks (lists plain))
  rw [Script.next_of_running rfl rfl]
  change Option.map _ ((facing options).walk Host.obliging (main options) (main options) 10 10 10) = _
  unfold Scene.walk
  rw [asked]
  rfl

end Poll

/-- Of yes and no, yes can be chosen by either letter. -/
theorem Scene.listed_choices_yes_no :
    (Poll.started "YN").next Host.obliging 10 () =
        some ⟨Poll.waiting "YN", (), [], .ok (.input (Poll.request "YN"))⟩ ∧
      lower "Y" = "y" ∧ (Poll.waiting "YN").Takes "Y" (.str "y") ∧ (Poll.waiting "YN").Takes "y" (.str "y") := by
  have plain : ∀ c ∈ "YN".toList, Template.isPlain c = true := List.all_eq_true.mp (by decide)
  obtain ⟨-, offers⟩ := Scene.listed_choices Host.obliging (Poll.main "YN") (Poll.main "YN")
    (s := Poll.facing "YN") rfl rfl Poll.asks (Poll.lists plain)
  have takes := (offers (Poll.waiting "YN") rfl 'Y' (by decide) (by decide)).folded (by decide +kernel)
  have small : lower (String.ofList ['Y']) = "y" := by decide +kernel
  rw [small] at takes
  exact ⟨Poll.next_started plain, small, takes "Y" (by simp), takes "y" (by simp)⟩

/-- A letter outside ASCII is listed as a capital, and is refused as it is listed. -/
theorem Script.exists_refused_choice :
    (∃ loaded, (Script.new ⟨[]⟩ 10).load (Poll.main "ÄB") "s" none = .ok loaded ∧
      loaded.start "go" = .ok (Poll.started "ÄB")) ∧
    (Poll.started "ÄB").next Host.obliging 10 () =
      some ⟨Poll.waiting "ÄB", (), [], .ok (.input (Poll.request "ÄB"))⟩ ∧
    'Ä' ∈ "ÄB".toList ∧ isBlank 'Ä' = false ∧ (Poll.waiting "ÄB").Refuses "Ä" := by
  have plain : ∀ c ∈ "ÄB".toList, Template.isPlain c = true := List.all_eq_true.mp (by decide)
  have listed : 'Ä' ∈ "ÄB".toList := by decide
  have solid : isBlank 'Ä' = false := by decide
  have offers : (Poll.waiting "ÄB").OffersChoice "ÄB" 'Ä' :=
    Script.offersChoice_of_request? rfl rfl rfl solid listed
  exact ⟨Poll.started_of_load, Poll.next_started plain, listed, solid, offers.unfolded (by decide +kernel)⟩

end Colloquy
