import Colloquy.Proofs.Document.Search
import Colloquy.Proofs.Script.Blocks
import Colloquy.Proofs.Script.Coherence
import Colloquy.Proofs.Script.Iteration

/-!
# Redirects

A redirect names an element and possibly an id, and goes on in the first such element below the script's element,
failing that in the first one of the whole document.  If the document has none, it looks for a default id in the
same way, and if there is none of that either, it fails (`redirect_leads_to_first`).

### What is load-bearing

The searches are those of `Node.findBelow?`, and `Node.findBelow?_eq_iff` says what they find.  That the document has
none below its root is decided by the second of the two searches alone: the script's element is in the document, so
what is not found below the root is not found below it.

## Main definitions

* `Site.Leads`: where the search in the script and then in the document leads.
* `Site.Aims`: the redirect's attributes have been read.
* `Site.target?`: the element that the redirect leads to.
* `Scene.Redirects`: what one iteration at the redirect does.
-/

namespace Colloquy

open Node (Wanted)

namespace Site

/-- A search for a name and an id leads to what it finds below the script's element, or to what it finds below the
document's root if it finds nothing there. -/
inductive Leads (site : Site) (label : String) (id : Option String) : Option Node → Prop where
  | inScript {m : Node} (first : (Wanted.byId label id).Finds site.script.below? (some m)) :
      site.Leads label id (some m)
  | inDocument {found : Option Node} (missing : (Wanted.byId label id).Finds site.script.below? none)
      (first : (Wanted.byId label id).Finds site.root.below? found) : site.Leads label id found

variable {site : Site} {label : String} {id fallback : Option String} {n : Node} {found : Option Node}

theorem Leads.locate?_eq (leads : site.Leads label id found) : site.locate? label id = found := by
  unfold locate?
  cases leads with
  | inScript first => rw [Node.findBelow?_eq_iff.mpr first]
  | inDocument missing first => rw [Node.findBelow?_eq_iff.mpr missing, Node.findBelow?_eq_iff.mpr first]

/-- Nothing is located just if there is nothing below the root. -/
theorem locate?_eq_none_iff (within : site.script ∈ site.root.subtree) :
    site.locate? label id = none ↔ (Wanted.byId label id).Finds site.root.below? none := by
  rw [← Node.findBelow?_eq_iff]
  constructor
  · intro missing
    unfold locate? at missing
    split at missing
    · cases missing
    · exact missing
  · intro missing
    rw [locate?, Node.findBelow?_eq_none_of_mem_subtree within missing, missing]

/-- The element that a redirect leads to. -/
def target? (site : Site) (label : String) (id fallback : Option String) : Option Node :=
  (site.locate? label id).or (fallback.bind fun other => site.locate? label (some other))

theorem target?_eq_none_iff (within : site.script ∈ site.root.subtree) :
    site.target? label id fallback = none ↔
      (Wanted.byId label id).Finds site.root.below? none ∧
        ∀ other, fallback = some other → (Wanted.byId label (some other)).Finds site.root.below? none := by
  rw [target?, Option.or_eq_none_iff, locate?_eq_none_iff within, Option.bind_eq_none_iff]
  simp only [locate?_eq_none_iff within]

variable {ρ : Type} [PatientSource ρ] {r random : ρ}

/-- The attributes of a redirect are read in turn, with these texts. -/
def Aims (site : Site) (n : Node) (r : ρ) (label : String) (id fallback : Option String) (random : ρ) : Prop :=
  ∃ r₁ r₂, (site.text n "target").run.run r = (.ok label, r₁) ∧ (site.text? n "id").run.run r₁ = (.ok id, r₂) ∧
    (site.text? n "default").run.run r₂ = (.ok fallback, random)

/-- A redirect whose attributes have been read leads to its target or fails. -/
theorem Aims.destination_run (aims : site.Aims n r label id fallback random) :
    (site.destination n).run.run r =
      match site.target? label id fallback with
      | some target => (.ok target, random)
      | none => (.error (.noRedirect n.describe label id), random) := by
  obtain ⟨r₁, r₂, named, identified, defaulted⟩ := aims
  rw [destination, Draw.run_bind, named]
  dsimp only
  rw [Draw.run_bind, identified]
  dsimp only
  rw [Draw.run_bind, defaulted]
  dsimp only
  rw [target?]
  cases site.locate? label id with
  | some target => rfl
  | none =>
    cases fallback with
    | none => rfl
    | some other =>
      dsimp only [Option.none_or, Option.bind_some]
      cases site.locate? label (some other) <;> rfl

end Site

namespace Scene

variable {ρ η : Type} [PatientSource ρ]

/-- At this redirect the scene goes on in the first element of the name and the id, below the script's element or
failing that below the root; only if there is none below the root, in the first one of the default id.  It fails
exactly if there is none of either. -/
structure Redirects (host : Host η) (root script : Node) (s : Scene ρ η) (n : Node) (label : String)
    (id fallback : Option String) (random : ρ) : Prop where
  named : ∀ m, Site.Leads ⟨root, script, s.scope⟩ label id (some m) →
    s.tick host root script = (({ s.past with random := random } : Scene ρ η).jump m, .quiet)
  default : (Wanted.byId label id).Finds root.below? none → ∀ other, fallback = some other →
    ∀ m, Site.Leads ⟨root, script, s.scope⟩ label (some other) (some m) →
      s.tick host root script = (({ s.past with random := random } : Scene ρ η).jump m, .quiet)
  fails : (∃ fault, (s.tick host root script).2 = .failed fault) ↔
    (Wanted.byId label id).Finds root.below? none ∧
      ∀ other, fallback = some other → (Wanted.byId label (some other)).Finds root.below? none
  report : ∀ fault, (s.tick host root script).2 = .failed fault →
    s.tick host root script = ({ s.past with random := random }, .failed (.noRedirect n.describe label id))

variable {host : Host η} {root script : Node} {s : Scene ρ η} {n : Node} {label : String}
  {id fallback : Option String} {random : ρ}

/-- One iteration at a redirect. -/
theorem tick_of_aims (host : Host η) (here : s.node? = some n) (redirect : Action.ofLabel? n.label = some .redirect)
    (aims : Site.Aims ⟨root, script, s.scope⟩ n s.random label id fallback random) :
    s.tick host root script =
      match Site.target? ⟨root, script, s.scope⟩ label id fallback with
      | some m => (({ s.past with random := random } : Scene ρ η).jump m, .quiet)
      | none => ({ s.past with random := random }, .failed (.noRedirect n.describe label id)) := by
  have leads := aims.destination_run
  cases target : Site.target? ⟨root, script, s.scope⟩ label id fallback with
  | some m =>
    have deed : (Site.deed ⟨root, script, s.scope⟩ n .redirect).run.run s.random = (.ok (.jump m), random) := by
      rw [Site.deed, Draw.run_bind, leads, target]
      rfl
    exact tick_of_deed here redirect deed
  | none =>
    have deed : (Site.deed ⟨root, script, s.scope⟩ n .redirect).run.run s.random =
        (.error (.noRedirect n.describe label id), random) := by
      rw [Site.deed, Draw.run_bind, leads, target]
    exact tick_of_fault here redirect deed

/-- A redirect does what its searches find. -/
theorem redirects (within : script ∈ root.subtree) (here : s.node? = some n)
    (redirect : Action.ofLabel? n.label = some .redirect)
    (aims : Site.Aims ⟨root, script, s.scope⟩ n s.random label id fallback random) :
    s.Redirects host root script n label id fallback random := by
  have tick := tick_of_aims host here redirect aims
  have missing : Site.target? ⟨root, script, s.scope⟩ label id fallback = none ↔ _ :=
    Site.target?_eq_none_iff within
  refine ⟨fun m leads => ?_, fun none other given m leads => ?_, ?_, fun fault failed => ?_⟩
  · have target : Site.target? ⟨root, script, s.scope⟩ label id fallback = some m := by
      rw [Site.target?, leads.locate?_eq, Option.some_or]
    rw [tick, target]
  · have target : Site.target? ⟨root, script, s.scope⟩ label id fallback = some m := by
      rw [Site.target?, (Site.locate?_eq_none_iff within).mpr none, given, Option.none_or, Option.bind_some,
        leads.locate?_eq]
    rw [tick, target]
  · rw [← missing, tick]
    cases Site.target? ⟨root, script, s.scope⟩ label id fallback <;> simp
  · rw [tick] at failed ⊢
    cases target : Site.target? ⟨root, script, s.scope⟩ label id fallback with
    | some m =>
      rw [target] at failed
      cases failed
    | none => rfl

end Scene

/-- **A search finds the first answer in document order, and redirects rest on it.**  A search below a node gives
the first answer below it, and nothing only if there is none.  So in a script that can come about, a redirect whose
attributes have been read goes on in the first element of the target's name and id below the script's element,
failing that in the first one below the document's root; only if there is none below the root it looks for the
default id; and it fails exactly if there is none of that either. -/
theorem redirect_leads_to_first :
    (∀ (n : Node) (w : Wanted) (found : Option Node), n.findBelow? w = found ↔ w.Finds n.below? found) ∧
      ∀ {ρ η : Type} [PatientSource ρ] (s : Script ρ) (p : Play) (host : Host η) (t : Scene ρ η) (n : Node)
        (label : String) (id fallback : Option String) (random : ρ), s.Reachable → s.play = some p →
        t.node? = some n → Action.ofLabel? n.label = some .redirect →
        Site.Aims ⟨p.root, p.script, t.scope⟩ n t.random label id fallback random →
        t.Redirects host p.root p.script n label id fallback random := by
  refine ⟨fun n w found => Node.findBelow?_eq_iff, ?_⟩
  intro ρ η _ s p host t n label id fallback random reachable loaded here redirect aims
  exact Scene.redirects (reachable.sound.loaded p loaded).script_mem here redirect aims

/-! ## A crossing -/

namespace Crossing

/-- A redirect to the way home. -/
def redirect : Node := .element 5 none "redirect" [("target", "way"), ("id", "home"), ("default", "inn")] []

/-- A block that has nothing but the redirect. -/
def go : Node := .element 4 none "go" [] [redirect]

/-- A way home inside something else. -/
def home : Node := .element 7 none "way" [("id", "Home")] [.text 8 none "Home at last."]

/-- A script in which a second way home stands behind the first. -/
def main : Node :=
  .element 3 none "script" [("id", "main")]
    [go, .element 6 none "wood" [] [home], .element 9 none "way" [("id", "home")] []]

/-- A library in which another script with a way home stands in front of it. -/
def library : Node :=
  .element 0 none "library" []
    [.element 1 none "script" [("id", "other")] [.element 2 none "way" [("id", "home")] []], main]

/-- The script `main` in front of the redirect. -/
def facing : Scene Listed Unit := ⟨{ Scope.initial with focus := [main] }, ⟨[]⟩, [.block go], (), []⟩

theorem aims : Site.Aims ⟨library, main, facing.scope⟩ redirect facing.random "way" (some "home") (some "inn")
    facing.random := by
  have plain : ∀ c ∈ "way".toList ++ "home".toList ++ "inn".toList, Template.isPlain c = true :=
    List.all_eq_true.mp (by decide)
  simp only [List.mem_append] at plain
  refine ⟨facing.random, facing.random, ?_, ?_, ?_⟩
  · rw [Site.text_of_plain _ rfl fun c among => plain c (.inl (.inl among))]
    rfl
  · rw [Site.text?_of_plain _ rfl fun c among => plain c (.inl (.inr among))]
    rfl
  · rw [Site.text?_of_plain _ rfl fun c among => plain c (.inr among)]
    rfl

end Crossing

/-- The redirect goes on in the way home that is inside something else: it is in the script, and in front of the
other one there. -/
theorem redirect_leads_to_first_at_crossing :
    ∃ s : Script Listed, s.Reachable ∧ s.play = some ⟨Crossing.library, Crossing.main, .idle⟩ ∧
      Crossing.facing.tick Host.obliging Crossing.library Crossing.main =
        (Crossing.facing.past.jump Crossing.home, .quiet) := by
  have fresh : (Script.new (⟨[]⟩ : Listed) 10).Reachable := .new _ _
  have loaded := fresh.load (show (Script.new _ _).load Crossing.library "main" none = .ok _ from rfl)
  obtain ⟨searches, redirects⟩ := redirect_leads_to_first
  have first := (searches Crossing.main (.byId "way" (some "home")) (some Crossing.home)).mp rfl
  have leads := redirects _ _ Host.obliging Crossing.facing _ _ _ _ _ loaded rfl rfl rfl Crossing.aims
  exact ⟨_, loaded, rfl, leads.named Crossing.home (.inScript first)⟩

end Colloquy
