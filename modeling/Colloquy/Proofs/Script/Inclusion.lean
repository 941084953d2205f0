import Colloquy.Proofs.Document
import Colloquy.Proofs.Script.Blocks
import Colloquy.Proofs.Script.Iteration
import Colloquy.Proofs.Script.Outcome

/-!
# Inclusions and loading

Loading a document and including a script look for the same element: a script with the id that is asked for, the
letter case of ASCII letters aside.  Both take the first one below the document's root, in document order.  But
loading looks at the root itself first, and an inclusion does not; so the two find the same element unless the
root is the script that is asked for.  Then the inclusion finds another script of that id further down, or none
(`Scene.inclusion_finds_loaded`).

### What is load-bearing

What an inclusion does is decided by one search, for the script and for the block in it (`Site.included?`), before
it enters anything.  The root is never found by a search below it, because what is below a node is smaller.

## Main definitions

* `Node.isScript`: whether an element is the script with an id.
* `Site.included?`: the node whose content is included.
* `Scene.Includes`: what an inclusion of a script does.
-/

namespace Colloquy

/-! ## Searches -/

/-- The element is the script with this id. -/
def Node.isScript (n : Node) (id : String) : Bool := n.label == "script" && n.hasAttribute "id" id

/-- A search below a node does not find the node. -/
theorem Node.ne_of_findBelow? {n m : Node} {w : Wanted} (h : n.findBelow? w = some m) : m ≠ n := by
  rintro rfl
  exact Nat.lt_irrefl _ (size_lt_of_mem_descendants (mem_descendants_of_findBelow? h))

namespace Script

theorem findScript?_of_isScript {root : Node} {id : String} (h : root.isScript id = true) :
    findScript? root id = some root :=
  if_pos h

/-- Where the root is not the script, loading searches below it. -/
theorem findScript?_of_not_isScript {root : Node} {id : String} (h : root.isScript id = false) :
    findScript? root id = root.findBelow? (.byId "script" (some id)) := by
  rw [findScript?, if_neg]
  rw [Node.isScript] at h
  simp [h]

/-- Loading without a node of its own to be in focus brings the script into focus. -/
theorem exists_of_load_none {ρ : Type} {s s' : Script ρ} {root : Node} {id : String}
    (done : s.load root id none = .ok s') :
    ∃ found, findScript? root id = some found ∧
      s' = { s with scope := { s.scope with focus := [found] }, play := some ⟨root, found, .idle⟩ } := by
  unfold load at done
  cases found : findScript? root id with
  | none =>
    rw [found] at done
    cases done
  | some script =>
    rw [found] at done
    cases done
    exact ⟨script, rfl, rfl⟩

end Script

/-! ## Inclusions -/

namespace Site

/-- The node whose content is included: the script with this id below the root, or the first block of a name in
it. -/
def included? (root : Node) (id : String) (block : Option String) : Option Node := do
  let script ← root.findBelow? (.byId "script" (some id))
  match block with
  | some label => script.findBelow? (.byId label none)
  | none => some script

variable {ρ : Type} [PatientSource ρ] (site : Site) {n : Node} {id : String} {block : Option String} {r random : ρ}

theorem included_of_plain (given : n.attribute? "script" = some id)
    (plain : ∀ c ∈ id.toList, Template.isPlain c = true) :
    (site.included n : Draw ρ Node) = site.text? n "block" >>= fun block =>
      match included? site.root id block with
      | some target => pure target
      | none => throw (.noInclude n.describe id block) := by
  rw [included, site.text_of_plain given plain, pure_bind]
  rfl

/-- An inclusion whose id is written without braces runs what is found, and fails where nothing is. -/
theorem deed_inclusion_run (given : n.attribute? "script" = some id)
    (plain : ∀ c ∈ id.toList, Template.isPlain c = true)
    (named : (site.text? n "block").run.run r = (.ok block, random)) :
    (site.deed n .inclusion).run.run r =
      match included? site.root id block with
      | some target => (.ok (.enter (.block target)), random)
      | none => (.error (.noInclude n.describe id block), random) := by
  rw [deed, site.included_of_plain given plain, bind_assoc, Draw.run_bind, named]
  dsimp only
  cases included? site.root id block <;> rfl

end Site

namespace Scene

variable {ρ η : Type} [PatientSource ρ]

/-- At this element the script `found` is included under the id: its content is run or, if the element names a
block, that of the first block of the name below it.  The element fails only if there is no such block. -/
structure Includes (host : Host η) (root script : Node) (s : Scene ρ η) (n : Node) (id : String) (found : Node) :
    Prop where
  whole : n.attribute? "block" = none → s.tick host root script = (s.past.enter (.block found), .quiet)
  part : ∀ label block random,
    (Site.text? ⟨root, script, s.scope⟩ n "block").run.run s.random = (.ok (some label), random) →
    found.findBelow? (.byId label none) = some block →
    s.tick host root script = ({ s.past with random := random }.enter (.block block), .quiet)
  missing : ∀ label random,
    (Site.text? ⟨root, script, s.scope⟩ n "block").run.run s.random = (.ok (some label), random) →
    found.findBelow? (.byId label none) = none →
    s.tick host root script =
      ({ s.past with random := random }, .failed (.noInclude n.describe id (some label)))

section

variable {host : Host η} {root script : Node} {s : Scene ρ η} {n : Node} {id : String} {block : Option String}
  {random : ρ}

/-- One iteration at an inclusion. -/
theorem tick_of_inclusion (here : s.node? = some n) (named : Action.ofLabel? n.label = some .inclusion)
    (given : n.attribute? "script" = some id) (plain : ∀ c ∈ id.toList, Template.isPlain c = true)
    (asked : (Site.text? ⟨root, script, s.scope⟩ n "block").run.run s.random = (.ok block, random)) :
    s.tick host root script =
      match Site.included? root id block with
      | some target => ({ s.past with random := random }.enter (.block target), .quiet)
      | none => ({ s.past with random := random }, .failed (.noInclude n.describe id block)) := by
  have runs := Site.deed_inclusion_run ⟨root, script, s.scope⟩ given plain asked
  dsimp only at runs
  cases found : Site.included? root id block with
  | some target =>
    rw [found] at runs
    exact tick_of_deed here named runs
  | none =>
    rw [found] at runs
    exact tick_of_fault here named runs

/-- The script that a search below the root finds is the one that is included. -/
theorem includes_of_findBelow? {found : Node} (here : s.node? = some n)
    (named : Action.ofLabel? n.label = some .inclusion) (given : n.attribute? "script" = some id)
    (plain : ∀ c ∈ id.toList, Template.isPlain c = true)
    (first : root.findBelow? (.byId "script" (some id)) = some found) :
    s.Includes host root script n id found := by
  have finds (block : Option String) : Site.included? root id block =
      match block with
      | some label => found.findBelow? (.byId label none)
      | none => some found := by
    rw [Site.included?, first]
    rfl
  constructor
  · intro unnamed
    have asked : (Site.text? ⟨root, script, s.scope⟩ n "block").run.run s.random = (.ok none, s.random) := by
      rw [Site.text?, unnamed]
      rfl
    rw [tick_of_inclusion here named given plain asked, finds]
    rfl
  · intro label block random asked there
    rw [tick_of_inclusion here named given plain asked, finds]
    dsimp only
    rw [there]
  · intro label random asked missing
    rw [tick_of_inclusion here named given plain asked, finds]
    dsimp only
    rw [missing]

/-- Without a script of that id below the root, the inclusion fails. -/
theorem tick_of_findBelow?_eq_none (here : s.node? = some n)
    (named : Action.ofLabel? n.label = some .inclusion) (given : n.attribute? "script" = some id)
    (plain : ∀ c ∈ id.toList, Template.isPlain c = true)
    (missing : root.findBelow? (.byId "script" (some id)) = none)
    (asked : (Site.text? ⟨root, script, s.scope⟩ n "block").run.run s.random = (.ok block, random)) :
    s.tick host root script =
      ({ s.past with random := random }, .failed (.noInclude n.describe id block)) := by
  rw [tick_of_inclusion here named given plain asked, Site.included?, missing]
  rfl

end

/-- **An inclusion finds the script that loading finds, unless that is the root.**  Where loading by an id selects
an element, an inclusion of that id in the same document includes the same element if the root is not itself the
script.  If it is, loading selects the root, and the inclusion includes the first script of the id below the root,
which is another one, or fails if there is none. -/
theorem inclusion_finds_loaded (host : Host η) (root script : Node) {s : Scene ρ η} {n : Node} {id : String}
    (here : s.node? = some n) (named : Action.ofLabel? n.label = some .inclusion)
    (given : n.attribute? "script" = some id) (plain : ∀ c ∈ id.toList, Template.isPlain c = true) {σ : Type}
    {t t' : Script σ} (loads : t.load root id none = .ok t') :
    ∃ found, t'.play = some ⟨root, found, .idle⟩ ∧ t'.scope.focus = [found] ∧
      (root.isScript id = false → s.Includes host root script n id found) ∧
      (root.isScript id = true → found = root ∧
        (∀ other, root.findBelow? (.byId "script" (some id)) = some other →
          other ≠ root ∧ s.Includes host root script n id other) ∧
        (root.findBelow? (.byId "script" (some id)) = none → ∀ block random,
          (Site.text? ⟨root, script, s.scope⟩ n "block").run.run s.random = (.ok block, random) →
          s.tick host root script =
            ({ s.past with random := random }, .failed (.noInclude n.describe id block)))) := by
  obtain ⟨found, selects, rfl⟩ := Script.exists_of_load_none loads
  refine ⟨found, rfl, rfl, fun other => ?below, fun itself => ⟨?root, ?further, ?nowhere⟩⟩
  case below =>
    rw [Script.findScript?_of_not_isScript other] at selects
    exact includes_of_findBelow? here named given plain selects
  case root =>
    rw [Script.findScript?_of_isScript itself, Option.some.injEq] at selects
    exact selects.symm
  case further =>
    intro other first
    exact ⟨Node.ne_of_findBelow? first, includes_of_findBelow? here named given plain first⟩
  case nowhere =>
    intro missing block random asked
    exact tick_of_findBelow?_eq_none here named given plain missing asked

end Scene

/-! ## A farewell -/

namespace Parting

/-- An element that includes the block `farewell` of the script `common`. -/
def inclusion : Node := .element 5 none "include" [("script", "common"), ("block", "farewell")] []

/-- The script `common`, with a block to be included and whatever else there is. -/
def common (others : List Node) : Node :=
  .element 1 none "script" [("id", "common")]
    (.element 2 none "farewell" [] [.text 3 none "Fare thee well."] :: others)

/-- A block that has nothing but the inclusion. -/
def go : Node := .element 6 none "go" [] [inclusion]

/-- A script with nothing but that block. -/
def main : Node := .element 4 none "script" [("id", "main")] [go]

/-- The script `main` in front of the inclusion. -/
def facing : Scene Listed Unit := ⟨{ Scope.initial with focus := [main] }, ⟨[]⟩, [.block go], (), []⟩

theorem plain_common : ∀ c ∈ "common".toList, Template.isPlain c = true := List.all_eq_true.mp (by decide)

theorem asked (root : Node) :
    (Site.text? ⟨root, main, facing.scope⟩ inclusion "block").run.run facing.random =
      (.ok (some "farewell"), facing.random) := by
  have plain : ∀ c ∈ "farewell".toList, Template.isPlain c = true := List.all_eq_true.mp (by decide)
  rw [Site.text?_of_plain _ rfl plain]
  rfl

end Parting

/-- In a library of both scripts, the block is run that is in the script that loading selects. -/
theorem Scene.inclusion_finds_loaded_in_library :
    let root : Node := .element 0 none "library" [] [Parting.common [], Parting.main]
    ∃ found block, Script.findScript? root "common" = some found ∧
      found.findBelow? (.byId "farewell" none) = some block ∧
      Parting.facing.tick Host.obliging root Parting.main =
        (Parting.facing.past.enter (.block block), .quiet) := by
  intro root
  have loads : (Script.new (⟨[]⟩ : Listed) 10).load root "common" none = .ok _ := rfl
  obtain ⟨found, play, -, includes, -⟩ := Scene.inclusion_finds_loaded Host.obliging root Parting.main
    (s := Parting.facing) rfl rfl rfl Parting.plain_common loads
  cases play
  exact ⟨_, _, rfl, rfl, (includes rfl).part "farewell" _ _ (Parting.asked root) rfl⟩

/-- A script that has the other one inside: loading by the id of the outer one selects it, and the block is there,
but the inclusion by that id fails. -/
theorem Script.exists_unincluded_root :
    let root : Node := Parting.common [Parting.main]
    ∃ (s loaded started : Script Listed) (block : Node),
      (Script.new ⟨[]⟩ 10).load root "common" none = .ok s ∧ s.play = some ⟨root, root, .idle⟩ ∧
      root.findBelow? (.byId "farewell" none) = some block ∧
      (Script.new ⟨[]⟩ 10).load root "main" none = .ok loaded ∧ loaded.start "go" = .ok started ∧
      (started.next Host.obliging 10 ()).map Advance.result =
        some (.error (.noInclude Parting.inclusion.describe "common" (some "farewell"))) := by
  intro root
  have fails : Parting.facing.tick Host.obliging root Parting.main =
      (Parting.facing.past, .failed (.noInclude Parting.inclusion.describe "common" (some "farewell"))) :=
    Scene.tick_of_findBelow?_eq_none rfl rfl rfl Parting.plain_common rfl (Parting.asked root)
  have walked : Parting.facing.walk Host.obliging root Parting.main 10 10 10 =
      some (Parting.facing.past, .error (.noInclude Parting.inclusion.describe "common" (some "farewell"))) := by
    unfold Scene.walk
    rw [fails]
  refine ⟨_, _, _, _, rfl, rfl, rfl, rfl, rfl, ?_⟩
  rw [next_of_running rfl rfl]
  change Option.map _ (Option.map _ (Parting.facing.walk Host.obliging root Parting.main 10 10 10)) = _
  rw [walked]
  rfl

end Colloquy
