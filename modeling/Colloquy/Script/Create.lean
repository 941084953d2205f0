import Colloquy.Markup.Tree
import Colloquy.Script.State

/-!
# Scripts from sources

A script that is ready to run, from the texts of its documents.
-/

namespace Colloquy

/-- What it takes to make a script. -/
structure Script.Recipe where
  /-- The texts of the documents by name. -/
  sources : Table String
  id : String
  /-- The name and the id of the element to begin with in focus, if it is not the script's own. -/
  sub : Option (String × String)
  /-- The block to start at; without one the script is loaded and not started. -/
  label : Option String
  stepLimit : Option Nat

/-- The script of a recipe. -/
def Script.create {ρ : Type} (recipe : Script.Recipe) (random : ρ) : Except Fault (Script ρ) := do
  let root ← Node.libraryOfTexts? recipe.sources
  let fresh := Script.new random (recipe.stepLimit.getD defaultStepLimit)
  let loaded ← fresh.load root recipe.id recipe.sub
  match recipe.label with
  | some label => loaded.start label
  | none => return loaded

end Colloquy
