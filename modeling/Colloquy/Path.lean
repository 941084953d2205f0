import Colloquy.Text.Trim

/-!
# Paths

A path names a file by the folders that lead to it, with a slash between neighbours.  It is kept as the
text in which it was given, because that text is what messages quote.

## Main definitions

* `Path.isAbsolute`, `Path.join`: where a path starts.
* `Path.steps`: the names to follow one after another.
* `Path.fileName?`, `Path.ending?`: what the path alone says about the file it leads to.
-/

namespace Colloquy.Path

open Text

/-- Whether a path starts at the root. -/
def isAbsolute (path : String) : Bool := path.toList.head? == some '/'

/-- A path that is followed from a folder.  There is one slash between the two, also if the path is
empty. -/
def join (folder path : String) : String :=
  if folder.toList.getLast? = some '/' then folder ++ path else folder ++ "/" ++ path

/-- The names to follow one after another.  An empty name, like a dot, stays where it is. -/
def steps (path : String) : List String := splitOn '/' path

/-- Whether a step says nothing about where the path leads. -/
def isIdle (step : String) : Bool := step == "" || step == "."

/-- The name of the file that a path leads to, if it leads to one by name. -/
def fileName? (path : String) : Option String :=
  match ((steps path).filter fun s => !isIdle s).getLast? with
  | some ".." => none
  | last => last

/-- What stands behind the last dot of a file's name, unless the name begins with that dot. -/
def ending? (fileName : String) : Option String :=
  match (splitOn '.' fileName).reverse with
  | last :: before :: others => if before = "" ∧ others = [] then none else some last
  | _ => none

example : ending? "shop.XML" = some "XML" ∧ ending? ".xml" = none ∧ ending? "a." = some "" := by
  decide +kernel

end Colloquy.Path
