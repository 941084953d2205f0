import Colloquy.Random
import Colloquy.Script.Scope

/-!
# Text with blocks

In a script's text a block in braces stands for something else: a variable, a computed value, a random
number, an answer of the game, or a noun of the nodes in focus.  Blocks nest, and inner blocks are
replaced first.

A text is read once, character by character, into a `Template`; what replaces a block is not read
again.  A closing brace that closes nothing stands for itself.  An opening brace that is never closed
is a fault, but the blocks in front of it are replaced before it is met.

## Main definitions

* `Fragment`, `Template`, `Template.ofChars`: the structure of a text.
* `Draw`: computations that may draw random numbers and may fail.
* `Scope.translate`: a text with its blocks replaced.
-/

namespace Colloquy

open Text

/-- A character, or a block with what is inside it. -/
inductive Fragment where
  | char (c : Char)
  | block (inside : List Fragment)

/-- The structure of a text up to its first brace that is never closed, if it has one. -/
structure Template where
  fragments : List Fragment
  /-- Whether every opened block is closed. -/
  closed : Bool

namespace Template

/-- A text part of the way through: the fragments of the innermost open block and those of the
blocks around it, each latest first. -/
structure Partial where
  inner : List Fragment
  outer : List (List Fragment)

/-- Reads one more character. -/
def Partial.read (p : Partial) (c : Char) : Partial :=
  if c = '\x7b' then ⟨[], p.inner :: p.outer⟩
  else if c = '\x7d' then
    match p.outer with
    | [] => ⟨.char c :: p.inner, []⟩
    | around :: outer => ⟨.block p.inner.reverse :: around, outer⟩
  else ⟨.char c :: p.inner, p.outer⟩

/-- The template of what has been read. -/
def Partial.finish (p : Partial) : Template :=
  match p.outer.getLast? with
  | none => ⟨p.inner.reverse, true⟩
  | some outermost => ⟨outermost.reverse, false⟩

/-- The structure of a text. -/
def ofChars (cs : List Char) : Template := (cs.foldl Partial.read ⟨[], []⟩).finish

end Template

/-- A computation that draws from a random source and may fail.  Draws before a failure are spent. -/
abbrev Draw (ρ α : Type) := ExceptT Fault (StateM ρ) α

/-- A number below a bound. -/
def Draw.below {ρ : Type} [PatientSource ρ] (bound : UInt32) : Draw ρ UInt32 :=
  fun random =>
    let drawn := drawBelow bound random
    (.ok drawn.1, drawn.2)

namespace Scope

variable {ρ : Type} [PatientSource ρ]

/-- The positive 32-bit integer that an operand is. -/
def bound? : Expr.Operand → Option UInt32
  | .int i => if 0 < i.toInt ∧ i.toInt < UInt32.size then some (UInt32.ofNat i.toInt.toNat) else none
  | _ => none

/-- The text that a function gives for its argument. -/
def apply (s : Scope) (function argument : String) : Draw ρ String := do
  if function = "math" then
    let x ← s.evaluate argument
    return x.text
  else if function = "compare" then
    let x ← s.evaluate argument
    return Expr.Operand.truthText x.truthy
  else if function = "random" then
    let x ← s.evaluate argument
    match bound? x with
    | some bound =>
      let n ← Draw.below bound
      return toString n.toNat
    | none => throw (.drawBound argument)
  else throw (.unknownFunction function)

/-- The function and the argument that a block consists of: a word of ASCII letters, a colon, and
anything. -/
def call? (block : List Char) : Option (String × String) :=
  match cut? ':' block with
  | some (head, tail) =>
    let head := trimChars head
    if !head.isEmpty && head.all Char.isAlpha then
      some (String.ofList head, String.ofList tail)
    else none
  | none => none

/-- The text that a block stands for, given by what is inside it without outer blanks. -/
def resolveBlock (s : Scope) (block : List Char) : Draw ρ String := do
  match block with
  | '$' :: name => return (s.value (String.ofList (trimChars name))).toText
  | _ =>
    match call? block with
    | some (function, argument) => s.apply function argument
    | none =>
      if block.contains '.' then s.resolve (splitOn '.' (String.ofList block))
      else s.noun (String.ofList block)

mutual

/-- The characters that a fragment stands for. -/
def expand (s : Scope) : Fragment → Draw ρ (List Char)
  | .char c => return [c]
  | .block inside => do
    let block ← expandAll s inside
    let text ← s.resolveBlock (trimChars block)
    return text.toList

/-- The characters that fragments stand for, in order. -/
def expandAll (s : Scope) : List Fragment → Draw ρ (List Char)
  | [] => return []
  | f :: fs => do
    let first ← expand s f
    let others ← expandAll s fs
    return first ++ others

end

/-- The text with its blocks replaced. -/
def translate (s : Scope) (text : String) : Draw ρ String := do
  let template := Template.ofChars text.toList
  let cs ← s.expandAll template.fragments
  if template.closed then return String.ofList cs
  else throw (.unclosedBlock text)

end Scope

end Colloquy
