import Colloquy.Document
import Colloquy.Fault
import Colloquy.Markup.Content
import Colloquy.Markup.Token
import Colloquy.Table

/-!
# Documents from tokens

Tokens become a tree when the tags match, there is one element around everything, and every name space
in use is declared.  Of names only their own part is kept: name spaces are checked and then forgotten.

## Main definitions

* `Spaces`: the name spaces in use at a place, with `Spaces.declare?`.
* `Builder`: the elements still open and the text not yet a node, with one step per kind of token.
* `Node.ofText?`: the document that a text is.
* `Node.libraryOfTexts?`: several documents as one.
-/

namespace Colloquy.Markup

open Text

/-- The name of a space that the format itself defines, by the steps of its address. -/
def formatSpace (steps : List String) : String :=
  joinWith "/" (["http:", "", "www.w3.org"] ++ steps)

/-- The space that names with `xml` in front belong to. -/
def builtInSpace : String := formatSpace ["XML", "1998", "namespace"]

/-- The space of declarations, which cannot be declared. -/
def declarationSpace : String := formatSpace ["2000", "xmlns", ""]

/-- The name spaces in use, innermost first: what stands before the colon, and the space. -/
abbrev Spaces := List (String × String)

/-- An attribute with its value made out. -/
structure Given where
  name : Name
  value : String

/-- Whether an attribute declares a name space. -/
def Given.declares (a : Given) : Bool := a.name.space == "xmlns" || a.name.own == "xmlns"

/-- The spaces that an element declares by itself, latest first; `none` if a declaration is not
allowed. -/
def Spaces.declare? (own : Spaces) (a : Given) : Option Spaces :=
  if a.value == declarationSpace then none
  else if a.name.space == "xmlns" then
    if (a.name.own == "xml") != (a.value == builtInSpace) then none
    else if own.any (·.1 == a.name.own) then none
    else if a.value == builtInSpace then some own
    else some ((a.name.own, a.value) :: own)
  else if a.value == builtInSpace then none
  else some own

/-- The space of an attribute's name: a name without one belongs to none. -/
def Spaces.ofAttribute? (spaces : Spaces) (name : Name) : Option (Option String) :=
  if name.space == "" then some none
  else if name.space == "xml" then some (some builtInSpace)
  else (spaces.lookup name.space).map some

/-- Whether the name of an element belongs to a declared space. -/
def Spaces.admits (spaces : Spaces) (name : Name) : Bool :=
  name.space == "" || (name.space != "xmlns" && (spaces.lookup name.space).isSome)

/-- Whether no value occurs twice in a list. -/
def allDistinct {α : Type} [BEq α] : List α → Bool
  | [] => true
  | x :: xs => !xs.contains x && allDistinct xs

/-- The attributes of an element and the spaces in use inside it, given those around it. -/
def resolve? (around : Spaces) (raws : List RawAttribute) :
    Option (List Attribute × Spaces) := do
  let givens ← raws.mapM fun (name, raw) => do
    let pieces ← pieces? raw
    return Given.mk name (String.ofList (valueOf pieces))
  let own ← (givens.filter Given.declares).foldlM Spaces.declare? []
  let spaces := own ++ around
  let attributes := givens.filter (!·.declares)
  let expanded ← attributes.mapM fun a => do
    let space ← spaces.ofAttribute? a.name
    return (space, a.name.own)
  if allDistinct expanded then
    return (attributes.map fun a => (a.name.own, a.value), spaces)
  else none

/-- An element whose end is still to come, with the children read so far, latest first. -/
structure Unfinished where
  name : Name
  place : Place
  attributes : List Attribute
  spaces : Spaces
  children : List Node

/-- What has been read of a document. -/
structure Builder where
  source : String
  /-- The open elements, innermost first. -/
  stack : List Unfinished
  /-- Text that may still grow, and where it begins. -/
  pending : Option (Place × List Char)
  /-- The element around everything, once it is finished. -/
  root : Option Node

namespace Builder

/-- Where a node begins. -/
def originOf (b : Builder) (p : Place) : Option Origin := some ⟨b.source, p.line, p.column⟩

/-- Puts a finished node where it belongs. -/
def put (b : Builder) (n : Node) : Builder :=
  match b.stack with
  | [] => { b with root := some n }
  | inner :: outer => { b with stack := { inner with children := n :: inner.children } :: outer }

/-- Makes a node of the text so far.  Empty text makes none. -/
def flush (b : Builder) : Builder :=
  match b.pending with
  | none => b
  | some (p, cs) =>
    let b' := { b with pending := none }
    if cs.isEmpty then b' else b'.put (.text 0 (b.originOf p) (String.ofList cs))

/-- Adds character data, which joins what stands directly before it. -/
def addText? (b : Builder) (p : Place) (cs : List Char) : Option Builder :=
  if b.stack.isEmpty then none
  else match b.pending with
    | none => some { b with pending := some (p, cs) }
    | some (q, before) => some { b with pending := some (q, before ++ cs) }

/-- Begins an element, and ends it at once if its tag says so. -/
def open? (b : Builder) (p : Place) (name : Name) (raws : List RawAttribute) (closed : Bool) :
    Option Builder := do
  let b := b.flush
  if b.stack.isEmpty && b.root.isSome then none
  let around := (b.stack.head?.map (·.spaces)).getD []
  let (attributes, spaces) ← resolve? around raws
  if !spaces.admits name then none
  if closed then return b.put (.element 0 (b.originOf p) name.own attributes [])
  else return { b with stack := ⟨name, p, attributes, spaces, []⟩ :: b.stack }

/-- Ends the innermost element, which has to have this name. -/
def close? (b : Builder) (name : Name) : Option Builder :=
  let b := b.flush
  match b.stack with
  | [] => none
  | inner :: outer =>
    if inner.name = name then
      let node := Node.element 0 (b.originOf inner.place) inner.name.own inner.attributes
        inner.children.reverse
      some ({ b with stack := outer }.put node)
    else none

/-- Takes in one token. -/
def step? (b : Builder) : Place × Token → Option Builder
  | (p, .openTag name raws closed) => b.open? p name raws closed
  | (_, .closeTag name) => b.close? name
  | (p, .verbatim raw) => b.addText? p (textOf (raw.map .plain))
  | (_, .gap) => some b.flush
  | (p, .text raw) =>
    if b.stack.isEmpty then
      if raw.all isSpace then some b else none
    else do
      let pieces ← pieces? raw
      b.addText? p (textOf pieces)

end Builder

end Colloquy.Markup

namespace Colloquy

open Markup

/-- The root element of the document that a text is, without indices. -/
def Node.rootOfText? (source text : String) : Except Fault Node :=
  let built? := do
    let tokens ← Token.readAll? text.toList
    let built ← tokens.foldlM Builder.step? ⟨source, [], none, none⟩
    if built.stack.isEmpty then built.root else none
  match built? with
  | some root => .ok root
  | none => .error (.markup source)

/-- The document that a text is; `source` is the name that its nodes are shown with. -/
def Node.ofText? (source text : String) : Except Fault Node :=
  (Node.rootOfText? source text).map Node.numbered

/-- The documents of several texts as one, in the order of their names. -/
def Node.libraryOfTexts? (sources : Table String) : Except Fault Node :=
  if sources.entries.isEmpty then .error .emptyLibrary
  else do
    let roots ← sources.entries.mapM fun named => Node.rootOfText? named.1 named.2
    return Node.library roots

end Colloquy
