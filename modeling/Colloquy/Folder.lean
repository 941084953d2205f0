import Colloquy.Fault
import Colloquy.Path

/-!
# Files and folders

What programs read is a tree: a file holds bytes, a folder holds named entries.  A path is followed from
entry to entry; each of its steps starts from a folder, so nothing is found beyond a file, not even by a
step that stays where it is.

## Main definitions

* `Entry`: a file or a folder.
* `Entry.follow?`: what a path leads to.
* `Entry.files`: all files of an entry with the paths that lead to them.
* `Finding`: a path together with what it leads to.
* `textOf`: the text that bytes are.
-/

namespace Colloquy

open Text

/-- A file or a folder. -/
inductive Entry where
  | file (bytes : List UInt8)
  | folder (entries : List (String × Entry))

namespace Entry

/-- The entry of a name in a folder. -/
def find? (name : String) : List (String × Entry) → Option Entry
  | [] => none
  | (n, e) :: es => if name = n then some e else find? name es

/-- What some steps lead to from an entry, given the folders around it, the nearest first.  A step
upwards from the outermost folder leads nowhere else. -/
def follow? (around : List Entry) : List String → Entry → Option Entry
  | [], e => some e
  | _ :: _, .file _ => none
  | step :: steps, .folder entries =>
    if Path.isIdle step then follow? around steps (.folder entries)
    else if step = ".." then
      match around with
      | [] => follow? [] steps (.folder entries)
      | outer :: around => follow? around steps outer
    else (find? step entries).bind fun e => follow? (.folder entries :: around) steps e

/-- The bytes of a file. -/
def bytes? : Entry → Option (List UInt8)
  | file bytes => some bytes
  | folder _ => none

mutual

/-- All files of an entry in the order of the listings; `place` leads to the entry itself. -/
def files (place : List String) : Entry → List (List String × List UInt8)
  | file bytes => [(place, bytes)]
  | folder entries => filesOf place entries

/-- All files of a folder's entries. -/
def filesOf (place : List String) : List (String × Entry) → List (List String × List UInt8)
  | [] => []
  | (name, e) :: es => e.files (place ++ [name]) ++ filesOf place es

end

end Entry

/-- A path and what it leads to. -/
structure Finding where
  path : String
  entry : Option Entry

/-- The bytes of the file that was found. -/
def Finding.bytes? (f : Finding) : Option (List UInt8) := f.entry.bind Entry.bytes?

/-- The text that bytes are. -/
def textOf (bytes : List UInt8) : Except Fault String :=
  match String.fromUTF8? (ByteArray.mk bytes.toArray) with
  | some text => .ok text
  | none => .error .unreadableSource

end Colloquy
