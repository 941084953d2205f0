import Colloquy.CommandLine.Session

/-!
# The program

Looks up what a request names, carries the session on the terminal, and returns what its end says.
Everything that is decided is decided by `Colloquy.CommandLine`; here bytes are read and texts are written.
-/

namespace Colloquy.Terminal

open CommandLine

/-- What is said to who asks for help or misuses the program. -/
def usage : String :=
  "usage: colloquy talk --dialogue PATH [--source-type TYPE] [--seed N] [--line-mode]\n" ++
  "       colloquy script (--file PATH | --scripts-dir PATH) --script-id ID --label LABEL\n" ++
  "                       [--sub-node NAME:ID] [--var NAME=VALUE]... [--seed N] [--step-limit N]\n"

/-- Fuel for the walks of a script; one that runs out is taken up again. -/
def fuel : Nat := 1000000

/-- Writes a text at once. -/
def write (text : String) : IO Unit := do
  let out ← IO.getStdout
  out.putStr text
  out.flush

/-- Reports what was noticed where it does not mix with what is written. -/
def notice (notices : List String) : IO Unit := do
  let err ← IO.getStderr
  for n in notices do err.putStrLn n

/-- The bytes of a line, or of what is left of the input. -/
partial def readBytes (acc : ByteArray) : IO ByteArray := do
  let input ← IO.getStdin
  let byte ← input.read 1
  let acc := acc ++ byte
  if byte.isEmpty || byte[0]? == some 10 then return acc else readBytes acc

/-- Reads a line; there is none at the end of the input. -/
def readLine : IO (Except Fault (Option String)) := do
  let bytes ← readBytes .empty
  return if bytes.isEmpty then .ok none else Tape.lineOf bytes.toList

/-- Asks for a line.  When the input has ended, the line of the prompt is ended in its place. -/
def ask (prompt : String) : IO (Except Fault (Option String)) := do
  write prompt
  let line ← readLine
  if let .ok none := line then write "\n"
  return line

/-- Carries on a session to its end. -/
partial def converse (s : Session) : IO (Except Fault Unit) := do
  let move ← match s.turn fuel with
    | .move m => pure m
    | .ask prompt resume =>
      match ← ask prompt with
      | .ok line => pure (resume line)
      | .error fault => return .error fault
  match move with
  | .go text notices next =>
    notice notices
    write text
    converse next
  | .stop text notices result =>
    notice notices
    write text
    return result

mutual

/-- The entry of a folder, unless it is neither a file nor a folder.  Links are not followed. -/
partial def entry? (e : IO.FS.DirEntry) : IO (Option (String × Entry)) := do
  match (← e.path.symlinkMetadata).type with
  | .dir => return some (e.fileName, ← folder (← e.path.readDir))
  | .file => return some (e.fileName, .file (← IO.FS.readBinFile e.path).toList)
  | _ => return none

/-- A folder of entries. -/
partial def folder (entries : Array IO.FS.DirEntry) : IO Entry := do
  return .folder (← entries.toList.filterMapM entry?)

end

/-- What is found at a path.  What cannot be looked at is not there. -/
def look (path : String) : IO (Option Entry) := do
  try
    let place ← IO.FS.realPath path
    if ← place.isDir then return some (← folder (← place.readDir))
    else return some (.file (← IO.FS.readBinFile path).toList)
  catch _ => return none

/-- The directory at which relative paths start. -/
def directory : IO (Option String) := do
  try return some (← IO.currentDir).toString catch _ => return none

/-- Carries out a request. -/
def perform (r : Request) : IO (Except Fault Unit) := do
  match r.path with
  | .error fault => return .error fault
  | .ok path =>
    match locate (← directory) path with
    | .error fault => return .error fault
    | .ok path =>
      let (session, notices) := r.session ⟨path, ← look path⟩
      notice notices
      match session with
      | .error fault => return .error fault
      | .ok session => converse session

end Colloquy.Terminal

open Colloquy in
/-- The program. -/
def main (arguments : List String) : IO UInt32 := do
  let ending : CommandLine.Ending ← match CommandLine.Request.ofArguments arguments with
    | .error .help => do Terminal.write Terminal.usage; pure (.refused .help)
    | .error .misuse => do Terminal.notice [Terminal.usage]; pure (.refused .misuse)
    | .ok r => do pure (.finished (← Terminal.perform r))
  if let some fault := ending.fault? then
    if fault.breaksOff then Terminal.notice [fault.message]
  Terminal.write ending.report
  return UInt32.ofNat ending.status
