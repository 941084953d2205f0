import Colloquy.Script.State
import Colloquy.Text.Printed

/-!
# Looking into a script

The printed form of a script shows where it stands and what it holds.  Nodes are shown by their index,
and of the providers only the words they answer for.
-/

namespace Colloquy

open Text

/-- A node by its index. -/
def Node.inspect (n : Node) : String := Printed.tagged "NodeId" (toString n.index)

/-- A request with all its fields. -/
def Input.Request.inspect (r : Input.Request) : String :=
  Printed.record "InputRequest"
    [("kind", r.kind.title), ("target_var", Printed.optional (r.target.map quote)),
     ("max_len", Printed.optional (r.maxLength.map toString)),
     ("choices", Printed.optional (r.choices.map quote))]

/-- A block in progress: its node, the next node inside, and the passes of its loop. -/
def Frame.inspect (f : Frame) : String :=
  let kind :=
    match f.loop with
    | none => "Block"
    | some l =>
      Printed.record "Loop"
        [("var", Printed.optional (l.iterator.map quote)), ("current", Decimal.write l.current),
         ("last", Decimal.write l.last), ("step", Decimal.write l.step)]
  Printed.record "ExecFrame"
    [("parent", f.owner.inspect), ("cursor", Printed.optional (f.rest.head?.map Node.inspect)),
     ("kind", kind)]

/-- The name of the state with a capital letter. -/
def Script.State.title : Script.State → String
  | unloaded => "Unloaded"
  | normal => "Normal"
  | awaitingInput => "AwaitingInput"
  | done => "Done"

/-- A script's state, document, blocks from the outermost, focus from the base, and variables. -/
def Script.inspect {ρ : Type} (s : Script ρ) : String :=
  Printed.record "Script"
    [("state", s.state.title),
     ("script_node", Printed.optional (s.play.map fun p => p.script.inspect)),
     ("frames", Printed.sequence (s.frames.reverse.map Frame.inspect)),
     ("context", Printed.sequence (s.scope.focus.reverse.map Node.inspect)),
     ("variables",
       Printed.table (s.scope.store.entries.map fun e => (quote e.1, e.2.inspect))),
     ("providers", Printed.sequence (s.scope.providers.names.map quote)),
     ("pending_input", Printed.optional (s.request?.map Input.Request.inspect)),
     ("idle", Printed.truth s.isIdle)]

end Colloquy
