import Colloquy.Script.State

/-!
# Answers to requests

An answer is checked against the request that waits for it.  A valid answer has a value, the same for
all ways to write it, and goes into the variable that the request names; an invalid one changes
nothing and the request stays.

## Main definitions

* `Input.Request.read`: the value of an answer.
* `Script.submit`: a script after an answer.
-/

namespace Colloquy

open Text

namespace Input

/-- How many members a party has at most. -/
def partySize : Int := 8

/-- The one-letter name of a compass direction given by that letter or by its word. -/
def direction? (word : String) : Option String :=
  [("n", "n"), ("north", "n"), ("e", "e"), ("east", "e"), ("s", "s"), ("south", "s"), ("w", "w"),
    ("west", "w")].lookup word

/-- The value of an answer to a request. -/
def Request.read (r : Request) (raw : String) : Except Fault Value :=
  let cs := trimChars raw.toList
  let invalid (detail : String) : Except Fault Value := .error (.invalidInput raw r.kind detail)
  match r.kind with
  | .keypress =>
    match cs with
    | [] => .ok .unset
    | c :: _ => .ok (.str (String.ofList [c]))
  | .choice =>
    match cs with
    | [] => invalid "empty"
    | c :: _ =>
      let choice := c.toLower
      match r.choices with
      | none => .ok (.str (String.ofList [choice]))
      | some choices =>
        if choices.toList.contains choice then .ok (.str (String.ofList [choice]))
        else invalid ("expected one of \"" ++ choices ++ "\"")
  | .number =>
    match Decimal.readInt? cs with
    | some i => .ok (.int i)
    | none => invalid "not a number"
  | .player =>
    match Decimal.readInt? cs with
    | some i =>
      if 1 ≤ i.toInt ∧ i.toInt ≤ partySize then .ok (.int i)
      else invalid ("expected 1 to " ++ toString partySize)
    | none => invalid ("expected 1 to " ++ toString partySize)
  | .direction =>
    match direction? (lowerAscii (String.ofList cs)) with
    | some letter => .ok (.str letter)
    | none => invalid "expected a compass direction"
  | .string =>
    match r.maxLength with
    | some length => .ok (.str (String.ofList (cs.take length)))
    | none => .ok (.str (String.ofList cs))

end Input

/-- The script after an answer to its request. -/
def Script.submit {ρ : Type} (s : Script ρ) (raw : String) : Except Fault (Script ρ) :=
  match s.play with
  | none => .error .noPendingInput
  | some p =>
    match p.pass with
    | .waiting request frames => do
      let value ← request.read raw
      let answered :=
        match request.target with
        | some name => s.assign name value
        | none => s
      return answered.withPass (.running frames)
    | _ => .error .noPendingInput

end Colloquy
