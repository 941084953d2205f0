import Colloquy.Text.Trim

/-!
# Parameters of commands

What follows the name of a command is a list of parameters, each given by two dashes and its name, with a
value behind an equals sign or as the next argument.  Arguments are taken in from left to right, and the
first one that is out of order decides what comes of it all; only a request for help comes before what
is wrong further to the right.

## Main definitions

* `Parameter`: what may be given.
* `Given`: what was given, with `Given.value?` and `Given.values`.
* `Given.ofArguments`: the reading of arguments.
-/

namespace Colloquy.CommandLine

open Text

/-- Why there is nothing to be done for some arguments. -/
inductive Refusal where
  /-- Help was asked for. -/
  | help
  /-- The arguments do not fit what may be given. -/
  | misuse
  deriving DecidableEq

/-- What may be given to a command. -/
structure Parameter where
  name : String
  /-- Whether a value belongs to it. -/
  isValued : Bool
  /-- Whether it may be given more than once. -/
  isRepeatable : Bool
  /-- Whether it must be given. -/
  isRequired : Bool
  /-- The values that it takes. -/
  admits : String → Bool

namespace Parameter

/-- A parameter without a value. -/
def switch (name : String) : Parameter := ⟨name, false, false, false, fun _ => true⟩

/-- A parameter with any text as its value. -/
def text (name : String) : Parameter := ⟨name, true, false, false, fun _ => true⟩

/-- A parameter with a text as its value that has to be given. -/
def required (name : String) : Parameter := { text name with isRequired := true }

/-- A parameter that may be given again and again. -/
def repeated (name : String) : Parameter := { text name with isRepeatable := true }

/-- A parameter with a value that can be read in a certain way. -/
def readable {α : Type} (name : String) (read? : String → Option α) : Parameter :=
  { text name with admits := fun value => (read? value).isSome }

end Parameter

/-- The names and values that were given, in order.  A parameter without a value has an empty one. -/
abbrev Given := List (String × String)

namespace Given

/-- The value of a parameter that is given once. -/
def value? (g : Given) (name : String) : Option String := g.lookup name

/-- The values of a parameter in order. -/
def values (g : Given) (name : String) : List String :=
  (g.filter (·.1 == name)).map Prod.snd

/-- Whether a parameter is given. -/
def has (g : Given) (name : String) : Bool := (g.value? name).isSome

/-- Takes in a parameter with its value. -/
def add (g : Given) (p : Parameter) (value : String) : Except Refusal Given :=
  if p.admits value ∧ (p.isRepeatable ∨ ¬ g.has p.name) then .ok (g ++ [(p.name, value)])
  else .error .misuse

/-- The name and the attached value that an argument gives if it begins with two dashes. -/
def named? (argument : String) : Option (String × Option String) :=
  match argument.toList with
  | '-' :: '-' :: cs =>
    match cut? '=' cs with
    | some (name, value) => some (String.ofList name, some (String.ofList value))
    | none => some (String.ofList cs, none)
  | _ => none

/-- Whether an argument asks for help in short: the letter stands first behind its dash. -/
def isShortHelp (argument : String) : Bool := ['-', 'h'].isPrefixOf argument.toList

/-- Whether an argument can be the value of the one before it.  A dash alone can. -/
def canFollow (argument : String) : Bool :=
  argument.toList.head? ≠ some '-' || argument == "-"

/-- Takes in arguments one after another.  Two dashes alone end the parameters, and nothing may follow
them. -/
def take (ps : List Parameter) (g : Given) : List String → Except Refusal Given
  | [] => .ok g
  | argument :: rest =>
    if argument = "--" then if rest = [] then .ok g else .error .misuse
    else
      match named? argument with
      | none => .error (if isShortHelp argument then .help else .misuse)
      | some ("help", none) => .error .help
      | some (name, attached) =>
        match ps.find? (·.name == name), attached with
        | none, _ => .error .misuse
        | some p, some value => do
          if p.isValued then take ps (← g.add p value) rest else .error .misuse
        | some p, none =>
          if p.isValued then
            match rest with
            | value :: rest => do
              if canFollow value then take ps (← g.add p value) rest else .error .misuse
            | [] => .error .misuse
          else do take ps (← g.add p "") rest

/-- What arguments give, if all that must be given is there. -/
def ofArguments (ps : List Parameter) (arguments : List String) : Except Refusal Given := do
  let g ← take ps [] arguments
  if (ps.filter (·.isRequired)).all fun p => g.has p.name then return g else .error .misuse

end Given

end Colloquy.CommandLine
