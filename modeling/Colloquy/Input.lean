/-!
# Requests for input

A script that needs an answer stops with a request, which says what kind of answer it waits for, where
the answer goes, and what the answer may be.
-/

namespace Colloquy.Input

/-- The kinds of answer a script can ask for. -/
inductive Kind where
  | choice | number | string | direction | player | keypress
  deriving DecidableEq, Inhabited

namespace Kind

/-- All kinds, in the order in which they are declared. -/
def all : List Kind := [choice, number, string, direction, player, keypress]

/-- The name by which documents ask for the kind. -/
def name : Kind → String
  | choice => "choice"
  | number => "number"
  | string => "string"
  | direction => "direction"
  | player => "player"
  | keypress => "keypress"

/-- The name with a capital letter, as a printed state shows it. -/
def title : Kind → String
  | choice => "Choice"
  | number => "Number"
  | string => "String"
  | direction => "Direction"
  | player => "Player"
  | keypress => "Keypress"

/-- The kind of this name. -/
def ofName? (name : String) : Option Kind := all.find? (·.name == name)

theorem ofName?_name (k : Kind) : ofName? k.name = some k := by
  cases k <;> decide

end Kind

/-- What a suspended script is waiting for. -/
structure Request where
  kind : Kind
  /-- The variable that takes the answer. -/
  target : Option String
  /-- The most characters that a text answer keeps. -/
  maxLength : Option Nat
  /-- The answers to a choice, each one character, in lower case. -/
  choices : Option String
  deriving DecidableEq, Inhabited

/-- Waits for any key and stores nothing. -/
def Request.keypress : Request := ⟨.keypress, none, none, none⟩

end Colloquy.Input
