/-!
# Printed values

One-line forms of structured values, for people who look into a running program: records with named
fields, lists, tables, and values that may be missing.
-/

namespace Colloquy.Text.Printed

/-- Texts with a comma and a space between neighbours. -/
def commas (items : List String) : String := String.intercalate ", " items

/-- A record with its name and its fields; one without fields is its name alone. -/
def record (name : String) (fields : List (String × String)) : String :=
  if fields.isEmpty then name
  else name ++ " \x7b " ++ commas (fields.map fun f => f.1 ++ ": " ++ f.2) ++ " \x7d"

/-- A name applied to a value. -/
def tagged (name value : String) : String := name ++ "(" ++ value ++ ")"

/-- A list. -/
def sequence (items : List String) : String := "[" ++ commas items ++ "]"

/-- A table of keys and values. -/
def table (entries : List (String × String)) : String :=
  "\x7b" ++ commas (entries.map fun e => e.1 ++ ": " ++ e.2) ++ "\x7d"

/-- A value that may be missing. -/
def optional : Option String → String
  | some value => tagged "Some" value
  | none => "None"

/-- A truth value. -/
def truth (b : Bool) : String := if b then "true" else "false"

end Colloquy.Text.Printed
