import Colloquy.Text.Quoted.Table

/-!
# Quoted text

A text in quotes, on one line, in which every character can be seen: diagnostics and the printed
form of a state show texts this way.

## Main definitions

* `Quoted.escape`: the characters that stand for one character between the quotes.
* `quote`: the quoted form of a text.
-/

namespace Colloquy.Text

namespace Quoted

/-- The characters that stand for `c` between the quotes: `c` itself, one of six short forms, or its
code point in hexadecimal when it could not be seen. -/
def escape (c : Char) : List Char :=
  if c = '"' then ['\\', '"']
  else if c = '\\' then ['\\', '\\']
  else if c = '\n' then ['\\', 'n']
  else if c = '\r' then ['\\', 'r']
  else if c = '\t' then ['\\', 't']
  else if c = '\x00' then ['\\', '0']
  else if spelledOut.has c then
    ['\\', 'u', '\x7b'] ++ Nat.toDigits 16 c.toNat ++ ['\x7d']
  else [c]

end Quoted

/-- The text in double quotes, with every character visible. -/
def quote (s : String) : String :=
  String.ofList ('"' :: s.toList.flatMap Quoted.escape ++ ['"'])

example : quote "a\"b" = "\"a\\\"b\"" := by decide +kernel

example : quote "e\u0301" = "\"e\\u\x7b301\x7d\"" := by decide +kernel

end Colloquy.Text
