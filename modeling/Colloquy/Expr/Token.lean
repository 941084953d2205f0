import Colloquy.Text.Decimal
import Colloquy.Text.Quoted

/-!
# Tokens of an expression

An expression is written with integers, quoted texts, `$variables`, words, and seventeen operator
symbols.  A word with dots in it refers to the world outside the script; the lexer keeps it as one
word and leaves its meaning to evaluation.
-/

namespace Colloquy.Expr

open Text

/-- The symbols that an expression may hold.  The comma belongs to no operation, so that a text with
a comma is refused where the comma stands and not for being unreadable. -/
inductive Symbol where
  | eq2 | ne | le | ge | and | or | eq | lt | gt | plus | minus | times | slash | left | right | not
  | comma
  deriving DecidableEq

/-- How the symbol is written. -/
def Symbol.text : Symbol → String
  | .eq2 => "=="
  | .ne => "!="
  | .le => "<="
  | .ge => ">="
  | .and => "&&"
  | .or => "||"
  | .eq => "="
  | .lt => "<"
  | .gt => ">"
  | .plus => "+"
  | .minus => "-"
  | .times => "*"
  | .slash => "/"
  | .left => "("
  | .right => ")"
  | .not => "!"
  | .comma => ","

/-- One token. -/
inductive Token where
  | int (value : Int64)
  | str (text : String)
  | var (name : String)
  | word (text : String)
  | op (symbol : Symbol)
  deriving DecidableEq

/-- The token as diagnostics show it, with its kind. -/
def Token.inspect : Token → String
  | .int i => "Int(" ++ Decimal.write i ++ ")"
  | .str s => "Str(" ++ quote s ++ ")"
  | .var s => "Var(" ++ quote s ++ ")"
  | .word s => "Word(" ++ quote s ++ ")"
  | .op s => "Op(" ++ quote s.text ++ ")"

/-- Why a text is no expression. -/
inductive Malformed where
  /-- No token begins where the rest of the text, given here without outer blanks, begins. -/
  | unreadable (rest : String)
  /-- An integer literal is beyond the 64-bit range. -/
  | literalTooLarge
  /-- The text has no token at all. -/
  | empty
  /-- An operand is missing at the end. -/
  | unexpectedEnd
  /-- A symbol stands where an operand should. -/
  | unexpected (symbol : Symbol)
  /-- An opening parenthesis is never closed. -/
  | unclosed
  /-- A comparison is compared again. -/
  | chained
  /-- A whole expression is followed by something that cannot continue it. -/
  | trailing (token : Token)
  deriving DecidableEq

/-- The reason in words. -/
def Malformed.detail : Malformed → String
  | .unreadable rest => "unexpected input at \"" ++ rest ++ "\""
  | .literalTooLarge => "number too large to fit in target type"
  | .empty => "empty expression"
  | .unexpectedEnd => "unexpected end"
  | .unexpected s => "unexpected \"" ++ s.text ++ "\""
  | .unclosed => "missing \")\""
  | .chained => "comparisons cannot be chained"
  | .trailing t => "trailing token " ++ t.inspect

end Colloquy.Expr
