import Screencast.Number.Decimal

/-! # Values of a settings file

A file in the TOML format is a tree of tables. Each table remembers how it came to be, since that
decides what may still be added to it.
-/

namespace Screencast.Toml

/-- How a table came to be. -/
inductive Origin
  /-- The table has a header of its own, or is the file itself. -/
  | header
  /-- A longer header leads through the table. -/
  | implied
  /-- A dotted key leads through the table. -/
  | dotted
  /-- The table is written out as a value and is complete. -/
  | inlined
deriving DecidableEq, Repr, Inhabited

/-- Whether a table has not been written out itself so far. -/
def Origin.isOpen : Origin → Bool
  | .implied | .dotted => true
  | .header | .inlined => false

/-- A number with a fraction or an exponent, or one of the two that have no digits. -/
inductive Real
  | decimal (x : Decimal)
  | infinity (negative : Bool)
  | nan
deriving DecidableEq, Repr

/-- A value. Of a date or a time nothing is kept. -/
inductive Value
  | string (s : String)
  | integer (n : Int)
  | real (x : Real)
  | boolean (b : Bool)
  | dateTime
  | array (items : List Value)
  | table (origin : Origin) (entries : List (String × Value))
  /-- The tables of one header in double brackets, the oldest first. -/
  | tables (items : List (List (String × Value)))

instance : Inhabited Value := ⟨.dateTime⟩

/-- What a table holds. -/
abbrev Entries := List (String × Value)

/-- What a reader makes of the beginning of a text, with the rest of the text. -/
abbrev Reader (α : Type) := List Char → Option (α × List Char)

/-- Puts an item in front of what was read. -/
def push {α : Type} (a : α) : Option (List α × List Char) → Option (List α × List Char) :=
  Option.map fun (items, rest) => (a :: items, rest)

/-- Space and tabulator. -/
def isBlank (c : Char) : Bool := c == ' ' || c == '\t'

/-- Characters that may stand in comments and, apart from quotes, in strings. -/
def isPrintable (c : Char) : Bool := c == '\t' || (' ' ≤ c && c != '\x7f')

/-- The end of a line. -/
def newline? : List Char → Option (List Char)
  | '\n' :: rest | '\r' :: '\n' :: rest => some rest
  | _ => none

def skipBlanks (s : List Char) : List Char := s.dropWhile isBlank

/-- A character that has to come next. -/
def expect (c : Char) : List Char → Option (List Char)
  | d :: rest => if c = d then some rest else none
  | [] => none

end Screencast.Toml
