import Screencast.Text.Hex
import Screencast.Toml.Value

/-! # Strings of a settings file

Four kinds: with or without escapes, on one line or on several. A line break in a string is always
a line feed, however the file writes it, and one right after the opening quotes does not count.
-/

namespace Screencast.Toml

/-- What a letter after a backslash stands for. -/
def escape? : Char → Option Char
  | 'b' => some '\x08'
  | 't' => some '\t'
  | 'n' => some '\n'
  | 'f' => some '\x0c'
  | 'r' => some '\r'
  | '"' => some '"'
  | '\\' => some '\\'
  | _ => none

/-- The character with a number in hexadecimal digits; surrogates are none. -/
def unicode? (digits : List Char) : Option Char := do
  let n ← Hex.toNat? digits
  if n.isValidChar then some (Char.ofNat n) else none

/-- A string with escapes on one line, after its opening quote. -/
def basic : Reader (List Char)
  | '"' :: rest => some ([], rest)
  | '\\' :: 'u' :: a :: b :: c :: d :: rest => do
    push (← unicode? [a, b, c, d]) (basic rest)
  | '\\' :: 'U' :: a :: b :: c :: d :: e :: f :: g :: h :: rest => do
    push (← unicode? [a, b, c, d, e, f, g, h]) (basic rest)
  | '\\' :: c :: rest => do push (← escape? c) (basic rest)
  | c :: rest => if isPrintable c then push c (basic rest) else none
  | [] => none

/-- A string without escapes on one line, after its opening quote. -/
def literal : Reader (List Char)
  | '\'' :: rest => some ([], rest)
  | c :: rest => if isPrintable c then push c (literal rest) else none
  | [] => none

/-- A string with escapes on several lines, after its opening quotes. One or two quotes may stand
anywhere, also before the closing ones. While `trim` holds, blanks and line breaks are left out, as
a backslash at the end of a line demands. -/
def basicLines (trim : Bool) : Reader (List Char)
  | '"' :: '"' :: '"' :: '"' :: '"' :: rest => some (['"', '"'], rest)
  | '"' :: '"' :: '"' :: '"' :: rest => some (['"'], rest)
  | '"' :: '"' :: '"' :: rest => some ([], rest)
  | '\\' :: 'u' :: a :: b :: c :: d :: rest => do
    push (← unicode? [a, b, c, d]) (basicLines false rest)
  | '\\' :: 'U' :: a :: b :: c :: d :: e :: f :: g :: h :: rest => do
    push (← unicode? [a, b, c, d, e, f, g, h]) (basicLines false rest)
  | '\\' :: c :: rest =>
    if (newline? (skipBlanks (c :: rest))).isSome then basicLines true (c :: rest)
    else do push (← escape? c) (basicLines false rest)
  | '\r' :: '\n' :: rest => if trim then basicLines true rest else push '\n' (basicLines false rest)
  | c :: rest =>
    if trim && (isBlank c || c == '\n') then basicLines true rest
    else if isPrintable c || c == '\n' then push c (basicLines false rest) else none
  | [] => none

/-- A string without escapes on several lines, after its opening quotes. -/
def literalLines : Reader (List Char)
  | '\'' :: '\'' :: '\'' :: '\'' :: '\'' :: rest => some (['\'', '\''], rest)
  | '\'' :: '\'' :: '\'' :: '\'' :: rest => some (['\''], rest)
  | '\'' :: '\'' :: '\'' :: rest => some ([], rest)
  | '\r' :: '\n' :: rest => push '\n' (literalLines rest)
  | c :: rest => if isPrintable c || c == '\n' then push c (literalLines rest) else none
  | [] => none

/-- Leaves out the line break that follows the opening quotes. -/
def afterOpening (s : List Char) : List Char := (newline? s).getD s

/-- A string on one line. -/
def line? : Reader (List Char)
  | '"' :: rest => basic rest
  | '\'' :: rest => literal rest
  | _ => none

/-- A string of any kind. -/
def string? : Reader (List Char)
  | '"' :: '"' :: '"' :: rest => basicLines false (afterOpening rest)
  | '\'' :: '\'' :: '\'' :: rest => literalLines (afterOpening rest)
  | s => line? s

/-- How a character is written between double quotes. -/
def encodeChar (c : Char) : String :=
  if c = '"' then "\\\"" else if c = '\\' then "\\\\"
  else if isPrintable c then c.toString else "\\u" ++ Hex.ofNat 4 c.toNat

/-- A string between double quotes. -/
def quoted (s : String) : String := "\"" ++ String.join (s.toList.map encodeChar) ++ "\""

end Screencast.Toml
