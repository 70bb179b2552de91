import Screencast.Toml.Document
import Screencast.Toml.Number
import Screencast.Toml.Quoted

/-! # Reading a settings file

The grammar of TOML 1.0. Whatever does not follow it has no reading; where and why a text fails
does not matter to anybody.
-/

namespace Screencast.Toml

/-- How deep values may be nested, and how many parts a key may have. -/
def nestingLimit : Nat := 79

/-- Leaves out blanks, line breaks and comments. -/
def skipLines (inComment : Bool) : List Char → List Char
  | '\n' :: rest | '\r' :: '\n' :: rest => skipLines false rest
  | c :: rest =>
    if inComment then if isPrintable c then skipLines true rest else c :: rest
    else if isBlank c then skipLines false rest
    else if c = '#' then skipLines true rest else c :: rest
  | [] => []

/-- The end of a line, with the comment that may stand before it. -/
def lineEnd? (s : List Char) : Option (List Char) :=
  let s := match skipBlanks s with
    | '#' :: rest => rest.dropWhile isPrintable
    | s => s
  if s.isEmpty then some [] else newline? s

/-- Characters of a key without quotes. -/
def isBare (c : Char) : Bool := c.isAlphanum || c == '-' || c == '_'

/-- One part of a key. -/
def keyPart (s : List Char) : Option (String × List Char) :=
  let bare := s.takeWhile isBare
  if bare.isEmpty then (line? s).map fun (text, rest) => (String.ofList text, rest)
  else some (String.ofList bare, s.dropWhile isBare)

/-- A key of at most so many parts, with the blanks around them. -/
def key : Nat → Reader (List String)
  | 0, _ => none
  | limit + 1, s => do
    let (part, s) ← keyPart (skipBlanks s)
    match skipBlanks s with
    | '.' :: s => push part (key limit s)
    | s => return ([part], s)

/-- A key and its value. -/
def assignment (value : Reader Value) (s : List Char) :
    Option ((List String × Value) × List Char) := do
  let (path, s) ← key nestingLimit s
  let (v, s) ← value (skipBlanks (← expect '=' s))
  return ((path, v), s)

/-- The items of an array up to its end; there are at most `fuel`. -/
def items (value : Reader Value) : Nat → Reader (List Value)
  | 0, _ => none
  | fuel + 1, s =>
    match skipLines false s with
    | ']' :: s => some ([], s)
    | s => do
      let (v, s) ← value s
      match skipLines false s with
      | ',' :: s => push v (items value fuel s)
      | ']' :: s => some ([v], s)
      | _ => none

/-- The assignments of a table between braces; there are at most `fuel`, and at least one. -/
def assignments (value : Reader Value) : Nat → Reader (List (List String × Value))
  | 0, _ => none
  | fuel + 1, s => do
    let (e, s) ← assignment value s
    match skipBlanks s with
    | ',' :: s => push e (assignments value fuel s)
    | '}' :: s => some ([e], s)
    | _ => none

/-- A table between braces, after the opening one. -/
def inlineTable (value : Reader Value) (s : List Char) : Option (Value × List Char) :=
  match skipBlanks s with
  | '}' :: s => some (.table .inlined [], s)
  | s => do
    let (entries, s) ← assignments value s.length s
    return (.table .inlined (← Entries.ofAssignments? entries), s)

/-- A value that is neither an array nor a table. -/
def scalar : Reader Value
  | 't' :: 'r' :: 'u' :: 'e' :: s => some (.boolean true, s)
  | 'f' :: 'a' :: 'l' :: 's' :: 'e' :: s => some (.boolean false, s)
  | s =>
    match s with
    | '"' :: _ | '\'' :: _ => (string? s).map fun (text, s) => (.string (String.ofList text), s)
    | _ => numberOrDate s

/-- A value with at most so many levels of arrays and tables. -/
def value : Nat → Reader Value
  | 0, s => scalar s
  | limit + 1, s =>
    match s with
    | '[' :: s => (items (value limit) (s.length + 1) s).map fun (vs, s) => (.array vs, s)
    | '{' :: s => inlineTable (value limit) s
    | _ => scalar s

/-- An assignment or a header, up to the end of its line. -/
def statement (s : List Char) : Option (Statement × List Char) :=
  match s with
  | '[' :: '[' :: s => do
    let (path, s) ← key nestingLimit s
    return (.openItem path, ← lineEnd? (← expect ']' (← expect ']' s)))
  | '[' :: s => do
    let (path, s) ← key nestingLimit s
    return (.openTable path, ← lineEnd? (← expect ']' s))
  | s => do
    let ((path, v), s) ← assignment (value nestingLimit) s
    return (.assign path v, ← lineEnd? s)

/-- The statements of a file of at most so many lines. -/
def statements : Nat → List Char → Option (List Statement)
  | 0, _ => none
  | fuel + 1, s =>
    if s.isEmpty then some [] else
    match lineEnd? s with
    | some s => statements fuel s
    | none => do
      let (first, s) ← statement (skipBlanks s)
      return first :: (← statements fuel s)

/-- Leaves out a byte order mark. -/
def afterMark : List Char → List Char
  | '\ufeff' :: s => s
  | s => s

/-- The tables of a file. -/
def Entries.ofText? (text : String) : Option Entries := do
  let s := afterMark text.toList
  Entries.ofStatements? (← statements (s.length + 1) s)

end Screencast.Toml
