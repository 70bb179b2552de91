import Screencast.Text.Hex
import Screencast.Toml.Value

/-! # Numbers and dates of a settings file

Digits may be set apart by single underscores. A whole number has 64 bits. A number with a
fraction or an exponent may be as small as it likes, but not too large for double precision. Dates
and times are checked and then forgotten.
-/

namespace Screencast.Toml

/-- The digits that follow a digit; an underscore has to stand between two of them. -/
def moreDigits (isDigit : Char → Bool) : Reader (List Char)
  | '_' :: c :: rest => if isDigit c then push c (moreDigits isDigit rest) else none
  | c :: rest =>
    if c = '_' then none
    else if isDigit c then push c (moreDigits isDigit rest) else some ([], c :: rest)
  | [] => some ([], [])

/-- At least one digit. -/
def digits (isDigit : Char → Bool) : Reader (List Char)
  | c :: rest => if isDigit c then push c (moreDigits isDigit rest) else none
  | [] => none

/-- The digits before a point: a zero alone, or digits of which the first is none. -/
def wholeDigits : Reader (List Char)
  | '0' :: rest => some (['0'], rest)
  | s => digits Char.isDigit s

/-- The number that digits write in a base up to sixteen. -/
def ofDigits (base : Nat) (ds : List Char) : Nat :=
  ds.foldl (fun n c => n * base + (Hex.digit? c).getD 0) 0

/-- A sign, if there is one. -/
def sign : List Char → Bool × List Char
  | '-' :: rest => (true, rest)
  | '+' :: rest => (false, rest)
  | s => (false, s)

/-- A whole number of 64 bits. -/
def integer? (n : Int) : Option Value :=
  if Int64.minValue.toInt ≤ n ∧ n ≤ Int64.maxValue.toInt then some (.integer n) else none

/-- A whole number in a base that is a power of two. -/
def based (base : Nat) (s : List Char) : Option (Value × List Char) := do
  let (ds, rest) ← digits (fun c => (Hex.digit? c).any (· < base)) s
  return (← integer? (ofDigits base ds), rest)

/-- The digits after a point, if there is one. -/
def fraction : Reader (List Char)
  | '.' :: rest => digits Char.isDigit rest
  | s => some ([], s)

/-- An exponent, if there is one. -/
def exponent : Reader (Option Int)
  | 'e' :: rest | 'E' :: rest => do
    let (negative, rest) := sign rest
    let (ds, rest) ← digits Char.isDigit rest
    let n : Int := ofDigits 10 ds
    return (some (if negative then -n else n), rest)
  | s => some (none, s)

/-- A decimal, unless it is too large; a negative one may be. -/
def real? (x : Decimal) : Option Value :=
  if !x.negative && x.doubleUnits?.isNone then none else some (.real (.decimal x))

/-- A number after its sign. -/
def unsigned (negative : Bool) : Reader Value
  | 'i' :: 'n' :: 'f' :: rest => some (.real (.infinity negative), rest)
  | 'n' :: 'a' :: 'n' :: rest => some (.real .nan, rest)
  | s => do
    let (whole, s) ← wholeDigits s
    let (places, s) ← fraction s
    let (power, s) ← exponent s
    let n := ofDigits 10 (whole ++ places)
    if places.isEmpty && power.isNone then
      return (← integer? (if negative then -(n : Int) else n), s)
    return (← real? ⟨negative, n, power.getD 0 - places.length⟩, s)

def number : Reader Value
  | '0' :: 'x' :: rest => based 16 rest
  | '0' :: 'o' :: rest => based 8 rest
  | '0' :: 'b' :: rest => based 2 rest
  | s => let (negative, s) := sign s; unsigned negative s

/-- A number of two digits within bounds. -/
def twoDigits (low high : Nat) : Reader Nat
  | a :: b :: rest =>
    let n := ofDigits 10 [a, b]
    if a.isDigit && b.isDigit && low ≤ n && n ≤ high then some (n, rest) else none
  | _ => none

/-- The number of days of a month. -/
def daysOfMonth (year month : Nat) : Nat :=
  if month = 2 then
    if year % 4 = 0 ∧ (year % 100 ≠ 0 ∨ year % 400 = 0) then 29 else 28
  else if [4, 6, 9, 11].contains month then 30 else 31

/-- Leaves out a time of day; a minute may have a leap second. -/
def time (s : List Char) : Option (List Char) := do
  let (_, s) ← twoDigits 0 23 s
  let (_, s) ← twoDigits 0 59 (← expect ':' s)
  let (_, s) ← twoDigits 0 60 (← expect ':' s)
  match s with
  | '.' :: s => if (s.head?.any Char.isDigit) then some (s.dropWhile Char.isDigit) else none
  | s => some s

/-- Leaves out an offset from universal time, if there is one. -/
def zone : List Char → Option (List Char)
  | 'Z' :: s | 'z' :: s => some s
  | '+' :: s | '-' :: s => do
    let (_, s) ← twoDigits 0 23 s
    let (_, s) ← twoDigits 0 59 (← expect ':' s)
    return s
  | s => some s

/-- Leaves out a date, and the time that may follow it. -/
def date (s : List Char) : Option (List Char) := do
  let (month, rest) ← twoDigits 1 12 (s.drop 5)
  let (day, rest) ← twoDigits 1 31 (← expect '-' rest)
  if daysOfMonth (ofDigits 10 (s.take 4)) month < day then none
  match rest with
  | 'T' :: rest | 't' :: rest => zone (← time rest)
  | ' ' :: c :: more => if c.isDigit then do zone (← time (c :: more)) else some rest
  | _ => some rest

/-- A number, a date or a time; what follows the first digits tells which. -/
def numberOrDate (s : List Char) : Option (Value × List Char) :=
  match (s.takeWhile Char.isDigit).length, s.dropWhile Char.isDigit with
  | 4, '-' :: _ => (date s).map (Value.dateTime, ·)
  | 2, ':' :: _ => (time s).map (Value.dateTime, ·)
  | _, _ => number s

end Screencast.Toml
