/-! # Spans of time as text

A span is written in the largest unit that leaves a whole part: seconds, milliseconds,
microseconds or nanoseconds. Decimals follow as far as they are not zero.
-/

namespace Screencast

/-- A span of time in nanoseconds. -/
structure Span where
  nanos : Nat
deriving DecidableEq, Repr

namespace Span

def ofMillis (ms : Nat) : Span := ⟨ms * 1000000⟩

def ofSeconds (s : Nat) : Span := ⟨s * 1000000000⟩

/-- `value` written with `places` digits, without the zeros that end it. -/
def decimals (value places : Nat) : String :=
  let digits := (Nat.toDigits 10 value).reverse.dropWhile (· == '0')
  let width := (Nat.toDigits 10 value).length
  if value = 0 then "" else
    "." ++ String.ofList (List.replicate (places - width) '0') ++ String.ofList digits.reverse

/-- The text of a span, such as `1.5s`, `20ms` or `750ns`. -/
def text (s : Span) : String :=
  if 1000000000 ≤ s.nanos then
    toString (s.nanos / 1000000000) ++ decimals (s.nanos % 1000000000) 9 ++ "s"
  else if 1000000 ≤ s.nanos then
    toString (s.nanos / 1000000) ++ decimals (s.nanos % 1000000) 6 ++ "ms"
  else if 1000 ≤ s.nanos then
    toString (s.nanos / 1000) ++ decimals (s.nanos % 1000) 3 ++ "µs"
  else toString s.nanos ++ "ns"

end Span

end Screencast
