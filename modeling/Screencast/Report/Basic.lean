import Screencast.Number.Single
import Screencast.Text.Elapsed
import Screencast.Text.Hex

/-! # Reports

A report shows a value as a tree of named parts, for logs and for tools that look at a running
stream. This module has the trees and the reports of plain values.
-/

namespace Screencast

/-- A value as a tree of named parts. -/
inductive Report
  | absent
  | flag (b : Bool)
  | number (n : Int)
  | text (s : String)
  | list (items : List Report)
  | record (fields : List (String × Report))

instance : Inhabited Report := ⟨.absent⟩

instance : Coe String Report := ⟨.text⟩

/-- A record with further fields. -/
def Report.add (r : Report) (more : List (String × Report)) : Report :=
  match r with
  | record fields => record (fields ++ more)
  | _ => record more

/-- Types whose values have a report. -/
class Reportable (α : Type) where
  report : α → Report

export Reportable (report)

instance : Reportable Report := ⟨id⟩
instance : Reportable Bool := ⟨.flag⟩
instance : Reportable Nat := ⟨fun n => .number n⟩
instance : Reportable Int := ⟨.number⟩
instance : Reportable UInt32 := ⟨fun n => .number n.toNat⟩
instance : Reportable UInt64 := ⟨fun n => .number n.toNat⟩
instance : Reportable Int32 := ⟨fun n => .number n.toInt⟩
instance : Reportable String := ⟨.text⟩

instance {α : Type} [Reportable α] : Reportable (List α) := ⟨fun items => .list (items.map report)⟩

instance {α : Type} [Reportable α] : Reportable (Option α) := ⟨fun value =>
  match value with
  | some a => report a
  | none => .absent⟩

/-- Success without a value. -/
instance : Reportable Unit := ⟨fun _ => "ok"⟩

/-- A single-precision number is shown by its bits; one NaN is as good as another. -/
instance : Reportable Single := ⟨fun x => if x.isNaN then "nan" else Hex.ofNat 8 x.bits.toNat⟩

/-- A span in nanoseconds, as text where it does not fit into 64 bits. -/
instance : Reportable Span := ⟨fun s =>
  if s.nanos < UInt64.size then report s.nanos else toString s.nanos⟩

/-- The number of bytes that are shown one by one. -/
def shownBytes : Nat := 256

/-- Bytes are shown in hexadecimal digits, long ones by length and digest. -/
def reportBytes (bytes : Bytes) : Report :=
  if bytes.length ≤ shownBytes then Hex.ofBytes bytes
  else .record [("len", report bytes.length), ("fnv1a64", Hex.ofNat 16 (Hex.digest bytes).toNat)]

end Screencast
