import Screencast.Bytes

/-! # Layouts of values in bytes

A layout writes a value as bytes and reads it back from the front of a byte string, handing on
what follows. Numbers are little endian and of fixed width, byte strings carry their length, an
optional value is preceded by a flag byte. Layouts of larger values are put together from those
of their parts, in order.
-/

namespace Screencast.Wire

/-- Why bytes are not a message. -/
inductive Fault
  /-- The bytes end inside a field of fixed size. -/
  | unexpectedEnd
  /-- A byte string is announced longer than what is left. -/
  | shortBytes
  /-- A choice among `count` alternatives is numbered `tag`. -/
  | invalidVariant (tag count : Nat)
  | invalidOption (flag : Nat)
  | invalidBool (flag : Nat)
deriving DecidableEq, Repr

/-- The wording of a fault. -/
def Fault.message : Fault → String
  | unexpectedEnd => "io error: unexpected end of file"
  | shortBytes => "io error: "
  | invalidVariant tag count =>
    "invalid value: integer `" ++ toString tag ++ "`, expected variant index 0 <= i < "
      ++ toString count
  | invalidOption flag => "tag for enum is not valid, found " ++ toString flag
  | invalidBool flag => "invalid u8 while decoding bool, expected 0 or 1, found " ++ toString flag

/-- A way to lay out values of a type. -/
structure Layout (α : Type) where
  write : α → Bytes
  read : Bytes → Except Fault (α × Bytes)

namespace Layout

/-- Reads a number of `width` bytes. -/
def readDigits (width : Nat) (input : Bytes) : Except Fault (Nat × Bytes) :=
  match splitBytes? width input with
  | some (digits, rest) => .ok (LittleEndian.read digits, rest)
  | none => .error .unexpectedEnd

/-- Reads a value and hands on what it stands for. -/
def readAs {α β : Type} (layout : Layout α) (pack : α → β) (input : Bytes) :
    Except Fault (β × Bytes) :=
  match layout.read input with
  | .ok (a, rest) => .ok (pack a, rest)
  | .error fault => .error fault

/-- The same layout for values that stand for others. -/
def map {α β : Type} (layout : Layout α) (pack : α → β) (unpack : β → α) : Layout β where
  write b := layout.write (unpack b)
  read := layout.readAs pack

/-- One value after the other. -/
def pair {α β : Type} (first : Layout α) (second : Layout β) : Layout (α × β) where
  write v := first.write v.1 ++ second.write v.2
  read bytes :=
    match first.read bytes with
    | .ok (a, rest) =>
      match second.read rest with
      | .ok (b, rest) => .ok ((a, b), rest)
      | .error fault => .error fault
    | .error fault => .error fault

/-- A number of `width` bytes. -/
def digits (width : Nat) : Layout Nat where
  write := LittleEndian.write width
  read := readDigits width

def u8 : Layout UInt8 := (digits 1).map UInt8.ofNat UInt8.toNat

def u32 : Layout UInt32 := (digits 4).map UInt32.ofNat UInt32.toNat

def u64 : Layout UInt64 := (digits 8).map UInt64.ofNat UInt64.toNat

def i32 : Layout Int32 := u32.map UInt32.toInt32 Int32.toUInt32

/-- A truth value is one byte, 0 or 1. -/
def bool : Layout Bool where
  write b := [if b then 1 else 0]
  read
    | [] => .error .unexpectedEnd
    | b :: rest =>
      if b = 0 then .ok (false, rest) else if b = 1 then .ok (true, rest)
      else .error (.invalidBool b.toNat)

/-- A flag byte, and the value if the flag is 1. -/
def option {α : Type} (layout : Layout α) : Layout (Option α) where
  write
    | none => [0]
    | some a => 1 :: layout.write a
  read
    | [] => .error .unexpectedEnd
    | b :: rest =>
      if b = 0 then .ok (none, rest) else if b = 1 then
        match layout.read rest with
        | .ok (a, rest) => .ok (some a, rest)
        | .error fault => .error fault
      else .error (.invalidOption b.toNat)

/-- Eight bytes of length, then the bytes. -/
def bytes : Layout Bytes where
  write data := LittleEndian.write 8 data.length ++ data
  read input :=
    match readDigits 8 input with
    | .ok (length, rest) =>
      match splitBytes? length rest with
      | some split => .ok split
      | none => .error .shortBytes
    | .error fault => .error fault

/-- Four bytes that number an alternative, then its content. -/
def writeTagged (tag : Nat) (content : Bytes) : Bytes := LittleEndian.write 4 tag ++ content

/-- Reads the number of one of `count` alternatives, then that alternative. -/
def readTagged {α : Type} (count : Nat)
    (alternatives : Nat → Option (Bytes → Except Fault (α × Bytes))) (input : Bytes) :
    Except Fault (α × Bytes) :=
  match readDigits 4 input with
  | .ok (tag, rest) =>
    match alternatives tag with
    | some read => read rest
    | none => .error (.invalidVariant tag count)
  | .error fault => .error fault

/-- One of the values of a list, by its place in the list. -/
def choice {α : Type} [BEq α] (values : List α) : Layout α where
  write a := writeTagged (values.idxOf a) []
  read := readTagged values.length fun tag => values[tag]?.map fun a rest => .ok (a, rest)

end Layout

end Screencast.Wire
