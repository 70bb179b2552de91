import Screencast.Zstd.Checksum
import Screencast.Zstd.Room

/-! # Compressed frames

A compressed stream is a sequence of frames. A frame has a header, blocks, and perhaps a
checksum of its content; frames of another kind are skipped. This reader knows the blocks that
hold their bytes as they are and those that repeat one byte. The writer stores the content as
it is, in blocks of the greatest length.

The picture codec needs two functions of all this: one that packs bytes at some level of effort, and
one that unpacks what was packed and refuses what was not.
-/

namespace Screencast.Zstd

def frameMagic : Nat := 0xFD2FB528

/-- Skippable frames begin with one of sixteen numbers. -/
def isSkippable (magic : Nat) : Bool := magic / 16 == 0x184D2A5

/-- What the blocks of a frame unpack to. -/
structure Body where
  content : Bytes
  /-- Whether the last block has no bytes of its own. -/
  endsEmpty : Bool
deriving DecidableEq, Repr

/-- Reads what follows a block's head: the bytes themselves, or one byte to be repeated. The packed
kind is not known, but one without bytes is empty where a frame is unpacked block by block. -/
def block? (isDirect : Bool) (kind length : Nat) (input : Bytes) : Option (Bytes × Bytes) :=
  match kind with
  | 0 => splitBytes? length input
  | 1 => (splitBytes? 1 input).map fun (byte, rest) =>
    (List.replicate length (byte.headD 0), rest)
  | 2 => if length = 0 && !isDirect then some ([], input) else none
  | _ => none

/-- Reads blocks up to the last one of a frame. Each begins with three bytes: a flag for the last,
two bits for the kind, the rest a length. `fuel` bounds the number of blocks. -/
def blocks? (header : Header) : Nat → Bytes → Option (Body × Bytes)
  | 0, _ => none
  | fuel + 1, input => do
    let (head, rest) ← number? 3 input
    let kind := head / 2 % 4
    let length := head / 8
    if header.blockLimit < length then none
    let (content, rest) ← block? header.isDirect kind length rest
    if head % 2 = 1 then some (⟨content, kind ≠ 1 && length = 0⟩, rest) else do
      let (more, rest) ← blocks? header fuel rest
      some ({ more with content := content ++ more.content }, rest)

/-- Whether the content has the length that was announced. A frame that is unpacked block by block
is only asked at a last block that has bytes. -/
def Header.agrees (h : Header) (body : Body) : Bool :=
  h.contentSize.all (· == body.content.length) || (!h.isDirect && body.endsEmpty)

/-- Whether the content is followed by its checksum, if the header says so; reads it. -/
def Header.verify? (h : Header) (content : Bytes) (input : Bytes) : Option Bytes :=
  if !h.hasChecksum then some input else do
    let (sum, rest) ← number? 4 input
    if sum = (checksum content).toNat % UInt32.size then some rest else none

/-- Reads a frame after its magic number. -/
def frame? (room : Room) (input : Bytes) : Option (Bytes × Room × Bytes) := do
  let (header, rest) ← Header.read? input
  let room := if header.isDirect then room else room.provideFor header
  if !header.isDirect && windowLimit < header.window then none
  let (body, rest) ← blocks? header (rest.length + 1) rest
  if !header.agrees body then none
  if !header.isDirect && !room.holds header body.content.length then none
  some (body.content, room, ← header.verify? body.content rest)

/-- Passes over a frame after its magic number. -/
def skip? (room : Room) (input : Bytes) : Option (Room × Bytes) := do
  let (size, rest) ← number? 4 input
  let (_, rest) ← splitBytes? size rest
  some (room.provideForSkipped size, rest)

/-- Reads frames up to the end of the input; `fuel` bounds their number. -/
def frames? : Nat → Room → Bytes → Option Bytes
  | 0, _, _ => none
  | fuel + 1, room, input => do
    let (magic, rest) ← number? 4 input
    let (content, room, rest) ←
      if isSkippable magic then (skip? room rest).map ([], ·)
      else if magic = frameMagic then frame? room rest else none
    if rest.isEmpty then some content else (frames? fuel room rest).map (content ++ ·)

/-- The content of a compressed stream; there is at least one frame in it. -/
def decompress (input : Bytes) : Option Bytes := frames? (input.length + 1) {} input

/-- The content in blocks that hold their bytes as they are; `fuel` bounds their number. -/
def storedBlocks : Nat → Bytes → Bytes
  | 0, _ => []
  | fuel + 1, content =>
    if content.length ≤ blockLimit then LittleEndian.write 3 (content.length * 8 + 1) ++ content
    else LittleEndian.write 3 (blockLimit * 8) ++ content.take blockLimit
      ++ storedBlocks fuel (content.drop blockLimit)

/-- One frame that stores the content. Its window is as wide as a block is long, and it does not
announce a size, so that there is no limit to the content. -/
def store (content : Bytes) : Bytes :=
  LittleEndian.write 4 frameMagic ++ [0x00, 0x38] ++ storedBlocks (content.length + 1) content

end Screencast.Zstd

namespace Screencast

/-- A way to compress bytes. -/
structure Compression where
  compress : Nat → Bytes → Bytes
  decompress : Bytes → Option Bytes

namespace Compression

/-- Unpacking undoes packing, at every level. -/
def Lossless (z : Compression) : Prop :=
  ∀ level content, z.decompress (z.compress level content) = some content

/-- Frames that store their content as it is, whatever the level. -/
def stored : Compression := ⟨fun _ => Zstd.store, Zstd.decompress⟩

end Compression

end Screencast
