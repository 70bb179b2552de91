import Screencast.Zstd.Frame
import Screencast.Proofs.Wire.Digits

/-! # Stored content

Content of any length is read back from the frame that stores it
(`Screencast.Compression.stored_lossless`), and the frame is not much longer than the content
(`Screencast.Zstd.length_store_le`).
-/

namespace Screencast

namespace Zstd

/-- A number is read from the bytes it was written in. -/
theorem number?_write {width n : Nat} (small : n < 256 ^ width) (rest : Bytes) :
    number? width (LittleEndian.write width n ++ rest) = some (n, rest) := by
  have split : splitBytes? width (LittleEndian.write width n ++ rest) =
      some (LittleEndian.write width n, rest) :=
    splitBytes?_eq_some_iff.mpr ⟨LittleEndian.length_write width n, rfl⟩
  simp only [number?, split, Option.map_some, LittleEndian.read_write small]

/-- Nothing is read in no bytes. -/
theorem number?_zero (input : Bytes) : number? 0 input = some (0, input) :=
  number?_write Nat.one_pos input

/-- A block that holds its bytes as they are, and how the reader goes on after it. -/
theorem blocks?_stored (h : Header) (fuel : Nat) {content : Bytes} (isLast : Bool)
    (short : content.length ≤ h.blockLimit) (limit : h.blockLimit ≤ blockLimit) (rest : Bytes) :
    blocks? h (fuel + 1)
        (LittleEndian.write 3 (content.length * 8 + isLast.toNat) ++ (content ++ rest)) =
      if isLast then some (⟨content, content.length = 0⟩, rest) else
        (blocks? h fuel rest).map fun (more, rest) =>
          ({ more with content := content ++ more.content }, rest) := by
  have flag : isLast.toNat < 2 := Bool.toNat_lt isLast
  have small : content.length * 8 + isLast.toNat < 256 ^ 3 := by
    unfold Zstd.blockLimit at limit
    omega
  have kind : (content.length * 8 + isLast.toNat) / 2 % 4 = 0 := by omega
  have length : (content.length * 8 + isLast.toNat) / 8 = content.length := by omega
  have last : (content.length * 8 + isLast.toNat) % 2 = isLast.toNat := by omega
  have split : splitBytes? content.length (content ++ rest) = some (content, rest) :=
    splitBytes?_eq_some_iff.mpr ⟨rfl, rfl⟩
  simp only [blocks?, number?_write small, Option.bind_eq_bind, Option.bind_some, kind, length,
    last, Nat.not_lt.mpr short, ↓reduceIte, block?, split]
  cases isLast with
  | true => simp
  | false =>
      simp only [Bool.toNat_false, Nat.zero_ne_one, ↓reduceIte, Bool.false_eq_true]
      cases blocks? h fuel rest <;> rfl

/-- The header of a frame that stores its content. -/
def storedHeader : Header := ⟨blockLimit, none, false⟩

/-- The header written for stored frames is read back. -/
theorem read?_storedHeader (rest : Bytes) :
    Header.read? (0x00 :: 0x38 :: rest) = some (storedHeader, rest) := by
  have small : 0 < 256 ^ 1 := by decide
  have descriptor : number? 1 (0x00 :: 0x38 :: rest) = some (0, 0x38 :: rest) :=
    number?_write small _
  have window : number? 1 (0x38 :: rest) = some (0x38, rest) :=
    number?_write (by decide) rest
  have width : windowOf? 0x38 = some blockLimit := rfl
  simp [Header.read?, descriptor, window, width, number?_zero, storedHeader]

/-- The blocks of a frame are read back, whatever follows them. -/
theorem blocks?_storedBlocks {fuel fuel' : Nat} {content : Bytes} (enough : content.length < fuel)
    (enough' : content.length < fuel') (rest : Bytes) :
    ∃ endsEmpty, blocks? storedHeader fuel' (storedBlocks fuel content ++ rest) =
      some (⟨content, endsEmpty⟩, rest) := by
  induction fuel generalizing fuel' content with
  | zero => exact absurd enough (Nat.not_lt_zero _)
  | succ fuel ih =>
      obtain ⟨fuel', rfl⟩ := Nat.exists_eq_add_one_of_ne_zero (Nat.ne_zero_of_lt enough')
      have limit : storedHeader.blockLimit = blockLimit := rfl
      unfold storedBlocks
      by_cases short : content.length ≤ blockLimit
      · have last :=
          blocks?_stored storedHeader fuel' true (limit ▸ short) (Nat.le_of_eq limit) rest
        rw [if_pos short, List.append_assoc]
        exact ⟨_, last⟩
      · have long : blockLimit < content.length := Nat.not_le.mp short
        have first : (content.take blockLimit).length = blockLimit :=
          List.length_take_of_le (Nat.le_of_lt long)
        have positive : 0 < blockLimit := by decide
        have others : (content.drop blockLimit).length < fuel ∧
            (content.drop blockLimit).length < fuel' := by
          rw [List.length_drop]
          omega
        obtain ⟨endsEmpty, read⟩ := ih others.1 others.2
        have block := blocks?_stored storedHeader fuel' false
          (Nat.le_of_eq (first.trans limit.symm)) (Nat.le_of_eq limit)
          (storedBlocks fuel (content.drop blockLimit) ++ rest)
        rw [read, first] at block
        rw [if_neg short, List.append_assoc, List.append_assoc]
        refine ⟨endsEmpty, block.trans ?_⟩
        simp only [Option.map_some, Bool.false_eq_true, ↓reduceIte, List.take_append_drop]

/-- Every block has three bytes before its content, and all but the last are full. -/
theorem length_storedBlocks {fuel : Nat} {content : Bytes} (enough : content.length < fuel) :
    content.length ≤ (storedBlocks fuel content).length ∧
      (storedBlocks fuel content).length ≤ 4 * content.length + 3 := by
  induction fuel generalizing content with
  | zero => exact absurd enough (Nat.not_lt_zero _)
  | succ fuel ih =>
      unfold storedBlocks
      by_cases short : content.length ≤ blockLimit
      · rw [if_pos short, List.length_append, LittleEndian.length_write]
        omega
      · have positive : 0 < blockLimit := by decide
        have others : (content.drop blockLimit).length = content.length - blockLimit :=
          List.length_drop
        have fewer : (content.drop blockLimit).length < fuel := by omega
        have bounds := ih fewer
        rw [if_neg short, List.length_append, List.length_append, LittleEndian.length_write,
          List.length_take]
        omega

/-- A stored frame is unpacked to its content. -/
theorem frame?_stored (content : Bytes) :
    ∃ room, frame? {} (0x00 :: 0x38 :: storedBlocks (content.length + 1) content) =
      some (content, room, []) := by
  have long : content.length < (storedBlocks (content.length + 1) content).length + 1 :=
    Nat.lt_succ_of_le (length_storedBlocks (Nat.lt_succ_self content.length)).1
  obtain ⟨endsEmpty, read⟩ := blocks?_storedBlocks (Nat.lt_succ_self content.length) long []
  rw [List.append_nil] at read
  have direct : storedHeader.isDirect = false := rfl
  have window : ¬windowLimit < storedHeader.window := by decide
  have agrees : storedHeader.agrees ⟨content, endsEmpty⟩ = true := rfl
  have holds : (Room.provideFor {} storedHeader).holds storedHeader content.length = true := rfl
  have verified : storedHeader.verify? content [] = some [] := rfl
  refine ⟨Room.provideFor {} storedHeader, ?_⟩
  simp [frame?, read?_storedHeader, direct, window, read, agrees, holds, verified]

/-- Content is read back from the frame that stores it. -/
theorem decompress_store (content : Bytes) : decompress (store content) = some content := by
  obtain ⟨room, read⟩ := frame?_stored content
  have magic : number? 4 (LittleEndian.write 4 frameMagic ++
      (0x00 :: 0x38 :: storedBlocks (content.length + 1) content)) = some (frameMagic, _) :=
    number?_write (by decide) _
  have known : isSkippable frameMagic = false := by decide
  simp [decompress, frames?, store, magic, known, read]

/-- Storing adds nine bytes and at most three for every byte of content. -/
theorem length_store_le (content : Bytes) : (store content).length ≤ 4 * content.length + 9 := by
  have blocks : (storedBlocks (content.length + 1) content).length ≤ 4 * content.length + 3 :=
    (length_storedBlocks (Nat.lt_succ_self content.length)).2
  rw [store, List.length_append, List.length_append, LittleEndian.length_write]
  simp only [List.length_cons, List.length_nil]
  omega

end Zstd

/-- **Storing loses nothing.** -/
theorem Compression.stored_lossless : Compression.stored.Lossless :=
  fun _ => Zstd.decompress_store

end Screencast
