import Screencast.Wire.Layout
import Screencast.Proofs.Wire.Digits

/-! # Canonical layouts

A layout is canonical on the values that fit it when every such value is read back from what is
written for it, whatever follows, and nothing else is ever read: an accepted input begins with
what is written for its value. Every layout of this library is canonical, and the ways to put
layouts together keep it so (`Screencast.Wire.Layout.Canonical.pair` and those after it).
-/

namespace Screencast.Wire.Layout

variable {α β : Type}

/-- **Reading accepts exactly what writing produces**, for the values that fit. -/
structure Canonical (layout : Layout α) (fits : α → Prop) : Prop where
  /-- A value that fits is read back, and what follows it is handed on. -/
  read_write : ∀ a, fits a → ∀ rest, layout.read (layout.write a ++ rest) = .ok (a, rest)
  /-- What is read fits, and was written in the one way there is. -/
  write_of_read : ∀ input a rest, layout.read input = .ok (a, rest) →
    fits a ∧ input = layout.write a ++ rest

/-- Canonicity depends on which values fit, not on how that is said. -/
theorem Canonical.congr {layout : Layout α} {fits fits' : α → Prop}
    (canonical : layout.Canonical fits) (same : ∀ a, fits a ↔ fits' a) :
    layout.Canonical fits' := by
  obtain rfl : fits = fits' := funext fun a => propext (same a)
  exact canonical

/-- A number is read from the bytes of its width if there are that many. -/
theorem readDigits_eq_ok_iff {width n : Nat} {input rest : Bytes} :
    readDigits width input = .ok (n, rest) ↔
      n < 256 ^ width ∧ input = LittleEndian.write width n ++ rest := by
  constructor
  · intro accepted
    unfold readDigits at accepted
    cases split : splitBytes? width input with
    | none => simp only [split, reduceCtorEq] at accepted
    | some parts =>
        obtain ⟨front, after⟩ := parts
        obtain ⟨length, joined⟩ := splitBytes?_eq_some_iff.mp split
        simp only [split, Except.ok.injEq, Prod.mk.injEq] at accepted
        obtain ⟨rfl, rfl⟩ := accepted
        subst length
        exact ⟨LittleEndian.read_lt front, by rw [LittleEndian.write_read, joined]⟩
  · rintro ⟨small, rfl⟩
    have split : splitBytes? width (LittleEndian.write width n ++ rest) =
        some (LittleEndian.write width n, rest) :=
      splitBytes?_eq_some_iff.mpr ⟨LittleEndian.length_write width n, rfl⟩
    simp only [readDigits, split, LittleEndian.read_write small]

/-- Digits of a fixed width have one form for each number below their bound. -/
theorem canonical_digits (width : Nat) : (digits width).Canonical (· < 256 ^ width) where
  read_write _ small _ := readDigits_eq_ok_iff.mpr ⟨small, rfl⟩
  write_of_read _ _ _ accepted := readDigits_eq_ok_iff.mp accepted

/-- What stands for another value is read where that value is read. -/
theorem readAs_eq_ok_iff {layout : Layout α} {pack : α → β} {input rest : Bytes} {b : β} :
    layout.readAs pack input = .ok (b, rest) ↔
      ∃ a, layout.read input = .ok (a, rest) ∧ pack a = b := by
  unfold readAs
  cases layout.read input with
  | error fault => simp only [reduceCtorEq, false_and, exists_false]
  | ok result =>
      obtain ⟨a, after⟩ := result
      simp only [Except.ok.injEq, Prod.mk.injEq]
      constructor
      · rintro ⟨packed, rfl⟩
        exact ⟨a, ⟨rfl, rfl⟩, packed⟩
      · rintro ⟨_, ⟨rfl, rfl⟩, packed⟩
        exact ⟨packed, rfl⟩

namespace Canonical

variable {first : Layout α} {second : Layout β} {fits : α → Prop} {fits' : β → Prop}

/-- Values that stand for others one to one are laid out as well as those. -/
theorem map (canonical : first.Canonical fits) {pack : α → β} {unpack : β → α}
    (packed : ∀ b, pack (unpack b) = b) (unpacked : ∀ a, fits a → unpack (pack a) = a) :
    (first.map pack unpack).Canonical (fun b => fits (unpack b)) where
  read_write b fit rest :=
    readAs_eq_ok_iff.mpr ⟨unpack b, canonical.read_write _ fit rest, packed b⟩
  write_of_read input b rest accepted := by
    obtain ⟨a, read, rfl⟩ := readAs_eq_ok_iff.mp accepted
    obtain ⟨fit, written⟩ := canonical.write_of_read input a rest read
    change fits (unpack (pack a)) ∧ input = first.write (unpack (pack a)) ++ rest
    rw [unpacked a fit]
    exact ⟨fit, written⟩

/-- One value after the other. -/
theorem pair (left : first.Canonical fits) (right : second.Canonical fits') :
    (first.pair second).Canonical (fun v => fits v.1 ∧ fits' v.2) where
  read_write v fit rest := by
    change (first.pair second).read ((first.write v.1 ++ second.write v.2) ++ rest) = _
    rw [List.append_assoc]
    simp only [Layout.pair, left.read_write v.1 fit.1, right.read_write v.2 fit.2]
  write_of_read input v rest accepted := by
    simp only [Layout.pair] at accepted
    cases readFirst : first.read input with
    | error fault => simp only [readFirst, reduceCtorEq] at accepted
    | ok front =>
        obtain ⟨a, middle⟩ := front
        simp only [readFirst] at accepted
        cases readSecond : second.read middle with
        | error fault => simp only [readSecond, reduceCtorEq] at accepted
        | ok back =>
            obtain ⟨b, after⟩ := back
            simp only [readSecond, Except.ok.injEq, Prod.mk.injEq] at accepted
            obtain ⟨rfl, rfl⟩ := accepted
            obtain ⟨fitFirst, rfl⟩ := left.write_of_read _ _ _ readFirst
            obtain ⟨fitSecond, rfl⟩ := right.write_of_read _ _ _ readSecond
            exact ⟨⟨fitFirst, fitSecond⟩, (List.append_assoc ..).symm⟩

/-- The flag of an optional value is 0 or 1 and nothing else. -/
theorem option (canonical : first.Canonical fits) :
    first.option.Canonical (fun o => ∀ a ∈ o, fits a) where
  read_write o fit rest := by
    cases o with
    | none => rfl
    | some a =>
        have read := canonical.read_write a (fit a rfl) rest
        have apart : ¬(1 : UInt8) = 0 := by decide
        simp only [Layout.option, List.cons_append, apart, ↓reduceIte, read]
  write_of_read input o rest accepted := by
    cases input with
    | nil => simp only [Layout.option, reduceCtorEq] at accepted
    | cons flag tail =>
        simp only [Layout.option] at accepted
        split at accepted
        next absent =>
          simp only [Except.ok.injEq, Prod.mk.injEq] at accepted
          obtain ⟨rfl, rfl⟩ := accepted
          subst absent
          exact ⟨fun a member => by simp at member, rfl⟩
        next =>
          split at accepted
          next present =>
            cases readContent : first.read tail with
            | error fault => simp only [readContent, reduceCtorEq] at accepted
            | ok result =>
                obtain ⟨a, after⟩ := result
                simp only [readContent, Except.ok.injEq, Prod.mk.injEq] at accepted
                obtain ⟨rfl, rfl⟩ := accepted
                obtain ⟨fit, rfl⟩ := canonical.write_of_read _ _ _ readContent
                subst present
                refine ⟨fun b member => ?_, rfl⟩
                obtain rfl : a = b := by simpa using member
                exact fit
          next => simp only [reduceCtorEq] at accepted

end Canonical

/-- A 32-bit number has one form. -/
theorem canonical_u32 : u32.Canonical (fun _ => True) :=
  ((canonical_digits 4).map (fun _ => UInt32.ofNat_toNat)
    fun _ small => UInt32.toNat_ofNat_of_lt small).congr
    fun b => iff_of_true b.toNat_lt trivial

/-- A 64-bit number has one form. -/
theorem canonical_u64 : u64.Canonical (fun _ => True) :=
  ((canonical_digits 8).map (fun _ => UInt64.ofNat_toNat)
    fun _ small => UInt64.toNat_ofNat_of_lt small).congr
    fun b => iff_of_true b.toNat_lt trivial

/-- A signed 32-bit number has one form. -/
theorem canonical_i32 : i32.Canonical (fun _ => True) :=
  canonical_u32.map Int32.toInt32_toUInt32 fun n _ => UInt32.toUInt32_toInt32 n

/-- Of the 256 values of a byte only two are truth values. -/
theorem canonical_bool : bool.Canonical (fun _ => True) where
  read_write b _ rest := by cases b <;> rfl
  write_of_read input b rest accepted := by
    cases input with
    | nil => simp only [bool, reduceCtorEq] at accepted
    | cons flag tail =>
        simp only [bool] at accepted
        split at accepted
        next off =>
          simp only [Except.ok.injEq, Prod.mk.injEq] at accepted
          obtain ⟨rfl, rfl⟩ := accepted
          subst off
          exact ⟨trivial, rfl⟩
        next =>
          split at accepted
          next on =>
            simp only [Except.ok.injEq, Prod.mk.injEq] at accepted
            obtain ⟨rfl, rfl⟩ := accepted
            subst on
            exact ⟨trivial, rfl⟩
          next => simp only [reduceCtorEq] at accepted

/-- A byte string is read to the length that was announced, and only in full. -/
theorem canonical_bytes : bytes.Canonical (·.length < 256 ^ 8) where
  read_write data small rest := by
    have length : readDigits 8 (LittleEndian.write 8 data.length ++ (data ++ rest)) =
        .ok (data.length, data ++ rest) := readDigits_eq_ok_iff.mpr ⟨small, rfl⟩
    have content : splitBytes? data.length (data ++ rest) = some (data, rest) :=
      splitBytes?_eq_some_iff.mpr ⟨rfl, rfl⟩
    simp only [bytes, List.append_assoc, length, content]
  write_of_read input data rest accepted := by
    simp only [bytes] at accepted
    cases readLength : readDigits 8 input with
    | error fault => simp only [readLength, reduceCtorEq] at accepted
    | ok result =>
        obtain ⟨length, tail⟩ := result
        obtain ⟨small, rfl⟩ := readDigits_eq_ok_iff.mp readLength
        simp only [readLength] at accepted
        cases split : splitBytes? length tail with
        | none => simp only [split, reduceCtorEq] at accepted
        | some parts =>
            simp only [split, Except.ok.injEq] at accepted
            subst accepted
            obtain ⟨rfl, rfl⟩ := splitBytes?_eq_some_iff.mp split
            exact ⟨small, (List.append_assoc ..).symm⟩

/-- A tagged value is read by the alternative that its tag numbers, after the tag. -/
theorem readTagged_eq_ok_iff {count : Nat}
    {alternatives : Nat → Option (Bytes → Except Fault (α × Bytes))} {input rest : Bytes} {a : α} :
    readTagged count alternatives input = .ok (a, rest) ↔
      ∃ tag content read, tag < 256 ^ 4 ∧ input = writeTagged tag content ∧
        alternatives tag = some read ∧ read content = .ok (a, rest) := by
  unfold readTagged
  constructor
  · intro accepted
    cases readTag : readDigits 4 input with
    | error fault => simp only [readTag, reduceCtorEq] at accepted
    | ok result =>
        obtain ⟨tag, content⟩ := result
        obtain ⟨small, written⟩ := readDigits_eq_ok_iff.mp readTag
        simp only [readTag] at accepted
        cases found : alternatives tag with
        | none => simp only [found, reduceCtorEq] at accepted
        | some read =>
            simp only [found] at accepted
            exact ⟨tag, content, read, small, written, found, accepted⟩
  · rintro ⟨tag, content, read, small, rfl, found, accepted⟩
    have readTag : readDigits 4 (writeTagged tag content) = .ok (tag, content) :=
      readDigits_eq_ok_iff.mpr ⟨small, rfl⟩
    simp only [readTag, found, accepted]

/-- Each value of a list is written by its place, and no place beyond the list is read. -/
theorem canonical_choice [BEq α] [LawfulBEq α] {values : List α} (distinct : values.Nodup)
    (few : values.length < 256 ^ 4) : (choice values).Canonical (· ∈ values) where
  read_write a member rest := by
    have place : values.idxOf a < values.length := List.idxOf_lt_length_of_mem member
    have found : values[values.idxOf a]? = some a := by
      rw [List.getElem?_eq_getElem place, List.getElem_idxOf place]
    simp only [choice, writeTagged, List.append_nil]
    refine readTagged_eq_ok_iff.mpr ⟨values.idxOf a, rest, fun rest => .ok (a, rest),
      Nat.lt_trans place few, rfl, ?_, rfl⟩
    rw [found, Option.map_some]
  write_of_read input a rest accepted := by
    obtain ⟨tag, content, read, _, rfl, found, result⟩ := readTagged_eq_ok_iff.mp accepted
    obtain ⟨b, inside, rfl⟩ := Option.map_eq_some_iff.mp found
    simp only [Except.ok.injEq, Prod.mk.injEq] at result
    obtain ⟨rfl, rfl⟩ := result
    obtain ⟨place, rfl⟩ := List.getElem?_eq_some_iff.mp inside
    refine ⟨List.getElem_mem place, ?_⟩
    simp only [choice, writeTagged, List.append_nil, distinct.idxOf_getElem]

end Screencast.Wire.Layout
