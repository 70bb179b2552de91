import Screencast.Proofs.Wire.Canonical

/-! # Written forms as fields, and input that ends early

A written form is a sequence of fields: numbers, tags and flags, and byte strings that follow their
length. A layout that writes a value field by field
(`Screencast.Wire.Layout.ByFields`) notices when its input ends before the value does, and what it
says of it depends only on where among the fields that is: a byte string is told to be short once
its length has been read, and everything else ends unexpectedly
(`Screencast.Wire.Field.missingAfter_eq`).
-/

namespace Screencast.Wire

/-- A field of a written form. -/
inductive Field
  /-- A number, a tag or a flag. -/
  | plain (bytes : Bytes)
  /-- A byte string, after its length. -/
  | string (data : Bytes)
deriving DecidableEq, Repr

namespace Field

/-- The bytes of a field: a byte string has its length in front. -/
def write : Field → Bytes
  | plain bytes => bytes
  | string data => LittleEndian.write 8 data.length ++ data

/-- Some fields, one after the other. -/
def writeAll (fields : List Field) : Bytes := fields.flatMap write

/-- What is wrong if the input ends after the first `n` bytes of a field. -/
def missing (n : Nat) : Field → Fault
  | plain _ => .unexpectedEnd
  | string _ => if n < 8 then .unexpectedEnd else .shortBytes

/-- What is wrong if the input ends after the first `n` bytes of some fields. -/
def missingAfter : Nat → List Field → Fault
  | _, [] => .unexpectedEnd
  | n, f :: rest =>
    if n < f.write.length then f.missing n else missingAfter (n - f.write.length) rest

/-- After `n` bytes the length of a byte string is complete and the byte string is not. -/
def EndsInString (fields : List Field) (n : Nat) : Prop :=
  ∃ before data after, fields = before ++ string data :: after ∧
    (writeAll before).length + 8 ≤ n ∧ n < (writeAll before).length + 8 + data.length

variable {f : Field} {fields rest : List Field} {n : Nat}

private theorem length_string (data : Bytes) : (string data).write.length = 8 + data.length := by
  rw [write, List.length_append, LittleEndian.length_write]

private theorem writeAll_cons (f : Field) (rest : List Field) :
    writeAll (f :: rest) = f.write ++ writeAll rest := List.flatMap_cons

private theorem writeAll_append (fields rest : List Field) :
    writeAll (fields ++ rest) = writeAll fields ++ writeAll rest := List.flatMap_append

/-- A cut within the first field. -/
theorem missingAfter_cons_of_lt (rest : List Field) (inside : n < f.write.length) :
    missingAfter n (f :: rest) = f.missing n := if_pos inside

private theorem missingAfter_cons_add (n : Nat) (f : Field) (rest : List Field) :
    missingAfter (f.write.length + n) (f :: rest) = missingAfter n rest := by
  rw [missingAfter, if_neg (by omega), Nat.add_sub_cancel_left]

/-- What follows is not looked at while the input ends before it. -/
theorem missingAfter_append_of_lt (rest : List Field) (inside : n < (writeAll fields).length) :
    missingAfter n (fields ++ rest) = missingAfter n fields := by
  induction fields generalizing n with
  | nil => exact absurd inside (Nat.not_lt_zero n)
  | cons f fields ih =>
      rw [writeAll_cons, List.length_append] at inside
      rw [List.cons_append, missingAfter, missingAfter]
      by_cases first : n < f.write.length
      · rw [if_pos first, if_pos first]
      · rw [if_neg first, if_neg first, ih (by omega)]

/-- What is complete does not count. -/
theorem missingAfter_append_add (n : Nat) (fields rest : List Field) :
    missingAfter ((writeAll fields).length + n) (fields ++ rest) = missingAfter n rest := by
  induction fields with
  | nil => rw [writeAll, List.flatMap_nil, List.length_nil, Nat.zero_add, List.nil_append]
  | cons f fields ih =>
      rw [writeAll_cons, List.length_append, Nat.add_assoc, List.cons_append,
        missingAfter_cons_add, ih]

private theorem endsInString_cons :
    EndsInString (f :: rest) n ↔
      (∃ data, f = string data ∧ 8 ≤ n ∧ n < 8 + data.length) ∨
        f.write.length ≤ n ∧ EndsInString rest (n - f.write.length) := by
  constructor
  · rintro ⟨before, data, after, parts, least, most⟩
    cases before with
    | nil =>
        rw [writeAll, List.flatMap_nil, List.length_nil, Nat.zero_add] at least most
        exact .inl ⟨data, (List.cons.inj parts).1, least, most⟩
    | cons g before =>
        obtain ⟨rfl, following⟩ := List.cons.inj parts
        rw [writeAll_cons, List.length_append] at least most
        exact .inr ⟨by omega, before, data, after, following, by omega, by omega⟩
  · rintro (⟨data, rfl, least, most⟩ | ⟨first, before, data, after, rfl, least, most⟩)
    · refine ⟨[], data, rest, rfl, ?_⟩
      rw [writeAll, List.flatMap_nil, List.length_nil, Nat.zero_add]
      exact ⟨least, most⟩
    · refine ⟨f :: before, data, after, rfl, ?_⟩
      rw [writeAll_cons, List.length_append]
      omega

/-- The two ways in which an input that ends early is at fault. -/
theorem missingAfter_cases (n : Nat) (fields : List Field) :
    missingAfter n fields = .shortBytes ∧ EndsInString fields n ∨
      missingAfter n fields = .unexpectedEnd ∧ ¬EndsInString fields n := by
  induction fields generalizing n with
  | nil =>
      refine .inr ⟨rfl, ?_⟩
      rintro ⟨before, data, after, parts, -⟩
      cases before <;> cases parts
  | cons f rest ih =>
      rw [endsInString_cons]
      by_cases inside : n < f.write.length
      · have first : ¬f.write.length ≤ n := Nat.not_le.mpr inside
        rw [missingAfter_cons_of_lt rest inside]
        cases f with
        | plain bytes =>
            refine .inr ⟨rfl, ?_⟩
            rintro (⟨data, isString, -⟩ | ⟨later, -⟩)
            · cases isString
            · exact first later
        | string data =>
            rw [length_string] at inside
            by_cases counting : n < 8
            · refine .inr ⟨if_pos counting, ?_⟩
              rintro (⟨-, -, counted, -⟩ | ⟨later, -⟩)
              · exact Nat.not_le.mpr counting counted
              · exact first later
            · exact .inl ⟨if_neg counting, .inl ⟨data, rfl, Nat.not_lt.mp counting, inside⟩⟩
      · have later : f.write.length ≤ n := Nat.not_lt.mp inside
        have complete : ¬∃ data, f = string data ∧ 8 ≤ n ∧ n < 8 + data.length := by
          rintro ⟨data, rfl, -, most⟩
          rw [length_string] at later
          exact Nat.not_le.mpr most later
        rw [missingAfter, if_neg inside]
        rcases ih (n - f.write.length) with ⟨short, ends⟩ | ⟨ended, notInString⟩
        · exact .inl ⟨short, .inr ⟨later, ends⟩⟩
        · refine .inr ⟨ended, ?_⟩
          rintro (first | ⟨-, ends⟩)
          · exact complete first
          · exact notInString ends

/-- A cut falls into the content of a byte string exactly when its bytes run short there. -/
theorem endsInString_iff : EndsInString fields n ↔ missingAfter n fields = .shortBytes := by
  rcases missingAfter_cases n fields with ⟨short, ends⟩ | ⟨ended, notInString⟩
  · exact iff_of_true ends short
  · refine iff_of_false notInString fun short => ?_
    rw [ended] at short
    cases short

instance (fields : List Field) (n : Nat) : Decidable (EndsInString fields n) :=
  decidable_of_iff _ endsInString_iff.symm

/-- **What is said of an input that ends early** depends only on where it ends. -/
theorem missingAfter_eq (n : Nat) (fields : List Field) :
    missingAfter n fields =
      if EndsInString fields n then .shortBytes else .unexpectedEnd := by
  rcases missingAfter_cases n fields with ⟨short, ends⟩ | ⟨ended, notInString⟩
  · rw [short, if_pos ends]
  · rw [ended, if_neg notInString]

end Field

namespace Layout

variable {α β : Type}

/-- A value written as one field. -/
def field (layout : Layout α) (a : α) : Field := .plain (layout.write a)

/-- The fields of an optional value: a flag, and those of the value if there is one. -/
def optionFields (fields : α → List Field) : Option α → List Field
  | none => [.plain [0]]
  | some a => .plain [1] :: fields a

/-- The field of the number of an alternative. -/
def tagField (tag : Nat) : Field := .plain (LittleEndian.write 4 tag)

/-- Every value takes as many bytes, and with fewer of them the input ends unexpectedly. -/
structure FixedWidth (layout : Layout α) (width : Nat) : Prop where
  length_write : ∀ a, (layout.write a).length = width
  read_short : ∀ input : Bytes, input.length < width → layout.read input = .error .unexpectedEnd

/-- **Values are written field by field**, and an input that ends early is refused for the field
that it ends in. -/
structure ByFields (layout : Layout α) (fits : α → Prop) (fields : α → List Field) : Prop
    extends layout.Canonical fits where
  write_eq : ∀ a, layout.write a = Field.writeAll (fields a)
  read_take : ∀ a, fits a → ∀ n < (layout.write a).length,
    layout.read ((layout.write a).take n) = .error (Field.missingAfter n (fields a))

/-- More than the digits of a number is those digits and more of what follows them. -/
theorem take_digits_add (width n more : Nat) (content : Bytes) :
    (LittleEndian.write width n ++ content).take (width + more) =
      LittleEndian.write width n ++ content.take more := by
  have parts : (LittleEndian.write width n ++ content).take
      ((LittleEndian.write width n).length + more) = _ := List.take_length_add_append more
  rwa [LittleEndian.length_write] at parts

/-- Digits cannot be read from fewer bytes than their width. -/
theorem readDigits_short {width : Nat} {input : Bytes} (short : input.length < width) :
    readDigits width input = .error .unexpectedEnd := by
  rw [readDigits, splitBytes?, if_neg (Nat.not_le.mpr short)]

/-- A tag cannot be read from fewer than four bytes. -/
theorem readTagged_short {count : Nat}
    {alternatives : Nat → Option (Bytes → Except Fault (α × Bytes))} {input : Bytes}
    (short : input.length < 4) : readTagged count alternatives input = .error .unexpectedEnd := by
  rw [readTagged, readDigits_short short]

private theorem fixedWidth_digits (width : Nat) : (digits width).FixedWidth width where
  length_write := LittleEndian.length_write width
  read_short _ short := readDigits_short short

private theorem readAs_error {layout : Layout α} {pack : α → β} {input : Bytes} {fault : Fault}
    (refused : layout.read input = .error fault) : layout.readAs pack input = .error fault := by
  rw [readAs, refused]

/-- Another view of the value leaves the width. -/
theorem FixedWidth.map {layout : Layout α} {width : Nat} (fixed : layout.FixedWidth width)
    (pack : α → β) (unpack : β → α) : (layout.map pack unpack).FixedWidth width where
  length_write b := fixed.length_write (unpack b)
  read_short input short := readAs_error (fixed.read_short input short)

/-- A 32-bit number takes four bytes. -/
theorem fixedWidth_u32 : u32.FixedWidth 4 := (fixedWidth_digits 4).map ..

/-- A 64-bit number takes eight bytes. -/
theorem fixedWidth_u64 : u64.FixedWidth 8 := (fixedWidth_digits 8).map ..

/-- A flag takes one byte. -/
theorem fixedWidth_bool : bool.FixedWidth 1 where
  length_write _ := rfl
  read_short input short := by
    obtain rfl : input = [] := List.eq_nil_of_length_eq_zero (by omega)
    rfl

/-- A choice takes the four bytes of its tag. -/
theorem fixedWidth_choice [BEq α] (values : List α) : (choice values).FixedWidth 4 where
  length_write a := by
    change (writeTagged (values.idxOf a) []).length = 4
    rw [writeTagged, List.append_nil, LittleEndian.length_write]
  read_short _ short := readTagged_short short

/-- A value of fixed width is one field. -/
theorem Canonical.byField {layout : Layout α} {fits : α → Prop} {width : Nat}
    (canonical : layout.Canonical fits) (fixed : layout.FixedWidth width) :
    layout.ByFields fits fun a => [layout.field a] where
  toCanonical := canonical
  write_eq a := (List.flatMap_singleton ..).symm
  read_take a _ n short := by
    rw [Field.missingAfter_cons_of_lt [] short]
    apply fixed.read_short
    rw [fixed.length_write] at short
    exact Nat.lt_of_le_of_lt (List.length_take_le ..) short

/-- A byte string is one field, too. -/
theorem byFields_bytes : bytes.ByFields (·.length < 256 ^ 8) fun data => [.string data] where
  toCanonical := canonical_bytes
  write_eq data := (List.flatMap_singleton ..).symm
  read_take data small n short := by
    rw [Field.missingAfter_cons_of_lt [] short, Field.missing]
    change n < (LittleEndian.write 8 data.length ++ data).length at short
    change bytes.read ((LittleEndian.write 8 data.length ++ data).take n) = _
    by_cases counting : n < 8
    · have ended : readDigits 8 ((LittleEndian.write 8 data.length ++ data).take n) =
          .error .unexpectedEnd :=
        readDigits_short (Nat.lt_of_le_of_lt (List.length_take_le ..) counting)
      simp only [bytes, ended, if_pos counting]
    · obtain ⟨more, rfl⟩ := Nat.exists_eq_add_of_le (Nat.not_lt.mp counting)
      have length : readDigits 8 (LittleEndian.write 8 data.length ++ data.take more) =
          .ok (data.length, data.take more) := readDigits_eq_ok_iff.mpr ⟨small, rfl⟩
      have fewer : ¬data.length ≤ (data.take more).length := by
        rw [List.length_append, LittleEndian.length_write] at short
        rw [List.length_take]
        omega
      simp only [bytes, take_digits_add, length, splitBytes?, if_neg fewer, if_neg counting]

namespace ByFields

variable {first : Layout α} {second : Layout β} {fits : α → Prop} {fits' : β → Prop}
  {fields : α → List Field} {fields' : β → List Field}

/-- It does not matter how it is said which values fit. -/
theorem congr {fits'' : α → Prop} (whole : first.ByFields fits fields)
    (same : ∀ a, fits a ↔ fits'' a) : first.ByFields fits'' fields := by
  obtain rfl : fits = fits'' := funext fun a => propext (same a)
  exact whole

/-- Another view of the value keeps the fields. -/
theorem map (whole : first.ByFields fits fields) {pack : α → β} {unpack : β → α}
    (packed : ∀ b, pack (unpack b) = b) (unpacked : ∀ a, fits a → unpack (pack a) = a) :
    (first.map pack unpack).ByFields (fun b => fits (unpack b)) fun b => fields (unpack b) where
  toCanonical := whole.toCanonical.map packed unpacked
  write_eq b := whole.write_eq (unpack b)
  read_take b fit n short := readAs_error (whole.read_take (unpack b) fit n short)

/-- The input ends in the first value, or the first is read and it ends in the second. -/
theorem pair (left : first.ByFields fits fields) (right : second.ByFields fits' fields') :
    (first.pair second).ByFields (fun v => fits v.1 ∧ fits' v.2)
      fun v => fields v.1 ++ fields' v.2 where
  toCanonical := left.toCanonical.pair right.toCanonical
  write_eq v := by
    rw [Field.writeAll_append, ← left.write_eq, ← right.write_eq]
    rfl
  read_take v fit n short := by
    change n < (first.write v.1 ++ second.write v.2).length at short
    change (first.pair second).read ((first.write v.1 ++ second.write v.2).take n) = _
    by_cases inFirst : n < (first.write v.1).length
    · rw [List.take_append_of_le_length (Nat.le_of_lt inFirst),
        Field.missingAfter_append_of_lt _ (left.write_eq v.1 ▸ inFirst)]
      simp only [Layout.pair, left.read_take v.1 fit.1 n inFirst]
    · obtain ⟨more, rfl⟩ := Nat.exists_eq_add_of_le (Nat.not_lt.mp inFirst)
      have inSecond : more < (second.write v.2).length := by
        rw [List.length_append] at short
        omega
      rw [List.take_length_add_append, left.write_eq v.1, Field.missingAfter_append_add,
        ← left.write_eq v.1]
      simp only [Layout.pair, left.read_write v.1 fit.1, right.read_take v.2 fit.2 more inSecond]

/-- An optional value goes by fields too: a tag, and the value's own when it is there. -/
theorem option (whole : first.ByFields fits fields) :
    first.option.ByFields (fun o => ∀ a ∈ o, fits a) (optionFields fields) where
  toCanonical := whole.toCanonical.option
  write_eq o := by
    cases o with
    | none => rfl
    | some a =>
        rw [optionFields, Field.writeAll_cons, ← whole.write_eq]
        rfl
  read_take o fit n short := by
    cases o with
    | none =>
        obtain rfl : n = 0 := Nat.lt_one_iff.mp short
        rfl
    | some a =>
        cases n with
        | zero => rfl
        | succ n =>
            have refused := whole.read_take a (fit a rfl) n (Nat.lt_of_succ_lt_succ short)
            have flagged : Field.missingAfter (n + 1) (optionFields fields (some a)) =
                Field.missingAfter n (fields a) := by
              rw [optionFields, Nat.add_comm]
              exact Field.missingAfter_cons_add n (.plain [1]) (fields a)
            have apart : ¬(1 : UInt8) = 0 := by decide
            simp only [Layout.option, List.take_succ_cons, apart, ↓reduceIte, refused, flagged]

/-- The tag of an alternative is a field of its own. -/
theorem writeTagged_eq (whole : first.ByFields fits fields) (tag : Nat) (a : α) :
    writeTagged tag (first.write a) = Field.writeAll (tagField tag :: fields a) := by
  rw [Field.writeAll_cons, ← whole.write_eq]
  rfl

/-- An alternative under its tag: the input ends in the tag, or in the alternative. -/
theorem readTagged_take (whole : first.ByFields fits fields) {count : Nat}
    {alternatives : Nat → Option (Bytes → Except Fault (β × Bytes))} (tag : Nat) (pack : α → β)
    (small : tag < 256 ^ 4) (found : alternatives tag = some (first.readAs pack)) (a : α)
    (fit : fits a) (n : Nat) (short : n < (writeTagged tag (first.write a)).length) :
    readTagged count alternatives ((writeTagged tag (first.write a)).take n) =
      .error (Field.missingAfter n (tagField tag :: fields a)) := by
  have width : (tagField tag).write.length = 4 := LittleEndian.length_write 4 tag
  by_cases inTag : n < 4
  · rw [Field.missingAfter_cons_of_lt _ (by rwa [width]),
      readTagged_short (Nat.lt_of_le_of_lt (List.length_take_le ..) inTag)]
    rfl
  · obtain ⟨more, rfl⟩ := Nat.exists_eq_add_of_le (Nat.not_lt.mp inTag)
    rw [writeTagged, List.length_append, LittleEndian.length_write] at short
    have split : (writeTagged tag (first.write a)).take (4 + more) =
        writeTagged tag ((first.write a).take more) := take_digits_add ..
    have readTag : readDigits 4 (writeTagged tag ((first.write a).take more)) =
        .ok (tag, (first.write a).take more) := readDigits_eq_ok_iff.mpr ⟨small, rfl⟩
    have refused : first.readAs pack ((first.write a).take more) =
        .error (Field.missingAfter more (fields a)) :=
      readAs_error (whole.read_take a fit more (by omega))
    have skipped := Field.missingAfter_cons_add more (tagField tag) (fields a)
    rw [width] at skipped
    rw [split, skipped]
    simp only [readTagged, readTag, found, refused]

end ByFields

end Layout

end Screencast.Wire
