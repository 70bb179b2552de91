import Screencast.Encoder.Selection
import Screencast.Proofs.Encoder.Selection

/-! # The encoder that was agreed on

Two searches look for a way to encode. Negotiation goes through the abilities that a host lists,
before there is any encoder; selection tries to create one on this backend and on that. Nothing ties
the two together but the list. If it tells what comes up, and in the order in which selection turns
to the backends (`Screencast.EncoderFactory.Announces`), then the codec that was agreed on is
selected on the backend that was agreed on (`Screencast.EncoderFactory.Announces.selects_agreed`).
-/

namespace Screencast

/-- The backends that abilities name for a codec, in the order of the list. -/
def Ability.backendsFor (abilities : List Ability) (codec : Codec) : List Backend :=
  (abilities.filter (·.codec == codec)).map Ability.backend

/-- Backends are named in an order. One may be named again: where it comes first counts. -/
structure Backend.InOrder (order named : List Backend) : Prop where
  among : ∀ b ∈ named, b ∈ order
  follows : ∀ b ∈ named, ∀ b' ∈ named,
    named.idxOf b < named.idxOf b' → order.idxOf b < order.idxOf b'

/-- The backends in the order in which selection turns to them: software comes last. -/
def EncoderFactory.order {ε : Type} (factory : EncoderFactory ε) : List Backend :=
  factory.backends.filter Backend.isHardware ++ [.software]

namespace Selection

/-- What selection tries for a codec on a backend. -/
def candidate (base : EncoderParams) (ceiling : Nat) (codec : Codec) (backend : Backend) :
    Candidate :=
  if backend.isHardware then ⟨backend, { base with codec }⟩
  else ⟨backend, { base with codec, fps := softFps base ceiling }⟩

private theorem ability_candidate (base : EncoderParams) (ceiling : Nat) (codec : Codec)
    (backend : Backend) : (candidate base ceiling codec backend).ability = ⟨codec, backend⟩ := by
  unfold candidate
  split
  · rfl
  · rfl

end Selection

open Selection

/-- The list of abilities tells what comes up: an ability is listed if and only if an encoder can be
created for it. Of each codec the backends are listed in the order in which they are tried. -/
structure EncoderFactory.Announces {ε : Type} (factory : EncoderFactory ε) (base : EncoderParams)
    (ceiling : Nat) : Prop where
  listed_iff : ∀ codec backend, ⟨codec, backend⟩ ∈ factory.abilities ↔
    (factory.create (candidate base ceiling codec backend)).isSome
  ordered : ∀ codec, Backend.InOrder factory.order (Ability.backendsFor factory.abilities codec)

/-- The backends offered for a codec are those its abilities name. -/
theorem Ability.mem_backendsFor {abilities : List Ability} {codec : Codec} {backend : Backend} :
    backend ∈ backendsFor abilities codec ↔ ⟨codec, backend⟩ ∈ abilities := by
  unfold backendsFor
  rw [List.mem_map]
  constructor
  · rintro ⟨⟨codec', backend'⟩, inside, rfl⟩
    obtain ⟨listed, same⟩ := List.mem_filter.mp inside
    exact beq_iff_eq.mp same ▸ listed
  · intro listed
    exact ⟨⟨codec, backend⟩, List.mem_filter.mpr ⟨listed, beq_self_eq_true codec⟩, rfl⟩

private theorem Ability.codec_of_find? {abilities : List Ability} {codec : Codec} {a : Ability}
    (found : abilities.find? (·.codec == codec) = some a) : a.codec = codec := by
  have same := List.find?_some found
  exact beq_iff_eq.mp same

/-- The ability found for a codec names the first of its backends. -/
theorem Ability.backendsFor_of_find? {abilities : List Ability} {codec : Codec} {a : Ability}
    (found : abilities.find? (·.codec == codec) = some a) :
    ∃ others, backendsFor abilities codec = a.backend :: others := by
  rw [← List.head?_filter] at found
  obtain ⟨later, first⟩ := List.head?_eq_some_iff.mp found
  exact ⟨later.map Ability.backend, congrArg (List.map Ability.backend) first⟩

/-- In the order, no other backend that is named comes before the one that is named first. -/
theorem Backend.InOrder.exists_split {order named others : List Backend} {b : Backend}
    (inOrder : InOrder order named) (first : named = b :: others) :
    ∃ before after, order = before ++ b :: after ∧ ∀ b' ∈ before, b' ∉ named := by
  have inside : b ∈ named := first ▸ List.mem_cons_self
  obtain ⟨before, after, split, fresh⟩ :=
    List.eq_append_cons_of_mem (inOrder.among b inside)
  refine ⟨before, after, split, ?_⟩
  intro b' earlier again
  have other : b ≠ b' := fun same => fresh (same ▸ earlier)
  have later : named.idxOf b < named.idxOf b' := by
    rw [first, List.idxOf_cons_self, List.idxOf_cons, beq_eq_false_iff_ne.mpr other, cond_false]
    exact Nat.succ_pos _
  have ahead := inOrder.follows b inside b' again later
  rw [split, List.idxOf_append, if_neg fresh, List.idxOf_append, if_pos earlier] at ahead
  have bounded : before.idxOf b' < before.length := List.idxOf_lt_length_iff.mpr earlier
  omega

/-- The candidates for one codec are the backends in their order. -/
theorem Selection.candidates_singleton {ε : Type} (factory : EncoderFactory ε) (codec : Codec)
    (base : EncoderParams) (ceiling : Nat) :
    hardware factory.backends [codec] base ++ software [codec] base ceiling =
      factory.order.map (candidate base ceiling codec) := by
  unfold hardware software EncoderFactory.order
  rw [List.flatMap_singleton, List.map_append]
  congr 1
  apply List.map_congr_left
  intro backend inside
  have hard := (List.mem_filter.mp inside).2
  unfold candidate
  rw [if_pos hard]

/-- No codec is agreed on exactly when none that the receiver takes is offered. -/
theorem negotiate_eq_none_iff {sender : List Ability} {receiver : List Codec} :
    negotiate sender receiver = none ↔ ∀ codec ∈ receiver, codec ∉ sender.map Ability.codec := by
  unfold negotiate
  rw [List.findSome?_eq_none_iff]
  refine forall₂_congr fun codec _ => ?_
  simp only [List.find?_eq_none, beq_iff_eq, List.mem_map, not_exists, not_and]

/-- What is agreed on is the first ability for its codec, and the codecs before are not there. -/
theorem negotiate_eq_some {sender : List Ability} {receiver : List Codec} {a : Ability}
    (agreed : negotiate sender receiver = some a) :
    sender.find? (·.codec == a.codec) = some a ∧ ∃ before after,
      receiver = before ++ a.codec :: after ∧
        ∀ codec ∈ before, codec ∉ sender.map Ability.codec := by
  obtain ⟨before, codec, after, split, found, skipped⟩ := List.findSome?_eq_some_iff.mp agreed
  obtain rfl := Ability.codec_of_find? found
  exact ⟨found, before, after, split, negotiate_eq_none_iff.mp
    (List.findSome?_eq_none_iff.mpr skipped)⟩

namespace EncoderFactory.Announces

variable {ε : Type} {factory : EncoderFactory ε} {base : EncoderParams} {ceiling : Nat}

/-- Selection for one codec ends with the first ability that is listed for it. -/
theorem selects_first (announces : factory.Announces base ceiling) {codec : Codec} {a : Ability}
    (found : factory.abilities.find? (·.codec == codec) = some a) :
    ∃ s, selectEncoder factory [codec] base ceiling = .ok s ∧ s.ability = a ∧
      factory.create (candidate base ceiling a.codec a.backend) = some s.encoder := by
  obtain rfl := Ability.codec_of_find? found
  have listed : ⟨a.codec, a.backend⟩ ∈ factory.abilities := List.mem_of_find?_eq_some found
  obtain ⟨encoder, came⟩ := Option.isSome_iff_exists.mp ((announces.listed_iff _ _).mp listed)
  obtain ⟨others, first⟩ := Ability.backendsFor_of_find? found
  obtain ⟨before, after, split, unnamed⟩ := (announces.ordered a.codec).exists_split first
  have chosen : (tryAll factory.create
      (hardware factory.backends [a.codec] base ++ software [a.codec] base ceiling)).2 =
        some (candidate base ceiling a.codec a.backend, encoder) := by
    rw [tryAll_found, candidates_singleton, List.findSome?_map, split]
    refine List.findSome?_eq_some_iff.mpr ⟨before, a.backend, after, rfl, ?_, ?_⟩
    · simp only [Function.comp_apply, came, Option.map_some]
    · intro backend earlier
      have absent : ¬(factory.create (candidate base ceiling a.codec backend)).isSome :=
        fun comes => unnamed backend earlier
          (Ability.mem_backendsFor.mpr ((announces.listed_iff a.codec backend).mpr comes))
      simp only [Function.comp_apply, Option.not_isSome_iff_eq_none.mp absent, Option.map_none]
  refine ⟨⟨encoder, (candidate base ceiling a.codec a.backend).ability,
    (candidate base ceiling a.codec a.backend).params.fps⟩, ?_, ability_candidate .., came⟩
  unfold selectEncoder run
  simp only [chosen]

/-- **Selection ends where negotiation did.** Nothing is agreed on exactly if no preferred codec is
among the abilities. Otherwise an ability is, for the first preferred codec among them, and
selection asked for that codec alone succeeds with an encoder of this very ability. -/
theorem selects_agreed (announces : factory.Announces base ceiling) (preferences : List Codec) :
    (negotiate factory.abilities preferences = none ↔
      ∀ codec ∈ preferences, codec ∉ factory.abilities.map Ability.codec) ∧
    ∀ a, negotiate factory.abilities preferences = some a →
      a ∈ factory.abilities ∧
      (∃ before after, preferences = before ++ a.codec :: after ∧
        ∀ codec ∈ before, codec ∉ factory.abilities.map Ability.codec) ∧
      ∃ s, selectEncoder factory [a.codec] base ceiling = .ok s ∧ s.ability = a ∧
        factory.create (candidate base ceiling a.codec a.backend) = some s.encoder := by
  refine ⟨negotiate_eq_none_iff, ?_⟩
  intro a agreed
  obtain ⟨found, earliest⟩ := negotiate_eq_some agreed
  exact ⟨List.mem_of_find?_eq_some found, earliest, announces.selects_first found⟩

/-- A host with two units for one codec, one of which turns up twice. Software turns up among the
units by mistake, and two codecs run in it. -/
def twoUnits : EncoderFactory Candidate where
  abilities := [⟨.zstd, .software⟩, ⟨.h264, .amd⟩, ⟨.h264, .nvidia⟩, ⟨.h264, .amd⟩,
    ⟨.h264, .software⟩]
  backends := [.intel, .software, .amd, .nvidia, .amd]
  createHard backend params :=
    if params.codec = .h264 ∧ backend ∈ [.amd, .nvidia] then some ⟨backend, params⟩ else none
  createSoft params := if params.codec = .h265 then none else some ⟨.software, params⟩

/-- What its encoders are asked for. -/
def smallPicture : EncoderParams := ⟨.h264, 640, 360, 60, 5000000, .none⟩

/-- Two hardware units offer one codec; the earlier one's is selected as it was announced. -/
theorem twoUnits_selects_agreed :
    twoUnits.Announces smallPicture 30 ∧
      negotiate twoUnits.abilities [.h265, .h264, .zstd] = some ⟨.h264, .amd⟩ ∧
      ∃ s, selectEncoder twoUnits [.h264] smallPicture 30 = .ok s ∧ s.ability = ⟨.h264, .amd⟩ := by
  have announces : twoUnits.Announces smallPicture 30 := by
    constructor
    · intro codec backend
      cases codec <;> cases backend <;> decide
    · intro codec
      cases codec <;> exact ⟨by decide, by decide⟩
  have agreed : negotiate twoUnits.abilities [.h265, .h264, .zstd] = some ⟨.h264, .amd⟩ := rfl
  obtain ⟨-, -, s, selected, same, -⟩ :=
    (announces.selects_agreed [.h265, .h264, .zstd]).2 _ agreed
  exact ⟨announces, agreed, s, selected, same⟩

end EncoderFactory.Announces

end Screencast
