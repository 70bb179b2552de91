import Screencast.Encoder.Selection
import Screencast.Lossless.Encoder

/-! # What a selected encoder is

An encoder that was selected came up for one of the candidates, and candidates differ in codec,
backend and frame rate only.
-/

namespace Screencast

namespace Selection

variable {ε : Type}

/-- The first candidate that comes up is found, with the encoder that came of it. -/
theorem tryAll_found (create : Candidate → Option ε) (candidates : List Candidate) :
    (tryAll create candidates).2 = candidates.findSome? fun c => (create c).map (c, ·) := by
  induction candidates with
  | nil => rfl
  | cons c rest ih =>
      cases came : create c with
      | some encoder => simp only [tryAll, came, List.findSome?_cons, Option.map_some]
      | none => simp only [tryAll, came, List.findSome?_cons, Option.map_none, ih]

private theorem create_of_tryAll {create : Candidate → Option ε} {candidates : List Candidate}
    {c : Candidate} {encoder : ε} (found : (tryAll create candidates).2 = some (c, encoder)) :
    c ∈ candidates ∧ create c = some encoder := by
  induction candidates with
  | nil => cases found
  | cons first rest ih =>
      cases came : create first with
      | some up =>
          simp only [tryAll, came, Option.some.injEq, Prod.mk.injEq] at found
          obtain ⟨rfl, rfl⟩ := found
          exact ⟨List.mem_cons_self, came⟩
      | none =>
          simp only [tryAll, came] at found
          obtain ⟨among, created⟩ := ih found
          exact ⟨List.mem_cons_of_mem first among, created⟩

/-- What is selected was created from one of the candidates. -/
theorem candidate_of_run {factory : EncoderFactory ε} {preferences : List Codec}
    {base : EncoderParams} {ceiling : Nat} {s : SelectedEncoder ε}
    (selected : (run factory preferences base ceiling).2 = .ok s) :
    ∃ c ∈ hardware factory.backends preferences base ++ software preferences base ceiling,
      factory.create c = some s.encoder ∧ s.ability = c.ability ∧ s.fps = c.params.fps := by
  unfold run at selected
  cases found : (tryAll factory.create
      (hardware factory.backends preferences base ++ software preferences base ceiling)).2 with
  | none =>
      simp only [found] at selected
      cases selected
  | some pair =>
      obtain ⟨c, encoder⟩ := pair
      simp only [found, Except.ok.injEq] at selected
      obtain ⟨among, created⟩ := create_of_tryAll found
      subst selected
      exact ⟨c, among, created, rfl, rfl⟩

/-- Every candidate asks for the bitrate it was searched for. -/
theorem bitrate_of_candidate {backends : List Backend} {preferences : List Codec}
    {base : EncoderParams} {ceiling : Nat} {c : Candidate}
    (among : c ∈ hardware backends preferences base ++ software preferences base ceiling) :
    c.params.bitrate = base.bitrate := by
  rcases List.mem_append.mp among with hard | soft
  · obtain ⟨codec, -, made⟩ := List.mem_flatMap.mp hard
    obtain ⟨backend, -, rfl⟩ := List.mem_map.mp made
    rfl
  · obtain ⟨codec, -, rfl⟩ := List.mem_map.mp soft
    rfl

end Selection

/-- The lossless factory gives a fresh encoder of the parameters asked for. -/
theorem LosslessEncoder.eq_new_of_create {c : Candidate} {e : LosslessEncoder}
    (created : factory.create c = some e) : e = new c.params := by
  unfold EncoderFactory.create at created
  by_cases hard : c.backend.isHardware = true
  · rw [if_pos hard] at created
    cases created
  · rw [if_neg hard] at created
    by_cases codec : c.params.codec = .zstd
    · simp only [factory, if_pos codec, Option.some.injEq] at created
      exact created.symm
    · simp only [factory, if_neg codec] at created
      cases created

end Screencast
