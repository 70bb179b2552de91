import Screencast.Host.Pipeline

/-! # A pipeline that has been created

It holds the loop around the selected encoder, and a start makes just that loop run.
-/

namespace Screencast

/-- Parameters that pass the check have a bitrate ceiling. -/
theorem HostParams.maxBitrate_ne_zero {p : HostParams} (checked : p.check = .ok ()) :
    p.maxBitrate ≠ 0 := by
  intro zero
  unfold check at checked
  by_cases mode : p.mode.width = 0 ∨ p.mode.height = 0 ∨ p.mode.refreshRate = 0
  · rw [if_pos mode] at checked
    cases checked
  · rw [if_neg mode] at checked
    by_cases empty : p.preferences.isEmpty = true
    · rw [if_pos empty] at checked
      cases checked
    · rw [if_neg empty, if_pos zero] at checked
      cases checked

namespace HostPipeline

variable {ε : Type} [Encoder ε]

/-- A created pipeline passed the check and has the loop around the encoder selected for it. -/
theorem selected_of_create {p : HostParams} {factory : EncoderFactory ε}
    {device : DeviceHandle} {setFormat : CaptureFormat → Except StreamError Unit}
    {pipeline : HostPipeline ε}
    (created : (create p factory device setFormat).result = .ok pipeline) :
    p.check = .ok () ∧ ∃ s,
      (Selection.run factory p.preferences (p.encoderParams device)
        p.tuning.softFpsCeiling).2 = .ok s ∧
      pipeline =
        { loop := { worker := p.worker s, running := false }, ability := s.ability, fps := s.fps,
          mode := p.mode, startTimeout := p.tuning.startTimeout } := by
  unfold create at created
  cases checked : p.check with
  | error e =>
      rw [checked] at created
      cases created
  | ok =>
      refine ⟨rfl, ?_⟩
      rw [checked] at created
      cases selected :
          (Selection.run factory p.preferences (p.encoderParams device)
            p.tuning.softFpsCeiling).2 with
      | error e =>
          simp only [selected] at created
          cases created
      | ok s =>
          simp only [selected] at created
          cases answer : setFormat (Encoder.captureFormat s.encoder) with
          | error e =>
              rw [answer] at created
              cases created
          | ok =>
              rw [answer] at created
              cases created
              exact ⟨s, rfl, rfl⟩

/-- The loop of a started pipeline is the one to start with. -/
theorem start_of_create {p : HostParams} {factory : EncoderFactory ε}
    {device : DeviceHandle} {setFormat : CaptureFormat → Except StreamError Unit}
    {pipeline : HostPipeline ε}
    (created : (create p factory device setFormat).result = .ok pipeline) :
    (pipeline.start .started).1 = .ok () ∧
      (pipeline.start .started).2.loop = { worker := pipeline.loop.worker } := by
  obtain ⟨-, s, -, rfl⟩ := selected_of_create created
  exact ⟨rfl, rfl⟩

end HostPipeline

end Screencast
