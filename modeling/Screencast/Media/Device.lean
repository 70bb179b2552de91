/-! # Devices

A renderer or a capturer owns a device; codecs only get a handle to it. Handles are equal when
they belong to one device, and one handle belongs to none.
-/

namespace Screencast

/-- A handle to a device, or to none. -/
structure DeviceHandle where
  id : Nat
deriving DecidableEq, Repr, Inhabited

namespace DeviceHandle

/-- The handle of those who work without a device. -/
def none : DeviceHandle := ⟨0⟩

def isNone (h : DeviceHandle) : Bool := h.id == 0

end DeviceHandle

/-- A device, known by its number. -/
structure Device where
  id : Nat
  label : String
deriving DecidableEq, Repr

def Device.handle (d : Device) : DeviceHandle := ⟨d.id⟩

/-- Where devices get their numbers from; the first is one. -/
structure DeviceSupply where
  next : Nat := 1
deriving DecidableEq, Repr

/-- A new device. -/
def DeviceSupply.create (s : DeviceSupply) (label : String) : Device × DeviceSupply :=
  (⟨s.next, label⟩, ⟨s.next + 1⟩)

end Screencast
