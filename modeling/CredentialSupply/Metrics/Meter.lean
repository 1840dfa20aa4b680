import CredentialSupply.Metrics.Series
import CredentialSupply.Metrics.Tally

set_option autoImplicit false

/-!
# Meters

A `Meter` keeps the counts of one chain under its name. `Meters` holds the meters in use and
the registry; an event is booked in one meter and, under the meter's name, in the registry.
-/

namespace CredentialSupply

/-- The counts of a named chain. -/
structure Meter where
  chain : String
  tally : Tally

/-- The meters in use and the registry that they share. -/
structure Meters where
  meters : List Meter
  registry : Registry

namespace Meters

/-- Meters with the given names, nothing counted. -/
def named (names : List String) : Meters := ⟨names.map (⟨·, Tally.empty⟩), Registry.empty⟩

/-- Meters with one more, nothing counted in it. -/
def add (m : Meters) (name : String) : Meters :=
  { m with meters := m.meters ++ [⟨name, Tally.empty⟩] }

/-- Name of the meter at a position. -/
def name (m : Meters) (position : Nat) : String := ((m.meters[position]?).map Meter.chain).getD ""

/-- Counts of the meter at a position. -/
def tally (m : Meters) (position : Nat) : Tally :=
  ((m.meters[position]?).map Meter.tally).getD Tally.empty

/-- Books an event in the meter at a position. -/
def record (m : Meters) (position : Nat) (event : Event) : Meters :=
  ⟨m.meters.modify position fun meter => { meter with tally := meter.tally.record event },
    m.registry.record (m.name position) event⟩

end Meters

end CredentialSupply
