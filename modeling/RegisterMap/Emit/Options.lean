/-!
# What is emitted

The switches that decide how much of a device goes into the code and in which form.
-/

namespace RegisterMap

/-- The switches of the emission. All are on unless turned off. -/
structure EmitOptions where
  /-- Registers with fields get a type with field accessors. -/
  withFields : Bool := true
  /-- Numbered fields at regular distances share one indexed accessor. -/
  groupFields : Bool := true
  /-- Fields of one bit are truth values. -/
  boolFields : Bool := true
  /-- Similar peripherals share one module. -/
  groupPeripherals : Bool := true
  /-- Descriptions go along. -/
  withDoc : Bool := true
  deriving DecidableEq, Repr

end RegisterMap
