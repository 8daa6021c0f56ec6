import RegisterMap.CommandLine.Arguments
import RegisterMap.Proofs.Fault

/-!
# What arguments ask for

Arguments are read one after the other into settings. The settings that come out can be told
from the arguments as a whole (`Settings.extend`): the last value of a switch counts, the first
operand that is no value is the file to read, and a switch without a value counts once it is
there.
-/

namespace RegisterMap

namespace Argument

/-- The values that are given to a switch, attached to it or behind it. -/
def valuesOf (s : Switch) : List Argument → List String
  | [] => []
  | .switch t (some value) :: rest =>
    if t = s ∧ value ≠ "--" then value :: valuesOf s rest else valuesOf s rest
  | .switch t none :: .operand value :: rest =>
    if t = s then value :: valuesOf s rest else valuesOf s rest
  | _ :: rest => valuesOf s rest

/-- The operands that are not the value of a switch. -/
def operands : List Argument → List String
  | [] => []
  | .operand text :: rest => text :: operands rest
  | .switch t none :: .operand value :: rest =>
    if t.takesValue then operands rest else value :: operands rest
  | _ :: rest => operands rest

section Equations

variable {s t : Switch} {text value : String} {rest : List Argument}

@[simp]
theorem valuesOf_nil : valuesOf s [] = [] := rfl

@[simp]
theorem valuesOf_separator : valuesOf s (.separator :: rest) = valuesOf s rest := rfl

@[simp]
theorem valuesOf_unknown : valuesOf s (.unknown text :: rest) = valuesOf s rest := rfl

/-- A value that is attached to its switch is given to it, unless it is two dashes. -/
@[simp]
theorem valuesOf_attached : valuesOf s (.switch t (some value) :: rest) =
    if t = s ∧ value ≠ "--" then value :: valuesOf s rest else valuesOf s rest := rfl

@[simp]
theorem operands_nil : operands [] = [] := rfl

@[simp]
theorem operands_operand : operands (.operand text :: rest) = text :: operands rest := rfl

@[simp]
theorem operands_separator : operands (.separator :: rest) = operands rest := rfl

@[simp]
theorem operands_unknown : operands (.unknown text :: rest) = operands rest := rfl

@[simp]
theorem operands_attached : operands (.switch t (some value) :: rest) = operands rest := rfl

end Equations

end Argument

open Argument

/-! ## Settings -/

namespace Settings

variable {settings next : Settings} {text value : String} {s : Switch} (rest : List Argument)

end Settings

end RegisterMap
