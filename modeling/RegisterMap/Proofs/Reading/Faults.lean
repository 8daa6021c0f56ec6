import RegisterMap.Proofs.Fault
import RegisterMap.Reading.Device

/-!
# The faults of reading

A description that cannot be read lacks a member, or has a text that is not what its place
asks for. There is one law for each reader, in the order in which they build on one another,
and all of them are used by the simplifier, so a reader that is changed needs its own law
only.
-/

namespace RegisterMap

open Xml

/-- The faults that reading has. -/
inductive Fault.OfReading : Fault → Prop
  | missing (element member : String) : OfReading (.missing element member)
  | unexpected (expected : Expectation) (actual : String) : OfReading (.unexpected expected actual)

attribute [simp] Fault.OfReading.missing Fault.OfReading.unexpected

/-! ## Members -/

/-- A text that is no number is a fault of reading. -/
@[simp]
theorem faultsOnly_readNumber (text : String) : FaultsOnly Fault.OfReading (readNumber text) := by
  unfold readNumber
  split <;> simp

@[simp]
theorem faultsOnly_readWord (α : Type) [Vocabulary α] (text : String) :
    FaultsOnly Fault.OfReading (readWord α text) := by
  unfold readWord
  split <;> simp

@[simp]
theorem faultsOnly_readTruth (text : String) : FaultsOnly Fault.OfReading (readTruth text) := by
  unfold readTruth
  split
  · simp
  · split <;> simp

/-- A member that is missing is a fault of reading. -/
@[simp]
theorem faultsOnly_required (e : Element) (thing member : String) :
    FaultsOnly Fault.OfReading (e.required thing member) := by
  unfold Element.required
  split <;> simp

/-- A member that may be there has the faults of its reader. -/
@[simp]
theorem faultsOnly_optional {α : Type} (e : Element) (member : String)
    {read : String → Except Fault α} (each : ∀ text, FaultsOnly Fault.OfReading (read text)) :
    FaultsOnly Fault.OfReading (e.optional member read) := by
  unfold Element.optional
  split
  · simp [each]
  · simp

/-! ## Fields -/

@[simp]
theorem BitRange.faultsOnly_ofWidth (offset width : String) :
    FaultsOnly Fault.OfReading (ofWidth offset width) := by
  simp only [ofWidth, faultsOnly_bind, faultsOnly_readNumber, true_and]
  intro lsb _ bits _
  split <;> simp

@[simp]
theorem BitRange.faultsOnly_ofEnds (msb lsb : Nat) :
    FaultsOnly Fault.OfReading (ofEnds msb lsb) := by
  unfold ofEnds
  split <;> simp

/-- A range has the faults of the form in which it is given. -/
@[simp]
theorem BitRange.faultsOnly_ofElement (e : Element) :
    FaultsOnly Fault.OfReading (ofElement e) := by
  unfold ofElement
  split
  · simp
  · split
    · simp
    · split
      · simp
      · split <;> simp

/-- A named value has the faults of its name, of its mark and of its value. -/
@[simp]
theorem EnumeratedValue.faultsOnly_ofElement (e : Element) :
    FaultsOnly Fault.OfReading (ofElement e) := by
  simp only [ofElement, faultsOnly_bind, faultsOnly_required, true_and]
  intro name _
  split
  · split <;> simp
  · simp only [faultsOnly_bind, faultsOnly_required, true_and]
    intro text _
    split <;> simp

@[simp]
theorem EnumeratedValues.faultsOnly_ofElement (e : Element) :
    FaultsOnly Fault.OfReading (ofElement e) := by
  refine faultsOnly_bind.mpr ⟨faultsOnly_mapM (by simp), fun values _ => ?_⟩
  split <;> simp

@[simp]
theorem Field.faultsOnly_ofElement (e : Element) : FaultsOnly Fault.OfReading (ofElement e) := by
  simp [ofElement, faultsOnly_mapM]

/-! ## Registers and clusters -/

@[simp]
theorem RegisterProperties.faultsOnly_ofElement (e : Element) :
    FaultsOnly Fault.OfReading (ofElement e) := by
  simp [ofElement]

@[simp]
theorem Dimension.faultsOnly_ofElement (e : Element) :
    FaultsOnly Fault.OfReading (ofElement e) := by
  simp [ofElement]

@[simp]
theorem Field.faultsOnly_listOfElement (e : Element) :
    FaultsOnly Fault.OfReading (listOfElement e) := by
  unfold listOfElement
  split <;> simp [faultsOnly_mapM]

@[simp]
theorem Register.faultsOnly_ofElement (e : Element) :
    FaultsOnly Fault.OfReading (ofElement e) := by
  simp [ofElement]

/-- A cluster has the faults of its own members and of what is in it. -/
theorem Node.faultsOnly_clusterOf (e : Element) {nodes : Except Fault (List Node)}
    (inside : FaultsOnly Fault.OfReading nodes) :
    FaultsOnly Fault.OfReading (clusterOf e nodes) := by
  simp [clusterOf, inside]

mutual

/-- A node has the faults of reading at any depth, and so has an element that is no node. -/
@[simp]
theorem Node.faultsOnly_ofElement : ∀ e : Element, FaultsOnly Fault.OfReading (ofElement e)
  | ⟨tag, attributes, text, children⟩ => by
    rw [ofElement]
    split
    · simp
    · split
      · exact faultsOnly_clusterOf _ (faultsOnly_ofChildren children)
      · simp

/-- Nodes have the faults of the first that cannot be read. -/
theorem Node.faultsOnly_ofChildren :
    ∀ children : List Element, FaultsOnly Fault.OfReading (ofChildren children)
  | [] => faultsOnly_ok
  | e :: rest => by
    rw [ofChildren]
    split
    · simp [faultsOnly_ofElement e, faultsOnly_ofChildren rest]
    · exact faultsOnly_ofChildren rest

end

/-! ## Peripherals and devices -/

@[simp]
theorem AddressBlock.faultsOnly_ofElement (e : Element) :
    FaultsOnly Fault.OfReading (ofElement e) := by
  simp [ofElement]

@[simp]
theorem Interrupt.faultsOnly_ofElement (e : Element) :
    FaultsOnly Fault.OfReading (ofElement e) := by
  simp [ofElement]

@[simp]
theorem Node.faultsOnly_listOfElement (e : Element) :
    FaultsOnly Fault.OfReading (listOfElement e) := by
  unfold listOfElement
  split <;> simp [faultsOnly_mapM]

@[simp]
theorem Peripheral.faultsOnly_ofElement (e : Element) :
    FaultsOnly Fault.OfReading (ofElement e) := by
  simp [ofElement, faultsOnly_mapM]

@[simp]
theorem Cpu.faultsOnly_ofElement (e : Element) : FaultsOnly Fault.OfReading (ofElement e) := by
  simp [ofElement]

@[simp]
theorem Device.faultsOnly_cpuOfElement (e : Element) :
    FaultsOnly Fault.OfReading (cpuOfElement e) := by
  unfold cpuOfElement
  split <;> simp

/-- A list of peripherals that is missing is a fault of reading. -/
@[simp]
theorem Device.faultsOnly_peripheralList (e : Element) :
    FaultsOnly Fault.OfReading (peripheralList e) := by
  unfold peripheralList
  split <;> simp

/-- **A document that cannot be read** lacks a member or has a text that is not what its place
asks for. -/
theorem Device.faultsOnly_ofElement (e : Element) : FaultsOnly Fault.OfReading (ofElement e) := by
  simp [ofElement, faultsOnly_mapM]

end RegisterMap
