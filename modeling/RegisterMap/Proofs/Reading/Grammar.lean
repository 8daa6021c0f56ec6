import Mathlib.Tactic.MkIffOfInductiveProp
import RegisterMap.Proofs.Text.Scaled
import RegisterMap.Reading.Member

/-!
# The grammar of descriptions

Which elements describe a device, said without reading one. A description is a tree, and what is
asked of an element is asked of its members, the first children with their tags, and of the
elements in it that describe parts. A member that may be missing is looked at when it is there,
so its text has to be of the right form then. What no rule names may stand anywhere, except in
the list of registers of a peripheral.

The rules follow the parts of a device, one for each, from the texts of members up to the whole.
-/

namespace RegisterMap

open Text Xml

/-! ## Members -/

namespace Xml.Element

/-- An element with a text and without children. -/
def leaf (tag text : String) : Element := { tag, attributes := [], text, children := [] }

/-- An element with children and without a text. -/
def branch (tag : String) (children : List Element) : Element :=
  { tag, attributes := [], text := "", children }

/-- An element has a member. -/
def Has (e : Element) (member : String) : Prop := ∃ text, e.member? member = some text

/-- An element has a member, and its text is of some form. -/
def HasSuch (e : Element) (member : String) (form : String → Prop) : Prop :=
  ∃ text, e.member? member = some text ∧ form text

/-- If an element has a member, its text is of some form. -/
def IfHas (e : Element) (member : String) (form : String → Prop) : Prop :=
  ∀ text, e.member? member = some text → form text

end Xml.Element

/-! ## Texts -/

/-- A text is a number. -/
def IsNumber (text : String) : Prop := ∃ n, Scaled (trimChars text.toList) n

/-- A text is a word of a vocabulary. -/
def IsWord (α : Type) [Vocabulary α] (text : String) : Prop := text ∈ Vocabulary.words α

/-- A text is a truth value. -/
def IsTruth (text : String) : Prop := text ∈ ["true", "1", "false", "0"]

/-- A text gives the digits of a pattern of bits, of which some may be open, behind a mark. -/
@[mk_iff]
structure PatternWrites (text digits : List Char) : Prop where
  marked : text = '#' :: digits ∨ text = '0' :: 'b' :: digits ∨ text = '0' :: 'B' :: digits
  nonempty : digits ≠ []
  digits : ∀ c ∈ digits, c ∈ ['0', '1', 'x', 'X']

/-- A text is a pattern of bits. -/
def IsPattern (text : String) : Prop := ∃ digits, PatternWrites text.toList digits

/-- A text gives two positions, the higher one first: `[msb:lsb]`. -/
def PositionsWrite (text : List Char) (msb lsb : Nat) : Prop :=
  ∃ upper lower : List Char, text = '[' :: (upper ++ ':' :: (lower ++ [']'])) ∧
    DigitsWrite 10 upper msb ∧ DigitsWrite 10 lower lsb

/-! ## Fields -/

/-- An element gives a range of bits, from its lowest to its highest one. It does so in the first
way for which all members are there; the members of the other ways are not looked at. -/
inductive GivesBits (e : Element) : Nat → Nat → Prop
  | width {offset width : String} {lsb bits : Nat}
      (hasOffset : e.member? "bitOffset" = some offset)
      (hasWidth : e.member? "bitWidth" = some width)
      (readsOffset : Scaled (trimChars offset.toList) lsb)
      (readsWidth : Scaled (trimChars width.toList) bits) (positive : 0 < bits) :
      GivesBits e lsb (lsb + bits - 1)
  | ends {lower upper : String} {lsb msb : Nat}
      (noWidth : ¬ (e.Has "bitOffset" ∧ e.Has "bitWidth"))
      (hasLower : e.member? "lsb" = some lower) (hasUpper : e.member? "msb" = some upper)
      (readsLower : Scaled (trimChars lower.toList) lsb)
      (readsUpper : Scaled (trimChars upper.toList) msb) (ascending : lsb ≤ msb) :
      GivesBits e lsb msb
  | text {range : String} {lsb msb : Nat}
      (noWidth : ¬ (e.Has "bitOffset" ∧ e.Has "bitWidth"))
      (noEnds : ¬ (e.Has "lsb" ∧ e.Has "msb"))
      (hasRange : e.member? "bitRange" = some range)
      (writes : PositionsWrite range.toList msb lsb) (ascending : lsb ≤ msb) : GivesBits e lsb msb

/-- An element describes a named value. One that is marked, as the default or not, needs no
number, and a number that it has is not looked at. -/
@[mk_iff]
structure DescribesEnumeratedValue (e : Element) : Prop where
  name : e.Has "name"
  value : e.HasSuch "isDefault" (· ∈ ["true", "false"]) ∨
    ¬ e.Has "isDefault" ∧ e.HasSuch "value" fun text => IsPattern text ∨ IsNumber text

/-- An element describes a set of named values. -/
@[mk_iff]
structure DescribesEnumeratedValues (e : Element) : Prop where
  values : ∀ child ∈ e.childrenTagged "enumeratedValue", DescribesEnumeratedValue child
  nonempty : e.childrenTagged "enumeratedValue" ≠ []
  usage : e.IfHas "usage" (IsWord EnumUsage)

/-- An element describes a field. -/
@[mk_iff]
structure DescribesField (e : Element) : Prop where
  name : e.Has "name"
  bits : ∃ lsb msb, GivesBits e lsb msb
  access : e.IfHas "access" (IsWord Access)
  modifiedWriteValues : e.IfHas "modifiedWriteValues" (IsWord ModifiedWriteValues)
  readAction : e.IfHas "readAction" (IsWord ReadAction)
  enumeratedValues : ∀ child ∈ e.childrenTagged "enumeratedValues",
    DescribesEnumeratedValues child

/-! ## Registers and clusters -/

/-- What an element says of register properties is well formed. -/
@[mk_iff]
structure SetsProperties (e : Element) : Prop where
  size : e.IfHas "size" IsNumber
  access : e.IfHas "access" (IsWord Access)
  protection : e.IfHas "protection" (IsWord Protection)
  resetValue : e.IfHas "resetValue" IsNumber
  resetMask : e.IfHas "resetMask" IsNumber

/-- What an element says of a dimension is well formed. -/
@[mk_iff]
structure SetsDimension (e : Element) : Prop where
  dim : e.IfHas "dim" IsNumber
  dimIncrement : e.IfHas "dimIncrement" IsNumber

/-- An element describes a register. -/
@[mk_iff]
structure DescribesRegister (e : Element) : Prop where
  name : e.Has "name"
  addressOffset : e.HasSuch "addressOffset" IsNumber
  fields : ∀ list, e.child? "fields" = some list →
    ∀ child ∈ list.childrenTagged "field", DescribesField child
  dim : SetsDimension e
  properties : SetsProperties e
  dataType : e.IfHas "dataType" (IsWord DataType)
  modifiedWriteValues : e.IfHas "modifiedWriteValues" (IsWord ModifiedWriteValues)
  readAction : e.IfHas "readAction" (IsWord ReadAction)

/-- An element describes a cluster, apart from the nodes in it. -/
@[mk_iff]
structure DescribesCluster (e : Element) : Prop where
  name : e.Has "name"
  addressOffset : e.HasSuch "addressOffset" IsNumber
  dim : SetsDimension e
  properties : SetsProperties e

/-- An element has the tag of a node. -/
def IsNodeTagged (e : Element) : Prop := e.tag = "register" ∨ e.tag = "cluster"

/-- An element describes a node. In a cluster those children that have the tag of a node have to
describe one. -/
inductive DescribesNode : Element → Prop
  | register {e : Element} (tagged : e.tag = "register") (described : DescribesRegister e) :
      DescribesNode e
  | cluster {e : Element} (tagged : e.tag = "cluster") (described : DescribesCluster e)
      (nodes : ∀ child ∈ e.children, IsNodeTagged child → DescribesNode child) :
      DescribesNode e

/-! ## Peripherals and devices -/

/-- An element describes an address block. -/
@[mk_iff]
structure DescribesAddressBlock (e : Element) : Prop where
  offset : e.HasSuch "offset" IsNumber
  size : e.HasSuch "size" IsNumber
  usage : e.HasSuch "usage" (IsWord AddressBlockUsage)
  protection : e.IfHas "protection" (IsWord Protection)

/-- An element describes an interrupt. -/
@[mk_iff]
structure DescribesInterrupt (e : Element) : Prop where
  name : e.Has "name"
  value : e.HasSuch "value" IsNumber

/-- An element describes a peripheral. In its list of registers every child has to describe a
node. -/
@[mk_iff]
structure DescribesPeripheral (e : Element) : Prop where
  name : e.Has "name"
  baseAddress : e.HasSuch "baseAddress" IsNumber
  registers : ∀ list, e.child? "registers" = some list →
    ∀ child ∈ list.children, DescribesNode child
  dim : SetsDimension e
  properties : SetsProperties e
  addressBlocks : ∀ child ∈ e.childrenTagged "addressBlock", DescribesAddressBlock child
  interrupts : ∀ child ∈ e.childrenTagged "interrupt", DescribesInterrupt child

/-- An element describes a processor. -/
@[mk_iff]
structure DescribesCpu (e : Element) : Prop where
  name : e.Has "name"
  revision : e.Has "revision"
  endian : e.HasSuch "endian" (IsWord Endian)
  mpuPresent : e.IfHas "mpuPresent" IsTruth
  fpuPresent : e.IfHas "fpuPresent" IsTruth
  nvicPrioBits : e.IfHas "nvicPrioBits" IsNumber
  vendorSystickConfig : e.IfHas "vendorSystickConfig" IsTruth

/-- An element describes a device. -/
@[mk_iff]
structure DescribesDevice (e : Element) : Prop where
  name : e.Has "name"
  version : e.Has "version"
  description : e.Has "description"
  addressUnitBits : e.HasSuch "addressUnitBits" IsNumber
  width : e.HasSuch "width" IsNumber
  cpu : ∀ cpu, e.child? "cpu" = some cpu → DescribesCpu cpu
  properties : SetsProperties e
  peripherals : ∃ list, e.child? "peripherals" = some list ∧
    ∀ child ∈ list.childrenTagged "peripheral", DescribesPeripheral child

end RegisterMap
