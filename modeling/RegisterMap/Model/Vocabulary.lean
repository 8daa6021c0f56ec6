/-!
# The vocabularies of a description

Several members of a description hold one word out of a fixed list: an access
right, the usage of an address block, the byte order of the processor. Each list is
a type here. `Vocabulary` gives its values in the order in which messages name them
and the spelling of each; reading a word is the search for a value with that
spelling, so a word is accepted exactly when some value is spelled like it.
-/

namespace RegisterMap

/-- A finite type whose values are written as words. -/
class Vocabulary (α : Type) where
  /-- The values, in the order in which messages name them. -/
  values : List α
  /-- The word that stands for a value. -/
  spelling : α → String

namespace Vocabulary

/-- The value that a word stands for. -/
def read? (α : Type) [Vocabulary α] (word : String) : Option α :=
  values.find? fun value => spelling value = word

/-- The words of a vocabulary. -/
def words (α : Type) [Vocabulary α] : List String :=
  (values : List α).map spelling

end Vocabulary

/-- Who may do what with a register or field. -/
inductive Access
  | readOnly
  | writeOnly
  | readWrite
  | writeOnce
  | readWriteOnce
  deriving DecidableEq, Repr

namespace Access

instance : Vocabulary Access where
  values := [.readOnly, .writeOnly, .readWrite, .writeOnce, .readWriteOnce]
  spelling
    | .readOnly => "read-only"
    | .writeOnly => "write-only"
    | .readWrite => "read-write"
    | .writeOnce => "writeOnce"
    | .readWriteOnce => "read-writeOnce"

/-- Whether the access right includes reading. -/
def isRead : Access → Bool
  | .readOnly | .readWrite | .readWriteOnce => true
  | .writeOnly | .writeOnce => false

/-- Whether the access right includes writing. -/
def isWrite : Access → Bool
  | .readOnly => false
  | _ => true

/-- Whether reading is allowed; an access right that is not given allows it. -/
def allowsRead (access : Option Access) : Bool := access.all isRead

/-- Whether writing is allowed; an access right that is not given allows it. -/
def allowsWrite (access : Option Access) : Bool := access.all isWrite

end Access

/-- The privilege that an access needs. -/
inductive Protection
  | secure
  | nonSecure
  | privileged
  deriving DecidableEq, Repr

instance : Vocabulary Protection where
  values := [.secure, .nonSecure, .privileged]
  spelling
    | .secure => "s"
    | .nonSecure => "n"
    | .privileged => "p"

/-- What an address block holds. -/
inductive AddressBlockUsage
  | registers
  | buffer
  | reserved
  deriving DecidableEq, Repr

instance : Vocabulary AddressBlockUsage where
  values := [.registers, .buffer, .reserved]
  spelling
    | .registers => "registers"
    | .buffer => "buffer"
    | .reserved => "reserved"

/-- The direction for which enumerated values are given. -/
inductive EnumUsage
  | read
  | write
  | readWrite
  deriving DecidableEq, Repr

instance : Vocabulary EnumUsage where
  values := [.read, .write, .readWrite]
  spelling
    | .read => "read"
    | .write => "write"
    | .readWrite => "read-write"

/-- What a write does to the bits it reaches. -/
inductive ModifiedWriteValues
  | oneToClear
  | oneToSet
  | oneToToggle
  | zeroToClear
  | zeroToSet
  | zeroToToggle
  | clear
  | set
  | modify
  deriving DecidableEq, Repr

instance : Vocabulary ModifiedWriteValues where
  values :=
    [.oneToClear, .oneToSet, .oneToToggle, .zeroToClear, .zeroToSet, .zeroToToggle,
     .clear, .set, .modify]
  spelling
    | .oneToClear => "oneToClear"
    | .oneToSet => "oneToSet"
    | .oneToToggle => "oneToToggle"
    | .zeroToClear => "zeroToClear"
    | .zeroToSet => "zeroToSet"
    | .zeroToToggle => "zeroToToggle"
    | .clear => "clear"
    | .set => "set"
    | .modify => "modify"

/-- What a read does besides answering. -/
inductive ReadAction
  | clear
  | set
  | modify
  | modifyExternal
  deriving DecidableEq, Repr

instance : Vocabulary ReadAction where
  values := [.clear, .set, .modify, .modifyExternal]
  spelling
    | .clear => "clear"
    | .set => "set"
    | .modify => "modify"
    | .modifyExternal => "modifyExternal"

/-- The width of a data type in bits. -/
inductive DataWidth
  | bits8
  | bits16
  | bits32
  | bits64
  deriving DecidableEq, Repr

/-- The decimal digits of a width. -/
def DataWidth.digits : DataWidth → String
  | .bits8 => "8"
  | .bits16 => "16"
  | .bits32 => "32"
  | .bits64 => "64"

/-- The type of the data in a register: an integer, or a pointer to one. -/
structure DataType where
  isPointer : Bool
  isSigned : Bool
  width : DataWidth
  deriving DecidableEq, Repr

instance : Vocabulary DataType where
  values :=
    [false, true].flatMap fun isPointer =>
      [false, true].flatMap fun isSigned =>
        [DataWidth.bits8, .bits16, .bits32, .bits64].map fun width =>
          { isPointer, isSigned, width }
  spelling t :=
    (if t.isSigned then "int" else "uint") ++ t.width.digits ++ "_t"
      ++ (if t.isPointer then " *" else "")

/-- The byte order of a processor. -/
inductive Endian
  | little
  | big
  | selectable
  | other
  deriving DecidableEq, Repr

instance : Vocabulary Endian where
  values := [.little, .big, .selectable, .other]
  spelling
    | .little => "little"
    | .big => "big"
    | .selectable => "selectable"
    | .other => "other"

end RegisterMap
