import RegisterMap.Code.Accessor
import RegisterMap.Code.Writer
import RegisterMap.Text.DocLiteral

/-!
# Declarations of the emitted code

Between a device and the text of its code stand declarations: modules, structs,
constants and functions. A function knows what it is for (which register at which
address, which bits of which width), so statements about the emitted code can be made
here, and `Item.code` alone says how each declaration is written.
-/

namespace RegisterMap

open Text

/-- Where a register is. -/
inductive Address
  /-- At an address that is known. -/
  | absolute (address : Nat)
  /-- At an offset from the base address that a handle carries. -/
  | relative (offset : Nat)
  deriving DecidableEq, Repr

namespace Address

/-- An address as it is written. -/
def render : Address → String
  | .absolute address => hex address
  | .relative offset => "(self.base_address + " ++ hex offset ++ ")"

/-- The address that is reached through a handle with a base address. -/
def eval (base : Nat) : Address → Nat
  | .absolute address => address
  | .relative offset => base + offset

/-- The parameters that a function needs to reach the address. -/
def parameters : Address → List String
  | .absolute _ => []
  | .relative _ => ["&self"]

end Address

/-- Where the lowest bit of a field is. -/
inductive Position
  /-- At one position. -/
  | fixed (lsb : Int)
  /-- At the position that an index selects, the index being below a count. -/
  | indexed (count : Nat) (lsb stride : Int)
  deriving DecidableEq, Repr

namespace Position

/-- The parameters that select a position. -/
def parameters : Position → List String
  | .fixed _ => []
  | .indexed _ _ _ => ["index: usize"]

/-- The statements that bind a position to `lsb`. -/
def lines : Position → List String
  | .fixed lsb => ["let lsb = " ++ signedDecimal lsb ++ ";"]
  | .indexed count lsb stride =>
    ["assert!(index < " ++ decimal count ++ ");",
     "let lsb = " ++ signedDecimal lsb ++ " + index * " ++ signedDecimal stride ++ ";"]

/-- The position for an index. -/
def eval (index : Nat) : Position → Int
  | .fixed lsb => lsb
  | .indexed _ lsb stride => lsb + index * stride

/-- Whether an index may be given. -/
def admits (index : Nat) : Position → Bool
  | .fixed _ => true
  | .indexed count _ _ => index < count

end Position

/-- A function of the emitted code. -/
inductive Function
  /-- Wraps a word in the type of its register. -/
  | wrap (inner type : String)
  /-- Reads a register. -/
  | read (register : String) (address : Address) (type : String)
  /-- Writes a register. -/
  | write (register : String) (address : Address) (type : String)
  /-- Answers the pointer to a register. -/
  | pointer (register : String) (address : Address) (type : String) (isMutable : Bool)
  /-- Reads a field, or one of several fields. -/
  | get (name : String) (position : Position) (type : String) (width : Int) (body : Getter)
  /-- Writes a field, or one of several fields. -/
  | set (name : String) (position : Position) (type : String) (width : Int) (body : Setter)
  deriving DecidableEq, Repr

namespace Function

/-- Parameters between their parentheses. -/
def parameterList (parameters : List String) : String :=
  "(" ++ ", ".intercalate parameters ++ ")"

/-- The type of a pointer. -/
def pointerType (isMutable : Bool) (type : String) : String :=
  "*" ++ (if isMutable then "mut" else "const") ++ " " ++ type

/-- The head of a function: its name, its parameters and its result. -/
def signature : Function → String
  | .wrap inner type => "fn from(value: " ++ inner ++ ") -> " ++ type
  | .read register address type =>
    "pub unsafe fn read_" ++ register ++ parameterList address.parameters ++ " -> " ++ type
  | .write register address type =>
    "pub unsafe fn write_" ++ register ++ "<T: Into<" ++ type ++ ">>"
      ++ parameterList (address.parameters ++ ["value: T"])
  | .pointer register address type isMutable =>
    "pub fn " ++ register ++ "_ptr" ++ parameterList address.parameters ++ " -> "
      ++ pointerType isMutable type
  | .get name position type _ _ =>
    "pub fn " ++ name ++ parameterList ("&self" :: position.parameters) ++ " -> " ++ type
  | .set name position type _ _ =>
    "pub fn set_" ++ name
      ++ parameterList ("&mut self" :: (position.parameters ++ ["value: " ++ type]))

/-- The statements of a function. -/
def lines : Function → List String
  | .wrap _ type => [type ++ "(value)"]
  | .read _ address type =>
    ["let ptr = " ++ address.render ++ " as " ++ pointerType false type ++ ";",
     "core::ptr::read_volatile(ptr)"]
  | .write _ address type =>
    ["let ptr = " ++ address.render ++ " as " ++ pointerType true type ++ ";",
     "core::ptr::write_volatile(ptr, value.into());"]
  | .pointer _ address type isMutable =>
    [address.render ++ " as " ++ pointerType isMutable type]
  | .get _ position _ _ body => position.lines ++ body.lines
  | .set _ position _ _ body => position.lines ++ body.lines

end Function

/-- A declaration of the emitted code. -/
inductive Item where
  /-- An attribute of the declaration that follows. -/
  | attribute (text : String)
  /-- The description of the declaration that follows. -/
  | doc (description : String)
  /-- Makes the core library known in a module. -/
  | useCore
  /-- A constant. -/
  | constant (name type value : String)
  /-- The type that wraps the word of a register. -/
  | wrapper (name inner : String)
  /-- The type of handles, which carry a base address. -/
  | handle (name : String)
  /-- A function. -/
  | function (function : Function)
  /-- Functions of a type. -/
  | implementation (target : String) (body : List Item)
  /-- A module. -/
  | mod (name : String) (body : List Item)

namespace Item

/-- The value of a handle with a base address. -/
def handleValue (name : String) (base : Nat) : String :=
  name ++ " \x7b base_address: " ++ hex base ++ " \x7d"

mutual

/-- A declaration as it is written. -/
def code : Item → Code
  | .attribute text => .line ("#[" ++ text ++ "]")
  | .doc description => .line ("#[doc = \"" ++ docText description ++ "\"]")
  | .useCore => .line "use core;"
  | .constant name type value =>
    .line ("pub const " ++ name ++ ": " ++ type ++ " = " ++ value ++ ";")
  | .wrapper name inner => .line ("pub struct " ++ name ++ "(pub " ++ inner ++ ");")
  | .handle name => .line ("pub struct " ++ name ++ " \x7b pub base_address: usize \x7d")
  | .function f => .block f.signature (f.lines.map .line)
  | .implementation target body => .block ("impl " ++ target) (codeOfAll body)
  | .mod name body => .block ("pub mod " ++ name) (codeOfAll body)

/-- Declarations as they are written. -/
def codeOfAll : List Item → List Code
  | [] => []
  | item :: rest => item.code :: codeOfAll rest

end

/-- Declarations as a text. -/
def text (items : List Item) : String := Code.text (codeOfAll items)

end Item

end RegisterMap
