import RegisterMap.Xml.Codepage
import RegisterMap.Xml.Header

/-!
# Documents as bytes

The bytes of a document are turned into characters before anything else. A byte order
mark or the first two bytes tell whether characters take one byte or two at least; the
header may then name an encoding, which must agree with that. Without a name, bytes
are UTF-8, and other names are those of code pages. The encoding also decides what counts as a
letter.
-/

namespace RegisterMap.Xml

/-- The order of the two bytes of a unit. -/
inductive ByteOrder
  | big
  | little
  deriving DecidableEq, Repr

namespace ByteOrder

/-- The units that pairs of bytes make. -/
def units? (order : ByteOrder) : List UInt8 → Option (List Nat)
  | bytes =>
    let rec go (front : List Nat) : List UInt8 → Option (List Nat)
      | [] => some front.reverse
      | [_] => none
      | a :: b :: rest =>
        let unit :=
          match order with
          | .big => a.toNat * 256 + b.toNat
          | .little => b.toNat * 256 + a.toNat
        go (unit :: front) rest
    go [] bytes

/-- The word that names an order together with the size of its units. -/
def encodingName : ByteOrder → String
  | .big => "utf-16be"
  | .little => "utf-16le"

end ByteOrder

/-- The characters that units of sixteen bits stand for. The first half of a pair takes
the lower ten bits of the unit behind it, whatever that is; a second half by itself
stands for nothing. -/
def charsOfUnits? (units : List Nat) : Option (List Char) :=
  let rec go (front : List Char) : List Nat → Option (List Char)
    | [] => some front.reverse
    | unit :: rest =>
      if unit < 0xD800 || 0xE000 ≤ unit then go (Char.ofNat unit :: front) rest
      else if 0xDC00 ≤ unit then none
      else
        match rest with
        | next :: rest =>
          go (Char.ofNat (0x10000 + (unit - 0xD800) * 0x400 + next % 0x400) :: front) rest
        | [] => none
  go [] units

/-- The characters of bytes that stand for one character each. -/
def charsOfLatin (bytes : List UInt8) : List Char := bytes.map fun b => Char.ofNat b.toNat

/-- The characters of bytes in UTF-8. -/
def charsOfUtf8? (bytes : List UInt8) : Option (List Char) :=
  (String.fromUTF8? (ByteArray.mk bytes.toArray)).map String.toList

/-- The characters of bytes in UTF-16, if the header names no other encoding or that is
not to be heeded. -/
def decodeWide? (heedsName : Bool) (order : ByteOrder) (bytes : List UInt8) :
    Option (Alphabet × List Char) := do
  let chars ← charsOfUnits? (← order.units? bytes)
  if !heedsName then return (.wide, chars)
  else
    let (header, _) ← Header.take? chars
    match header.encoding with
    | none => return (.wide, chars)
    | some name =>
      let name := name.toLower
      if name = "utf-16" || name = order.encodingName then return (.wide, chars) else none

/-- The encoding that the header of a document names if its characters take one byte at
least. Up to the end of the header every byte is a character. -/
def namedEncoding? (front : List Char) : Option (Option String) :=
  match takeUntil? "?>" front with
  | some (content, _) =>
    (Header.take? (content ++ ['?', '>'])).map fun (header, _) => header.encoding
  | none => some none

/-- The characters of bytes in an encoding of single bytes, or in UTF-8. -/
def decodeNarrow? (heedsName : Bool) (bytes : List UInt8) :
    Option (Alphabet × List Char) := do
  let front := charsOfLatin bytes
  let name ← if heedsName then namedEncoding? front else some none
  match name.map String.toLower with
  | none | some "utf-8" => (charsOfUtf8? bytes).map (.narrow, ·)
  | some "iso-8859-1" => some (.wide, front)
  | some "us-ascii" => if bytes.all (· < 0x80) then some (.wide, front) else none
  | some name => do return (.narrow, ← (← Codepage.named? name).decode? bytes)

/-- The characters of a document, with the letters that its names are made of. -/
def decode? (heedsName : Bool) : List UInt8 → Option (Alphabet × List Char)
  | 0xFE :: 0xFF :: rest => decodeWide? heedsName .big rest
  | 0xFF :: 0xFE :: rest => decodeWide? heedsName .little rest
  | 0xEF :: 0xBB :: 0xBF :: rest => decodeNarrow? heedsName rest
  | 0x00 :: rest => decodeWide? heedsName .big (0x00 :: rest)
  | first :: 0x00 :: rest => decodeWide? heedsName .little (first :: 0x00 :: rest)
  | bytes => decodeNarrow? heedsName bytes

end RegisterMap.Xml
