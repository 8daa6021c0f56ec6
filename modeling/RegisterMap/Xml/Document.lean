import RegisterMap.Xml.Encoding
import RegisterMap.Xml.Growth
import RegisterMap.Xml.Prolog
import RegisterMap.Xml.Tree

/-!
# Documents

A document is given as characters or as bytes and is read into its root element.
Whether it is well formed is all that is said about one that cannot be read.
-/

namespace RegisterMap.Xml

/-- The root element of a document. The header says how it was encoded, which does
not matter any more. -/
def Element.ofChars? (a : Alphabet) (chars : List Char) : Option Element :=
  if !chars.all isAllowed then none
  else do
    let (header, rest) ← Header.take? (normalizeBreaks chars)
    let (declarations, rest) ← takeProlog? a header rest
    let parts ← Markup.all? a rest
    if declarations.growsTooMuch (byteCount chars) (Declarations.referredInParts parts) then none
    else elementOf? declarations parts

/-- The root element of a document that is given as bytes. -/
def Element.ofBytes? (bytes : List UInt8) : Option Element :=
  (decode? true bytes).bind fun (a, chars) => Element.ofChars? a chars

/-- The root element of a document that is given as text. The text is taken as its
bytes, so what tells the size of characters does so here too; the encoding that the
header names is the one the text was in before. -/
def Element.ofText? (text : String) : Option Element :=
  (decode? false text.toUTF8.toList).bind fun (a, chars) => Element.ofChars? a chars

end RegisterMap.Xml
