import RegisterMap.Proofs.Reading.Number
import RegisterMap.Proofs.Registers

/-!
# Three forms of a range of bits

A range is given by a position and a width, by two positions, or by two positions in one text. The
first form counts whose members are all there, and an element without the members of the other forms
is read alike (`BitRange.ofElement_only`). Whatever the form is, and however the numbers are
spelled, the range is the same (`BitRange.ofElement_of_gives`), and no form gives a range that ends
before it begins (`BitRange.valid_of_ofElement`).
-/

namespace RegisterMap

open Text Xml

/-! ## Elements with some members only -/

namespace Xml.Element

variable {e : Element} {members : List String} {member : String}

/-- An element without the children that have other tags than some. -/
def only (e : Element) (members : List String) : Element :=
  { e with children := e.children.filter (·.tag ∈ members) }

/-- A member that is kept is what it was. -/
theorem member?_only_of_mem (mem : member ∈ members) :
    (e.only members).member? member = e.member? member := by
  have same : (e.only members).child? member = e.child? member := by
    rw [child?, child?, only, List.find?_filter]
    congr 1
    funext child
    by_cases tagged : child.tag = member <;> simp [tagged, mem]
  rw [member?, member?, same]

/-- A member that is not kept is not there. -/
theorem member?_only_of_not_mem (other : member ∉ members) :
    (e.only members).member? member = none := by
  have none : (e.only members).child? member = none := by
    rw [child?, only, List.find?_filter, List.find?_eq_none]
    intro child _ found
    obtain ⟨mem, tagged⟩ : child.tag ∈ members ∧ child.tag = member := by simpa using found
    exact other (tagged ▸ mem)
  rw [member?, none, Option.map_none]

end Xml.Element

/-! ## Forms -/

namespace BitRange

/-- The forms in which an element gives a range of bits. -/
inductive Form
  /-- The lowest position and the number of bits. -/
  | width
  /-- The lowest position and the highest one. -/
  | ends
  /-- Both positions in one text. -/
  | text
  deriving DecidableEq

namespace Form

/-- The members of a form. -/
def members : Form → List String
  | .width => ["bitOffset", "bitWidth"]
  | .ends => ["lsb", "msb"]
  | .text => ["bitRange"]

/-- The forms that go before a form. -/
def earlier : Form → List Form
  | .width => []
  | .ends => [.width]
  | .text => [.width, .ends]

/-- An element has all members of a form. -/
def Complete (form : Form) (e : Element) : Prop := ∀ member ∈ form.members, e.Has member

/-- A form is the first of which an element has all members. -/
structure IsFirst (form : Form) (e : Element) : Prop where
  complete : form.Complete e
  first : ∀ other ∈ form.earlier, ¬ other.Complete e

/-- An element gives two positions in a form. The members of the form say so, whatever else the
element has. -/
inductive Gives (e : Element) (lsb msb : Nat) : Form → Prop
  | width {offset width : String} (hasOffset : e.member? "bitOffset" = some offset)
      (hasWidth : e.member? "bitWidth" = some width) (readsOffset : readNumber offset = .ok lsb)
      (readsWidth : readNumber width = .ok (msb - lsb + 1)) : Gives e lsb msb .width
  | ends {lower upper : String} (hasLower : e.member? "lsb" = some lower)
      (hasUpper : e.member? "msb" = some upper) (readsLower : readNumber lower = .ok lsb)
      (readsUpper : readNumber upper = .ok msb) : Gives e lsb msb .ends
  | text {range : String} (hasRange : e.member? "bitRange" = some range)
      (writes : PositionsWrite range.toList msb lsb) : Gives e lsb msb .text

section Decisions

variable (form : Form) (e : Element)

instance (member : String) : Decidable (e.Has member) :=
  decidable_of_iff ((e.member? member).isSome = true) Option.isSome_iff_exists

instance : Decidable (form.Complete e) :=
  inferInstanceAs (Decidable (∀ member ∈ form.members, e.Has member))

instance : Decidable (form.IsFirst e) :=
  decidable_of_iff (form.Complete e ∧ ∀ other ∈ form.earlier, ¬ other.Complete e)
    ⟨fun own => ⟨own.1, own.2⟩, fun first => ⟨first.complete, first.first⟩⟩

end Decisions

variable {form : Form} {e : Element}

theorem complete_width : Complete .width e ↔ e.Has "bitOffset" ∧ e.Has "bitWidth" := by
  simp [Complete, members]

theorem complete_ends : Complete .ends e ↔ e.Has "lsb" ∧ e.Has "msb" := by
  simp [Complete, members]

theorem complete_text : Complete .text e ↔ e.Has "bitRange" := by
  simp [Complete, members]

/-- No form has a member of all forms before it. -/
theorem exists_other_member (form : Form) :
    ∀ other ∈ form.earlier, ∃ member ∈ other.members, member ∉ form.members := by
  cases form <;> decide

/-- Without the members of other forms, the first form stays the first. -/
theorem IsFirst.only (first : form.IsFirst e) : form.IsFirst (e.only form.members) where
  complete member mem := by
    rw [Element.Has, Element.member?_only_of_mem mem]
    exact first.complete member mem
  first other mem complete := by
    obtain ⟨member, own, notMem⟩ := exists_other_member form other mem
    obtain ⟨text, has⟩ := complete member own
    rw [Element.member?_only_of_not_mem notMem] at has
    cases has

end Form

/-! ## Reading a form -/

section Reading

open Form (complete_width complete_ends complete_text)

variable {form : Form} {e e' : Element}

/-- A position and a width decide, if both are there. -/
theorem ofElement_of_width {offset width : String} (hasOffset : e.member? "bitOffset" = some offset)
    (hasWidth : e.member? "bitWidth" = some width) : ofElement e = ofWidth offset width := by
  simp only [ofElement, hasOffset, hasWidth]

/-- Two positions decide, if there are not both a position and a width. -/
theorem ofElement_of_ends {lower upper : String} (noWidth : ¬ Form.width.Complete e)
    (hasLower : e.member? "lsb" = some lower) (hasUpper : e.member? "msb" = some upper) :
    ofElement e =
      readNumber lower >>= fun lsb => readNumber upper >>= fun msb => ofEnds msb lsb := by
  unfold ofElement
  split
  next hasOffset hasWidth =>
    exact absurd (complete_width.mpr ⟨⟨_, hasOffset⟩, _, hasWidth⟩) noWidth
  next => simp only [hasLower, hasUpper]

/-- Without the other two forms, a text that gives both positions is read. -/
theorem ofElement_of_text (noWidth : ¬ Form.width.Complete e) (noEnds : ¬ Form.ends.Complete e) :
    ofElement e =
      match e.member? "bitRange" with
      | none => .error (.missing "field" "bitRange")
      | some range =>
        match bitPositions? range.toList with
        | none => .error (.unexpected .bitRange range)
        | some (msb, lsb) => ofEnds msb lsb := by
  unfold ofElement
  split
  next hasOffset hasWidth =>
    exact absurd (complete_width.mpr ⟨⟨_, hasOffset⟩, _, hasWidth⟩) noWidth
  next =>
    split
    next hasLower hasUpper =>
      exact absurd (complete_ends.mpr ⟨⟨_, hasLower⟩, _, hasUpper⟩) noEnds
    next => rfl

/-- **The first form decides.** Elements of which it has the same members are read alike. -/
theorem ofElement_congr (first : form.IsFirst e) (first' : form.IsFirst e')
    (same : ∀ member ∈ form.members, e'.member? member = e.member? member) :
    ofElement e' = ofElement e := by
  cases form with
  | width =>
    obtain ⟨⟨offset, hasOffset⟩, width, hasWidth⟩ := complete_width.mp first.complete
    rw [ofElement_of_width hasOffset hasWidth]
    exact ofElement_of_width ((same _ (by decide)).trans hasOffset)
      ((same _ (by decide)).trans hasWidth)
  | ends =>
    obtain ⟨⟨lower, hasLower⟩, upper, hasUpper⟩ := complete_ends.mp first.complete
    rw [ofElement_of_ends (first.first .width (by decide)) hasLower hasUpper]
    exact ofElement_of_ends (first'.first .width (by decide))
      ((same _ (by decide)).trans hasLower) ((same _ (by decide)).trans hasUpper)
  | text =>
    rw [ofElement_of_text (first.first .width (by decide)) (first.first .ends (by decide)),
      ofElement_of_text (first'.first .width (by decide)) (first'.first .ends (by decide)),
      same "bitRange" (by decide)]

/-- Only the members of the first complete form matter. -/
theorem ofElement_only (first : form.IsFirst e) :
    ofElement (e.only form.members) = ofElement e :=
  ofElement_congr first first.only fun _ => Element.member?_only_of_mem

/-- If no form is complete, then the text of the last one is missing. -/
theorem ofElement_of_none (none : ∀ form : Form, ¬ form.Complete e) :
    ofElement e = .error (.missing "field" "bitRange") := by
  rw [ofElement_of_text (none .width) (none .ends)]
  split
  next => rfl
  next hasRange => exact absurd (complete_text.mpr ⟨_, hasRange⟩) (none .text)

/-- What the first form gives are bits that the element gives. -/
theorem givesBits_of_gives {lsb msb : Nat} (first : form.IsFirst e) (gives : form.Gives e lsb msb)
    (ascending : lsb ≤ msb) : GivesBits e lsb msb := by
  cases gives with
  | width hasOffset hasWidth readsOffset readsWidth =>
    have bits : lsb + (msb - lsb + 1) - 1 = msb := by omega
    have given := GivesBits.width hasOffset hasWidth (readNumber_eq_ok.mp readsOffset)
      (readNumber_eq_ok.mp readsWidth) (Nat.succ_pos _)
    rwa [bits] at given
  | ends hasLower hasUpper readsLower readsUpper =>
    have noWidth := mt complete_width.mpr (first.first .width (by decide))
    exact .ends noWidth hasLower hasUpper (readNumber_eq_ok.mp readsLower)
      (readNumber_eq_ok.mp readsUpper) ascending
  | text hasRange writes =>
    have noWidth := mt complete_width.mpr (first.first .width (by decide))
    have noEnds := mt complete_ends.mpr (first.first .ends (by decide))
    exact .text noWidth noEnds hasRange writes ascending

/-- The positions that the first complete form gives are read. -/
theorem ofElement_of_gives {lsb msb : Nat} (first : form.IsFirst e) (gives : form.Gives e lsb msb)
    (ascending : lsb ≤ msb) : ofElement e = .ok { lsb, msb } :=
  ofElement_eq_ok.mpr ⟨lsb, msb, givesBits_of_gives first gives ascending, rfl⟩

end Reading

/-- The text of a range gives its positions. -/
theorem positionsWrite_rangeText (msb lsb : Nat) :
    PositionsWrite (rangeText msb lsb).toList msb lsb := by
  refine ⟨Nat.toDigits 10 msb, Nat.toDigits 10 lsb, ?_, digitsWrite_toDigits (by decide) msb,
    digitsWrite_toDigits (by decide) lsb⟩
  have written (n : Nat) : signedDecimal n = String.ofList (Nat.toDigits 10 n) := rfl
  simp [rangeText, written]

/-- **A range is the same in all forms.** When the first form of which an element has all members
gives two positions in ascending order, in whatever spelling, the range is the one between them. The
element is read like one that has the members of this form only, so no other form matters, and where
no form has all its members there is no range. No element gives a range that begins below zero or
ends before it begins. In decimal digits, two positions are one text of the third form. -/
theorem ofElement_forms (e : Element) :
    (∀ (form : Form) (lsb msb : Nat), form.IsFirst e → form.Gives e lsb msb → lsb ≤ msb →
        ofElement e = .ok { lsb, msb } ∧ width { lsb, msb } = msb - lsb + 1) ∧
      (∀ form : Form, form.IsFirst e → ofElement (e.only form.members) = ofElement e) ∧
      ((∀ form : Form, ¬ form.Complete e) → ofElement e = .error (.missing "field" "bitRange")) ∧
      (∀ range, ofElement e = .ok range → 0 ≤ range.lsb ∧ range.lsb ≤ range.msb) ∧
      ∀ msb lsb : Nat, PositionsWrite (rangeText msb lsb).toList msb lsb := by
  refine ⟨fun _ _ _ first gives ascending => ⟨ofElement_of_gives first gives ascending, rfl⟩,
    fun _ => ofElement_only, ofElement_of_none, fun _ read => ?_, positionsWrite_rangeText⟩
  have valid := valid_of_ofElement read
  exact ⟨valid.zero_le, valid.lsb_le⟩

/-- The bits 4 to 7 by their lowest position and their number. The other forms contradict this. -/
def fourByWidth : Element := .branch "field"
  [.leaf "msb" "1", .leaf "bitOffset" "+0x4", .leaf "bitRange" "[2:9]", .leaf "lsb" "2",
   .leaf "bitWidth" " #100 "]

/-- The bits 4 to 7 by their ends. There is no width. -/
def fourByEnds : Element := .branch "field"
  [.leaf "bitOffset" "nine", .leaf "msb" "07", .leaf "lsb" "0X4", .leaf "bitRange" "4 to 7"]

/-- The bits 4 to 7 in one text. Of both other forms a member is missing. -/
def fourByText : Element := .branch "field"
  [.leaf "bitWidth" "0", .leaf "bitRange" "[07:4]", .leaf "lsb" "5"]

/-- One range in three forms, each with members of other forms that are not looked at. -/
theorem ofElement_forms_fourBits :
    (Form.width.IsFirst fourByWidth ∧ Form.width.Gives fourByWidth 4 7 ∧
        ofElement fourByWidth = .ok { lsb := 4, msb := 7 }) ∧
      (Form.ends.IsFirst fourByEnds ∧ Form.ends.Gives fourByEnds 4 7 ∧
        ofElement fourByEnds = .ok { lsb := 4, msb := 7 }) ∧
      (Form.text.IsFirst fourByText ∧ Form.text.Gives fourByText 4 7 ∧
        ofElement fourByText = .ok { lsb := 4, msb := 7 } ∧
        ofElement (fourByText.only ["bitRange"]) = ofElement fourByText) ∧
      (∀ form : Form, ¬ form.Complete (fourByText.only ["bitWidth", "lsb"])) ∧
      ofElement (fourByText.only ["bitWidth", "lsb"]) = .error (.missing "field" "bitRange") := by
  have byWidth : Form.width.Gives fourByWidth 4 7 :=
    @Form.Gives.width _ _ _ "+0x4" "#100" (by decide) (by decide) (by decide) (by decide)
  have byEnds : Form.ends.Gives fourByEnds 4 7 :=
    @Form.Gives.ends _ _ _ "0X4" "07" (by decide) (by decide) (by decide) (by decide)
  have byText : Form.text.Gives fourByText 4 7 :=
    @Form.Gives.text _ _ _ "[07:4]" (by decide) (bitPositions?_eq_some.mp (by decide))
  have widthFirst : Form.width.IsFirst fourByWidth := by decide
  have endsFirst : Form.ends.IsFirst fourByEnds := by decide
  have textFirst : Form.text.IsFirst fourByText := by decide
  have none : ∀ form : Form, ¬ form.Complete (fourByText.only ["bitWidth", "lsb"]) := by
    intro form
    cases form <;> decide
  exact ⟨⟨widthFirst, byWidth,
      ((ofElement_forms fourByWidth).1 .width 4 7 widthFirst byWidth (by decide)).1⟩,
    ⟨endsFirst, byEnds, ((ofElement_forms fourByEnds).1 .ends 4 7 endsFirst byEnds (by decide)).1⟩,
    ⟨textFirst, byText, ((ofElement_forms fourByText).1 .text 4 7 textFirst byText (by decide)).1,
      (ofElement_forms fourByText).2.1 .text textFirst⟩,
    none, (ofElement_forms _).2.2.1 none⟩

end BitRange

end RegisterMap
