import RegisterMap.Proofs.Emit.Outline
import RegisterMap.Proofs.Emit.Switched

/-!
# Descriptions only add lines

The switch for descriptions leaves them out of the declarations of a device and changes nothing
else (`switched_undescribed`), so the declarations without descriptions are those with them, with
the descriptions removed, and the faults are the same (`Device.map_withoutDocs_items`). A
description is one line of the code, and no other declaration has a line that looks like one when it
is tidy (`Item.lines_withoutDocsOfAll`). So the code without descriptions is the code with them,
without the lines that give them (`Device.emit_withoutDocLines`).
-/

namespace RegisterMap

open Text

/-! ## Declarations without descriptions -/

namespace Item

mutual

/-- A declaration without the descriptions in it. Of a description nothing is left. -/
def withoutDocs : Item → List Item
  | .doc _ => []
  | .implementation target body => [.implementation target (withoutDocsOfAll body)]
  | .mod name body => [.mod name (withoutDocsOfAll body)]
  | item => [item]

/-- Declarations without the descriptions among them and in them. -/
def withoutDocsOfAll : List Item → List Item
  | [] => []
  | item :: rest => item.withoutDocs ++ withoutDocsOfAll rest

end

theorem withoutDocsOfAll_eq_flatMap (items : List Item) :
    withoutDocsOfAll items = items.flatMap withoutDocs := by
  induction items with
  | nil => rfl
  | cons item rest ih => rw [withoutDocsOfAll, ih, List.flatMap_cons]

/-- Descriptions are removed from declarations one by one. -/
@[simp]
theorem withoutDocsOfAll_append (front back : List Item) :
    withoutDocsOfAll (front ++ back) = withoutDocsOfAll front ++ withoutDocsOfAll back := by
  simp only [withoutDocsOfAll_eq_flatMap, List.flatMap_append]

/-! ## Lines without descriptions -/

/-- Declarations behind others have their lines behind those of the others. -/
theorem lines_append (front back : List Item) :
    lines (front ++ back) = lines front ++ lines back := by
  induction front with
  | nil => rfl
  | cons item rest ih =>
    rw [List.cons_append, lines_cons, lines_cons, ih, List.append_assoc]

theorem lines_singleton (item : Item) : lines [item] = item.code.linesAt 0 :=
  List.append_nil _

/-- Whether a line gives no description. -/
def keepsLine (line : String) : Bool := !isDocLine line.toList

/-- A line that gives no description gives none when it is indented. -/
theorem filter_map_indented (lines : List String) :
    (lines.map (Code.indented 1)).filter keepsLine =
      (lines.filter keepsLine).map (Code.indented 1) := by
  rw [List.filter_map]
  congr 1
  apply List.filter_congr
  intro line _
  exact congrArg not (isDocLine_indented 1 line)

/-- A block keeps the line that begins it and the one that ends it. -/
theorem filter_block {header : String} (begins : beginsLine header = true) (body : List String) :
    (Code.opening header :: (body.map (Code.indented 1) ++ [Code.closing])).filter keepsLine =
      Code.opening header :: ((body.filter keepsLine).map (Code.indented 1) ++ [Code.closing]) := by
  have first : keepsLine (Code.opening header) = true :=
    congrArg not (isDocLine_of_beginsLine (beginsLine_append begins _))
  have last : [Code.closing].filter keepsLine = [Code.closing] := rfl
  rw [List.filter_cons_of_pos first, List.filter_append, filter_map_indented, last]

/-- If the lines of each declaration without descriptions are those that give none, so are those of
all. -/
theorem filter_lines_of_each {items : List Item}
    (each : ∀ item ∈ items, (item.code.linesAt 0).filter keepsLine = lines item.withoutDocs) :
    (lines items).filter keepsLine = lines (withoutDocsOfAll items) := by
  induction items with
  | nil => rfl
  | cons item rest ih =>
    obtain ⟨own, others⟩ := List.forall_mem_cons.mp each
    rw [lines_cons, List.filter_append, own, ih others, withoutDocsOfAll, lines_append]

/-- There are no descriptions in what has no declarations in it. -/
theorem withoutDocs_of_isFlat {item : Item} (flat : item.isFlat = true) :
    item.withoutDocs = [item] := by
  cases item <;> first | rfl | cases flat

/-- A tidy declaration that is no description, and has none in it, loses no line. -/
theorem Tidy.filter_lines_of_isFlat {item : Item} (tidy : item.Tidy) (flat : item.isFlat = true) :
    (item.code.linesAt 0).filter keepsLine = lines item.withoutDocs := by
  rw [withoutDocs_of_isFlat flat, lines_singleton, List.filter_eq_self]
  intro line mem
  exact congrArg not ((tidy.statements flat).notDoc line mem)

/-- **The lines of a tidy declaration without descriptions** are its lines without those that give
descriptions. -/
theorem Tidy.filter_lines {item : Item} (tidy : item.Tidy) :
    (item.code.linesAt 0).filter keepsLine = lines item.withoutDocs := by
  induction tidy with
  | doc description =>
    have given : keepsLine ("#[doc = \"" ++ docText description ++ "\"]") = false := by
      simp [keepsLine, isDocLine]
    rw [code, Code.linesAt_line, List.filter_cons_of_neg (by rw [given]; decide)]
    rfl
  | implementation _ _ ih | mod _ _ ih =>
    rw [withoutDocs, lines_singleton, code, code, Code.linesAt_block, Code.linesAt_block,
      filter_block (beginsLine_append (by decide) _), ← lines, filter_lines_of_each ih, ← lines]
  | _ => exact Tidy.filter_lines_of_isFlat (by constructor <;> assumption) rfl

/-- Declarations without descriptions have the lines that give no description. -/
theorem lines_withoutDocsOfAll {items : List Item} (tidy : TidyAll items) :
    (lines items).filter keepsLine = lines (withoutDocsOfAll items) := by
  apply filter_lines_of_each
  intro item mem
  exact (tidy item mem).filter_lines

end Item

/-- The same switches, but descriptions do not go along. -/
def EmitOptions.undescribed (options : EmitOptions) : EmitOptions :=
  { options with withDoc := false }

open Item

section Emission

variable (options : EmitOptions)

theorem withoutDocs_docItems (description : Option String) :
    withoutDocsOfAll (options.docItems description) = [] := by
  rw [withoutDocsOfAll_eq_flatMap, List.flatMap_eq_nil_iff]
  intro item mem
  obtain ⟨text, rfl⟩ := eq_doc_of_mem_docItems mem
  rfl

/-- In front of declarations a description is left out, as it is when the switch is off. -/
theorem withoutDocs_docItems_append (description : Option String) (items : List Item) :
    withoutDocsOfAll (options.docItems description ++ items) =
      options.undescribed.docItems description ++ withoutDocsOfAll items := by
  rw [withoutDocsOfAll_append, withoutDocs_docItems, docItems_of_docsOff rfl]

/-- A function that is made as far as it is allowed loses its description. -/
theorem withoutDocs_function {β : Type} (allowed : Bool) (made : Except Fault β)
    (function : β → Function) (description : Option String) :
    Correspond (fun items items' => withoutDocsOfAll items = items')
      (if allowed then
        made.map fun body => options.docItems description ++ [.function (function body)]
      else .ok [])
      (if allowed then
        made.map fun body => options.undescribed.docItems description ++ [.function (function body)]
      else .ok []) :=
  .ite _ (.map (.refl (fun _ => withoutDocs_docItems_append options description _) made))
    (.value rfl)

/-- Turning the switch for descriptions off leaves the descriptions out and nothing else. -/
theorem switched_undescribed :
    Switched options options.undescribed fun items items' => withoutDocsOfAll items = items' where
  withFields := rfl
  groupFields := rfl
  groupPeripherals := rfl
  nil := rfl
  append front back := by rw [withoutDocsOfAll_append, front, back]
  flat _ flat := (List.append_nil _).trans (withoutDocs_of_isFlat flat)
  implementation target _ _ inside := inside ▸ rfl
  mod name _ _ inside := inside ▸ rfl
  docs description := by rw [withoutDocs_docItems, docItems_of_docsOff rfl]
  getter a _ _ := withoutDocs_function options _ _ _ a.description
  setter a _ _ := withoutDocs_function options _ _ _ a.description

namespace Device

variable (d : Device)

/-- **The declarations of a device without descriptions** are those with them, without the
descriptions. If there are none, it is for the same fault. -/
theorem map_withoutDocs_items :
    (d.items options).map withoutDocsOfAll = d.items options.undescribed :=
  ((switched_undescribed options).deviceItems d).map_eq

/-- **Descriptions only add lines.** When the names in a device are made of letters, digits and
underscores, its code without descriptions is its code with them, without the lines that give
descriptions, whatever they say. If there is no code, it is for the same fault. -/
theorem emit_withoutDocLines (named : AreNames d.names) :
    (d.emit { options with withDoc := true }).map withoutDocLines =
      d.emit { options with withDoc := false } := by
  have described := map_withoutDocs_items { options with withDoc := true } d
  have off : EmitOptions.undescribed { options with withDoc := true } =
      { options with withDoc := false } := rfl
  rw [emit, emit, ← off, ← described]
  cases emitted : d.items { options with withDoc := true } with
  | error _ => rfl
  | ok items =>
    refine congrArg Except.ok ?_
    rw [Item.text_eq_joinLines, Item.text_eq_joinLines,
      withoutDocLines_joinLines (reads_lines named emitted).single,
      ← lines_withoutDocsOfAll (tidyAll_items named emitted)]
    rfl

end Device

end Emission

/-- The code of a device with descriptions differs from its code without them. -/
theorem Device.emit_withoutDocLines_oddlyDescribed :
    AreNames oddlyDescribed.names ∧
      (oddlyDescribed.emit { boolFields := false, withDoc := false }).isOk = true ∧
      (oddlyDescribed.emit { boolFields := false, withDoc := true }).map withoutDocLines =
        oddlyDescribed.emit { boolFields := false, withDoc := false } ∧
      oddlyDescribed.emit { boolFields := false, withDoc := true } ≠
        oddlyDescribed.emit { boolFields := false, withDoc := false } :=
  ⟨areNames_oddlyDescribed, by decide +kernel,
    emit_withoutDocLines { boolFields := false } oddlyDescribed areNames_oddlyDescribed,
    by decide +kernel⟩

end RegisterMap
