import RegisterMap.Proofs.Emit.Tidy

/-!
# The layout of emitted code

Tidy declarations are laid out at every depth (`Item.Tidy.reads`): each function of the code is a
block whose statements are laid out, those of a setter of truth values with the braces of their own
alternatives, and each module is a block of declarations. So the code of a device whose names are
names is well laid out, whatever its descriptions say (`Device.emit_wellLaid`).
-/

namespace RegisterMap

open Text

/-! ## Statements -/

namespace Word

/-- A word is plain as an operand if it is plain alone. -/
theorem isPlain_operand {w : Word} {written : String} (h : isPlain written = true) :
    isPlain (w.operand written) = true := by
  unfold operand
  split
  · simp only [isPlain_append, h]
    decide
  · exact h

/-- A word has neither braces nor quotes nor line breaks. -/
theorem isPlain_render (w : Word) : isPlain w.render = true := by
  induction w with
  | stored | value | mask | one => decide
  | literal n => exact isPlain_hex n
  | complement w ih | up w ih | down w ih =>
    simp only [render, isPlain_append, isPlain_operand ih]
    decide
  | both a b ihA ihB | either a b ihA ihB =>
    simp only [render, isPlain_append, isPlain_operand ihA, isPlain_operand ihB]
    decide

/-- A word may begin a line as an operand if it may alone. -/
theorem beginsLine_operand {w : Word} {written : String} (h : beginsLine written = true) :
    beginsLine (w.operand written) = true := by
  unfold operand
  split
  · exact beginsLine_append (beginsLine_append rfl _) _
  · exact h

/-- A word may begin a line. -/
theorem beginsLine_render (w : Word) : beginsLine w.render = true := by
  induction w with
  | stored | value | mask | one => decide
  | literal n => exact beginsLine_append rfl _
  | complement w => exact beginsLine_append rfl _
  | up w ih | down w ih => exact beginsLine_append (beginsLine_operand ih) _
  | both a b ih | either a b ih =>
    exact beginsLine_append (beginsLine_append (beginsLine_operand ih) _) _

end Word

/-- The statements of an accessor are laid out. -/
theorem Step.statements_lines {s : Step} (names : AreNames s.types) : Statements s.lines := by
  induction s with
  | bindMask type w =>
    have ofType := isPlain_of_isName (names type (List.mem_singleton_self type))
    refine .ofPlain ?_ (by simp [beginsLine])
    simp only [isPlain_append, ofType, w.isPlain_render]
    decide
  | assign w | addBits w | keepBits w =>
    refine .ofPlain ?_ (by simp [beginsLine])
    simp only [isPlain_append, w.isPlain_render]
    decide
  | choose yes no ihYes ihNo =>
    obtain ⟨namesYes, namesNo⟩ := areNames_append.mp names
    exact .alternatives (by decide) (by decide) (ihYes namesYes) (ihNo namesNo)

/-- The lines of steps are statements, if the types in them are names. -/
theorem Step.statements_flatMap {steps : List Step} (names : AreNames (steps.flatMap types)) :
    Statements (steps.flatMap lines) := by
  induction steps with
  | nil => exact .nil
  | cons s rest ih =>
    obtain ⟨own, others⟩ := areNames_append.mp names
    exact (statements_lines own).append (ih others)

/-- An answer is a statement. -/
theorem Result.statements_render (answer : Result) : Statements [answer.render] := by
  cases answer with
  | number w => exact .ofPlain w.isPlain_render w.beginsLine_render
  | hasBit w =>
    refine .ofPlain ?_ (beginsLine_append (Word.beginsLine_operand w.beginsLine_render) _)
    simp only [Result.render, isPlain_append, Word.isPlain_operand w.isPlain_render]
    decide

/-- The lines that check an index and compute a position are statements. -/
theorem Position.statements_lines (position : Position) : Statements position.lines := by
  cases position with
  | fixed lsb =>
    refine .ofPlain ?_ (by simp [beginsLine])
    simp only [isPlain_append, isPlain_signedDecimal]
    decide
  | indexed count lsb stride =>
    have bound : Statements ["assert!(index < " ++ decimal count ++ ");"] := by
      refine .ofPlain ?_ (by simp [beginsLine])
      simp only [isPlain_append, isPlain_decimal]
      decide
    have binding : Statements
        ["let lsb = " ++ signedDecimal lsb ++ " + index * " ++ signedDecimal stride ++ ";"] := by
      refine .ofPlain ?_ (by simp [beginsLine])
      simp only [isPlain_append, isPlain_signedDecimal]
      decide
    exact bound.append binding

/-! ## Functions -/

/-- An address has neither braces nor quotes nor line breaks. -/
theorem Address.isPlain_render (address : Address) : isPlain address.render = true := by
  unfold render
  cases address with
  | absolute address => exact isPlain_hex address
  | relative offset =>
    simp only [isPlain_append, isPlain_hex]
    decide

theorem Address.beginsLine_render (address : Address) : beginsLine address.render = true := by
  unfold render
  cases address <;> simp [beginsLine, hex]

theorem Address.all_isPlain_parameters (address : Address) :
    address.parameters.all isPlain = true := by
  cases address <;> rfl

theorem Position.all_isPlain_parameters (position : Position) :
    position.parameters.all isPlain = true := by
  cases position <;> rfl

namespace Function

theorem isPlain_pointerType (isMutable : Bool) (type : String) :
    isPlain (pointerType isMutable type) = isPlain type := by
  cases isMutable <;>
    · simp only [pointerType, isPlain_append]
      rfl

/-- A list of parameters is plain if each of them is. -/
theorem isPlain_parameterList (parameters : List String) :
    isPlain (parameterList parameters) = parameters.all isPlain := by
  have opening : isPlain "(" = true := by decide
  have closing : isPlain ")" = true := by decide
  rw [parameterList, isPlain_append, isPlain_append, isPlain_intercalate (by decide), opening,
    closing, Bool.true_and, Bool.and_true]

/-- The head of a function with names is plain. -/
theorem isPlain_signature {f : Function} (names : AreNames f.texts) :
    isPlain f.signature = true := by
  have plain : ∀ text ∈ f.texts, isPlain text = true := by
    intro text mem
    exact isPlain_of_isName (names text mem)
  unfold signature
  cases f
  all_goals
    obtain ⟨first, second, _⟩ := by simpa only [texts, List.forall_mem_cons] using plain
    simp only [isPlain_append, isPlain_parameterList, isPlain_pointerType, List.all_append,
      List.all_cons, Address.all_isPlain_parameters, Position.all_isPlain_parameters, first, second]
    decide

/-- The signature of a function may begin a line. -/
theorem beginsLine_signature (f : Function) : beginsLine f.signature = true := by
  unfold signature
  cases f <;> simp [beginsLine]

/-- A pointer is bound, and then it is used. -/
theorem statements_pointer {type : String} (h : isName type = true) (address : Address)
    (isMutable : Bool) : Statements
      ["let ptr = " ++ address.render ++ " as " ++ pointerType isMutable type ++ ";"] := by
  refine .ofPlain ?_ (by simp [beginsLine])
  simp only [isPlain_append, address.isPlain_render, isPlain_pointerType, isPlain_of_isName h]
  decide

/-- The statements of a function with names are laid out. -/
theorem statements_lines {f : Function} (names : AreNames f.texts) : Statements f.lines := by
  unfold lines
  cases f with
  | wrap inner type =>
    have ofType : isName type = true := names type (by simp [texts])
    refine .ofPlain ?_ (beginsLine_of_isName ofType (by decide))
    simp only [isPlain_append, isPlain_of_isName ofType]
    decide
  | read register address type =>
    have ofType : isName type = true := names type (by simp [texts])
    exact (statements_pointer ofType address false).append (.ofPlain (by decide) (by decide))
  | write register address type =>
    have ofType : isName type = true := names type (by simp [texts])
    exact (statements_pointer ofType address true).append (.ofPlain (by decide) (by decide))
  | pointer register address type isMutable =>
    have ofType : isName type = true := names type (by simp [texts])
    refine .ofPlain ?_ (beginsLine_append (beginsLine_append address.beginsLine_render _) _)
    simp only [isPlain_append, address.isPlain_render, isPlain_pointerType,
      isPlain_of_isName ofType]
    decide
  | get name position type width body =>
    have ofSteps : AreNames (body.steps.flatMap Step.types) :=
      (areNames_cons.mp (areNames_cons.mp names).2).2
    exact position.statements_lines.append
      ((Step.statements_flatMap ofSteps).append body.result.statements_render)
  | set name position type width body =>
    have ofSteps : AreNames (body.steps.flatMap Step.types) :=
      (areNames_cons.mp (areNames_cons.mp names).2).2
    exact position.statements_lines.append (Step.statements_flatMap ofSteps)

end Function

/-! ## Declarations -/

namespace Item

/-- The lines of some declarations. -/
def lines (items : List Item) : List String := Code.linesOfAllAt 0 (codeOfAll items)

theorem lines_cons (item : Item) (rest : List Item) :
    lines (item :: rest) = item.code.linesAt 0 ++ lines rest := rfl

theorem text_eq_joinLines (items : List Item) : text items = Code.joinLines (lines items) :=
  Code.text_eq_joinLines (codeOfAll items)

/-- Lines of declarations lead back to where they began if those of each do. -/
theorem reads_of_each {items : List Item}
    (each : ∀ item ∈ items, Reads 0 (item.code.linesAt 0) 0) : Reads 0 (lines items) 0 := by
  induction items with
  | nil => exact .nil 0
  | cons item rest ih =>
    obtain ⟨own, others⟩ := List.forall_mem_cons.mp each
    exact own.append (ih others)

/-- Whether a declaration is not a description and has no declarations in it. -/
def isFlat : Item → Bool
  | .doc _ | .implementation _ _ | .mod _ _ => false
  | _ => true

/-- The lines of a tidy declaration that is no description and has none in it are statements. -/
theorem Tidy.statements {item : Item} (tidy : item.Tidy) (flat : item.isFlat = true) :
    Statements (item.code.linesAt 0) := by
  cases tidy with
  | attr plain other =>
    rw [code, Code.linesAt_line]
    exact statements_attribute plain other
  | useCore => exact .ofPlain (by decide) (by decide)
  | @constant name type value ofName ofType closed =>
    rw [code, Code.linesAt_line]
    have front : IsClosed ("pub const " ++ name ++ ": " ++ type ++ " = ") := by
      refine isClosed_of_isPlain ?_
      simp only [isPlain_append, isPlain_of_isName ofName, isPlain_of_isName ofType]
      decide
    have back : IsClosed ";" := isClosed_of_isPlain (by decide)
    exact .ofClosed ((front.append closed).append back) (by simp [beginsLine])
  | wrapper ofName ofInner =>
    rw [code, Code.linesAt_line]
    refine .ofPlain ?_ (by simp [beginsLine])
    simp only [isPlain_append, isPlain_of_isName ofName, isPlain_of_isName ofInner]
    decide
  | @handle name ofName =>
    rw [code, Code.linesAt_line]
    have front : IsClosed ("pub struct " ++ name) := by
      refine isClosed_of_isPlain ?_
      simp only [isPlain_append, isPlain_of_isName ofName]
      decide
    have inside : IsClosed " pub base_address: usize " := isClosed_of_isPlain (by decide)
    have back : IsClosed (" " ++ ("\x7b" ++ " pub base_address: usize " ++ "\x7d")) :=
      (isClosed_of_isPlain (by decide)).append inside.braces
    exact .ofClosed (front.append back) (by simp [beginsLine])
  | function names =>
    rw [code, Code.linesAt_block, Code.linesOfAllAt_lines]
    exact .block (Function.isPlain_signature names) (Function.beginsLine_signature _)
      (Function.statements_lines names)
  | doc _ | implementation _ _ | mod _ _ => cases flat

/-- The line in front of the functions of a type. -/
theorem isPlain_implementation {target : String} (plain : isPlain target = true) :
    isPlain ("impl " ++ target) = true := by
  rw [isPlain_append, plain]
  decide

/-- The line in front of the declarations of a module. -/
theorem isPlain_mod {name : String} (ofName : isName name = true) :
    isPlain ("pub mod " ++ name) = true := by
  rw [isPlain_append, isPlain_of_isName ofName]
  decide

/-- **A tidy declaration is laid out**, with everything in it. -/
theorem Tidy.reads {item : Item} (tidy : item.Tidy) : Reads 0 (item.code.linesAt 0) 0 := by
  induction tidy with
  | doc description =>
    rw [code, Code.linesAt_line]
    exact reads_doc description
  | implementation plain _ ih =>
    rw [code, Code.linesAt_block]
    exact .block (isPlain_implementation plain) (beginsLine_append (by decide) _) (reads_of_each ih)
  | mod ofName _ ih =>
    rw [code, Code.linesAt_block]
    exact .block (isPlain_mod ofName) (beginsLine_append (by decide) _) (reads_of_each ih)
  | _ => exact (Tidy.statements (by constructor <;> assumption) rfl).reads

end Item

/-! ## Devices -/

namespace Device

variable {options : EmitOptions} {d : Device}

/-- The lines of a device lead back to where they began. -/
theorem reads_lines (named : AreNames d.names) {items : List Item}
    (emitted : d.items options = .ok items) : Reads 0 (Item.lines items) 0 := by
  apply Item.reads_of_each
  intro item mem
  exact (tidyAll_items named emitted item mem).reads

/-- A device has at least one declaration. -/
theorem lines_ne_nil {items : List Item} (emitted : d.items options = .ok items) :
    Item.lines items ≠ [] := by
  obtain ⟨groups, _, emitted⟩ := bind_eq_ok.mp emitted
  obtain ⟨individuals, _, same⟩ := bind_eq_ok.mp emitted
  cases same
  exact List.cons_ne_nil _ _

/-- **Emitted code is well laid out.** When the names in a device are made of letters, digits and
underscores, its code consists of lines, each of which ends with a line break. The last of them is
not empty. In these lines string literals end where they should, braces match, and blanks show how
many of them are open, whatever the descriptions in the device say. -/
theorem emit_wellLaid (named : AreNames d.names) {text : String}
    (emitted : d.emit options = .ok text) :
    ∃ lines last, linesOf text = lines ++ [last, []] ∧ last ≠ [] ∧ WellLaid (lines ++ [last]) := by
  obtain ⟨items, made, rfl⟩ := map_eq_ok.mp emitted
  have reads := reads_lines named made
  obtain ⟨front, last, same⟩ : ∃ front last, Item.lines items = front ++ [last] :=
    ⟨_, _, (List.dropLast_concat_getLast (lines_ne_nil made)).symm⟩
  have laid := reads.wellLaid
  have written : last ≠ "" := reads.written last (by simp [same])
  refine ⟨front.map String.toList, last.toList, ?_, by simpa using written, ?_⟩
  · rw [Item.text_eq_joinLines, linesOf_joinLines reads.single, same]
    simp
  · rwa [same, List.map_append] at laid

/-- A description with quotes, backslashes, braces and a line break. -/
def oddDescription : String := "says \"\x7b\" and \\\n  then \x7d\x7d\\\""

/-- A device in which everything that can have a description has this one: a group of two ports, a
peripheral with a register in a cluster, and an interrupt. -/
def oddlyDescribed : Device where
  name := "DEV"
  version := "1"
  description := oddDescription
  addressUnitBits := 8
  width := 32
  peripherals :=
    [{ name := "GPIOA", baseAddress := 0x100, description := some oddDescription
       registers := some [.register { name := "IDR", addressOffset := 0 }] },
     { name := "GPIOB", baseAddress := 0x200, derivedFrom := some "GPIOA" },
     { name := "TIM", baseAddress := 0x300, description := some oddDescription
       interrupts := [{ name := "TIM_IRQ", value := 7, description := some oddDescription }]
       registers := some
         [.cluster { name := "CH", addressOffset := 8, description := some oddDescription }
           [.register
             { name := "CR", addressOffset := 4, description := some oddDescription
               fields := some
                 [{ name := "ON", bitRange := ⟨0, 0⟩, description := some oddDescription },
                  { name := "EN0", bitRange := ⟨4, 5⟩ },
                  { name := "EN1", bitRange := ⟨6, 7⟩, description := some oddDescription }] }]] }]

theorem areNames_oddlyDescribed : AreNames oddlyDescribed.names := by
  unfold AreNames
  decide +kernel

/-- A device whose descriptions have quotes, backslashes, braces and line breaks in them. -/
theorem emit_wellLaid_oddlyDescribed :
    AreNames oddlyDescribed.names ∧ ∃ text, oddlyDescribed.emit {} = .ok text ∧
      ∃ lines last, linesOf text = lines ++ [last, []] ∧ last ≠ [] ∧
        WellLaid (lines ++ [last]) := by
  obtain ⟨text, emitted⟩ : ∃ text, oddlyDescribed.emit {} = .ok text :=
    exists_of_isOk (by decide +kernel)
  exact ⟨areNames_oddlyDescribed, text, emitted, emit_wellLaid areNames_oddlyDescribed emitted⟩

end Device

end RegisterMap
