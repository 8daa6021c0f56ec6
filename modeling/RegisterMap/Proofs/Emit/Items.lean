import RegisterMap.Emit.Group
import RegisterMap.Proofs.Fault

/-!
# What stands in emitted declarations

The emission of several things either gives the declarations of all of them, one after the
other, or a fault. The laws here take such an emission apart, and say which declarations
come from descriptions and from the accessors of fields: never a function that reaches a
register, and never a type.
-/

namespace RegisterMap

/-! ## The declarations of several things -/

section Each

variable {α : Type} {items : α → Except Fault (List Item)} {things : List α} {all : List Item}

/-- When several things are emitted, each of them is. -/
theorem exists_items_of_itemsOfEach (emitted : itemsOfEach items things = .ok all) :
    ∀ thing ∈ things, ∃ part, items thing = .ok part := by
  induction things generalizing all with
  | nil => exact fun _ mem => absurd mem List.not_mem_nil
  | cons thing rest ih =>
    obtain ⟨part, first, emitted⟩ := bind_eq_ok.mp emitted
    obtain ⟨others, later, _⟩ := bind_eq_ok.mp emitted
    exact List.forall_mem_cons.mpr ⟨⟨part, first⟩, ih later⟩

/-- Several things can be emitted exactly if each of them can. -/
theorem exists_itemsOfEach_iff :
    (∃ all, itemsOfEach items things = .ok all) ↔
      ∀ thing ∈ things, ∃ part, items thing = .ok part := by
  constructor
  · rintro ⟨all, emitted⟩
    exact exists_items_of_itemsOfEach emitted
  · intro each
    induction things with
    | nil => exact ⟨[], rfl⟩
    | cons thing rest ih =>
      obtain ⟨⟨part, first⟩, later⟩ := List.forall_mem_cons.mp each
      obtain ⟨others, emitted⟩ := ih later
      exact ⟨part ++ others, bind_eq_ok.mpr ⟨part, first, bind_eq_ok.mpr ⟨others, emitted, rfl⟩⟩⟩

/-- What is emitted for several things is what is emitted for one of them. -/
theorem mem_of_itemsOfEach (emitted : itemsOfEach items things = .ok all) {item : Item} :
    item ∈ all ↔ ∃ thing ∈ things, ∃ part, items thing = .ok part ∧ item ∈ part := by
  induction things generalizing all with
  | nil =>
    cases emitted
    simp only [List.not_mem_nil, false_and, exists_false]
  | cons thing rest ih =>
    obtain ⟨part, first, emitted⟩ := bind_eq_ok.mp emitted
    obtain ⟨others, later, same⟩ := bind_eq_ok.mp emitted
    cases same
    simp only [List.mem_append, ih later, List.mem_cons, or_and_right, exists_or, exists_eq_left,
      first, Except.ok.injEq, exists_eq_left']

end Each

/-! ## Functions -/

/-- The register that a function reaches, where it does, and the type of the value. -/
def Function.reached : Function → Option (String × Address × String)
  | .read register address type => some (register, address, type)
  | .write register address type => some (register, address, type)
  | .pointer register address type _ => some (register, address, type)
  | .wrap _ _ | .get _ _ _ _ _ | .set _ _ _ _ _ => none

/-- A type in a module has a function. -/
def Offers (body : List Item) (type : String) (f : Function) : Prop :=
  ∃ inside, Item.implementation type inside ∈ body ∧ Item.function f ∈ inside

/-- What some declarations offer is offered by the front ones or by those behind. -/
theorem offers_append {front back : List Item} {type : String} {f : Function} :
    Offers (front ++ back) type f ↔ Offers front type f ∨ Offers back type f := by
  simp only [Offers, List.mem_append, or_and_right, exists_or]

/-- What several things offer is what one of them does. -/
theorem offers_of_itemsOfEach {α : Type} {items : α → Except Fault (List Item)} {things : List α}
    {all : List Item} (emitted : itemsOfEach items things = .ok all) {type : String}
    {f : Function} :
    Offers all type f ↔ ∃ thing ∈ things, ∃ part, items thing = .ok part ∧ Offers part type f := by
  constructor
  · rintro ⟨inside, mem, memInside⟩
    obtain ⟨thing, memThing, part, own, memPart⟩ := (mem_of_itemsOfEach emitted).mp mem
    exact ⟨thing, memThing, part, own, inside, memPart, memInside⟩
  · rintro ⟨thing, memThing, part, own, inside, memPart, memInside⟩
    have mem := (mem_of_itemsOfEach emitted).mpr ⟨thing, memThing, part, own, memPart⟩
    exact ⟨inside, mem, memInside⟩

/-- A declaration is only the description of another one. -/
theorem eq_doc_of_mem_docItems {options : EmitOptions} {description : Option String} {item : Item}
    (mem : item ∈ options.docItems description) : ∃ text, item = .doc text := by
  cases description with
  | none => exact absurd mem List.not_mem_nil
  | some text =>
    simp only [EmitOptions.docItems] at mem
    split at mem
    · exact ⟨text, List.mem_singleton.mp mem⟩
    · exact absurd mem List.not_mem_nil

section Docs

variable {options : EmitOptions} {description : Option String}

@[simp]
theorem function_not_mem_docItems {f : Function} :
    Item.function f ∉ options.docItems description := fun mem => by
  obtain ⟨_, same⟩ := eq_doc_of_mem_docItems mem
  cases same

@[simp]
theorem implementation_not_mem_docItems {type : String} {inside : List Item} :
    Item.implementation type inside ∉ options.docItems description := fun mem => by
  obtain ⟨_, same⟩ := eq_doc_of_mem_docItems mem
  cases same

@[simp]
theorem wrapper_not_mem_docItems {name inner : String} :
    Item.wrapper name inner ∉ options.docItems description := fun mem => by
  obtain ⟨_, same⟩ := eq_doc_of_mem_docItems mem
  cases same

end Docs

section Allowed

/-! A function is emitted with its description, as far as it is allowed. -/

variable {β : Type} {allowed : Bool} {made : Except Fault β} {function : β → Function}
  {options : EmitOptions} {description : Option String} {part : List Item}
  (emitted : (if allowed then
      made.map fun body => options.docItems description ++ [.function (function body)]
    else .ok []) = .ok part)
include emitted

/-- The function of an accessor is there if it is allowed and its body can be made. -/
theorem function_mem_allowed {f : Function} :
    Item.function f ∈ part ↔ allowed = true ∧ ∃ body, made = .ok body ∧ f = function body := by
  cases allowed with
  | false =>
    cases emitted
    simp
  | true =>
    obtain ⟨body, own, rfl⟩ := map_eq_ok.mp emitted
    simp [own]

/-- With the function of an accessor stands its description, and nothing else. -/
theorem doc_or_function_of_mem_allowed {item : Item} (mem : item ∈ part) :
    (∃ text, item = .doc text) ∨ ∃ f, item = .function f := by
  cases allowed with
  | false =>
    cases emitted
    exact absurd mem List.not_mem_nil
  | true =>
    obtain ⟨body, _, rfl⟩ := map_eq_ok.mp emitted
    rcases List.mem_append.mp mem with described | own
    · exact .inl (eq_doc_of_mem_docItems described)
    · exact .inr ⟨_, List.mem_singleton.mp own⟩

end Allowed

/-- The accessor of a field does not reach a register. -/
theorem AccessorSpec.reached_of_mem_items {a : AccessorSpec} {options : EmitOptions} {word : String}
    {access : Option Access} {part : List Item} (emitted : a.items options word access = .ok part)
    {f : Function} (mem : Item.function f ∈ part) : f.reached = none := by
  obtain ⟨getter, gets, emitted⟩ := bind_eq_ok.mp emitted
  obtain ⟨setter, sets, same⟩ := bind_eq_ok.mp emitted
  cases same
  cases List.mem_append.mp mem with
  | inl mem =>
    obtain ⟨_, _, _, rfl⟩ := (function_mem_allowed gets).mp mem
    rfl
  | inr mem =>
    obtain ⟨_, _, _, rfl⟩ := (function_mem_allowed sets).mp mem
    rfl

end RegisterMap
