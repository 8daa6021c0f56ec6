import RegisterMap.Proofs.Emit.Items

/-!
# What is emitted for a register

For a register that is reached through handles there are at most three functions that
reach it, all at its offset and of its type: one reads, if it can be read, one writes, if
it can be written, and one answers a pointer. Its type is the word of its size, unless the
register has a type of its own, which then wraps that word. A register has such a word
when it is supported, and is refused otherwise.
-/

namespace RegisterMap

/-- The size of the word of a type. -/
def wordSize (type : String) : Option Int :=
  if type = "u8" then some 8
  else if type = "u16" then some 16
  else if type = "u32" then some 32
  else if type = "u64" then some 64
  else none

/-- The word of a size has that size. -/
theorem wordSize_of_storageType {size : Int} {word : String} (h : storageType size = .ok word) :
    wordSize word = some size := by
  unfold storageType at h
  repeat' split at h
  all_goals cases h
  all_goals subst size; decide

/-- Words of one type have one size. -/
theorem eq_of_storageType {size other : Int} {word : String} (h : storageType size = .ok word)
    (h' : storageType other = .ok word) : size = other :=
  Option.some.inj ((wordSize_of_storageType h).symm.trans (wordSize_of_storageType h'))

/-! ## The word of a register -/

/-- The unsigned integer types have as many bits as these. -/
def wordSizes : List Nat := [8, 16, 32, 64]

namespace Register

/-- There is code for a register: it has the size of an unsigned integer, and no field reaches
beyond its end. -/
structure Supported (r : Register) : Prop where
  size : r.size ∈ wordSizes
  inside : ∀ f ∈ r.fieldList, f.bitRange.msb < r.size

/-- What a register is refused for: its size, or else the first field that reaches beyond its
end. -/
inductive RefusedFor (r : Register) : Feature → Prop
  | size (other : r.size ∉ wordSizes) : RefusedFor r (.registerSize r.size)
  | field {before after : List Field} {f : Field} (size : r.size ∈ wordSizes)
      (fields : r.fieldList = before ++ f :: after) (inside : ∀ g ∈ before, g.bitRange.msb < r.size)
      (beyond : r.size ≤ f.bitRange.msb) :
      RefusedFor r (.fieldOutside r.name f.name f.bitRange.msb f.lsb r.size)

end Register

/-- A size that is none of a word is refused, and no other size. -/
theorem faultOf_storageType (size : Nat) : faultOf (storageType size) =
    if size ∈ wordSizes then none else some (.unsupported (.registerSize size)) := by
  simp only [storageType, wordSizes, List.mem_cons, List.not_mem_nil, or_false]
  repeat' split
  all_goals first | rfl | omega

namespace Register

variable {r : Register} {word : String}

theorem storageType_of_wordType (h : r.wordType = .ok word) : storageType r.size = .ok word := by
  obtain ⟨own, found, rest⟩ := bind_eq_ok.mp h
  split at rest
  · cases rest
  · cases rest
    exact found

/-- A register contains a field that ends below its size. -/
theorem contains_iff {f : Field} : r.contains f = true ↔ f.bitRange.msb < r.size := by
  rw [contains, decide_eq_true_eq]

/-- A register is refused for its size or, if that is a good one, for the first field that ends
beyond it. -/
theorem faultOf_wordType (r : Register) : faultOf r.wordType =
    (faultOf (storageType r.size)).or ((r.fieldList.find? fun f => !r.contains f).map fun f =>
      .unsupported (.fieldOutside r.name f.name f.bitRange.msb f.lsb r.size)) := by
  refine faultOf_then fun word _ => ?_
  cases r.fieldList.find? fun f => !r.contains f <;> rfl

/-- Exactly the supported registers have a word. -/
theorem faultOf_wordType_eq_none : faultOf r.wordType = none ↔ r.Supported := by
  rw [faultOf_wordType, faultOf_storageType, Option.or_eq_none_iff, Option.map_eq_none_iff,
    List.find?_eq_none]
  constructor
  · rintro ⟨size, inside⟩
    exact ⟨by simpa using size, fun f mem => contains_iff.mp (by simpa using inside f mem)⟩
  · rintro ⟨size, inside⟩
    exact ⟨if_pos size, fun f mem => by simpa using contains_iff.mpr (inside f mem)⟩

/-- A register without a word is refused for what stands in the way of one. -/
theorem faultOf_wordType_eq_some {fault : Fault} : faultOf r.wordType = some fault ↔
    ∃ feature, r.RefusedFor feature ∧ fault = .unsupported feature := by
  rw [faultOf_wordType, faultOf_storageType]
  by_cases size : r.size ∈ wordSizes
  · rw [if_pos size, Option.none_or, Option.map_eq_some_iff]
    simp only [List.find?_eq_some_iff_append, Bool.not_not, contains_iff, Bool.not_eq_true',
      ← Bool.not_eq_true, Int.not_lt]
    constructor
    · rintro ⟨f, ⟨beyond, before, after, fields, inside⟩, rfl⟩
      exact ⟨_, .field size fields inside beyond, rfl⟩
    · rintro ⟨_, ⟨other⟩ | ⟨_, fields, inside, beyond⟩, rfl⟩
      · exact absurd size other
      · exact ⟨_, ⟨beyond, _, _, fields, inside⟩, rfl⟩
  · rw [if_neg size, Option.some_or, Option.some.injEq]
    constructor
    · rintro rfl
      exact ⟨_, .size size, rfl⟩
    · rintro ⟨_, _ | ⟨own, _, _, _⟩, rfl⟩
      · rfl
      · exact absurd own size

/-! ## The functions of a register -/

variable {options : EmitOptions} {structName : String} {part : List Item}

/-- The functions that reach a register. -/
theorem function_mem_accessItems {address : Address} {type : String} {f : Function} :
    Item.function f ∈ r.accessItems options address type ↔
      (f = .read r.name address type ∧ r.isRead) ∨ (f = .write r.name address type ∧ r.isWrite) ∨
        f = .pointer r.name address type r.isWrite := by
  have one : ∀ {allowed : Bool} {g : Function},
      Item.function f ∈ (if allowed then options.docItems r.description ++ [.function g] else []) ↔
        f = g ∧ allowed := by
    intro allowed g
    cases allowed <;> simp
  simp only [accessItems, List.mem_append, one, function_not_mem_docItems, or_false,
    List.mem_singleton, Item.function.injEq, or_assoc]

/-- The type of a register that gets one: its description, its attributes, the type itself and the
accessors as its functions. -/
theorem wrapperItems_of_wrapped {wrapper : List Item} (wrapped : r.isWrapped options = true)
    (emitted : r.wrapperItems options word = .ok wrapper) :
    ∃ accessors,
      itemsOfEach (AccessorSpec.items options word r.access) (options.accessors r.fieldList) =
        .ok accessors ∧
      wrapper = options.docItems r.description
        ++ [.attribute "repr(transparent)", .attribute "derive(Copy, Clone, PartialEq, Eq)",
            .wrapper r.name word,
            .implementation ("From<" ++ word ++ "> for " ++ r.name) [.function (.wrap word r.name)],
            .implementation r.name accessors] := by
  rw [wrapperItems, if_pos wrapped] at emitted
  obtain ⟨accessors, made, same⟩ := bind_eq_ok.mp emitted
  cases same
  exact ⟨accessors, made, rfl⟩

/-- For a register without a type of its own nothing is emitted here. -/
theorem wrapperItems_of_not_wrapped {wrapper : List Item} (bare : r.isWrapped options = false)
    (emitted : r.wrapperItems options word = .ok wrapper) : wrapper = [] := by
  rw [wrapperItems, bare] at emitted
  cases emitted
  rfl

/-- The type of a register is the only one that is emitted for it. -/
theorem wrapper_mem_wrapperItems {wrapper : List Item}
    (emitted : r.wrapperItems options word = .ok wrapper) {name inner : String} :
    Item.wrapper name inner ∈ wrapper ↔
      r.isWrapped options = true ∧ name = r.name ∧ inner = word := by
  cases wrapped : r.isWrapped options with
  | false =>
    rw [wrapperItems_of_not_wrapped wrapped emitted]
    simp only [List.not_mem_nil, Bool.false_eq_true, false_and]
  | true =>
    obtain ⟨accessors, _, rfl⟩ := wrapperItems_of_wrapped wrapped emitted
    simp

/-- The functions of the type of a register do not reach registers. -/
theorem reached_of_offers_wrapperItems {wrapper : List Item}
    (emitted : r.wrapperItems options word = .ok wrapper) {type : String} {f : Function}
    (offers : Offers wrapper type f) : f.reached = none := by
  obtain ⟨inside, mem, memInside⟩ := offers
  cases wrapped : r.isWrapped options with
  | false =>
    rw [wrapperItems_of_not_wrapped wrapped emitted] at mem
    exact absurd mem List.not_mem_nil
  | true =>
    obtain ⟨accessors, made, rfl⟩ := wrapperItems_of_wrapped wrapped emitted
    have two : inside = [.function (.wrap word r.name)] ∨ inside = accessors := by
      simp only [List.mem_append, implementation_not_mem_docItems, List.mem_cons, reduceCtorEq,
        Item.implementation.injEq, List.not_mem_nil, or_false, false_or] at mem
      exact mem.imp And.right And.right
    rcases two with rfl | rfl
    · cases List.mem_singleton.mp memInside
      rfl
    · obtain ⟨a, _, items, emitted, memItems⟩ := (mem_of_itemsOfEach made).mp memInside
      exact a.reached_of_mem_items emitted memItems

/-- What is emitted for a register in a group: its type, if it gets one, and its functions as those
of the handle. -/
theorem handleItems_eq_ok :
    r.handleItems options structName = .ok part ↔
      ∃ word wrapper, r.wordType = .ok word ∧ r.wrapperItems options word = .ok wrapper ∧
        part = wrapper ++ [.implementation structName
          (r.accessItems options (.relative r.addressOffset) (r.valueType options word))] := by
  constructor
  · intro emitted
    obtain ⟨word, found, emitted⟩ := bind_eq_ok.mp emitted
    obtain ⟨wrapper, wraps, same⟩ := bind_eq_ok.mp emitted
    cases same
    exact ⟨word, wrapper, found, wraps, rfl⟩
  · rintro ⟨word, wrapper, found, wraps, rfl⟩
    exact bind_eq_ok.mpr ⟨word, found, bind_eq_ok.mpr ⟨wrapper, wraps, rfl⟩⟩

/-- The functions that are emitted for a register and reach one are those of the handle
type. -/
theorem offers_handleItems (emitted : r.handleItems options structName = .ok part) {type : String}
    {f : Function} (reaches : f.reached ≠ none) :
    Offers part type f ↔ type = structName ∧ ∃ word, r.wordType = .ok word ∧
      Item.function f ∈
        r.accessItems options (.relative r.addressOffset) (r.valueType options word) := by
  obtain ⟨word, wrapper, found, wraps, rfl⟩ := handleItems_eq_ok.mp emitted
  rw [offers_append]
  constructor
  · rintro (offers | ⟨inside, mem, memInside⟩)
    · exact absurd (reached_of_offers_wrapperItems wraps offers) reaches
    · cases List.mem_singleton.mp mem
      exact ⟨rfl, word, found, memInside⟩
  · rintro ⟨rfl, other, found', mem⟩
    cases found.symm.trans found'
    exact .inr ⟨_, List.mem_singleton_self _, mem⟩

/-- The type of a register wraps the word of its size and has its name. -/
theorem wrapper_mem_handleItems (emitted : r.handleItems options structName = .ok part)
    {name inner : String} :
    Item.wrapper name inner ∈ part ↔
      r.isWrapped options = true ∧ name = r.name ∧ r.wordType = .ok inner := by
  obtain ⟨word, wrapper, found, wraps, rfl⟩ := handleItems_eq_ok.mp emitted
  simp only [List.mem_append, wrapper_mem_wrapperItems wraps, List.mem_singleton, reduceCtorEq,
    or_false, found, Except.ok.injEq, eq_comm (a := word)]

end Register

end RegisterMap
