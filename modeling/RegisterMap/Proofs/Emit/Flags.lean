import Mathlib.Data.List.Forall2
import RegisterMap.Proofs.Code.Flags
import RegisterMap.Proofs.Emit.Switched

/-!
# Truth values instead of numbers

The switch for truth values changes the accessors of fields of one bit and nothing else: their type,
and their bodies for ones that read and write the same bits (`Item.SameBits`).
-/

namespace RegisterMap

/-- A declaration and the one in its place read and write the same bits. They are the same, or
accessors of one bit for numbers and for truth values that agree in words of every size, or they
have such declarations in them. -/
inductive Item.SameBits : Item → Item → Prop
  | same (item : Item) : SameBits item item
  | get {name : String} {position : Position} {type : String} {number flag : Getter}
      (agree : ∀ bits lsb : Nat, lsb < bits → GettersAgree bits lsb flag number) :
      SameBits (.function (.get name position type 1 number))
        (.function (.get name position "bool" 1 flag))
  | set {name : String} {position : Position} {type : String} {number flag : Setter}
      (agree : ∀ bits lsb : Nat, lsb < bits → SettersAgree bits lsb flag number) :
      SameBits (.function (.set name position type 1 number))
        (.function (.set name position "bool" 1 flag))
  | implementation (target : String) {body body' : List Item}
      (inside : List.Forall₂ SameBits body body') :
      SameBits (.implementation target body) (.implementation target body')
  | mod (name : String) {body body' : List Item} (inside : List.Forall₂ SameBits body body') :
      SameBits (.mod name body) (.mod name body')

open Item

/-- Every declaration reads and writes the same bits as itself. -/
theorem sameBits_refl (items : List Item) : List.Forall₂ SameBits items items :=
  List.forall₂_same.mpr fun item _ => .same item

/-! ## Accessors -/

theorem sameBits_function (docs : List Item) {f f' : Function}
    (own : SameBits (.function f) (.function f')) :
    List.Forall₂ SameBits (docs ++ [.function f]) (docs ++ [.function f']) :=
  List.rel_append (sameBits_refl docs) (.cons own .nil)

section Accessors

variable (options : EmitOptions) (word : String) (access : Option Access) (a : AccessorSpec)

/-- Only a field of one bit can be a truth value. -/
theorem asFlag_eq_false {width : Int} (several : width ≠ 1) : options.asFlag width = false := by
  rw [EmitOptions.asFlag, decide_eq_false several, Bool.and_false]

/-- The switch gives a getter that reads the same bits, or the same fault. -/
theorem AccessorSpec.sameBits_getterItems :
    Correspond (List.Forall₂ SameBits)
      (a.getterItems { options with boolFields := false } word access)
      (a.getterItems { options with boolFields := true } word access) := by
  refine .ite _ (.map ?_) (.value .nil)
  by_cases one : a.width = 1
  · rw [one]
    exact .value (sameBits_function _ (.get fun _ _ inside =>
      gettersAgree_of_ofField inside rfl rfl))
  · simp only [EmitOptions.valueType, asFlag_eq_false _ one]
    exact .refl (fun _ => sameBits_function _ (.same _)) _

/-- The switch gives a setter that writes the same bits, or the same fault. -/
theorem AccessorSpec.sameBits_setterItems :
    Correspond (List.Forall₂ SameBits)
      (a.setterItems { options with boolFields := false } word access)
      (a.setterItems { options with boolFields := true } word access) := by
  refine .ite _ (.map ?_) (.value .nil)
  by_cases one : a.width = 1
  · rw [one]
    exact .value (sameBits_function _ (.set fun _ _ inside =>
      settersAgree_of_ofField inside rfl rfl))
  · simp only [EmitOptions.valueType, asFlag_eq_false _ one]
    exact .refl (fun _ => sameBits_function _ (.same _)) _

/-- Turning the switch for truth values on keeps which bits are read and written. -/
theorem switched_boolFields :
    Switched { options with boolFields := false } { options with boolFields := true }
      (List.Forall₂ SameBits) where
  withFields := rfl
  groupFields := rfl
  groupPeripherals := rfl
  nil := .nil
  append front back := List.rel_append front back
  flat item _ := .cons (.same item) .nil
  implementation target _ _ inside := .cons (.implementation target inside) .nil
  mod name _ _ inside := .cons (.mod name inside) .nil
  docs _ := sameBits_refl _
  getter a word access := a.sameBits_getterItems options word access
  setter a word access := a.sameBits_setterItems options word access

end Accessors

/-- **Truth values and numbers agree.** For a width of one bit, the two forms of accessors read and
write the same bit of words of any number of bits: the truth value is true where the number is one,
and both setters leave the same word. So the declarations of a device with truth values are those
with numbers, but for accessors that read and write the same bits, and if there are none, it is for
the same fault. -/
theorem boolFields_sameBits {bits lsb : Nat} (inside : lsb < bits) (type : String) :
    (∃ flag number, Getter.ofField 1 type true = .ok flag ∧
      Getter.ofField 1 type false = .ok number ∧ GettersAgree bits lsb flag number) ∧
    (∃ flag number, Setter.ofField 1 type true = .ok flag ∧
      Setter.ofField 1 type false = .ok number ∧ SettersAgree bits lsb flag number) ∧
    ∀ (options : EmitOptions) (d : Device), Correspond (List.Forall₂ SameBits)
      (d.items { options with boolFields := false })
      (d.items { options with boolFields := true }) :=
  ⟨⟨_, _, rfl, rfl, gettersAgree_of_ofField inside rfl rfl⟩,
    ⟨_, _, rfl, rfl, settersAgree_of_ofField inside rfl rfl⟩,
    fun options d => (switched_boolFields options).deviceItems d⟩

/-- The highest bit of a word, and a device with a field of one bit in a cluster. -/
theorem boolFields_sameBits_highestBit :
    63 < 64 ∧
    (∃ flag number, Getter.ofField 1 "u64" true = .ok flag ∧
      Getter.ofField 1 "u64" false = .ok number ∧ GettersAgree 64 63 flag number) ∧
    (∃ flag number, Setter.ofField 1 "u64" true = .ok flag ∧
      Setter.ofField 1 "u64" false = .ok number ∧ SettersAgree 64 63 flag number) ∧
    (Device.oddlyDescribed.items { boolFields := false }).isOk = true ∧
    Correspond (List.Forall₂ SameBits) (Device.oddlyDescribed.items { boolFields := false })
      (Device.oddlyDescribed.items { boolFields := true }) := by
  have inside : 63 < 64 := by decide
  obtain ⟨getters, setters, devices⟩ := boolFields_sameBits inside "u64"
  exact ⟨inside, getters, setters, by decide +kernel, devices {} Device.oddlyDescribed⟩

end RegisterMap
