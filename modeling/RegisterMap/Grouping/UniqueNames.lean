import RegisterMap.Text.Numeral

/-!
# Names without repetition

The modules of a device stand side by side and need different names, while the
descriptions they come from may repeat a name, or use one that is taken. The first
use of a name that is not taken keeps it. Every later one is numbered: `NAME_N` with
the smallest `N` such that `NAME_N` is not taken, not among the given names, and has
not been handed out before.
-/

namespace RegisterMap

open Text

/-- A name with a number behind it. -/
def numbered (name : String) (n : Nat) : String := name ++ "_" ++ decimal n

/-- The first numbered form of a name that is not reserved. Among one more number
than there are reserved names, one is always free. -/
def freeName (reserved : List String) (name : String) : String :=
  match (List.range (reserved.length + 1)).find? fun n => numbered name n ∉ reserved with
  | some n => numbered name n
  | none => name

/-- Names for a list of things, given the names in use and those reserved. -/
def uniqueNamesFrom (used reserved : List String) : List String → List String
  | [] => []
  | name :: rest =>
    if name ∈ used then
      let free := freeName reserved name
      free :: uniqueNamesFrom (free :: used) (free :: reserved) rest
    else name :: uniqueNamesFrom (name :: used) reserved rest

/-- The names, repetitions and taken names numbered. -/
def uniqueNames (taken names : List String) : List String :=
  uniqueNamesFrom taken (names ++ taken) names

/-- The names that were numbered, with what became of them, in order. -/
def renamings (names unique : List String) : List (String × String) :=
  (names.zip unique).filter fun change => change.1 ≠ change.2

end RegisterMap
