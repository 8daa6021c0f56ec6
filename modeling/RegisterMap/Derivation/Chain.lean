import RegisterMap.Derivation.Inherit

/-!
# Chains of references

A reference names a sibling, and always the first one of that name. Following
references from a thing gives its *chain*: the positions of the thing itself, of the
sibling it names, of the sibling that one names, and so on to a thing that is not
derived. There is no chain when a reference names nothing, or something of another
kind, or when the walk comes back to a position it has been at; `chainFrom?` then
says which.

The walk ends because it never enters a position twice: the positions not yet
entered become fewer with every step.
-/

namespace RegisterMap

variable {α : Type} [Derivable α]

open Derivable

/-- The first of some siblings with a name, and its position. -/
def firstNamed (siblings : List α) (wanted : String) : Option (α × Nat) :=
  siblings.zipIdx.find? fun sibling => name sibling.1 = wanted

/-- The names at some positions. -/
def namesAt (siblings : List α) (positions : List Nat) : List String :=
  positions.filterMap fun position => siblings[position]?.map name

/-- The walk along references from a thing at a position. `path` holds the
positions entered before this one, in order, and `unseen` those not entered. -/
def walk (siblings : List α) (path unseen : List Nat) (item : α) (position : Nat) :
    Except Fault (List Nat) :=
  match derivedFrom item with
  | none => .ok (path ++ [position])
  | some reference =>
    match firstNamed siblings reference with
    | none => .error (.unresolved (kind item) (name item) reference)
    | some (source, next) =>
      if kind source ≠ kind item then
        .error (.unresolved (kind item) (name item) reference)
      else if _unentered : next ∈ unseen then
        walk siblings (path ++ [position]) (unseen.erase next) source next
      else
        let loop := (path ++ [position]).dropWhile (· ≠ next)
        .error (.cycle (kind item) (namesAt siblings (loop ++ [next])))
termination_by unseen.length
decreasing_by
  rw [List.length_erase_of_mem _unentered]
  have := List.length_pos_of_mem _unentered
  omega

/-- The chain of the thing at a position, beginning with that position. -/
def chainFrom? (siblings : List α) (position : Nat) : Except Fault (List Nat) :=
  match siblings[position]? with
  | none => .ok []
  | some item =>
    walk siblings [] ((List.range siblings.length).erase position) item position

end RegisterMap
