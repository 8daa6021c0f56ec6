import RegisterMap.Derivation.Chain

/-!
# Resolving the references among siblings

The references in a list of siblings are resolved in the order of the list. Before a
thing takes members from a sibling, that sibling is resolved itself, so the order in
which the siblings are written does not matter. A thing whose chain has no end stops
the resolution. Nothing on its chain has been touched then, and what came before it
is complete.

A resolution that stopped has still done something, so its outcome is a `Progress`:
the state that was reached, the merges made on the way to it, and the fault, if any.
-/

namespace RegisterMap

/-- A merge that was made: a thing took members from the sibling it names. -/
structure Merge where
  kind : Kind
  name : String
  source : String
  deriving DecidableEq, Repr

/-- How far a resolution got. -/
structure Progress (α : Type) where
  /-- The state that was reached. -/
  state : α
  /-- The merges made, in order. -/
  merges : List Merge := []
  /-- Why the resolution stopped, if it did. -/
  fault : Option Fault := none

namespace Progress

variable {α β : Type}

/-- Goes on from the state reached, unless the resolution has stopped. -/
def andThen (progress : Progress α) (step : α → Progress α) : Progress α :=
  match progress.fault with
  | some _ => progress
  | none =>
    let further := step progress.state
    { further with merges := progress.merges ++ further.merges }

/-- The same progress, with its state seen as part of another one. -/
def within (place : α → β) (progress : Progress α) : Progress β where
  state := place progress.state
  merges := progress.merges
  fault := progress.fault

/-- Takes a step at each element of a list, in order, until one stops. -/
def forEach (step : α → Progress α) : List α → Progress (List α)
  | [] => { state := [] }
  | item :: rest =>
    let first := step item
    match first.fault with
    | some _ => first.within (· :: rest)
    | none =>
      let further := forEach step rest
      { further with
        state := first.state :: further.state
        merges := first.merges ++ further.merges }

end Progress

variable {α : Type} [Derivable α]

open Derivable

/-- What a thing becomes when it takes members from a resolved sibling. -/
def takeFrom (item source : α) : α :=
  match derivedFrom item with
  | some reference => settle reference (inherit item source)
  | none => item

/-- Lets the thing at one position take members from the thing at another. -/
def takeFromAt (siblings : List α) (position sourcePosition : Nat) : List α :=
  match siblings[sourcePosition]? with
  | some source => siblings.modify position (takeFrom · source)
  | none => siblings

/-- Lets every thing on a chain take members from the next one, the far end of the
chain first. -/
def mergeAlong (siblings : List α) : List Nat → List α
  | position :: next :: rest =>
    takeFromAt (mergeAlong siblings (next :: rest)) position next
  | _ => siblings

/-- The merges that `mergeAlong` makes, in the order in which it makes them. -/
def mergesAlong (siblings : List α) (chain : List Nat) : List Merge :=
  (chain.dropLast.filterMap fun position => do
    let item ← siblings[position]?
    let source ← derivedFrom item
    return { kind := kind item, name := name item, source }).reverse

/-- Resolves the thing at a position, after everything on its chain. -/
def resolveAt (position : Nat) (siblings : List α) : Progress (List α) :=
  match chainFrom? siblings position with
  | .ok chain =>
    { state := mergeAlong siblings chain, merges := mergesAlong siblings chain }
  | .error fault => { state := siblings, fault := some fault }

/-- Resolves the things at some positions, in order. -/
def resolvePositions (positions : List Nat) (siblings : List α) : Progress (List α) :=
  positions.foldl (fun progress position => progress.andThen (resolveAt position))
    { state := siblings }

/-- Resolves the references among siblings. -/
def resolveScope (siblings : List α) : Progress (List α) :=
  resolvePositions (List.range siblings.length) siblings

end RegisterMap
