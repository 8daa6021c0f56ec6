import RegisterMap.Proofs.Derivation.ClosedForm

/-!
# What a resolution that stops leaves behind

A resolution stops at the first bad position. What stands before it in the scope was resolved by
then, together with everything on its chains, and these things hold their closed forms. Nothing
else was touched: the thing at the bad position, what is reached from it, and what stands behind it
without being a source of something before it are as they were written. So there is no thing that
has taken some of its members and not the others (`resolveScope_stoppedAt`).

What is said here is about one scope. A device is resolved scope by scope, and those that were
resolved before one of them stopped stay resolved.
-/

namespace RegisterMap

open Derivable Relation

variable {α : Type} [Derivable α]

/-- A later state of a scope is one in which its resolution has stopped at a position, the first
bad one. Whatever is reached from a position before it is complete, and all else is as it was
written. -/
structure StoppedAt (closed : α → List α → α) (original current : List α) (first : Nat) :
    Prop where
  inside : first < original.length
  bad : Bad original first
  good : ∀ p < first, ¬ Bad original p
  length : current.length = original.length
  complete : ∀ position item, original[position]? = some item →
    (∃ start < first, Reaches original start position) →
      ∃ sources chain, Sources original position sources ∧
        sources.map (original[·]?) = chain.map some ∧
        (∀ source ∈ chain, kind source = kind item) ∧
        current[position]? = some (closed item chain)
  untouched : ∀ position, (¬ ∃ start < first, Reaches original start position) →
    current[position]? = original[position]?
  failing : ∀ position, Reaches original first position →
    current[position]? = original[position]?

/-- What is reached from a bad position is not reached from one that is not bad. -/
theorem Bad.not_reaches {siblings : List α} {first start position : Nat}
    (bad : Bad siblings first) (path : Reaches siblings first position)
    (inside : start < siblings.length) (good : ¬ Bad siblings start) :
    ¬ Reaches siblings start position := by
  intro path'
  obtain ⟨_, sourcesOfStart⟩ := exists_sources_of_not_bad inside good
  obtain ⟨_, sourcesOf, _⟩ := sourcesOfStart.suffix (sourcesOfStart.mem_of_reaches path')
  obtain ⟨_, sourcesOfFirst⟩ := sourcesOf.of_reaches path
  exact sourcesOfFirst.not_bad bad

/-- A resolution with a fault has stopped at some position, for any closed form that takes along a
chain what things take one by one. -/
theorem stoppedAt_of_fault {closed : α → List α → α}
    (atEnd : ∀ item, derivedFrom item = none → closed item [] = item)
    (atStep : ∀ item reference source rest, derivedFrom item = some reference →
      kind source = kind item → closed item (source :: rest) = takeFrom item (closed source rest))
    {siblings : List α} (stopped : (resolveScope siblings).fault ≠ none) :
    ∃ first, StoppedAt closed siblings (resolveScope siblings).state first := by
  rcases good_or_exists_first siblings with good | ⟨first, fault, inside, good, fails⟩
  · exact absurd (resolveScope_fault_eq_none_iff.mpr good) stopped
  obtain ⟨_, partly⟩ := resolveScope_of_fails inside good fails
  -- what is reached from a position before the first bad one is what was resolved
  have touched : ∀ position, Touched siblings (List.range first) position ↔
      ∃ start < first, Reaches siblings start position := by
    simp only [Touched, List.mem_range, implies_true]
  have untouched : ∀ position, (¬ ∃ start < first, Reaches siblings start position) →
      (resolveScope siblings).state[position]? = siblings[position]? := by
    intro position away
    exact partly.untouched position (mt (touched position).mp away)
  refine ⟨first, inside, fails.bad, good, partly.shape.length_eq, ?_, untouched, ?_⟩
  · intro position item here reached
    exact (partly.resolved position ((touched position).mpr reached)).exists_closed
      atEnd atStep here
  · rintro position path
    refine untouched position ?_
    rintro ⟨start, before, path'⟩
    exact fails.bad.not_reaches path (before.trans inside) (good start before) path'

/-- **A resolution that stops leaves nothing half done.** Among fields, nodes and peripherals, there
is a first bad position when a resolution has a fault. The things that are reached from the
positions before it are the closed forms of what was written, and all other things are as they were
written, the one at the bad position and everything reached from it among them. -/
theorem resolveScope_stoppedAt :
    (∀ fields : List Field, (resolveScope fields).fault ≠ none →
        ∃ first, StoppedAt Field.closedForm fields (resolveScope fields).state first) ∧
      (∀ nodes : List Node, (resolveScope nodes).fault ≠ none →
        ∃ first, StoppedAt Node.closedForm nodes (resolveScope nodes).state first) ∧
      ∀ peripherals : List Peripheral, (resolveScope peripherals).fault ≠ none →
        ∃ first, StoppedAt Peripheral.closedForm peripherals (resolveScope peripherals).state
          first :=
  ⟨fun _ => stoppedAt_of_fault (fun _ => Field.closedForm_nil)
      fun _ _ source rest derived _ => Field.closedForm_cons derived source rest,
    fun _ => stoppedAt_of_fault (fun _ => Node.closedForm_nil)
      fun _ _ _ rest derived sameKind => Node.closedForm_cons derived sameKind rest,
    fun _ => stoppedAt_of_fault (fun _ => Peripheral.closedForm_nil)
      fun _ _ source rest derived _ => Peripheral.closedForm_cons derived source rest⟩

/-- Fields of which the second names none. The first and the third have a good source, which is
written behind all of them. -/
def missingInTheMiddle : List Field :=
  [{ name := "LOW", bitRange := ⟨0, 3⟩, derivedFrom := some "ANY" },
   { name := "MID", bitRange := ⟨4, 7⟩, derivedFrom := some "NONE" },
   { name := "HIGH", bitRange := ⟨8, 11⟩, derivedFrom := some "ANY" },
   { name := "ANY", bitRange := ⟨12, 15⟩, description := some "a level" }]

/-- Nodes of which the second and the last are derived from each other. -/
def cycleInTheMiddle : List Node :=
  [.register { name := "STATUS", addressOffset := 0, derivedFrom := some "CONTROL" },
   .register { name := "SET", addressOffset := 4, derivedFrom := some "CLEAR" },
   .register
    { name := "CONTROL", addressOffset := 8, derivedFrom := some "BASE",
      description := some "control" },
   .register { name := "BASE", addressOffset := 12, properties := { size := some 16 } },
   .register { name := "CLEAR", addressOffset := 16, derivedFrom := some "SET" }]

/-- Peripherals of which the second is derived from itself. -/
def ownSource : List Peripheral :=
  [{ name := "UART0", baseAddress := 0, derivedFrom := some "UART2" },
   { name := "UART1", baseAddress := 0x100, derivedFrom := some "UART1" },
   { name := "UART2", baseAddress := 0x200, registers := some cycleInTheMiddle }]

/-- Scopes that stop in the middle: at a name that is missing, in a cycle, and at a thing that is
derived from itself. -/
theorem resolveScope_stoppedAt_inTheMiddle :
    ((resolveScope missingInTheMiddle).fault ≠ none ∧
        (∃ first, StoppedAt Field.closedForm missingInTheMiddle
          (resolveScope missingInTheMiddle).state first) ∧
        (resolveScope missingInTheMiddle).state.map (·.description) =
          [some "a level", none, none, some "a level"]) ∧
      ((resolveScope cycleInTheMiddle).fault ≠ none ∧
        ∃ first, StoppedAt Node.closedForm cycleInTheMiddle
          (resolveScope cycleInTheMiddle).state first) ∧
      (resolveScope ownSource).fault ≠ none ∧
        ∃ first, StoppedAt Peripheral.closedForm ownSource
          (resolveScope ownSource).state first := by
  have fields : (resolveScope missingInTheMiddle).fault ≠ none := by decide +kernel
  have nodes : (resolveScope cycleInTheMiddle).fault ≠ none := by decide +kernel
  have peripherals : (resolveScope ownSource).fault ≠ none := by decide +kernel
  exact ⟨⟨fields, resolveScope_stoppedAt.1 missingInTheMiddle fields, by decide +kernel⟩,
    ⟨nodes, resolveScope_stoppedAt.2.1 cycleInTheMiddle nodes⟩,
    peripherals, resolveScope_stoppedAt.2.2 ownSource peripherals⟩

end RegisterMap
