import RegisterMap.Xml.Entity

/-!
# How much a document grows

Entities that refer to entities let a short document stand for a text of any length.
A document is refused when its references stand for more than eight mebibytes and for a
hundred times what it holds itself. The lengths are added up without any reference
being replaced.
-/

namespace RegisterMap.Xml

/-- The entities that a text refers to, once for each reference. -/
def referredIn : List Char → List String
  | [] => []
  | '&' :: rest =>
    match takeReference? .narrow rest with
    | some (.entity name, _) => name :: referredIn rest
    | _ => referredIn rest
  | _ :: rest => referredIn rest

/-- The number of bytes that a text takes. -/
def byteCount (text : List Char) : Nat := text.foldl (fun n c => n + c.utf8Size) 0

/-- The lengths of what entities stand for, as far as they are known. -/
abbrev Lengths := List (String × Nat)

namespace Lengths

/-- The length of what an entity stands for. -/
def of (lengths : Lengths) (name : String) : Nat := (lengths.lookup name).getD 0

/-- The length of what some references stand for together. -/
def total (lengths : Lengths) (names : List String) : Nat :=
  names.foldl (fun sum name => sum + lengths.of name) 0

/-- Adds up the lengths of entities from what is known of those that they refer to; each
one counts for those behind it. -/
def refine (lengths : Lengths) : List (String × Nat × List String) → Lengths
  | [] => lengths
  | (name, own, names) :: rest =>
    refine ((name, own + lengths.total names) :: lengths.filter (·.1 ≠ name)) rest

/-- Adds up the lengths of entities again until nothing changes, at most the given number
of times, through the entities in the one direction and the other. -/
def settle (entities : List (String × Nat × List String)) : Nat → Lengths → Lengths
  | 0, lengths => lengths
  | rounds + 1, lengths =>
    let refined := lengths.refine entities
    if entities.all fun (name, _) => refined.of name = lengths.of name then lengths
    else settle entities.reverse rounds refined

end Lengths

namespace Declarations

/-- The lengths of what the entities stand for. -/
def lengths (d : Declarations) : Lengths :=
  let entities := d.entities.filterMap fun (name, text) =>
    text.map fun text => (name, byteCount text, referredIn text)
  Lengths.settle entities (entities.length + 1) []

/-- The entities that pieces of a value refer to. -/
def referredInPieces (pieces : List Piece) : List String :=
  pieces.filterMap fun
    | .entity name => some name
    | .char _ => none

/-- The entities that parts of a document refer to. -/
def referredInParts (parts : List Markup) : List String :=
  parts.flatMap fun
    | .entity name => [name]
    | .start _ attributes _ => attributes.flatMap fun (_, pieces) => referredInPieces pieces
    | _ => []

/-- The length from which on growth matters. -/
def growthLimit : Nat := 8388608

/-- How many times its own length a document may stand for. -/
def growthFactor : Nat := 100

/-- Whether references stand for too much in a document of some length. -/
def growsTooMuch (d : Declarations) (length : Nat) (names : List String) : Bool :=
  if names.isEmpty then false
  else
    let total := length + d.lengths.total names
    growthLimit ≤ total && growthFactor * length < total

end Declarations

end RegisterMap.Xml
