import RegisterMap.Derivation.Scope
import RegisterMap.Grouping.Peripherals
import RegisterMap.Model.Vocabulary
import RegisterMap.Text.Quoted

/-!
# The journal

While a device is read and emitted, notes are taken of what happens to it. A note has
a level, which says how much it matters, and a channel, which says what part of the
work it is about. The journal is the list of notes in order; showing it leaves out the
notes below a level.
-/

namespace RegisterMap

open Text

/-- How much a note matters. -/
inductive Level
  | debug
  | info
  | warning
  | error
  deriving DecidableEq, Repr

namespace Level

instance : Vocabulary Level where
  values := [.debug, .info, .warning, .error]
  spelling
    | .debug => "DEBUG"
    | .info => "INFO"
    | .warning => "WARNING"
    | .error => "ERROR"

/-- The place of a level, the least important one first. -/
def rank : Level → Nat
  | .debug => 0
  | .info => 1
  | .warning => 2
  | .error => 3

end Level

/-- What happened. -/
inductive Note
  /-- A description is about to be read from somewhere. -/
  | source (place : String)
  /-- A device was read. -/
  | loaded (device : String) (peripherals : Nat)
  /-- A thing took members from a sibling. -/
  | merged (merge : Merge)
  /-- Properties were taken from the levels above. -/
  | cascaded (peripherals : Nat)
  /-- Similar peripherals have no name in common. -/
  | unnamed (peripherals : List String)
  /-- A module could not keep its name. -/
  | renamed (name unique : String)
  /-- Peripherals were sorted into groups. -/
  | grouped (groups individuals : Nat)
  /-- A group of peripherals was emitted. -/
  | group (structName : String) (members : List String)
  /-- A peripheral was emitted on its own. -/
  | individual (name : String) (baseAddress : Nat)
  /-- The code was written somewhere. -/
  | written (characters : Nat) (place : String)
  deriving DecidableEq, Repr

namespace Note

/-- The level of a note. -/
def level : Note → Level
  | .source _ | .loaded _ _ | .grouped _ _ | .written _ _ => .info
  | .merged _ | .cascaded _ | .unnamed _ | .renamed _ _ | .group _ _ | .individual _ _ => .debug

/-- The channel of a note. -/
def channel : Note → String
  | .source _ | .written _ _ => "svdgen.app"
  | .loaded _ _ => "svdgen.svd.loader"
  | .merged _ => "svdgen.svd.derive"
  | .cascaded _ => "svdgen.svd.cascade"
  | .unnamed _ | .renamed _ _ | .grouped _ _ => "svdgen.svd.grouping"
  | .group _ _ | .individual _ _ => "svdgen.codegen.rust"

/-- What a note says. -/
def text : Note → String
  | .source place => "SVD: " ++ place
  | .loaded device peripherals =>
    "Loaded SVD device=" ++ device ++ " peripherals=" ++ decimal peripherals
  | .merged merge =>
    merge.kind.word ++ " " ++ merge.name ++ ": merging from " ++ merge.source
  | .cascaded peripherals =>
    "cascaded register properties for " ++ decimal peripherals ++ " peripherals"
  | .unnamed peripherals =>
    "no shared name for " ++ quotedList peripherals ++ ", emitting individually"
  | .renamed name unique => "renaming duplicate " ++ name ++ " to " ++ unique
  | .grouped groups individuals =>
    "grouped peripherals: " ++ decimal groups ++ " groups, " ++ decimal individuals
      ++ " individual"
  | .group structName members =>
    "peripheral group " ++ structName ++ ": " ++ ", ".intercalate members
  | .individual name baseAddress => "peripheral " ++ name ++ " at " ++ hexAddress baseAddress
  | .written characters place => "wrote " ++ decimal characters ++ " bytes to " ++ place

/-- A note as it is shown: with its level and channel in front, or bare. -/
def shown (bare : Bool) (note : Note) : String :=
  if bare then note.text
  else "[" ++ Vocabulary.spelling note.level ++ "] " ++ note.channel ++ ": " ++ note.text

end Note

/-- A journal as it is shown: the notes of at least a level. -/
def shownNotes (least : Level) (bare : Bool) (notes : List Note) : List String :=
  (notes.filter fun note => least.rank ≤ note.level.rank).map (Note.shown bare)

end RegisterMap
