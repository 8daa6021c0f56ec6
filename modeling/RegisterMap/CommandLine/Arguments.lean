import RegisterMap.CommandLine.Path
import RegisterMap.Emit.Options
import RegisterMap.Journal
import RegisterMap.Text.Digit

/-!
# Arguments

The arguments of a run are one operand, the file to read, and switches. Arguments are
read in two steps. First each one is told apart by itself: it is an operand, a switch
with or without a value attached, or a switch that nobody knows. A long switch may be
cut short as long as it stays clear which one is meant. Behind two dashes everything
is an operand. In the second step switches that take a value take the operand behind
them if they have none attached, and the first operand left is the file to read.

A long switch that could be several is reported before anything else; arguments left
over are reported last, all together.
-/

namespace RegisterMap

open Text

/-- The switches of a run. -/
inductive Switch
  | help
  | output
  | noFields
  | noGroupFields
  | noBoolFields
  | noGroupPeripherals
  | noDoc
  | logLevel
  | quiet
  deriving DecidableEq, Repr

namespace Switch

/-- The switches, in the order in which messages name them. -/
def all : List Switch :=
  [.help, .output, .noFields, .noGroupFields, .noBoolFields, .noGroupPeripherals, .noDoc,
   .logLevel, .quiet]

/-- The ways to write a switch. -/
def spellings : Switch → List String
  | .help => ["-h", "--help"]
  | .output => ["-o", "--output"]
  | .noFields => ["--no-fields"]
  | .noGroupFields => ["--no-group-fields"]
  | .noBoolFields => ["--no-bool-fields"]
  | .noGroupPeripherals => ["--no-group-peripherals"]
  | .noDoc => ["--no-doc"]
  | .logLevel => ["--log-level"]
  | .quiet => ["--quiet"]

/-- The name of a switch in messages. -/
def name (s : Switch) : String := "/".intercalate s.spellings

/-- Whether a switch takes a value. -/
def takesValue : Switch → Bool
  | .output | .logLevel => true
  | _ => false

/-- The ways to write a switch that begin with some characters, with the switch. -/
def matching (start : List Char) : List (String × Switch) :=
  (all.flatMap fun s => s.spellings.map (·, s)).filter fun entry =>
    start.isPrefixOf entry.1.toList

/-- The switch that is written in a way. -/
def spelled? (text : String) : Option Switch := all.find? (·.spellings.contains text)

end Switch

/-- What is wrong with the arguments of a run. -/
inductive UsageFault
  /-- A switch is cut too short. -/
  | ambiguous (argument : String) (spellings : List String)
  /-- A switch lacks its value. -/
  | valueMissing (switch : Switch)
  /-- A switch has a value and takes none. -/
  | valueIgnored (switch : Switch) (value : String)
  /-- A value is not a level. -/
  | notALevel (value : String)
  /-- Arguments are left over. -/
  | unrecognized (arguments : List String)
  deriving DecidableEq, Repr

namespace UsageFault

/-- What is wrong with the argument of a switch. -/
def ofSwitch (s : Switch) (problem : String) : String :=
  "argument " ++ s.name ++ ": " ++ problem

/-- A cause as a sentence. -/
def message : UsageFault → String
  | .ambiguous argument spellings =>
    "ambiguous option: " ++ argument ++ " could match " ++ ", ".intercalate spellings
  | .valueMissing switch => ofSwitch switch "expected one argument"
  | .valueIgnored switch value =>
    ofSwitch switch ("ignored explicit argument " ++ quoted value)
  | .notALevel value =>
    ofSwitch .logLevel
      ("invalid choice: " ++ quoted value ++ " (choose from "
        ++ ", ".intercalate ((Vocabulary.words Level).map quoted) ++ ")")
  | .unrecognized arguments => "unrecognized arguments: " ++ " ".intercalate arguments

end UsageFault

/-- An argument by itself. -/
inductive Argument
  | operand (text : String)
  | separator
  | switch (switch : Switch) (value : Option String)
  /-- A switch that waits for its value, behind one of the same dash that asks for
  help. -/
  | helpBefore (switch : Switch)
  | unknown (text : String)
  deriving DecidableEq, Repr

namespace Argument

/-- Whether characters are digits and nothing else. -/
def areDigits (chars : List Char) : Bool := chars.all isDecimal

/-- Whether the characters behind a dash make a negative number: digits, or digits
behind a point, with or without others in front of it. A line break at the end does
not matter. -/
def looksLikeNumber (chars : List Char) : Bool :=
  let chars := if chars.getLast? = some '\n' then chars.dropLast else chars
  let rest := chars.dropWhile isDecimal
  match rest with
  | [] => !chars.isEmpty
  | '.' :: decimals => !decimals.isEmpty && areDigits decimals
  | _ => false

/-- An argument that begins like a switch and is none. -/
def ofOther (text : String) (behindDash : List Char) : Argument :=
  if looksLikeNumber behindDash || text.toList.contains ' ' then .operand text
  else .unknown text

/-- The characters of a long switch in front of an equals sign, and the value behind
it. -/
def splitValue (chars : List Char) : List Char × Option String :=
  match chars.dropWhile (· ≠ '=') with
  | [] => (chars, none)
  | _ :: value => (chars.takeWhile (· ≠ '='), some (String.ofList value))

/-- The argument that a text with two dashes in front is. -/
def ofLong (text : String) : Except UsageFault Argument :=
  let (start, value) := splitValue text.toList
  match Switch.matching start with
  | [] => .ok (ofOther text (text.toList.drop 1))
  | [(_, s)] => .ok (.switch s value)
  | several => .error (.ambiguous text (several.map (·.1)))

/-- What stands behind a switch of one letter that asks for help. Each letter has to be
a switch again; the last one may have a value attached, or wait for one. -/
def ofLettersBehindHelp : List Char → Argument
  | [] => .switch .help none
  | c :: rest =>
    match Switch.spelled? (String.ofList ['-', c]) with
    | none => .switch .help (some (String.ofList (c :: rest)))
    | some s =>
      if !s.takesValue then ofLettersBehindHelp rest
      else if rest.isEmpty then .helpBefore s
      else .switch .help none

/-- A switch of one letter with what stands behind it: its value, or more switches of
one letter behind one that takes no value. An equals sign in front of that is left
out. -/
def ofLetter (s : Switch) : List Char → Argument
  | [] => .switch s none
  | ['='] => .switch s (some "")
  | c :: rest =>
    let attached := if c = '=' then rest else c :: rest
    if s.takesValue then .switch s (some (String.ofList attached))
    else ofLettersBehindHelp attached

/-- The argument that a text is, separators apart. -/
def ofText (text : String) : Except UsageFault Argument :=
  match text.toList with
  | '-' :: '-' :: _ => ofLong text
  | '-' :: c :: rest =>
    match Switch.spelled? (String.ofList ['-', c]) with
    | some s => .ok (ofLetter s rest)
    | none => .ok (ofOther text (c :: rest))
  | _ => .ok (.operand text)

/-- The arguments that texts are. -/
def all : List String → Except UsageFault (List Argument)
  | [] => .ok []
  | text :: rest =>
    if text = "--" then .ok (.separator :: rest.map .operand)
    else do
      let first ← ofText text
      let others ← all rest
      return first :: others

end Argument

/-- What a run is to do when it converts. -/
structure Settings where
  /-- The file to read; the standard input if there is none. -/
  input : Option Path := none
  /-- The file to write; the standard output if there is none. -/
  output : Option Path := none
  options : EmitOptions := {}
  /-- The level that notes must have to be shown. -/
  level : Level := .info
  /-- Whether notes are shown bare. -/
  quiet : Bool := false
  deriving DecidableEq, Repr

namespace Settings

/-- The settings with a switch that takes no value. Other switches change nothing. -/
def turn (settings : Settings) : Switch → Settings
  | .noFields => { settings with options.withFields := false }
  | .noGroupFields => { settings with options.groupFields := false }
  | .noBoolFields => { settings with options.boolFields := false }
  | .noGroupPeripherals => { settings with options.groupPeripherals := false }
  | .noDoc => { settings with options.withDoc := false }
  | .quiet => { settings with quiet := true }
  | _ => settings

/-- The settings with the level that a text names. -/
def withLevel (settings : Settings) (text : String) : Except UsageFault Settings :=
  match Vocabulary.read? Level text with
  | some level => .ok { settings with level }
  | none => .error (.notALevel text)

/-- The settings with a switch and the value attached to it. Two dashes are no value,
and a switch that takes one is passed over with them. -/
def give (settings : Settings) (value : String) (s : Switch) : Except UsageFault Settings :=
  if !s.takesValue then .error (.valueIgnored s value)
  else if value = "--" then .ok settings
  else
    match s with
    | .output => .ok { settings with output := some (Path.ofString value) }
    | .logLevel => settings.withLevel value
    | _ => .ok settings

end Settings

/-- What a run is asked for. -/
inductive Request
  /-- A description of the arguments. -/
  | help
  /-- The conversion of a device. -/
  | convert (settings : Settings)
  deriving DecidableEq, Repr

namespace Request

/-- The request that arguments make, behind some that are settled already.
`atInput` says that the argument in front was the file to read, and `surplus` are the
arguments left over so far. A separator next to the file to read has done its work; any
other one is left over. -/
def ofArgumentsFrom (settings : Settings) (atInput : Bool) (surplus : List String) :
    List Argument → Except UsageFault Request
  | [] =>
    if surplus.isEmpty then .ok (.convert settings) else .error (.unrecognized surplus)
  | .operand text :: rest =>
    match settings.input with
    | none =>
      ofArgumentsFrom { settings with input := some (Path.ofString text) } true surplus rest
    | some _ => ofArgumentsFrom settings false (surplus ++ [text]) rest
  | .separator :: rest =>
    if atInput || settings.input.isNone then ofArgumentsFrom settings false surplus rest
    else ofArgumentsFrom settings false (surplus ++ ["--"]) rest
  | .unknown text :: rest => ofArgumentsFrom settings false (surplus ++ [text]) rest
  | .switch s (some value) :: rest =>
    match settings.give value s with
    | .ok settings => ofArgumentsFrom settings false surplus rest
    | .error fault => .error fault
  | .switch .help none :: _ => .ok .help
  | .helpBefore s :: rest =>
    match rest with
    | .operand _ :: _ => .ok .help
    | _ => .error (.valueMissing s)
  | .switch .output none :: rest =>
    match rest with
    | .operand text :: rest =>
      ofArgumentsFrom { settings with output := some (Path.ofString text) } false surplus rest
    | _ => .error (.valueMissing .output)
  | .switch .logLevel none :: rest =>
    match rest with
    | .operand text :: rest =>
      match settings.withLevel text with
      | .ok settings => ofArgumentsFrom settings false surplus rest
      | .error fault => .error fault
    | _ => .error (.valueMissing .logLevel)
  | .switch s none :: rest => ofArgumentsFrom (settings.turn s) false surplus rest

/-- The request that the arguments of a run make. -/
def ofArguments (arguments : List String) : Except UsageFault Request := do
  ofArgumentsFrom {} false [] (← Argument.all arguments)

end Request

end RegisterMap
