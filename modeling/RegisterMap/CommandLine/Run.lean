import RegisterMap.CommandLine.Arguments
import RegisterMap.CommandLine.Directory
import RegisterMap.Conversion
import RegisterMap.Reading.Device
import RegisterMap.Xml.Document

/-!
# A run

A run reads a description, converts it and writes the code to one place. It shows the
notes it took and, if it fails, one sentence that says why. A run that fails writes
nothing.
-/

namespace RegisterMap

open Xml

/-- Why a run fails. -/
inductive Failure
  /-- The arguments are wrong. -/
  | usage (fault : UsageFault)
  /-- A file cannot be read or written. -/
  | file (fault : FileFault)
  /-- The document is not well formed. -/
  | illFormed
  /-- The description has a fault. -/
  | description (fault : Fault)
  deriving DecidableEq, Repr

namespace Failure

/-- A failure as a sentence. -/
def message : Failure → String
  | .usage fault => fault.message
  | .file fault => fault.message
  | .illFormed => "the document is not well formed"
  | .description fault => fault.message

/-- The line that says why a run failed. -/
def line (failure : Failure) : String :=
  match failure with
  | .usage _ => "svdgen: error: " ++ failure.message
  | _ => "error: " ++ failure.message

/-- The exit status of a failure. -/
def status : Failure → Nat
  | .usage _ => 2
  | _ => 1

end Failure

/-- The device in a document. -/
def Device.ofBytes (bytes : List UInt8) : Except Failure Device :=
  match Element.ofBytes? bytes with
  | none => .error .illFormed
  | some root => (Device.ofElement root).mapError .description

/-- What came of trying to convert a document: the notes taken, and the code or why
there is none. -/
structure Attempt where
  notes : List Note
  outcome : Except Failure String

namespace Settings

/-- The name of the place that is read. -/
def inputName (settings : Settings) : String :=
  (settings.input.map Path.text).getD "<stdin>"

/-- The name of the place that is written. -/
def outputName (settings : Settings) : String :=
  (settings.output.map Path.text).getD "<stdout>"

/-- Tries to convert the document that was read, if it could be read. -/
def attempt (settings : Settings) (document : Except FileFault (List UInt8)) : Attempt :=
  let start := Note.source settings.inputName
  match document with
  | .error fault => { notes := [start], outcome := .error (.file fault) }
  | .ok bytes =>
    match Device.ofBytes bytes with
    | .error failure => { notes := [start], outcome := .error failure }
    | .ok d =>
      let conversion := d.convert settings.options
      { notes := start :: .loaded d.name d.peripherals.length :: conversion.notes
        outcome := conversion.outcome.mapError .description }

/-- The note on the code that was written. -/
def writtenNote (settings : Settings) (code : String) : Note :=
  .written code.length settings.outputName

end Settings

/-- What a run leaves behind. -/
structure Run where
  /-- Why it failed, if it did. -/
  failure : Option Failure := none
  /-- What it wrote to the standard output. -/
  output : String := ""
  /-- The notes it showed. -/
  shown : List String := []
  /-- The current directory afterwards. -/
  directory : Directory

namespace Run

/-- The exit status of a run. -/
def status (run : Run) : Nat := (run.failure.map Failure.status).getD 0

/-- The lines on the error output: the notes, then the failure. -/
def errorLines (run : Run) : List String :=
  run.shown ++ (run.failure.map Failure.line).toList

end Run

/-- The description of the arguments. -/
def usage : String :=
  "usage: svdgen [-h] [-o OUTPUT] [--no-fields] [--no-group-fields]\n"
    ++ "              [--no-bool-fields] [--no-group-peripherals] [--no-doc]\n"
    ++ "              [--log-level \x7bDEBUG,INFO,WARNING,ERROR\x7d] [--quiet]\n"
    ++ "              [input]\n"
    ++ "\n"
    ++ "Generate Rust register accessors from a CMSIS-SVD file\n"
    ++ "\n"
    ++ "positional arguments:\n"
    ++ "  input                 SVD file (default: stdin)\n"
    ++ "\n"
    ++ "options:\n"
    ++ "  -h, --help            show this help message and exit\n"
    ++ "  -o OUTPUT, --output OUTPUT\n"
    ++ "                        Output .rs file (default: stdout)\n"
    ++ "  --no-fields           Do not generate field wrapper types\n"
    ++ "  --no-group-fields     Do not merge NAME0..NAMEn fields into indexed\n"
    ++ "                        accessors\n"
    ++ "  --no-bool-fields      Use the register integer type for 1-bit fields\n"
    ++ "  --no-group-peripherals\n"
    ++ "                        Emit every peripheral as its own module\n"
    ++ "  --no-doc              Omit #[doc] attributes\n"
    ++ "  --log-level \x7bDEBUG,INFO,WARNING,ERROR\x7d\n"
    ++ "  --quiet               Reduce console output\n"

/-- The content of the place that is to be read. -/
def Settings.document (settings : Settings) (input : List UInt8) (d : Directory) :
    Except FileFault (List UInt8) :=
  match settings.input with
  | none => .ok input
  | some path => d.read path

/-- Writes the code to its place, if there is any. -/
def Settings.deliver (settings : Settings) (d : Directory) (attempt : Attempt) : Run :=
  let shownWith (notes : List Note) := shownNotes settings.level settings.quiet notes
  match attempt.outcome with
  | .error failure =>
    { failure := some failure, shown := shownWith attempt.notes, directory := d }
  | .ok code =>
    let notes := attempt.notes ++ [settings.writtenNote code]
    match settings.output with
    | none => { output := code, shown := shownWith notes, directory := d }
    | some path =>
      match d.write path code.toUTF8.data.toList with
      | .error fault =>
        { failure := some (.file fault), shown := shownWith attempt.notes, directory := d }
      | .ok directory => { shown := shownWith notes, directory }

/-- A run with some arguments, a standard input and a current directory. -/
def run (arguments : List String) (input : List UInt8) (d : Directory) : Run :=
  match Request.ofArguments arguments with
  | .error fault => { failure := some (.usage fault), directory := d }
  | .ok .help => { output := usage, directory := d }
  | .ok (.convert settings) =>
    settings.deliver d (settings.attempt (settings.document input d))

end RegisterMap
