import RegisterMap.CommandLine.Path
import RegisterMap.Text.Numeral
import RegisterMap.Text.Quoted

/-!
# Reading and writing files

A run reads at most one file and writes at most one. `Directory` is what it can see of
the file system: the files and folders in the current directory, each named by the
steps that lead to it. Of what lies outside, the folders around the current one and the
root are known, and the null device; steps to such a place begin with those that lead
out or with the root.

Reading and writing fail for the causes that a file system gives: there is nothing at
the path or no folder to write to, there is a folder, a step leads through a file, or
the path or a step of it is too long.
-/

namespace RegisterMap

open Text

/-- Why a file cannot be read or written. -/
inductive FileProblem
  | missing
  | denied
  | throughFile
  | isFolder
  | tooLong
  deriving DecidableEq, Repr

namespace FileProblem

/-- The number of a cause. -/
def number : FileProblem → Nat
  | .missing => 2
  | .denied => 13
  | .throughFile => 20
  | .isFolder => 21
  | .tooLong => 36

/-- A cause as a phrase. -/
def phrase : FileProblem → String
  | .missing => "No such file or directory"
  | .denied => "Permission denied"
  | .throughFile => "Not a directory"
  | .isFolder => "Is a directory"
  | .tooLong => "File name too long"

end FileProblem

/-- A file that cannot be read or written, and why. -/
structure FileFault where
  problem : FileProblem
  path : Path
  deriving DecidableEq, Repr

/-- A cause as a sentence. -/
def FileFault.message (fault : FileFault) : String :=
  "[Errno " ++ decimal fault.problem.number ++ "] " ++ fault.problem.phrase ++ ": "
    ++ quoted fault.path.text

/-- Files and folders, by the steps that lead to them. -/
structure Directory where
  files : List (List String × List UInt8) := []
  folders : List (List String) := []
  deriving DecidableEq, Repr

/-- What is at the end of a path. -/
inductive Place
  /-- A file. -/
  | file (steps : List String) (content : List UInt8)
  /-- A folder. -/
  | folder
  /-- Nothing, in a folder. -/
  | free (steps : List String)
  /-- Nothing, and no folder that could hold something. -/
  | nowhere
  /-- A file stands in the way. -/
  | throughFile
  /-- The way is too long. -/
  | tooLong

namespace Directory

/-- The step that leads out of a folder. -/
def outward : String := ".."

/-- The first step of the way from the root. -/
def rootStep : String := "/"

/-- The folder of devices. -/
def deviceFolder : List String := [rootStep, "dev"]

/-- The device that holds nothing. -/
def nullDevice : List String := deviceFolder ++ ["null"]

/-- Whether steps lead to the current directory, to a folder around it or to the
root. -/
def isAround (steps : List String) : Bool := steps.all (· = outward) || steps = [rootStep]

/-- Whether steps lead to something in the current directory. -/
def isInside (steps : List String) : Bool :=
  !steps.head?.any fun step => step = outward || step = rootStep

/-- The folder around a place. -/
def around (steps : List String) : List String :=
  if steps = [rootStep] then steps
  else if isAround steps then steps ++ [outward]
  else steps.dropLast

/-- Whether there is a folder at the end of some steps. What has something in it is a
folder. -/
def hasFolder (d : Directory) (steps : List String) : Bool :=
  isAround steps || steps = deviceFolder || d.folders.any (steps.isPrefixOf ·)
    || d.files.any (steps.isPrefixOf ·.1)

/-- What is at the end of some steps, none of which leads back. -/
def placeAt (d : Directory) (steps : List String) : Place :=
  match d.files.lookup steps with
  | some content => .file steps content
  | none =>
    if steps = nullDevice then .file steps []
    else if d.hasFolder steps then .folder
    else .free steps

/-- The number of bytes that a step may have. -/
def stepLimit : Nat := 255

/-- The number of bytes that a path must stay below. -/
def pathLimit : Nat := 4096

/-- What is at the end of some more steps from a place. -/
def locate (d : Directory) (steps : List String) : List String → Place
  | [] => d.placeAt steps
  | step :: rest =>
    match d.placeAt steps with
    | .folder =>
      if step = outward then d.locate (around steps) rest
      else if stepLimit < step.utf8ByteSize then .tooLong
      else d.locate (steps ++ [step]) rest
    | .file _ _ => .throughFile
    | _ => .nowhere

/-- What is at the end of a path. -/
def find (d : Directory) (path : Path) : Place :=
  if pathLimit ≤ path.text.utf8ByteSize then .tooLong
  else d.locate (if path.root = "" then [] else [rootStep]) path.steps

/-- The content of the file at the end of a path. -/
def read (d : Directory) (path : Path) : Except FileFault (List UInt8) :=
  match d.find path with
  | .file _ content => .ok content
  | .folder => .error { problem := .isFolder, path }
  | .free _ | .nowhere => .error { problem := .missing, path }
  | .throughFile => .error { problem := .throughFile, path }
  | .tooLong => .error { problem := .tooLong, path }

/-- A directory with a file in it, in place of the one with the same steps. What is put in
the null device is gone. -/
def put (d : Directory) (steps : List String) (content : List UInt8) : Directory :=
  if steps = nullDevice then d
  else { d with files := (steps, content) :: d.files.filter (·.1 ≠ steps) }

/-- Writes a file at the end of a path. -/
def write (d : Directory) (path : Path) (content : List UInt8) : Except FileFault Directory :=
  match d.find path with
  | .file steps _ | .free steps => .ok (d.put steps content)
  | .folder => .error { problem := .isFolder, path }
  | .nowhere => .error { problem := .missing, path }
  | .throughFile => .error { problem := .throughFile, path }
  | .tooLong => .error { problem := .tooLong, path }

/-- The files in the current directory. -/
def inside (d : Directory) : List (List String × List UInt8) :=
  d.files.filter (isInside ·.1)

end Directory

end RegisterMap
