import RegisterMap.CommandLine.Run

/-!
# The program

The thin layer around `RegisterMap.run`: it reads and writes the real files and
streams, in the same order and with the same outcomes.
-/

namespace RegisterMap

/-- The cause for which a file could not be read or written. -/
def problemOf : IO.Error → FileProblem
  | .inappropriateType _ 21 _ => .isFolder
  | .inappropriateType _ _ _ => .throughFile
  | .permissionDenied _ _ _ => .denied
  | .invalidArgument _ _ _ => .tooLong
  | _ => .missing

/-- The outcome of a file operation. -/
def guarded (path : Path) (action : IO α) : IO (Except FileFault α) := do
  try
    return .ok (← action)
  catch e =>
    return .error { problem := problemOf e, path }

/-- Reads a stream to its end. -/
partial def readToEnd (stream : IO.FS.Stream) (read : ByteArray) : IO ByteArray := do
  let chunk ← stream.read 65536
  if chunk.isEmpty then return read else readToEnd stream (read ++ chunk)

/-- The document that is to be read. -/
def Settings.readDocument (settings : Settings) : IO (Except FileFault (List UInt8)) :=
  match settings.input with
  | some path => guarded path (return (← IO.FS.readBinFile path.text).data.toList)
  | none => return .ok (← readToEnd (← IO.getStdin) ByteArray.empty).data.toList

/-- Writes the code to its place. -/
def Settings.writeCode (settings : Settings) (code : String) : IO (Except FileFault Unit) :=
  match settings.output with
  | some path => guarded path (IO.FS.writeBinFile path.text code.toUTF8)
  | none => return .ok (← IO.print code)

/-- Shows notes. -/
def Settings.show (settings : Settings) (notes : List Note) : IO Unit :=
  (shownNotes settings.level settings.quiet notes).forM IO.eprintln

/-- Says why the program failed, and gives its exit status. -/
def fail (failure : Failure) : IO UInt32 := do
  IO.eprintln failure.line
  return failure.status.toUInt32

/-- Converts a description. -/
def Settings.convert (settings : Settings) : IO UInt32 := do
  let attempt := settings.attempt (← settings.readDocument)
  settings.show attempt.notes
  match attempt.outcome with
  | .error failure => fail failure
  | .ok code =>
    match ← settings.writeCode code with
    | .error fault => fail (.file fault)
    | .ok () =>
      settings.show [settings.writtenNote code]
      return 0

/-- Does what the arguments ask for. -/
def perform (arguments : List String) : IO UInt32 := do
  match Request.ofArguments arguments with
  | .error fault => fail (.usage fault)
  | .ok .help =>
    IO.print usage
    return 0
  | .ok (.convert settings) => settings.convert

end RegisterMap

/-- The program. -/
def main (arguments : List String) : IO UInt32 := RegisterMap.perform arguments
