import RegisterMap.Main
import RegisterMap.Proofs.Code.Lens
import RegisterMap.Proofs.Code.Steps
import RegisterMap.Proofs.CommandLine.Run
import RegisterMap.Proofs.Derivation.Contents
import RegisterMap.Proofs.Derivation.Failure
import RegisterMap.Proofs.Derivation.Stopped
import RegisterMap.Proofs.EffectiveProperties
import RegisterMap.Proofs.Emit.AccessorNames
import RegisterMap.Proofs.Emit.Constants
import RegisterMap.Proofs.Emit.Descriptions
import RegisterMap.Proofs.Emit.Flags
import RegisterMap.Proofs.Emit.Handles
import RegisterMap.Proofs.Emit.Inside
import RegisterMap.Proofs.Emit.Interrupts
import RegisterMap.Proofs.Emit.Modules
import RegisterMap.Proofs.Emit.Outline
import RegisterMap.Proofs.Emit.Partition
import RegisterMap.Proofs.Emit.SourceWalk
import RegisterMap.Proofs.Emit.Supported
import RegisterMap.Proofs.Emit.Ungrouped
import RegisterMap.Proofs.Grouping.Alike
import RegisterMap.Proofs.Grouping.Numbering
import RegisterMap.Proofs.Grouping.SharedNames
import RegisterMap.Proofs.Outcome
import RegisterMap.Proofs.Reading.Accepted
import RegisterMap.Proofs.Reading.BitRange
import RegisterMap.Proofs.Reading.EnumeratedValue
import RegisterMap.Proofs.Reading.Order
import RegisterMap.Proofs.Similar.Remarks
import RegisterMap.Proofs.Text.DocLiteral
