import BraceTemplate.Main
import BraceTemplate.Proofs.Composition
import BraceTemplate.Proofs.Dependence
import BraceTemplate.Proofs.Isolation
import BraceTemplate.Proofs.Numbering
import BraceTemplate.Proofs.Pool
import BraceTemplate.Proofs.Tokenization
import BraceTemplate.Proofs.Accounting
import BraceTemplate.Proofs.Application
import BraceTemplate.Proofs.OperandChecks
import BraceTemplate.Proofs.ScanFaults
import BraceTemplate.Proofs.TrialDate
import BraceTemplate.Proofs.Validation
import BraceTemplate.Proofs.Quoting
import BraceTemplate.Proofs.Strays
import BraceTemplate.Proofs.Cutting
import BraceTemplate.Proofs.Verbatim
import BraceTemplate.Proofs.Concatenation
import BraceTemplate.Proofs.Consumption
import BraceTemplate.Proofs.Acceptance
import BraceTemplate.Proofs.Interchange
import BraceTemplate.Proofs.Offsets
import BraceTemplate.Proofs.Markers
import BraceTemplate.Proofs.Slicing
import BraceTemplate.Proofs.Shape
import BraceTemplate.Proofs.LineFile
import BraceTemplate.Proofs.Utf8
import BraceTemplate.Proofs.Percent
import BraceTemplate.Proofs.Base64
import BraceTemplate.Proofs.Fields
import BraceTemplate.Proofs.MachineWord
import BraceTemplate.Proofs.FormatEnds
import BraceTemplate.Proofs.WrittenOperand
import BraceTemplate.Proofs.DateFormat
import BraceTemplate.Proofs.IntegerField
import BraceTemplate.Proofs.NumberField
import BraceTemplate.Proofs.HashCode
import BraceTemplate.Proofs.BlockHistory
import BraceTemplate.Proofs.HexFloat
import BraceTemplate.Proofs.DayNumbers
import BraceTemplate.Proofs.Instant
import BraceTemplate.Proofs.DateLetters
