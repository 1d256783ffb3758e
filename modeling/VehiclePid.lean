import VehiclePid.Main
import VehiclePid.Proofs.Stack
import VehiclePid.Proofs.Formula.Grammar
import VehiclePid.Proofs.Formula.Partial
import VehiclePid.Proofs.Formula.Reading
import VehiclePid.Proofs.Formula.Scanning
import VehiclePid.Proofs.Formula.Compilation
import VehiclePid.Proofs.Formula.Evaluation
import VehiclePid.Proofs.Formula.Meaning
import VehiclePid.Proofs.Formula.Limits
import VehiclePid.Proofs.Formula.Acceptance
import VehiclePid.Proofs.Formula.Completion
import VehiclePid.Proofs.Formula.Refusal
import VehiclePid.Proofs.Formula.Safety
import VehiclePid.Proofs.Text.Hexadecimal
import VehiclePid.Proofs.Except
import VehiclePid.Proofs.Frame.Text
import VehiclePid.Proofs.Registry.Build
import VehiclePid.Proofs.Codec.Response
import VehiclePid.Proofs.Codec.Reencoding
import VehiclePid.Proofs.Schema.Loading
import VehiclePid.Proofs.Dictionary
import VehiclePid.Proofs.Key
import VehiclePid.Proofs.Keyed
import VehiclePid.Proofs.Schema.Export
import VehiclePid.Proofs.Registry.Units
import VehiclePid.Proofs.Registry.Order
import VehiclePid.Proofs.Codec.Order
import VehiclePid.Proofs.Codec.Relevance
import VehiclePid.Proofs.Codec.Wide
import VehiclePid.Proofs.Formula.Spelling
import VehiclePid.Proofs.Formula.Completeness
import VehiclePid.Proofs.Registry.Fault
import VehiclePid.Proofs.Registry.Contents
import VehiclePid.Proofs.Command.Units
import VehiclePid.Proofs.Codec.Layout
import VehiclePid.Proofs.Formula.Operands
import VehiclePid.Proofs.Codec.Decoding
import VehiclePid.Proofs.Value.Bytes
import VehiclePid.Proofs.Codec.Storing
import VehiclePid.Proofs.Binary.Number
import VehiclePid.Proofs.Binary.Nearest
import VehiclePid.Proofs.Value.Cast
import VehiclePid.Proofs.Formula.Identity
import VehiclePid.Proofs.Text.Digits
import VehiclePid.Proofs.Text.Trimming
import VehiclePid.Proofs.Codec.Query
import VehiclePid.Proofs.Codec.PassThrough
import VehiclePid.Proofs.Binary.Exact
import VehiclePid.Proofs.Value.Pattern
import VehiclePid.Proofs.Binary.Between
import VehiclePid.Proofs.Formula.Rendering
