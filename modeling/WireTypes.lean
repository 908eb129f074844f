import WireTypes.Main
import WireTypes.Proofs.Canonical.Untagged
import WireTypes.Proofs.CommandLine.Outcome
import WireTypes.Proofs.Conversion.Appended
import WireTypes.Proofs.Conversion.FieldNames
import WireTypes.Proofs.Conversion.LineEndings
import WireTypes.Proofs.Conversion.Printing
import WireTypes.Proofs.Conversion.Repair
import WireTypes.Proofs.Conversion.Settling
import WireTypes.Proofs.Conversion.SkippedLines
import WireTypes.Proofs.Conversion.TagGate
import WireTypes.Proofs.Conversion.ToInterface
import WireTypes.Proofs.Conversion.ToStruct
import WireTypes.Proofs.Declaration.Layout
import WireTypes.Proofs.Declaration.Uncommented
import WireTypes.Proofs.Interface.Union
import WireTypes.Proofs.Name.Words
import WireTypes.Proofs.Registry.Aliases
import WireTypes.Proofs.Registry.Lookup
import WireTypes.Proofs.Settings.Precedence
import WireTypes.Proofs.Settings.Saving
import WireTypes.Proofs.Struct.LineEndings
import WireTypes.Proofs.Struct.Readings
import WireTypes.Proofs.Struct.Retagging
import WireTypes.Proofs.Struct.RewrittenLines
import WireTypes.Proofs.Struct.TagPairs
import WireTypes.Proofs.Struct.TaggedLine
import WireTypes.Proofs.TypeExpr.Overrides
