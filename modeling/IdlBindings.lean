import IdlBindings.Main
import IdlBindings.Proofs.ReadDefinitions
import IdlBindings.Proofs.ParsedShape
import IdlBindings.Schema.Printer
import IdlBindings.Proofs.Unambiguous
import IdlBindings.Proofs.ReadBack
import IdlBindings.Proofs.Grouping
import IdlBindings.Proofs.Rendering
import IdlBindings.Proofs.RoundTrip
import IdlBindings.Proofs.TreeSteps
import IdlBindings.Proofs.Writing
import IdlBindings.Proofs.OutputPaths
import IdlBindings.Proofs.RunOutcome
import IdlBindings.Proofs.CheckedPositions
import IdlBindings.Proofs.Collecting
import IdlBindings.Proofs.Merging
import IdlBindings.Proofs.DeclaredMembers
import IdlBindings.Proofs.TargetAgreement
import IdlBindings.Proofs.Stopping
import IdlBindings.Proofs.Locality
import IdlBindings.Proofs.Reordering
import IdlBindings.Proofs.Renaming
import IdlBindings.Proofs.Entities
import IdlBindings.Proofs.Preformatted
import IdlBindings.Proofs.Extending
import IdlBindings.Proofs.ListedDefinitions
import IdlBindings.Proofs.Reporting
import IdlBindings.Proofs.Concatenation
import IdlBindings.Proofs.ErrorLocality
import IdlBindings.Proofs.TokenPlaces
import IdlBindings.Proofs.ErrorPositions
import IdlBindings.Proofs.TokenLayout
import IdlBindings.Proofs.LocalRendering
import IdlBindings.Proofs.Links
import IdlBindings.Proofs.NamePlaces
import IdlBindings.Proofs.KindInvariants
import IdlBindings.Proofs.TruncatedGrammar
import IdlBindings.Proofs.UnionArity
import IdlBindings.Proofs.PrintedTypes
import IdlBindings.Proofs.StringLiterals
import IdlBindings.Proofs.ListedCallbacks
import IdlBindings.Proofs.AppliedDefaults
import IdlBindings.Proofs.ConstantNames
import IdlBindings.Proofs.DocComments
import IdlBindings.Proofs.CallbackParameters
import IdlBindings.Proofs.HeaderGuards
import IdlBindings.Proofs.LayeredSettings
import IdlBindings.Proofs.Cursor
import IdlBindings.Proofs.Progress
