import TypedEndpoints.Schema.Draft
import TypedEndpoints.Main
import TypedEndpoints.Proofs.DocumentGrammar
import TypedEndpoints.Proofs.PathAgreement
import TypedEndpoints.Proofs.RunOutcome
import TypedEndpoints.Proofs.PathCheck
import TypedEndpoints.Proofs.DanglingReferences
import TypedEndpoints.Proofs.ModuleLines
import TypedEndpoints.Proofs.ReferenceCheck
import TypedEndpoints.Proofs.ScalarReading
import TypedEndpoints.Proofs.DeclarationReading
import TypedEndpoints.Proofs.ReaderLimits
import TypedEndpoints.Proofs.WritableDocuments
import TypedEndpoints.Proofs.LongNumerals
import TypedEndpoints.Proofs.Utf8Octets
import TypedEndpoints.Proofs.LoadOutcome
import TypedEndpoints.Proofs.CommentLines
import TypedEndpoints.Proofs.ReferenceReading
import TypedEndpoints.Proofs.CanonicalDocument
import TypedEndpoints.Proofs.StreamingInterfaces
import TypedEndpoints.Proofs.StrictGate
import TypedEndpoints.Proofs.EntryBlocks
import TypedEndpoints.Proofs.UnionText
import TypedEndpoints.Proofs.QuotedPaths
import TypedEndpoints.Proofs.FunctionReading
import TypedEndpoints.Proofs.FirstFault
import TypedEndpoints.Proofs.PathCut
import TypedEndpoints.Proofs.UnresolvedReports
import TypedEndpoints.Proofs.RepeatedWriting
import TypedEndpoints.Proofs.ReferenceLeaf
