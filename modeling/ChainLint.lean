import ChainLint.File.Store
import ChainLint.Main
import ChainLint.Pool
import ChainLint.Proofs.Registry
import ChainLint.Proofs.Walk
import ChainLint.Proofs.Analysis
import ChainLint.Proofs.Pool
import ChainLint.Proofs.Exact
import ChainLint.Proofs.AliasChain
import ChainLint.Proofs.Resolve
import ChainLint.Proofs.InvalidRef
import ChainLint.Proofs.Locality
import ChainLint.Proofs.Loading
import ChainLint.Proofs.SingleUnit
import ChainLint.Proofs.GuardFaults
import ChainLint.Proofs.Invitations
import ChainLint.Proofs.Misuse
import ChainLint.Guard.Compiled
import ChainLint.Schedule
import ChainLint.Proofs.Schedule
import ChainLint.Proofs.GivenUp
import ChainLint.Proofs.OpaqueIds
import ChainLint.Proofs.Containment
import ChainLint.Remembering
import ChainLint.Proofs.Remembering
import ChainLint.Proofs.Disabling
import ChainLint.Proofs.Spelling
import ChainLint.Proofs.ConfiguredPaths
import ChainLint.Proofs.Subexpressions
import ChainLint.Proofs.GuardChain
import ChainLint.Proofs.DeclaredRules
import ChainLint.Proofs.GuardOrder
import ChainLint.Proofs.Forbidden
import ChainLint.Proofs.Meaning
import ChainLint.Proofs.TruthOnly
import ChainLint.Proofs.Agreement
import ChainLint.Proofs.StoreRuns
import ChainLint.Proofs.RuleSet
import ChainLint.Proofs.RuleDocuments
import ChainLint.Proofs.RoundTrip
import ChainLint.Proofs.Reports
import ChainLint.Proofs.DumpByDump
import ChainLint.PathTables
import ChainLint.Proofs.PathTables
import ChainLint.Proofs.Histories
import ChainLint.Proofs.ExtendedPaths
import ChainLint.Proofs.Registries
import ChainLint.Proofs.ReportedOnce
import ChainLint.Proofs.TypeText
import ChainLint.Proofs.TypeView
import ChainLint.Proofs.Configuration
import ChainLint.Proofs.DocumentNodes
import ChainLint.Proofs.NodeNumbers
import ChainLint.Proofs.ChainedComparisons
import ChainLint.Proofs.PathNotation
import ChainLint.Proofs.DecimalKeys
import ChainLint.Proofs.NullFields
import ChainLint.Proofs.AliasSearch
import ChainLint.Proofs.Occurrences
