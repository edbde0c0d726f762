import DirectorySchema.Text.Utf8
import DirectorySchema.Text.Quoted
import DirectorySchema.Text.Case
import DirectorySchema.Dn.Basic
import DirectorySchema.Dn.Parser
import DirectorySchema.Description.Basic
import DirectorySchema.Description.Parser
import DirectorySchema.Description.Printer
import DirectorySchema.Dn.Construct
import DirectorySchema.Comparator.Basic
import DirectorySchema.Comparator.Deferred
import DirectorySchema.Catalog.Basic
import DirectorySchema.Catalog.Shipped
import DirectorySchema.AuthenticationLevel
import DirectorySchema.SchemaFile
import DirectorySchema.Settings.Basic
import DirectorySchema.Settings.Host
import DirectorySchema.Settings.ManagerConfig
import DirectorySchema.Manager.Additions
import DirectorySchema.Manager.Binding
import DirectorySchema.Provenance
import DirectorySchema.Manager.Operation
import DirectorySchema.Principal
import DirectorySchema.CommandLine.Arguments
import DirectorySchema.CommandLine.Run
import DirectorySchema.Main
import DirectorySchema.Proofs.Texts
import DirectorySchema.Proofs.CaseMappings
import DirectorySchema.Proofs.Numerals
import DirectorySchema.Proofs.Normalizers
import DirectorySchema.Proofs.Escapes
import DirectorySchema.Proofs.WrittenNames
import DirectorySchema.Proofs.Layers
import DirectorySchema.Proofs.Registries
import DirectorySchema.Proofs.Additions
import DirectorySchema.Proofs.Runs
import DirectorySchema.Proofs.Descriptions
import DirectorySchema.Proofs.Loading
import DirectorySchema.Proofs.Permanence
import DirectorySchema.Proofs.Consistency
import DirectorySchema.Proofs.Superiors
import DirectorySchema.Proofs.EqualityRules
import DirectorySchema.Proofs.Identifiers
import DirectorySchema.Proofs.WrittenTerms
import DirectorySchema.Proofs.WrittenDescriptions
import DirectorySchema.Proofs.Sorting
import DirectorySchema.Proofs.NormalNames
import DirectorySchema.Proofs.Transparency
import DirectorySchema.Proofs.RuleBundles
import DirectorySchema.Proofs.NameOrder
import DirectorySchema.Proofs.CollapsedSpaces
import DirectorySchema.Proofs.FoldedNames
import DirectorySchema.Proofs.ComparisonKeys
import DirectorySchema.Proofs.RuleAgreement
import DirectorySchema.Proofs.NameResolution
import DirectorySchema.Proofs.SchemaLoads
import DirectorySchema.Proofs.Octets
import DirectorySchema.Proofs.SchemaFiles
import DirectorySchema.Proofs.Reloading
import DirectorySchema.Proofs.Containment
import DirectorySchema.Proofs.RegistrationOrder
import DirectorySchema.Proofs.ComparatorOrders
import DirectorySchema.Proofs.ConsistentSchemas
import DirectorySchema.Proofs.NameComparison
import DirectorySchema.Proofs.HexPairs
import DirectorySchema.Proofs.BareEquals
import DirectorySchema.Proofs.QuotedLists
import DirectorySchema.Proofs.TermOrder
import DirectorySchema.Proofs.WordsAsked
import DirectorySchema.Proofs.DefinitionLayout
import DirectorySchema.Proofs.NearestRule
import DirectorySchema.Proofs.StandIns
import DirectorySchema.Proofs.Rebinding
import DirectorySchema.Proofs.Histories
import DirectorySchema.Proofs.ProvenanceReports
import DirectorySchema.Proofs.Overlays
import DirectorySchema.Proofs.LayeredSettings
import DirectorySchema.Proofs.SettingsReading
import DirectorySchema.Proofs.Precedence
import DirectorySchema.Proofs.SettingsLoads
