import ObjectCatalog.Cache
import ObjectCatalog.Database.Basic
import ObjectCatalog.Database.Edit
import ObjectCatalog.Database.MetadataTable
import ObjectCatalog.Database.ObjectTable
import ObjectCatalog.Database.Refusal
import ObjectCatalog.Decimal.Binary64
import ObjectCatalog.Decimal.Shortest
import ObjectCatalog.Error
import ObjectCatalog.Identifier
import ObjectCatalog.Json.Basic
import ObjectCatalog.Json.Printer
import ObjectCatalog.Json.Reader
import ObjectCatalog.Json.Token
import ObjectCatalog.Json.Tree
import ObjectCatalog.Lookup
import ObjectCatalog.Main
import ObjectCatalog.Object.Basic
import ObjectCatalog.Object.CachedRow
import ObjectCatalog.Predicate.Basic
import ObjectCatalog.Predicate.Meaning
import ObjectCatalog.Predicate.Plan
import ObjectCatalog.Predicate.Reader
import ObjectCatalog.Predicate.Writer
import ObjectCatalog.Preflight
import ObjectCatalog.Repository.Backend
import ObjectCatalog.Repository.Basic
import ObjectCatalog.Repository.Connection
import ObjectCatalog.Repository.MetadataStore
import ObjectCatalog.Repository.Search
import ObjectCatalog.Session.Basic
import ObjectCatalog.Session.Request
import ObjectCatalog.Settings.Basic
import ObjectCatalog.Settings.Connect
import ObjectCatalog.Settings.DatabaseUrl
import ObjectCatalog.Settings.EnvFile
import ObjectCatalog.Sql.Condition
import ObjectCatalog.Sql.Dialect
import ObjectCatalog.Sql.Lexeme
import ObjectCatalog.Sql.Like
import ObjectCatalog.Sql.Limit
import ObjectCatalog.Sql.Statement
import ObjectCatalog.Sql.TableRef
import ObjectCatalog.Sql.Template
import ObjectCatalog.Text.Ascii
import ObjectCatalog.Text.Blank
import ObjectCatalog.Text.CaseData
import ObjectCatalog.Text.Lowercase
import ObjectCatalog.Text.Numeral
import ObjectCatalog.Text.PrintData
import ObjectCatalog.Text.Quoted
import ObjectCatalog.Text.Runs
import ObjectCatalog.Text.WordData
import ObjectCatalog.Proofs.Results
import ObjectCatalog.Proofs.Predicate.PlanShape
import ObjectCatalog.Proofs.Search.ObjectLevel
import ObjectCatalog.Proofs.Sql.Formula
import ObjectCatalog.Proofs.Sql.Lexing
import ObjectCatalog.Proofs.Sql.ReadBack
import ObjectCatalog.Proofs.Cache.Coherence
import ObjectCatalog.Proofs.Cache.Keys
import ObjectCatalog.Proofs.Cache.Runs
import ObjectCatalog.Proofs.Cache.Transparency
import ObjectCatalog.Proofs.Cache.Asking
import ObjectCatalog.Proofs.Database.Effects
import ObjectCatalog.Proofs.Repository.Editing
import ObjectCatalog.Proofs.Repository.Handles
import ObjectCatalog.Proofs.Repository.Deleted
import ObjectCatalog.Proofs.Repository.Updates
import ObjectCatalog.Proofs.Repository.Outcomes
import ObjectCatalog.Proofs.Cache.Retry
import ObjectCatalog.Proofs.Cache.TypeKeys
import ObjectCatalog.Proofs.Database.Locality
import ObjectCatalog.Proofs.Sql.Prefixes
import ObjectCatalog.Proofs.Sql.TableNames
import ObjectCatalog.Proofs.Repository.Apart
import ObjectCatalog.Proofs.Repository.Isolation
import ObjectCatalog.Proofs.Object.Delta
import ObjectCatalog.Proofs.Database.Metadata
import ObjectCatalog.Proofs.Repository.Saving
import ObjectCatalog.Proofs.Repository.Reading
import ObjectCatalog.Proofs.Repository.RoundTrip
import ObjectCatalog.Proofs.Search.LoadedMetadata
import ObjectCatalog.Proofs.Database.Names
import ObjectCatalog.Proofs.Repository.Sending
import ObjectCatalog.Proofs.Repository.Names
import ObjectCatalog.Proofs.Sql.Bare
import ObjectCatalog.Proofs.Repository.Wording
import ObjectCatalog.Proofs.Database.Merging
import ObjectCatalog.Proofs.Repository.Merging
import ObjectCatalog.Proofs.Repository.NewObjects
import ObjectCatalog.Proofs.Sql.Marks
import ObjectCatalog.Proofs.Repository.Marks
import ObjectCatalog.Proofs.Sql.Unnumbered
import ObjectCatalog.Proofs.Database.Indexes
import ObjectCatalog.Proofs.Repository.Dialects
import ObjectCatalog.Proofs.Session.Dialects
import ObjectCatalog.Proofs.Repository.Failures
import ObjectCatalog.Proofs.Cache.Ghosts
import ObjectCatalog.Proofs.Sql.Patterns
import ObjectCatalog.Proofs.Search.ByMetadata
import ObjectCatalog.Proofs.Search.ByName
import ObjectCatalog.Proofs.Predicate.Wildcards
import ObjectCatalog.Proofs.Predicate.Grammar
import ObjectCatalog.Proofs.Repository.Writes
import ObjectCatalog.Proofs.Repository.Others
import ObjectCatalog.Proofs.Repository.Commuting
import ObjectCatalog.Proofs.Search.Listing
import ObjectCatalog.Proofs.Search.Paging
import ObjectCatalog.Proofs.Object.Difference
import ObjectCatalog.Proofs.Text.Trimming
import ObjectCatalog.Proofs.Repository.Lookups
import ObjectCatalog.Proofs.Json.Lexemes
import ObjectCatalog.Proofs.Json.Scanning
import ObjectCatalog.Proofs.Json.Trees
import ObjectCatalog.Proofs.Object.CachedForms
