import ScannerConfig.Base64
import ScannerConfig.Calendar
import ScannerConfig.Collation.Canonical
import ScannerConfig.Collation.CombiningClassTable
import ScannerConfig.Collation.DecompositionTable
import ScannerConfig.Collation.Elements
import ScannerConfig.Collation.LabelOrder
import ScannerConfig.Collation.WeightTable
import ScannerConfig.Collation.Weights
import ScannerConfig.Command.Arguments
import ScannerConfig.Command.Basic
import ScannerConfig.Command.Failure
import ScannerConfig.Command.Grammar
import ScannerConfig.Command.Logged
import ScannerConfig.Command.Message
import ScannerConfig.Command.Run
import ScannerConfig.Command.Target
import ScannerConfig.Command.Usage
import ScannerConfig.Decimal.Binary64
import ScannerConfig.Decimal.Shortest
import ScannerConfig.Decimal.Text
import ScannerConfig.Entries
import ScannerConfig.Fault
import ScannerConfig.Files.Access
import ScannerConfig.Files.Path
import ScannerConfig.Files.Tree
import ScannerConfig.Json.Parser
import ScannerConfig.Json.Printer
import ScannerConfig.Json.Value
import ScannerConfig.Log.Entry
import ScannerConfig.Log.Filter
import ScannerConfig.Main
import ScannerConfig.Normalization.Change
import ScannerConfig.Normalization.Document
import ScannerConfig.Normalization.Identifiers
import ScannerConfig.Normalization.Labels
import ScannerConfig.Normalization.Options
import ScannerConfig.Normalization.Revision
import ScannerConfig.Normalization.Systems
import ScannerConfig.Output.Render
import ScannerConfig.Output.Table
import ScannerConfig.Preferences.Basic
import ScannerConfig.Preferences.Environment
import ScannerConfig.Preferences.File
import ScannerConfig.Preferences.Layer
import ScannerConfig.Preferences.Load
import ScannerConfig.Preferences.Text
import ScannerConfig.Proofs.Base64
import ScannerConfig.Proofs.CanonicalShape
import ScannerConfig.Proofs.Equality
import ScannerConfig.Proofs.Frame
import ScannerConfig.Proofs.Identity
import ScannerConfig.Proofs.LabelSort
import ScannerConfig.Proofs.LegacyDocument
import ScannerConfig.Proofs.LegacySpelling
import ScannerConfig.Proofs.Lookup
import ScannerConfig.Proofs.Members
import ScannerConfig.Proofs.OptionMerge
import ScannerConfig.Proofs.ParsedKeys
import ScannerConfig.Proofs.Revising
import ScannerConfig.Proofs.Root
import ScannerConfig.Proofs.RootKeys
import ScannerConfig.Proofs.SecondPass
import ScannerConfig.Proofs.Settling
import ScannerConfig.Proofs.Systems
import ScannerConfig.Proofs.Telling
import ScannerConfig.Proofs.Utf8
import ScannerConfig.Schema.Collection
import ScannerConfig.Schema.Configuration
import ScannerConfig.Schema.OptionTable
import ScannerConfig.Schema.Options
import ScannerConfig.Schema.ShapeError
import ScannerConfig.Store.File
import ScannerConfig.Store.Memory
import ScannerConfig.Store.Merge
import ScannerConfig.Text.Alphanumeric
import ScannerConfig.Text.AlphanumericTable
import ScannerConfig.Text.Blank
import ScannerConfig.Text.HiddenTable
import ScannerConfig.Text.Quoted
import ScannerConfig.Text.Runs
import ScannerConfig.Text.Utf8
import ScannerConfig.Toml.Document
import ScannerConfig.Toml.Moment
import ScannerConfig.Toml.Number
import ScannerConfig.Toml.Printer
import ScannerConfig.Toml.Table
import ScannerConfig.Toml.Text
import ScannerConfig.Toml.Value
import ScannerConfig.Transfer.DataUri
import ScannerConfig.Transfer.Export
import ScannerConfig.Transfer.Import
import ScannerConfig.Transfer.Session
import ScannerConfig.Transfer.Upload
import ScannerConfig.Yaml.Printer
import ScannerConfig.Yaml.Scalar
import ScannerConfig.Proofs.NumberText
import ScannerConfig.Proofs.StringText
import ScannerConfig.Proofs.Nesting
import ScannerConfig.Proofs.Overlay
import ScannerConfig.Proofs.NormalizedNesting
import ScannerConfig.Proofs.JsonText
import ScannerConfig.Proofs.DataUri
import ScannerConfig.Proofs.Export
import ScannerConfig.Proofs.Tally
import ScannerConfig.Proofs.RecordSchema
import ScannerConfig.Proofs.RecordView
import ScannerConfig.Proofs.TypedRecords
import ScannerConfig.Proofs.TypedOptions
import ScannerConfig.Proofs.TypedView
import ScannerConfig.Proofs.FileReplacement
import ScannerConfig.Proofs.SavedRuns
import ScannerConfig.Proofs.OptionOrder
import ScannerConfig.Proofs.SettledText
import ScannerConfig.Proofs.TypedCanonical
import ScannerConfig.Proofs.PathText
import ScannerConfig.Proofs.MadeFolders
import ScannerConfig.Proofs.SafeSaves
import ScannerConfig.Proofs.CommandRuns
import ScannerConfig.Proofs.ImportRuns
import ScannerConfig.Proofs.Steps
import ScannerConfig.Proofs.TomlText
import ScannerConfig.Proofs.TomlLines
import ScannerConfig.Proofs.PreferenceLayers
import ScannerConfig.Proofs.EnvironmentLayers
import ScannerConfig.Proofs.SavedPreferences
import ScannerConfig.Proofs.ProfileRuns
import ScannerConfig.Proofs.EmptyReport
import ScannerConfig.Proofs.SharedRendering
import ScannerConfig.Proofs.StageOrder
import ScannerConfig.Proofs.StandingFolders
import ScannerConfig.Proofs.RepeatedSaves
import ScannerConfig.Proofs.Requests
import ScannerConfig.Proofs.SessionRuns
import ScannerConfig.Proofs.RefusedSaves
import ScannerConfig.Proofs.RootedDisks
import ScannerConfig.Proofs.ProfileHistory
import ScannerConfig.Proofs.ExportRuns
import ScannerConfig.Proofs.MalformedData
import ScannerConfig.Proofs.IdentifierTable
import ScannerConfig.Proofs.MergedOptions
import ScannerConfig.Proofs.LabelComparison
import ScannerConfig.Proofs.StableSorting
import ScannerConfig.Proofs.AlphabeticalOrder
import ScannerConfig.Proofs.WrappedUploads
import ScannerConfig.Proofs.WellTyped
import ScannerConfig.Proofs.AcceptedDocuments
import ScannerConfig.Proofs.CalendarDates
import ScannerConfig.Proofs.DatedNames
import ScannerConfig.Proofs.FailedSaves
import ScannerConfig.Proofs.BrokenWrites
import ScannerConfig.Proofs.ReloadedPreferences
import ScannerConfig.Proofs.OverriddenDefault
