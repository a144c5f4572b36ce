import TemplateEngine.ObjectModel
import TemplateEngine.Search
import TemplateEngine.ErrorKind
import TemplateEngine.Render.Unit
import TemplateEngine.Settings.Validation
import TemplateEngine.Log.Logger
import TemplateEngine.Proofs.Folding
import TemplateEngine.Proofs.Scopes
import TemplateEngine.Proofs.Outcome
import TemplateEngine.Proofs.ScopeCells
import TemplateEngine.Proofs.BindingsStep
import TemplateEngine.Proofs.BindingsRun
import TemplateEngine.Proofs.Hierarchy
import TemplateEngine.Proofs.Exposure
import TemplateEngine.Proofs.Indexing
import TemplateEngine.Proofs.Keys
import TemplateEngine.Proofs.Optionals
import TemplateEngine.Proofs.Veils
import TemplateEngine.Proofs.Spares
import TemplateEngine.Proofs.Spares.Elements
import TemplateEngine.Proofs.Spares.Entries
import TemplateEngine.Proofs.SortedElements
import TemplateEngine.Proofs.Spares.Members
import TemplateEngine.Proofs.Spares.Construction
import TemplateEngine.Proofs.Spares.Making
import TemplateEngine.Proofs.Spares.Attributes
import TemplateEngine.Proofs.Spares.Coercion
import TemplateEngine.Proofs.Spares.Resolution
import TemplateEngine.Proofs.UnitScope
import TemplateEngine.Proofs.Settled
import TemplateEngine.Proofs.Spares.Calls
import TemplateEngine.Proofs.Hiding
import TemplateEngine.Proofs.Agreement
import TemplateEngine.Proofs.Confinement
import TemplateEngine.Proofs.Isolation
import TemplateEngine.Proofs.Owners
import TemplateEngine.Proofs.Ownership
import TemplateEngine.Proofs.Growth
import TemplateEngine.Proofs.Depth
import TemplateEngine.Proofs.Containers
import TemplateEngine.Proofs.Reading
import TemplateEngine.Proofs.Changes
import TemplateEngine.Proofs.Failures
import TemplateEngine.Proofs.Magnitude
import TemplateEngine.Proofs.NumberGrammar
import TemplateEngine.Proofs.NumberValues
import TemplateEngine.Proofs.LooseNumbers
import TemplateEngine.Proofs.Arguments
import TemplateEngine.Proofs.Records
import TemplateEngine.Proofs.Transparency
import TemplateEngine.Proofs.WrappedRecords
import TemplateEngine.Proofs.Silence
import TemplateEngine.Proofs.Silence.Calls
import TemplateEngine.Proofs.Containment
import TemplateEngine.Proofs.Layers
import TemplateEngine.Proofs.SettingsText
import TemplateEngine.Proofs.SettingsNames
import TemplateEngine.Proofs.Configuration
import TemplateEngine.Proofs.Paths
import TemplateEngine.Proofs.Layering
import TemplateEngine.Proofs.Variables
import TemplateEngine.Proofs.Gregorian
import TemplateEngine.Proofs.Instants
import TemplateEngine.Proofs.Encoding
import TemplateEngine.Proofs.TomlScalars
import TemplateEngine.Proofs.TomlDocuments
import TemplateEngine.Proofs.TomlLimits
import TemplateEngine.Proofs.SettingsFiles
import TemplateEngine.Proofs.ReportedPlaces
import TemplateEngine.Proofs.TomlFuel
import TemplateEngine.Proofs.MergedValues
import TemplateEngine.Proofs.WrittenTables
import TemplateEngine.Proofs.JsonGrammar
import TemplateEngine.Proofs.JsonAcceptance
import TemplateEngine.Proofs.EnvironmentTexts
import TemplateEngine.Proofs.TomlTrees
import TemplateEngine.Proofs.LogFiles
import TemplateEngine.Proofs.IntegerSpellings
import TemplateEngine.Proofs.NumberLimits
import TemplateEngine.Proofs.Truth
import TemplateEngine.Proofs.Refusals
import TemplateEngine.Proofs.Gathering
import TemplateEngine.Proofs.Emptiness
import TemplateEngine.Proofs.ElementsAt
import TemplateEngine.Proofs.Nameless
import TemplateEngine.Proofs.Parts
import TemplateEngine.Proofs.Leaves
import TemplateEngine.Proofs.TextTrees
import TemplateEngine.Proofs.Accessors
import TemplateEngine.Proofs.SequenceViews
import TemplateEngine.Proofs.EmptyNames
import TemplateEngine.Proofs.Collections
import TemplateEngine.Proofs.Storage
import TemplateEngine.Proofs.ScopeCopies
import TemplateEngine.Proofs.RecordExpansions
import TemplateEngine.Proofs.UnitRecords
import TemplateEngine.Proofs.Rejections
import TemplateEngine.Proofs.Bodies
import TemplateEngine.Proofs.Plays
import TemplateEngine.Proofs.Scripts
import TemplateEngine.Proofs.AbortedCalls
