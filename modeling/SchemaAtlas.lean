import SchemaAtlas.Host.Memory
import SchemaAtlas.Main
import SchemaAtlas.Proofs.Command.ValidateRun
import SchemaAtlas.Proofs.Data.KeyPaths
import SchemaAtlas.Proofs.Docs.EntityDiagram
import SchemaAtlas.Proofs.Docs.PageLinks
import SchemaAtlas.Proofs.Docs.TableCells
import SchemaAtlas.Proofs.Lint.CompletedRelations
import SchemaAtlas.Proofs.Lint.IndexSuggestion
import SchemaAtlas.Proofs.Lint.MissingIndexes
import SchemaAtlas.Proofs.Lint.Registration
import SchemaAtlas.Proofs.Lint.RelationIntegrity
import SchemaAtlas.Proofs.Lint.Reordering
import SchemaAtlas.Proofs.Lint.RuleSelection
import SchemaAtlas.Proofs.Log.Written
import SchemaAtlas.Proofs.Overview.IndexCounts
import SchemaAtlas.Proofs.Overview.ModelLookup
import SchemaAtlas.Proofs.Products
import SchemaAtlas.Proofs.Progress.TaskLines
import SchemaAtlas.Proofs.Schema.ArgumentEnds
import SchemaAtlas.Proofs.Schema.BlockDepth
import SchemaAtlas.Proofs.Schema.CommentCut
import SchemaAtlas.Proofs.Schema.Concatenation
import SchemaAtlas.Proofs.Schema.EnumerationNames
import SchemaAtlas.Proofs.Schema.IndexLine
import SchemaAtlas.Proofs.Schema.LineMargins
import SchemaAtlas.Proofs.Schema.ListedFields
import SchemaAtlas.Proofs.Schema.LiteralExchange
import SchemaAtlas.Proofs.Schema.ModelBody
import SchemaAtlas.Proofs.Schema.Positions
import SchemaAtlas.Proofs.Schema.SourceItems
import SchemaAtlas.Proofs.Schema.WrittenField
import SchemaAtlas.Proofs.Settings.Faults
import SchemaAtlas.Proofs.Settings.Rereading
import SchemaAtlas.Proofs.Settings.WrittenFile
import SchemaAtlas.Proofs.Text.NameSummaries
import SchemaAtlas.Proofs.Text.ShortenedTexts
import SchemaAtlas.Proofs.Types.ExportedNames
import SchemaAtlas.Proofs.Types.ShapeMembers
