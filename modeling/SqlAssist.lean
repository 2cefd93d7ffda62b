import SqlAssist.CommandLine.Run
import SqlAssist.Completion.Engine
import SqlAssist.Main
import SqlAssist.Proofs.Completion.AliasColumns
import SqlAssist.Store.CatalogFile
import SqlAssist.Proofs.Sql.Literal
import SqlAssist.Proofs.Completion.Isolation
import SqlAssist.Proofs.Document.CursorWord
import SqlAssist.Proofs.Sql.Matching
import SqlAssist.Proofs.Sql.Lexeme
import SqlAssist.Proofs.Completion.OpenComment
import SqlAssist.Proofs.Completion.LiteralContents
import SqlAssist.Proofs.Sql.Quoted
import SqlAssist.Proofs.Completion.Grounding
import SqlAssist.Proofs.Completion.CommentContents
import SqlAssist.Proofs.Completion.LetterCase
import SqlAssist.Proofs.Store.SavedCatalog
import SqlAssist.Proofs.Completion.Reachable
import SqlAssist.Proofs.Store.CatalogLoading
import SqlAssist.Proofs.Store.SettingsRun
import SqlAssist.Proofs.Document.Lint
import SqlAssist.Proofs.Completion.Snapshots
import SqlAssist.Proofs.Sql.KeywordRuns
import SqlAssist.Proofs.Sql.ClauseSearch
import SqlAssist.Proofs.Sql.InsertTarget
import SqlAssist.Proofs.Sql.LevelPartition
import SqlAssist.Proofs.Sql.LevelEnd
import SqlAssist.Proofs.Sql.SpaceRuns
import SqlAssist.Proofs.Sql.TableQuery
import SqlAssist.Proofs.Sql.ReservedWords
import SqlAssist.Proofs.Sql.ParenSpacing
import SqlAssist.Proofs.Sql.LiteralSpans
import SqlAssist.Proofs.Sql.StatementBounds
import SqlAssist.Proofs.Sql.CommentScan
import SqlAssist.Proofs.Sql.LastClause
import SqlAssist.Proofs.Completion.OfferedVariables
import SqlAssist.Proofs.Document.TokenPlaces
import SqlAssist.Proofs.Document.RelativeTokens
import SqlAssist.Proofs.Catalog.StrictReading
import SqlAssist.Proofs.Store.AtomicSave
import SqlAssist.Proofs.Catalog.LastTable
import SqlAssist.Proofs.Catalog.VariableScopes
import SqlAssist.Proofs.Completion.ActiveColumns
import SqlAssist.Proofs.Sql.TargetList
import SqlAssist.Proofs.Completion.ColumnSnippets
