import DmlOutline.Command
import DmlOutline.Command.Arguments
import DmlOutline.Command.Run
import DmlOutline.Command.Switch
import DmlOutline.ConfigFile
import DmlOutline.Configuration
import DmlOutline.Console
import DmlOutline.Decoder
import DmlOutline.Device
import DmlOutline.Disk
import DmlOutline.Encoding
import DmlOutline.Encoding.EucKr
import DmlOutline.Encoding.KsX1001
import DmlOutline.Encoding.SingleByte
import DmlOutline.Encoding.Utf16
import DmlOutline.Error
import DmlOutline.Event
import DmlOutline.FileAccess
import DmlOutline.FileName
import DmlOutline.FileTree
import DmlOutline.FrontEnd
import DmlOutline.Json
import DmlOutline.Json.Member
import DmlOutline.Json.Parser
import DmlOutline.Json.Printer
import DmlOutline.Main
import DmlOutline.Outline
import DmlOutline.Outline.Json
import DmlOutline.Outline.Render
import DmlOutline.Outliner
import DmlOutline.Path
import DmlOutline.ProgramUnit
import DmlOutline.ProgramUnit.Header
import DmlOutline.Proofs.AddedSources
import DmlOutline.Proofs.AlikeScopes
import DmlOutline.Proofs.AlikeTokens
import DmlOutline.Proofs.BatchTurns
import DmlOutline.Proofs.ByteOrder
import DmlOutline.Proofs.CaselessNames
import DmlOutline.Proofs.ClauseKeywords
import DmlOutline.Proofs.ConfigFiles
import DmlOutline.Proofs.ConfigText
import DmlOutline.Proofs.DeclaredKinds
import DmlOutline.Proofs.DeclaredNames
import DmlOutline.Proofs.DeclaringSources
import DmlOutline.Proofs.DeviceRuns
import DmlOutline.Proofs.DirectoriesMade
import DmlOutline.Proofs.DirectoriesRefused
import DmlOutline.Proofs.DiskFiles
import DmlOutline.Proofs.DiskRuns
import DmlOutline.Proofs.DistinctPlaces
import DmlOutline.Proofs.DraftLinks
import DmlOutline.Proofs.EnclosedQueries
import DmlOutline.Proofs.FallbackChains
import DmlOutline.Proofs.FileTreePut
import DmlOutline.Proofs.FirstUploads
import DmlOutline.Proofs.HeaderGrammar
import DmlOutline.Proofs.HeaderParts
import DmlOutline.Proofs.ImpliedSemicolons
import DmlOutline.Proofs.IsolatedScopes
import DmlOutline.Proofs.JsonRoundTrip
import DmlOutline.Proofs.KeptFiles
import DmlOutline.Proofs.KeptSources
import DmlOutline.Proofs.Layout
import DmlOutline.Proofs.LineOrder
import DmlOutline.Proofs.LocatedSources
import DmlOutline.Proofs.NewFiles
import DmlOutline.Proofs.OpenLevels
import DmlOutline.Proofs.OpenStatements
import DmlOutline.Proofs.OutlineCache
import DmlOutline.Proofs.OutlineFrame
import DmlOutline.Proofs.OutlineText
import DmlOutline.Proofs.OutlinedAgain
import DmlOutline.Proofs.OutlinerChanges
import DmlOutline.Proofs.ParenthesisGroups
import DmlOutline.Proofs.PathNames
import DmlOutline.Proofs.PavedWays
import DmlOutline.Proofs.PlainSources
import DmlOutline.Proofs.ReachedSources
import DmlOutline.Proofs.RecordText
import DmlOutline.Proofs.RefusedEvents
import DmlOutline.Proofs.Runs
import DmlOutline.Proofs.SameTrees
import DmlOutline.Proofs.ScanBoundaries
import DmlOutline.Proofs.ScanComplete
import DmlOutline.Proofs.ScanRuns
import DmlOutline.Proofs.ScopeFiles
import DmlOutline.Proofs.ScopePlaces
import DmlOutline.Proofs.ScopeReads
import DmlOutline.Proofs.SharedOutlines
import DmlOutline.Proofs.ShownOutlines
import DmlOutline.Proofs.StoreReads
import DmlOutline.Proofs.StoreWrites
import DmlOutline.Proofs.StoredOutlines
import DmlOutline.Proofs.TokenLines
import DmlOutline.Proofs.TokenParts
import DmlOutline.Proofs.TomlTexts
import DmlOutline.Proofs.TreeOfEvents
import DmlOutline.Proofs.TreeTraversals
import DmlOutline.Proofs.WaysBelow
import DmlOutline.Proofs.WellNested
import DmlOutline.Report
import DmlOutline.Scan
import DmlOutline.Scope
import DmlOutline.SourceRecord
import DmlOutline.Statement
import DmlOutline.Store
import DmlOutline.Table
import DmlOutline.Text.Alphabetic
import DmlOutline.Text.CaseRuns
import DmlOutline.Text.CodeRanges
import DmlOutline.Text.Digits
import DmlOutline.Text.LowerCase
import DmlOutline.Text.Numeric
import DmlOutline.Text.Quoted
import DmlOutline.Text.Space
import DmlOutline.Text.Split
import DmlOutline.Text.UpperCase
import DmlOutline.Text.Width
import DmlOutline.Text.WordChar
import DmlOutline.Theme
import DmlOutline.Token
import DmlOutline.Token.Lexeme
import DmlOutline.Token.Lexer
import DmlOutline.Token.Number
import DmlOutline.Token.Operator
import DmlOutline.Token.Quoted
import DmlOutline.Toml
import DmlOutline.Toml.Parser
import DmlOutline.Toml.Quoted
import DmlOutline.Toml.Scalar
import DmlOutline.Tree
import DmlOutline.Tree.Draft
