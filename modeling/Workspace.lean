/-
Workspace — projects of a workspace, their configuration, and who owns a file.
-/
import Workspace.Calendar
import Workspace.CommandLine
import Workspace.CommandLine.Lookups
import Workspace.CommandLine.Options
import Workspace.Config
import Workspace.ConfigFile
import Workspace.ContentFault
import Workspace.Decimal.Binary
import Workspace.Decimal.Float
import Workspace.Decimal.Shortest
import Workspace.Disk
import Workspace.EnvFile
import Workspace.Error
import Workspace.Failure
import Workspace.Issue
import Workspace.Json.Reader
import Workspace.Json.Writer
import Workspace.Lenient
import Workspace.Main
import Workspace.Ownership
import Workspace.Path
import Workspace.Project
import Workspace.Proofs.AddedProject
import Workspace.Proofs.BucketContent
import Workspace.Proofs.BucketOrder
import Workspace.Proofs.CallHistory
import Workspace.Proofs.CanonicalPath
import Workspace.Proofs.CommandAgreement
import Workspace.Proofs.CommandWords
import Workspace.Proofs.ConfigLookup
import Workspace.Proofs.Containment
import Workspace.Proofs.ContainmentOrder
import Workspace.Proofs.DecisiveCandidate
import Workspace.Proofs.DeepestOwner
import Workspace.Proofs.DepthOrder
import Workspace.Proofs.DocumentedShape
import Workspace.Proofs.EscapedMarkup
import Workspace.Proofs.ExportedConfig
import Workspace.Proofs.FlattenedLeaves
import Workspace.Proofs.ImplicitProject
import Workspace.Proofs.JsonFault
import Workspace.Proofs.JsonRoundTrip
import Workspace.Proofs.JsonString
import Workspace.Proofs.LoadFailure
import Workspace.Proofs.LoadedShape
import Workspace.Proofs.MarkupTags
import Workspace.Proofs.NearestFile
import Workspace.Proofs.NestedProjects
import Workspace.Proofs.NestingDepth
import Workspace.Proofs.OwnerEnding
import Workspace.Proofs.PathSpelling
import Workspace.Proofs.PathText
import Workspace.Proofs.ReducedSegments
import Workspace.Proofs.RepeatedRoots
import Workspace.Proofs.ReportedIssues
import Workspace.Proofs.ResolutionFailure
import Workspace.Proofs.ResolutionFixpoint
import Workspace.Proofs.ResolutionSearches
import Workspace.Proofs.ResolvedProject
import Workspace.Proofs.ResolvedTable
import Workspace.Proofs.RespelledSettings
import Workspace.Proofs.SearchChain
import Workspace.Proofs.SettingPrecedence
import Workspace.Proofs.SettledEnvironment
import Workspace.Proofs.SharedConfig
import Workspace.Proofs.ShownMarkup
import Workspace.Proofs.SpelledOut
import Workspace.Proofs.StyledMarkup
import Workspace.Proofs.TableRows
import Workspace.Proofs.WrappedLines
import Workspace.Proofs.WrittenConfig
import Workspace.Proofs.YamlFault
import Workspace.Proofs.YamlStop
import Workspace.Resolution
import Workspace.Search
import Workspace.ServerSettings
import Workspace.Session
import Workspace.Terminal.Emoji
import Workspace.Terminal.Line
import Workspace.Terminal.Literal
import Workspace.Terminal.Markup
import Workspace.Terminal.Style
import Workspace.Terminal.Table
import Workspace.Terminal.Wrap
import Workspace.Text.Base64
import Workspace.Text.Basic
import Workspace.Text.Blank
import Workspace.Text.Digit
import Workspace.Text.Lower
import Workspace.Text.Pieces
import Workspace.Text.Printable
import Workspace.Text.Quoted
import Workspace.Text.Utf8
import Workspace.Text.Width
import Workspace.Value
import Workspace.World
import Workspace.Yaml.Cursor
import Workspace.Yaml.Document
import Workspace.Yaml.Node
import Workspace.Yaml.Scalar
import Workspace.Yaml.ScalarText
import Workspace.Yaml.Source
import Workspace.Yaml.Tag
import Workspace.Yaml.Token
import Workspace.Yaml.Token.Stream
import Workspace.Yaml.Writer
