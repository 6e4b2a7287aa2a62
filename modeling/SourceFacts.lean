import SourceFacts.Main
import SourceFacts.Settings
import SourceFacts.Proofs.Order
import SourceFacts.Proofs.Dictionary
import SourceFacts.Proofs.Syntax.Path
import SourceFacts.Proofs.File.Parts
import SourceFacts.Proofs.Call.Site
import SourceFacts.Proofs.Call.Surroundings
import SourceFacts.Proofs.Call.Preorder
import SourceFacts.Proofs.Symbol.Position
import SourceFacts.Proofs.Call.Scope
import SourceFacts.Proofs.Call.Resolution
import SourceFacts.Proofs.Import.Binding
import SourceFacts.Proofs.File.References
import SourceFacts.Proofs.Call.LocalImport
import SourceFacts.Proofs.File.Diagnostics
import SourceFacts.Proofs.File.Isolation
import SourceFacts.Proofs.Report.Merge
import SourceFacts.Proofs.Project.Pool
import SourceFacts.Proofs.Project.Accounting
import SourceFacts.Proofs.Syntax.Comment
import SourceFacts.Proofs.File.Comment
import SourceFacts.Proofs.Call.Priority
import SourceFacts.Proofs.Symbol.Registry
import SourceFacts.Proofs.Symbol.Header
import SourceFacts.Proofs.Syntax.Outline
import SourceFacts.Proofs.Syntax.Replace
import SourceFacts.Proofs.Symbol.Replace
import SourceFacts.Proofs.Call.Replace
import SourceFacts.Proofs.File.Replace
import SourceFacts.Proofs.File.Conditional
import SourceFacts.Proofs.Call.NestedWith
import SourceFacts.Proofs.File.NestedWith
import SourceFacts.Proofs.DepthFirst
import SourceFacts.Proofs.Symbol.Search
import SourceFacts.Proofs.Report.Reference
import SourceFacts.Proofs.Call.BareName
import SourceFacts.Proofs.Call.SelfCall
import SourceFacts.Proofs.Symbol.Statement
import SourceFacts.Proofs.Import.Owner
import SourceFacts.Proofs.Import.LastWins
import SourceFacts.Proofs.Symbol.Member
import SourceFacts.Proofs.File.Protocol
import SourceFacts.Proofs.Syntax.Span
import SourceFacts.Proofs.File.SourceOrder
import SourceFacts.Proofs.Endpoint.KeywordPath
import SourceFacts.Proofs.File.Implementer
import SourceFacts.Proofs.Syntax.StringText
import SourceFacts.Proofs.Client.Sum
import SourceFacts.Proofs.Client.Request
import SourceFacts.Proofs.Client.Parentheses
import SourceFacts.Proofs.Client.Spelling
import SourceFacts.Proofs.Endpoint.Framework
import SourceFacts.Proofs.Project.ShownPath
import SourceFacts.Proofs.File.ErrorRegion
import SourceFacts.Proofs.Number.Numeral
import SourceFacts.Proofs.Report.View
import SourceFacts.Proofs.Text.Utf8
import SourceFacts.Proofs.Syntax.Literal
import SourceFacts.Proofs.Symbol.Scan
import SourceFacts.Proofs.Call.ScopeLoop
import SourceFacts.Proofs.Call.LoopEnd
import SourceFacts.Proofs.Call.LoopedWalk
import SourceFacts.Proofs.Syntax.Walk
import SourceFacts.Proofs.Syntax.QuotedText
