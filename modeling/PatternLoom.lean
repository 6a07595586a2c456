import PatternLoom.Config.Environment
import PatternLoom.Config.File
import PatternLoom.Engine
import PatternLoom.Proofs.Cache.Recency
import PatternLoom.Proofs.Engine.CompositionSearch
import PatternLoom.Proofs.Engine.LiteralSearch
import PatternLoom.Proofs.Pattern.Numbering
import PatternLoom.Proofs.Pattern.PlanWalk
import PatternLoom.Proofs.Pattern.WalkBounds
import PatternLoom.Proofs.Pattern.WholeSpan
import PatternLoom.Proofs.Pattern.MatchOrder
import PatternLoom.Proofs.Pattern.SearchRounds
import PatternLoom.Proofs.Text.Bytes
import PatternLoom.Proofs.Engine.MatchSpans
import PatternLoom.Proofs.Engine.Agreement
import PatternLoom.Proofs.Engine.Replacement
import PatternLoom.Proofs.Text.Parts
import PatternLoom.Proofs.Engine.OptionalSearch
import PatternLoom.Proofs.Engine.WordSearch
import PatternLoom.Proofs.Engine.LookSearch
import PatternLoom.Proofs.Engine.ClassSearch
import PatternLoom.Proofs.Engine.Delimiting
import PatternLoom.Proofs.Builder.Supply
import PatternLoom.Proofs.Builder.Framing
import PatternLoom.Proofs.Cache.Identity
import PatternLoom.Proofs.Cache.Accounting
import PatternLoom.Proofs.Cache.Inclusion
import PatternLoom.Proofs.Config.RoundTrip
import PatternLoom.Proofs.Engine.BacktrackLimit
import PatternLoom.Proofs.Builder.Rewriting
import PatternLoom.Proofs.Engine.ItemSearch
import PatternLoom.Proofs.Engine.ModifierSearch
import PatternLoom.Proofs.Builder.Cutting
import PatternLoom.Proofs.Config.Expression
import PatternLoom.Proofs.Engine.CaptureGroups
import PatternLoom.Proofs.Text.EscapedForm
import PatternLoom.Proofs.Builder.ClassBody
