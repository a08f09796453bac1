import SqlLexer.Main
import SqlLexer.Token.Edit
import SqlLexer.Proofs.Pattern.Basic
import SqlLexer.Proofs.Pattern.Lexeme
import SqlLexer.Proofs.Segmentation
import SqlLexer.Proofs.MaximalMunch
import SqlLexer.Proofs.Classification
import SqlLexer.Proofs.Conservation
import SqlLexer.Proofs.QuoteAutomaton
import SqlLexer.Proofs.Concatenation
import SqlLexer.Proofs.LexemeKind
import SqlLexer.Proofs.Spacing
import SqlLexer.Proofs.Fusion
import SqlLexer.Proofs.Retokenization
import SqlLexer.Proofs.StandardTokens
import SqlLexer.Proofs.Stream
import SqlLexer.Proofs.Trimming
import SqlLexer.Proofs.Course
import SqlLexer.Proofs.FrontEnds
import SqlLexer.Proofs.PlainOutput
import SqlLexer.Proofs.Log
import SqlLexer.Proofs.Lockstep
import SqlLexer.Proofs.Facts
import SqlLexer.Proofs.Relevance
import SqlLexer.Proofs.Grouping
import SqlLexer.Proofs.FoldedToken
import SqlLexer.Proofs.Precedence
import SqlLexer.Proofs.Surroundings
import SqlLexer.Proofs.DebugOutput
import SqlLexer.Proofs.Pattern.Committed
import SqlLexer.Proofs.Pattern.Expression
import SqlLexer.Proofs.Shapes
import SqlLexer.Proofs.EditHistory
