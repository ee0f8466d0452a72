import Triptych.Main
import Triptych.Regex.Ends
import Triptych.Proofs.Session.Editing
import Triptych.Proofs.Session.Cache
import Triptych.Proofs.Terminal.Panes
import Triptych.Proofs.Terminal.Source
import Triptych.Proofs.Block.Groups
import Triptych.Proofs.Regex.Reading
import Triptych.Proofs.Block.Split
import Triptych.Proofs.Block.Joining
import Triptych.Proofs.Block.Rendering
import Triptych.Proofs.Lexer.Forward
import Triptych.Proofs.Tokenizer.Lines
import Triptych.Proofs.Text.LineEnds
import Triptych.Proofs.Block.LineEnds
import Triptych.Proofs.Block.Segments
import Triptych.Proofs.Listing.Rows
import Triptych.Proofs.Block.Agreement
import Triptych.Proofs.Lexer.Classify
import Triptych.Proofs.Lexer.Alike
import Triptych.Proofs.Tokenizer.Runs
import Triptych.Proofs.Tokenizer.Independence
import Triptych.Proofs.Tokenizer.Blocks
import Triptych.Proofs.Cursor.Moves
import Triptych.Proofs.Session.Independence
import Triptych.Proofs.CommandLine.Outcome
import Triptych.Proofs.Language.Selection
import Triptych.Proofs.Language.Progress
import Triptych.Proofs.Language.Segments
import Triptych.Proofs.Language.MaximalRuns
import Triptych.Proofs.Language.Resuming
import Triptych.Proofs.Language.Openers
import Triptych.Proofs.Language.Literals
import Triptych.Proofs.Session.Marking
import Triptych.Proofs.Tokenizer.LineEnd
import Triptych.Proofs.Cursor.Operations
import Triptych.Proofs.Color.Names
import Triptych.Proofs.Settings.Entries
import Triptych.Proofs.Terminal.Badges
