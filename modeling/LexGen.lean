import LexGen.Describe
import LexGen.Engine.Report
import LexGen.Graph
import LexGen.Proofs.Command.ReadBack
import LexGen.Proofs.Engine.Declared
import LexGen.Proofs.Engine.Restore
import LexGen.Proofs.Fragment.Cycle
import LexGen.Proofs.Fragment.Expansion
import LexGen.Proofs.ScanState.Accounted
import LexGen.Proofs.ScanState.LineCount
import LexGen.Proofs.Scanner.Backtracking
import LexGen.Proofs.Scanner.EndOfInput
import LexGen.Proofs.Scanner.Progress
import LexGen.Scanner.Stream
import LexGen.Source
import LexGen.Proofs.Scanner.FirstMatch
import LexGen.Proofs.Scanner.Termination
import LexGen.Proofs.ScanState.Cursor
import LexGen.Proofs.Scanner.Executed
import LexGen.Proofs.Scanner.PutBack
import LexGen.Proofs.ScanState.Ranged
import LexGen.Proofs.Engine.Renamed
import LexGen.Proofs.Command.Enclosed
import LexGen.Proofs.Source.Decoded
import LexGen.Proofs.Engine.Rebuilt
import LexGen.Proofs.Condition
import LexGen.Proofs.Engine.Selection
import LexGen.Proofs.Scanner.Selected
import LexGen.Proofs.ScanState.Shortened
import LexGen.Proofs.Source.Wrapped
import LexGen.Proofs.ScanState.Reachable
import LexGen.Proofs.ScanState.Parts
import LexGen.Proofs.Scanner.Unrecognized
import LexGen.Proofs.Engine.Dangling
import LexGen.Proofs.Fragment.Fixed
import LexGen.Proofs.Scanner.CatchAll
import LexGen.Proofs.Source.Names
import LexGen.Proofs.ScanState.Excerpt
import LexGen.Proofs.Text.Breaks
