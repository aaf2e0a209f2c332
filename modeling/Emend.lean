import Emend.Main
import Emend.Proofs.FileSystem
import Emend.Proofs.Path
import Emend.Proofs.Traversal
import Emend.Proofs.Text.Overlap
import Emend.Proofs.Text.Substitute
import Emend.Proofs.Text.Occurrence
import Emend.Proofs.Text.Independence
import Emend.Proofs.Text.Utf8
import Emend.Proofs.Text.Boundaries
import Emend.Proofs.Text.Positions
import Emend.Proofs.Text.Quoted
import Emend.Proofs.Pattern.Escaped
import Emend.Proofs.Pattern.Literal
import Emend.Proofs.Pattern.Threads
import Emend.Proofs.Pattern.Live
import Emend.Proofs.Pattern.Leftmost
import Emend.Proofs.Pattern.Assembled
import Emend.Proofs.Pattern.Matching
import Emend.Proofs.Pattern.Faithful
import Emend.Proofs.Pattern.Forms
import Emend.Proofs.Pattern.Groups
import Emend.Proofs.Pattern.Counted
import Emend.Proofs.Pattern.Template
import Emend.Proofs.Pattern.Scan
import Emend.Proofs.Pattern.Found
import Emend.Proofs.Pattern.Splice
import Emend.Proofs.Pattern.Unicode
import Emend.Proofs.Pattern.Spelled
import Emend.Proofs.Pattern.Aligned
import Emend.Proofs.Pattern.Characters
import Emend.Proofs.Yaml.Lines
import Emend.Proofs.Yaml.Blank
import Emend.Proofs.Yaml.Flow.Written
import Emend.Proofs.Yaml.Flow.Characters
import Emend.Proofs.Yaml.Flow.Tokens
import Emend.Proofs.Yaml.Flow.Scan
import Emend.Proofs.Yaml.Flow.Events
import Emend.Proofs.Yaml.Flow.Document
import Emend.Proofs.Config.Blank
import Emend.Proofs.Config.Written
import Emend.Proofs.Config.Steady
import Emend.Proofs.Config.Slot
import Emend.Proofs.Config.Reworded
import Emend.Proofs.Config.Alike
import Emend.Proofs.Rule
import Emend.Proofs.Program
import Emend.Proofs.Run.Visit
import Emend.Proofs.Run.Pass
import Emend.Proofs.Run.Outcome
import Emend.Proofs.Run.Interruption
import Emend.Proofs.Run.Settling
import Emend.Proofs.Run.Frame
import Emend.Proofs.Run.Rearrangement
import Emend.Proofs.Run.Planning
import Emend.Proofs.Run.Splitting
import Emend.Proofs.CommandLine.Location
import Emend.Proofs.CommandLine.Validation
import Emend.Proofs.CommandLine.Resolution
