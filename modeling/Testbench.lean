import Testbench.Files.Tree
import Testbench.Line.Quoting
import Testbench.Main
import Testbench.Proofs.Placeholder.Closing
import Testbench.Proofs.Placeholder.Evaluation
import Testbench.Proofs.Placeholder.Completeness
import Testbench.Proofs.Placeholder.Calls
import Testbench.Proofs.Placeholder.Scan
import Testbench.Proofs.Json.Grammar
import Testbench.Proofs.Line.Layout
import Testbench.Proofs.Json.Place
import Testbench.Proofs.Json.Token
import Testbench.Proofs.Json.Complete
import Testbench.Proofs.Json.Normal
import Testbench.Proofs.Json.Unescape
import Testbench.Proofs.Json.Modes
import Testbench.Proofs.Json.Path
import Testbench.Proofs.Json.Override
import Testbench.Proofs.Json.Subdocument
import Testbench.Proofs.Json.Prefix
import Testbench.Proofs.Json.Arena
import Testbench.Proofs.Glob.Matching
import Testbench.Proofs.Interpreter.Actions
import Testbench.Proofs.Interpreter.Verbs
import Testbench.Proofs.Interpreter.Branch
import Testbench.Proofs.Interpreter.Refusal
import Testbench.Proofs.Interpreter.Course
import Testbench.Proofs.Interpreter.Remarks
import Testbench.Proofs.Interpreter.Frames
import Testbench.Proofs.Interpreter.Discipline
import Testbench.Proofs.Interpreter.Callers
import Testbench.Proofs.Interpreter.Invariant
import Testbench.Proofs.Interpreter.Books
import Testbench.Proofs.Session.Verdict
import Testbench.Proofs.Events.Delivery
import Testbench.Proofs.Interpreter.Insertion
import Testbench.Proofs.Interpreter.Labels
import Testbench.Proofs.Interpreter.Lockstep
import Testbench.Proofs.Integer.Written
import Testbench.Proofs.Glob.Relaxation
import Testbench.Proofs.Json.Search
import Testbench.Proofs.Json.Projection
import Testbench.Proofs.Condition.Order
import Testbench.Proofs.Interpreter.Registration
import Testbench.Proofs.Text.Lines
import Testbench.Proofs.Config.Isolation
import Testbench.Proofs.Markup.Legal
import Testbench.Proofs.Json.Legality
import Testbench.Proofs.Options.Written
