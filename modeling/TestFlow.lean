import TestFlow.Main
import TestFlow.Text.Utf8
import TestFlow.Proofs.Diagram.Run
import TestFlow.Proofs.Diagram.Chain
import TestFlow.Proofs.Diagram.Sharing
import TestFlow.Proofs.Diagram.LineReader
import TestFlow.Proofs.Diagram.Outline
import TestFlow.Proofs.Diagram.ReadBack
import TestFlow.Proofs.Diagram.Coarsening
import TestFlow.Proofs.Diagram.Isolation
import TestFlow.Proofs.Syntax.Subtree
import TestFlow.Proofs.Syntax.Traversal
import TestFlow.Proofs.Drawing
import TestFlow.Proofs.Placement
import TestFlow.Proofs.EdgeEnds
import TestFlow.Proofs.Comments
import TestFlow.Proofs.Diagram.Lifecycle
import TestFlow.Proofs.Diagram.Naming
import TestFlow.Proofs.Leaving
import TestFlow.Proofs.Outcome
import TestFlow.Proofs.Syntax.Kinship
import TestFlow.Proofs.Chaining
import TestFlow.Proofs.Unplaced
import TestFlow.Proofs.Assertion
import TestFlow.Proofs.PageSteps
import TestFlow.Proofs.FirstFault
import TestFlow.Proofs.Directories
import TestFlow.Proofs.DrawnFile
import TestFlow.Proofs.CommandLine.Markup
import TestFlow.Proofs.CommandLine.Outcome
import TestFlow.Proofs.Syntax.LiteralMeaning
import TestFlow.Proofs.Diagram.LineEnds
import TestFlow.Proofs.Marking
import TestFlow.Proofs.CommandLine.Leaks
