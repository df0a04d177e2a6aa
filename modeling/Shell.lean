import Shell.Binding
import Shell.Builtins
import Shell.Bytes
import Shell.Command
import Shell.Command.Parse
import Shell.CommandLine
import Shell.Environment
import Shell.Evaluation
import Shell.FileTree
import Shell.FileTree.Edit
import Shell.FileTree.Image
import Shell.FileTree.Open
import Shell.FileTree.Standard
import Shell.FileTree.Walk
import Shell.Interactive
import Shell.Launch
import Shell.Launch.System
import Shell.Log
import Shell.Machine
import Shell.Main
import Shell.Path
import Shell.Plan
import Shell.Proofs.Accepting
import Shell.Proofs.Agreement
import Shell.Proofs.Appending
import Shell.Proofs.Arguments
import Shell.Proofs.Buffering
import Shell.Proofs.Connecting
import Shell.Proofs.Continuing
import Shell.Proofs.Cutting
import Shell.Proofs.Dealing
import Shell.Proofs.Delivering
import Shell.Proofs.Describing
import Shell.Proofs.Dispatching
import Shell.Proofs.Disturbing
import Shell.Proofs.Drawing
import Shell.Proofs.Echoing
import Shell.Proofs.Ending
import Shell.Proofs.Feeding
import Shell.Proofs.Fetching
import Shell.Proofs.Folding
import Shell.Proofs.Following
import Shell.Proofs.Framing
import Shell.Proofs.Homing
import Shell.Proofs.Immediate
import Shell.Proofs.InputLines
import Shell.Proofs.Interacting
import Shell.Proofs.Interleaving
import Shell.Proofs.Joining
import Shell.Proofs.Moving
import Shell.Proofs.Nesting
import Shell.Proofs.Noting
import Shell.Proofs.Opening
import Shell.Proofs.Outline
import Shell.Proofs.Overlooking
import Shell.Proofs.Owning
import Shell.Proofs.Placing
import Shell.Proofs.Preserving
import Shell.Proofs.Printing
import Shell.Proofs.Quoting
import Shell.Proofs.Reading
import Shell.Proofs.Redirecting
import Shell.Proofs.Refusing
import Shell.Proofs.Rejecting
import Shell.Proofs.Releasing
import Shell.Proofs.Reopening
import Shell.Proofs.Repeating
import Shell.Proofs.Reporting
import Shell.Proofs.Requests
import Shell.Proofs.Resolving
import Shell.Proofs.Running
import Shell.Proofs.Searching
import Shell.Proofs.Sending
import Shell.Proofs.Settling
import Shell.Proofs.Sourcing
import Shell.Proofs.Submitting
import Shell.Proofs.Thinning
import Shell.Proofs.Trimming
import Shell.Proofs.Warning
import Shell.Proofs.Writing
import Shell.RedirectKind
import Shell.Redirection
import Shell.Script.Grammar
import Shell.Script.Lexeme
import Shell.Script.Parse
import Shell.Script.Run
import Shell.Script.Runner
import Shell.Script.Utility
import Shell.Search
import Shell.Session
import Shell.Shown
import Shell.Stream
import Shell.SystemError
import Shell.Text.Blank
import Shell.Text.Fields
import Shell.Text.Grapheme
import Shell.Text.Integer
import Shell.Text.Property
import Shell.Text.Quoted
import Shell.Token
import Shell.Token.Scan
import Shell.Usage
import Shell.World
