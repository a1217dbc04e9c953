import LineShell.Main
import LineShell.Proofs.Line.Positions
import LineShell.Proofs.Line.Reading
import LineShell.Proofs.Line.Sentences
import LineShell.Proofs.Line.Spelling
import LineShell.Proofs.Pipeline.DataFlow
import LineShell.Proofs.Pipeline.Nameless
import LineShell.Proofs.Pipeline.Onset
import LineShell.Proofs.Pipeline.Ownership
import LineShell.Proofs.Shell.Completions
import LineShell.Proofs.Shell.Deposits
import LineShell.Proofs.Shell.Dispatch
import LineShell.Proofs.Shell.Limits
import LineShell.Proofs.Shell.Listings
import LineShell.Proofs.Shell.Loops
import LineShell.Proofs.Shell.Output
import LineShell.Proofs.Shell.Refusal
import LineShell.Proofs.Shell.Sittings
import LineShell.Proofs.Shell.Transcript
import LineShell.Proofs.Shell.Trials
import LineShell.Proofs.Shell.Verdicts
