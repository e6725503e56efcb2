import Rendezvous.Main
import Rendezvous.MockRole
import Rendezvous.Proofs.CommandLine.Grammar
import Rendezvous.Proofs.CommandLine.Quoting
import Rendezvous.Proofs.CommandLine.Slices
import Rendezvous.Proofs.Console.Endings
import Rendezvous.Proofs.Console.Planning
import Rendezvous.Proofs.Console.Scanning
import Rendezvous.Proofs.Console.Serial
import Rendezvous.Proofs.Deadlines
import Rendezvous.Proofs.Handshake.Markers
import Rendezvous.Proofs.Handshake.Silence
import Rendezvous.Proofs.Output.Chunks
import Rendezvous.Proofs.Output.Consulted
import Rendezvous.Proofs.Output.Kept
import Rendezvous.Proofs.Output.Lines
import Rendezvous.Proofs.Output.Observations
import Rendezvous.Proofs.Output.Relayed
import Rendezvous.Proofs.Output.Signatures
import Rendezvous.Proofs.Report.Results
import Rendezvous.Proofs.Run.Phases
import Rendezvous.Proofs.Run.Tails
import Rendezvous.Proofs.Run.Tolerance
import Rendezvous.Proofs.Run.Verdict
import Rendezvous.Proofs.Scenario.Acceptance
import Rendezvous.Proofs.Scenario.Overriding
import Rendezvous.Proofs.Session.Handling
import Rendezvous.Proofs.Session.Interleavings
import Rendezvous.Proofs.Session.Sweeps
import Rendezvous.Proofs.Settings.Keys
