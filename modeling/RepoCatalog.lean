import RepoCatalog.Main
import RepoCatalog.Process.Machine
import RepoCatalog.Proofs.Address.Proxy
import RepoCatalog.Proofs.CommandLine.Numbers
import RepoCatalog.Proofs.CommandLine.Settled
import RepoCatalog.Proofs.Journal.Session
import RepoCatalog.Proofs.Locate.Launch
import RepoCatalog.Proofs.Pipeline.Archive
import RepoCatalog.Proofs.Pipeline.Atomicity
import RepoCatalog.Proofs.Pipeline.Failures
import RepoCatalog.Proofs.Pipeline.Handover
import RepoCatalog.Proofs.Pipeline.Invariance
import RepoCatalog.Proofs.Pipeline.Secrecy
import RepoCatalog.Proofs.Pipeline.Selection
import RepoCatalog.Proofs.Progress
import RepoCatalog.Proofs.Selection.Algebra
import RepoCatalog.Proofs.Selection.Ignored
import RepoCatalog.Proofs.Specification.RoundTrip
import RepoCatalog.Proofs.Specification.Verification
