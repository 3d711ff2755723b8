import LinkProbe.Main
import LinkProbe.Proofs.Address.Canonical
import LinkProbe.Proofs.CommandLine.Runs
import LinkProbe.Proofs.CommandLine.Words
import LinkProbe.Proofs.Config.Stacking
import LinkProbe.Proofs.Connection.Life
import LinkProbe.Proofs.Connection.Shutdown
import LinkProbe.Proofs.Decoder.Rounds
import LinkProbe.Proofs.Receiver.Resumed
import LinkProbe.Proofs.Report.Scrape
import LinkProbe.Proofs.Sender.Outcome
import LinkProbe.Proofs.Session.Agreement
import LinkProbe.Proofs.Session.Closing
import LinkProbe.Proofs.Session.Deadline
import LinkProbe.Proofs.Session.Endings
import LinkProbe.Proofs.Session.Steps
import LinkProbe.Proofs.Session.Target
import LinkProbe.Proofs.Session.Truncation
