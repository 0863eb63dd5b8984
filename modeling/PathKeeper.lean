import PathKeeper.Main
import PathKeeper.Proofs.Bridge.ReadBack
import PathKeeper.Proofs.Coordinator.Custody
import PathKeeper.Proofs.Coordinator.Erasure
import PathKeeper.Proofs.Coordinator.Mirror
import PathKeeper.Proofs.Coordinator.Notices
import PathKeeper.Proofs.Coordinator.Policies
import PathKeeper.Proofs.Coordinator.Told
import PathKeeper.Proofs.Coordinator.Verdicts
import PathKeeper.Proofs.Daemon.Modes
import PathKeeper.Proofs.Daemon.Tandem
import PathKeeper.Proofs.Sessions
import PathKeeper.Proofs.Source.Chunks
import PathKeeper.Proofs.Source.ReadBack
import PathKeeper.Proofs.Source.Unreadable
import PathKeeper.Proofs.Coordinator.Redelivery
import PathKeeper.Proofs.Bridge.Limits
import PathKeeper.Proofs.Coordinator.Poisoning
import PathKeeper.Proofs.Json.Number
import PathKeeper.Proofs.Json.Record
import PathKeeper.Proofs.Settings
import PathKeeper.Proofs.Coordinator.Start
import PathKeeper.Proofs.Session.Sharing
import PathKeeper.Proofs.Daemon.Requirements
import PathKeeper.Proofs.Source.Extension
