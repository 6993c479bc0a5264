import PolicyServer.Config.Report
import PolicyServer.Workspace.Report
import PolicyServer.Main
import PolicyServer.Proofs.Workspace.Publication
import PolicyServer.Proofs.Rpc.Notices
import PolicyServer.Proofs.Session.Account
import PolicyServer.Proofs.Rpc.Truncation
import PolicyServer.Proofs.Session.Stream
import PolicyServer.Proofs.Rpc.Decoding
import PolicyServer.Proofs.Workspace.Handling
import PolicyServer.Proofs.Workspace.Succession
import PolicyServer.Proofs.Session.Standstill
import PolicyServer.Proofs.Workspace.LastVerdict
import PolicyServer.Proofs.Progress.Account
import PolicyServer.Proofs.Progress.ClientLog
import PolicyServer.Proofs.Source.Declarations
import PolicyServer.Proofs.Rpc.Cancellation
import PolicyServer.Proofs.Workspace.Slots
import PolicyServer.Proofs.Session.Stages
import PolicyServer.Proofs.EventLog.History
import PolicyServer.Proofs.EventLog.Following
import PolicyServer.Proofs.Protocol.Canonical
import PolicyServer.Proofs.Fix.RoundTrip
import PolicyServer.Proofs.Document.Paths
import PolicyServer.Proofs.Config.Fallback
import PolicyServer.Proofs.Excerpts
