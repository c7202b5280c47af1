import CallGate.Server
import CallGate.Script
import CallGate.Telemetry
import CallGate.Proofs.Admission
import CallGate.Proofs.TokenReuse
import CallGate.Proofs.OpenAccess
import CallGate.Proofs.Accounting
import CallGate.Proofs.Ending
import CallGate.Proofs.EndToEnd
import CallGate.Proofs.Wrapping
import CallGate.Proofs.Trailers
import CallGate.Proofs.Refusal
import CallGate.Proofs.Agreement
import CallGate.Proofs.FirstValue
import CallGate.Proofs.Discretion
import CallGate.Proofs.HandshakeCall
import CallGate.Proofs.Conversation
import CallGate.Proofs.Passwords
import CallGate.Proofs.HookFrame
import CallGate.Proofs.BinaryTokens
import CallGate.Proofs.BareWord
import CallGate.Proofs.Bindings
import CallGate.Proofs.PayloadView
import CallGate.Proofs.SampleLines
import CallGate.Proofs.Series
import CallGate.Proofs.Unguarded
import CallGate.Proofs.Settings
import CallGate.Proofs.HandshakeFields
