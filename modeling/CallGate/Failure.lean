import CallGate.Notice
import CallGate.Status

/-! Why authentication fails, and the status a client is told. Faults of the client's credentials
are told in full; faults of the server are logged and told without their cause. -/

namespace CallGate

inductive Failure where
  | peerClosed
  | transport (status : Status)
  | noCredentials
  | unsupportedScheme (name : String)
  | badEncoding (cause : Base64.Fault)
  | badBinaryToken
  | malformedCredentials
  | unsendableToken
  | misconfigured (reason : String)
  deriving DecidableEq, Repr

namespace Failure

def message : Failure → String
  | .peerClosed => "handshake stream closed by peer"
  | .transport status => "transport error: " ++ status.render
  | .noCredentials => "must authenticate first"
  | .unsupportedScheme name => "unsupported authorization scheme: " ++ name
  | .badEncoding cause => "invalid basic auth encoding: " ++ cause.message
  | .badBinaryToken => "invalid binary auth token"
  | .malformedCredentials => "malformed credentials"
  | .unsendableToken => "issued token cannot be sent as metadata"
  | .misconfigured reason => "configuration error: " ++ reason

/-- The text of the failure underneath, if there is one. -/
def cause? : Failure → Option String
  | .transport status => some status.render
  | .badEncoding cause => some cause.message
  | _ => none

/-- The status that ends the call. -/
def status : Failure → Status
  | .transport status => status
  | .unsendableToken => { code := .internal, message := "failed to attach issued token" }
  | .misconfigured _ =>
      { code := .failedPrecondition, message := "authentication is not configured" }
  | .peerClosed => { code := .aborted, message := message .peerClosed }
  | f => { code := .unauthenticated, message := f.message }

/-- What is logged when the failure is turned into a status. -/
def notices : Failure → List Notice
  | .unsendableToken => [.unsendableToken]
  | .misconfigured reason => [.misconfigured reason]
  | _ => []

end Failure
end CallGate
