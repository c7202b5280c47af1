import CallGate.Collaborator
import CallGate.Streaming.ServerStream

/-! The scheme of tokens that a handshake issues. Every call presents its token as a binary header,
the handshake stream itself apart, which is how tokens are obtained. The authenticator's errors are
told by their message only. Without an authenticator every call passes, and nothing of it is looked
at. -/

namespace CallGate.HandshakeToken

open Streaming

def headerName : String := "auth-token-bin"

/-- The token of a call, from the first value of its header; no header counts as the empty token. -/
def presentedToken (m : Metadata) : Except Failure Bytes :=
  match m.first? headerName with
  | none => .ok []
  | some value =>
      match Metadata.binaryOf value with
      | .ok token => .ok token
      | .error _ => .error .badBinaryToken

/-- A unary call lacks the permission, a stream the authentication. -/
def refusalCode : Entry → Code
  | .unary => .permissionDenied
  | .stream => .unauthenticated

def refusal (entry : Entry) (cause : Status) : Status :=
  { code := refusalCode entry, message := "auth-error: " ++ cause.message }

variable {σ S : Type}

/-- Asks the authenticator about the token, unless it cannot be read. -/
def check (a : Authenticator σ) (entry : Entry) (method : Method) (m : Metadata) (s : σ) :
    Decision σ :=
  match presentedToken m with
  | .error f => ⟨.reject f.status, s, f.notices.map .noted⟩
  | .ok token =>
      let (answer, s) := a.isValid token s
      let asked := Event.checkedBinary token answer
      match answer with
      | .ok identity =>
          ⟨.identify identity, s,
           [asked, .noted (.accepted .handshakeToken entry method),
            .counted ⟨.handshakeToken, entry.kind, true⟩]⟩
      | .error status =>
          ⟨.reject (refusal entry status), s,
           [asked, .noted (.rejected .handshakeToken entry method status.message),
            .counted ⟨.handshakeToken, entry.kind, false⟩]⟩

def decideUnary (authenticator : Option (Authenticator σ)) (method : Method) (m : Metadata) (s : σ) :
    Decision σ :=
  match authenticator with
  | none => ⟨.pass none, s, []⟩
  | some a => check a .unary method m s

/-- Sets no trailers. -/
def decideStream [StreamMetadata S] (authenticator : Option (Authenticator σ)) (suffix : String)
    (method : Method) (stream : S) (s : σ) : Decision σ × S :=
  match authenticator with
  | none => (⟨.pass none, s, []⟩, stream)
  | some a =>
      if method.isHandshake suffix then (⟨.pass none, s, []⟩, stream)
      else (check a .stream method (StreamMetadata.context stream).metadata s, stream)

end CallGate.HandshakeToken
