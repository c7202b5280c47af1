import CallGate.Collaborator
import CallGate.Streaming.ServerStream
import CallGate.Text.Cut

/-! The scheme of passwords and bearer tokens. A handshake stream presents a user's password and gets
a token in its trailer; every other call presents such a token. The validator's errors reach the
client as they are. -/

namespace CallGate.BasicBearer

open Streaming

def headerName : String := "authorization"

def basicWord : String := "Basic"

def bearerWord : String := "Bearer"

/-- The header value that presents a token. -/
def presentation (token : String) : String := bearerWord ++ " " ++ token

/-- A scheme word and a credential, at the first space. A value without one is all scheme. -/
def splitScheme (value : String) : String × String := (Text.cut? ' ' value).getD (value, "")

/-- What follows the scheme word and one space, if the value presents a token. -/
def presented? (value : String) : Option String :=
  (List.isPrefixOf? (presentation "").toList value.toList).map String.ofList

/-- The token of a unary call; any other header, and none at all, counts as the empty token. -/
def unaryToken (m : Metadata) : String :=
  (((m.first? headerName).bind Metadata.textOf?).bind presented?).getD ""

/-- A user name and a password, which may hold colons itself. -/
def signIn (credential : String) : Except Failure (String × String) :=
  match Base64.decode (Bytes.ofText credential) with
  | .error cause => .error (.badEncoding cause)
  | .ok octets =>
      match octets.text?.bind (Text.cut? ':') with
      | some pair => .ok pair
      | none => .error .malformedCredentials

/-- What a stream asks of the validator. -/
inductive Demand where
  | signIn (username password : String)
  | present (token : String)
  deriving DecidableEq, Repr

/-- A handshake demands a token for a password, another stream presents its token; the scheme word
has to fit. -/
def demandOf (handshake : Bool) (value : String) : Except Failure Demand :=
  let (word, credential) := splitScheme value
  if handshake then
    if word = basicWord then (signIn credential).map fun p => .signIn p.1 p.2
    else .error (.unsupportedScheme word)
  else if word = bearerWord then .ok (.present credential)
  else .error (.unsupportedScheme word)

/-- What the headers of a stream demand. -/
def demand (handshake : Bool) (m : Metadata) : Except Failure Demand :=
  match m.first? headerName with
  | none => .error .noCredentials
  | some value =>
      match Metadata.textOf? value with
      | none => .error .malformedCredentials
      | some text => demandOf handshake text

/-- The trailer that hands a token to the client, if a header can carry it. -/
def tokenTrailer? (token : String) : Option Metadata :=
  (Metadata.valueOf? (presentation token)).map (Metadata.single headerName)

variable {σ S : Type}

/-- Refuses with the status of a failure, and logs what the failure has the server log. -/
def refuse (f : Failure) (s : σ) (before : Trace) : Decision σ :=
  ⟨.reject f.status, s, before ++ f.notices.map .noted⟩

/-- The validator's part in a stream. A token that it issues is set as a trailer of the stream, which
is left alone otherwise. -/
def settle [StreamMetadata S] (v : Validator σ) (stream : S) (s : σ) :
    Except Failure Demand → Decision σ × S
  | .error f => (refuse f s [], stream)
  | .ok (.signIn username password) =>
      let (answer, s) := v.validate username password s
      let asked := [Event.validated username password answer]
      match answer with
      | .error status => (⟨.reject status, s, asked⟩, stream)
      | .ok token =>
          match tokenTrailer? token with
          | none => (refuse .unsendableToken s asked, stream)
          | some trailer =>
              let stream := StreamMetadata.setTrailer stream trailer
              (⟨.pass (some trailer), s, asked⟩, stream)
  | .ok (.present token) =>
      let (answer, s) := v.isValid token s
      let asked := [Event.checkedToken token answer]
      match answer with
      | .error status => (⟨.reject status, s, asked⟩, stream)
      | .ok identity => (⟨.identify identity, s, asked⟩, stream)

/-- How the verdict on a stream is logged and counted. -/
def report (handshake : Bool) (method : Method) : Verdict → Trace
  | .pass _ => [.noted (.issued method), .counted ⟨.basicBearer, .handshake, true⟩]
  | .identify _ =>
      [.noted (.accepted .basicBearer .stream method), .counted ⟨.basicBearer, .stream, true⟩]
  | .reject status =>
      [.noted (.rejected .basicBearer .stream method status.message),
       .counted ⟨.basicBearer, if handshake then .handshake else .stream, false⟩]

def decideStream [StreamMetadata S] (v : Validator σ) (suffix : String) (method : Method)
    (stream : S) (s : σ) : Decision σ × S :=
  let handshake := method.isHandshake suffix
  let (d, stream) := settle v stream s (demand handshake (StreamMetadata.context stream).metadata)
  ({ d with trace := d.trace ++ report handshake method d.verdict }, stream)

def decideUnary (v : Validator σ) (method : Method) (m : Metadata) (s : σ) : Decision σ :=
  let token := unaryToken m
  let (answer, s) := v.isValid token s
  let asked := Event.checkedToken token answer
  match answer with
  | .ok identity =>
      ⟨.identify identity, s,
       [asked, .noted (.accepted .basicBearer .unary method), .counted ⟨.basicBearer, .unary, true⟩]⟩
  | .error status =>
      ⟨.reject status, s,
       [asked, .noted (.rejected .basicBearer .unary method status.message),
        .counted ⟨.basicBearer, .unary, false⟩]⟩

end CallGate.BasicBearer
