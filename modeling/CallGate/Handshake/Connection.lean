import CallGate.Collaborator
import CallGate.Handshake.Message
import CallGate.Streaming.Session

/-! The authenticator's view of a handshake stream: payloads without their envelope. Responses carry
version zero, and the version of a request is not looked at. -/

namespace CallGate.Handshake

open Streaming

/-- What a read gives for what the stream delivers. -/
def payloadOf : Except Status (Option Message) → Except Failure Bytes
  | .ok (some m) => .ok m.payload
  | .ok none => .error .peerClosed
  | .error status => .error (.transport status)

/-- What a send reports for what the stream reports. -/
def deliveryOf : Except Status Unit → Except Failure Unit
  | .ok () => .ok ()
  | .error status => .error (.transport status)

def response (payload : Bytes) : Message := { version := 0, payload }

/-- Reads a payload from a stream in memory. -/
def read (r : Recording Message Message) : Except Failure Bytes × Recording Message Message :=
  let (a, r) := r.recv
  (payloadOf a, r)

/-- Sends a payload to a stream in memory. -/
def send (r : Recording Message Message) (payload : Bytes) :
    Except Failure Unit × Recording Message Message :=
  let (a, r) := r.send (response payload)
  (deliveryOf a, r)

/-- An exchange as the handler of a handshake stream, which reports what was read and sent after
what happened before. -/
def handlerOf {ρ : Type} : Exchange ρ → Trace → Program Message Message (ρ × Trace)
  | .done result report, before => .done result (report, before)
  | .read next, before => .recv fun a =>
      handlerOf (next (payloadOf a)) (before ++ [.read (payloadOf a)])
  | .send payload next, before => .send (response payload) fun a =>
      handlerOf (next (deliveryOf a)) (before ++ [.sent payload (deliveryOf a)])

/-- The handler of the handshake method. Without an authenticator it succeeds at once. -/
def handler {σ : Type} (authenticator : Option (Authenticator σ)) (s : σ) :
    Program Message Message (σ × Trace) :=
  match authenticator with
  | some a => handlerOf (a.authenticate s) [.authenticating]
  | none => .done (.ok ()) (s, [])

end CallGate.Handshake
