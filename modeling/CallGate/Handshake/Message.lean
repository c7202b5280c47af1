import CallGate.Text.Quoted
import CallGate.Wire.Field

/-! The messages of a handshake: a protocol version and a payload that only the authenticator
understands. Requests and responses have the same form. -/

namespace CallGate.Handshake

structure Message where
  version : UInt64 := 0
  payload : Bytes := []
  deriving DecidableEq, Repr

/-- Which way a message goes; diagnostics name it. -/
inductive Envelope where
  | request
  | response
  deriving DecidableEq, Repr

def Envelope.name : Envelope → String
  | .request => "HandshakeRequest"
  | .response => "HandshakeResponse"

/-- Why octets are no message, and inside which of its fields that was found. -/
structure DecodeError where
  field? : Option String := none
  cause : Wire.Fault
  deriving DecidableEq, Repr

def DecodeError.message (envelope : Envelope) (e : DecodeError) : String :=
  let place := match e.field? with
    | some field => envelope.name ++ "." ++ field ++ ": "
    | none => ""
  "failed to decode Protobuf message: " ++ place ++ e.cause.message

namespace Message

def versionTag : Nat := 1

def payloadTag : Nat := 2

/-- The fields that differ from their default, by tag. -/
def fields (m : Message) : List Wire.Field :=
  (if m.version = 0 then [] else [⟨versionTag, .varint m.version⟩]) ++
    if m.payload = [] then [] else [⟨payloadTag, .chunk m.payload⟩]

def encode (m : Message) : Bytes := m.fields.flatMap Wire.Field.put

/-- The length of the encoding, without writing it. -/
def encodedLength (m : Message) : Nat :=
  (if m.version = 0 then 0 else 1 + Wire.varintLength m.version.toNat) +
    if m.payload = [] then 0 else 1 + Wire.varintLength m.payload.length + m.payload.length

/-- The encoding with its length in front. -/
def encodeDelimited (m : Message) : Bytes := Wire.putVarint m.encodedLength ++ m.encode

private def within {α : Type} (field : String) : Except Wire.Fault α → Except DecodeError α
  | .ok a => .ok a
  | .error cause => .error { field? := some field, cause }

private def unnamed {α : Type} : Except Wire.Fault α → Except DecodeError α
  | .ok a => .ok a
  | .error cause => .error { cause }

/-- Takes over the value of one field whose key was read. -/
def mergeValue (limit : Nat) (m : Message) (key : Wire.FieldKey) (b : Bytes) :
    Except DecodeError (Message × Bytes) :=
  if key.tag = versionTag then within "protocol_version" <|
    if key.wire = .varint then match Wire.getVarint b with
      | some (n, rest) => .ok ({ m with version := UInt64.ofNat n }, rest)
      | none => .error .varint
    else .error (.mismatch key.wire .varint)
  else if key.tag = payloadTag then within "payload" <|
    if key.wire = .lengthDelimited then
      (Wire.getChunk b).map fun p => ({ m with payload := p.1 }, p.2)
    else .error (.mismatch key.wire .lengthDelimited)
  else unnamed <| (Wire.skipValue limit key b).map fun rest => (m, rest)

/-- Takes over one field. -/
def mergeField (limit : Nat) (m : Message) (b : Bytes) : Except DecodeError (Message × Bytes) :=
  match Wire.getKey b with
  | .error cause => .error { cause }
  | .ok (key, rest) => mergeValue limit m key rest

private theorem mergeValue_le {limit : Nat} {m m' : Message} {key : Wire.FieldKey}
    {b rest : Bytes} (h : mergeValue limit m key b = .ok (m', rest)) : rest.length ≤ b.length := by
  unfold mergeValue at h
  split at h
  · split at h
    · cases hv : Wire.getVarint b with
      | none => rw [hv] at h; cases h
      | some p =>
        rw [hv] at h; cases h
        exact Nat.le_of_lt (Wire.getVarint_shorter (by rw [hv]))
    · cases h
  · split at h
    · split at h
      · cases hc : Wire.getChunk b with
        | error e => rw [hc] at h; cases h
        | ok p =>
          rw [hc] at h; cases h
          exact Nat.le_of_lt (Wire.getChunk_shorter hc)
      · cases h
    · cases hs : Wire.skipValue limit key b with
      | error e => rw [hs] at h; cases h
      | ok r => rw [hs] at h; cases h; exact Wire.skipValue_le hs

theorem mergeField_shorter {limit : Nat} {m m' : Message} {b rest : Bytes}
    (h : mergeField limit m b = .ok (m', rest)) : rest.length < b.length := by
  unfold mergeField at h
  split at h
  · cases h
  · next hk => exact Nat.lt_of_le_of_lt (mergeValue_le h) (Wire.getKey_shorter hk)

/-- Takes over fields while more than `stop` octets are left. What was read before an error stays. -/
def mergeUntil (limit stop : Nat) (m : Message) (b : Bytes) :
    Message × Except DecodeError Bytes :=
  if stop < b.length then
    match _h : mergeField limit m b with
    | .error e => (m, .error e)
    | .ok (m', rest) => mergeUntil limit stop m' rest
  else (m, .ok b)
termination_by b.length
decreasing_by exact mergeField_shorter ‹_›

/-- Takes over all the fields in `b`. -/
def merge (m : Message) (b : Bytes) : Message × Except DecodeError Unit :=
  let (m', outcome) := mergeUntil Wire.depthLimit 0 m b
  (m', outcome.map fun _ => ())

def decode (b : Bytes) : Except DecodeError Message :=
  match merge {} b with
  | (m, .ok ()) => .ok m
  | (_, .error e) => .error e

/-- Reads a message behind its length and gives the octets after it. The message itself counts as
one level of nesting. -/
def decodeDelimited (b : Bytes) : Except DecodeError (Message × Bytes) :=
  match Wire.getVarint b with
  | none => .error { cause := .varint }
  | some (n, rest) =>
      if rest.length < n then .error { cause := .underflow }
      else
        let stop := rest.length - n
        match mergeUntil (Wire.depthLimit - 1) stop {} rest with
        | (_, .error e) => .error e
        | (m, .ok after) =>
            if after.length = stop then .ok (m, after) else .error { cause := .lengthExceeded }

/-- The diagnostic text of a message. -/
def render (envelope : Envelope) (m : Message) : String :=
  envelope.name ++ " \x7b protocol_version: " ++ toString m.version.toNat ++ ", payload: " ++
    Text.quoteOctets m.payload ++ " \x7d"

end Message

namespace Envelope

/-- Writes a message of one type; both have the same form. -/
def write (_ : Envelope) (m : Message) : Bytes := m.encode

def writeDelimited (_ : Envelope) (m : Message) : Bytes := m.encodeDelimited

/-- Reads octets as a message of one type; the diagnostic names the type. -/
def read (envelope : Envelope) (b : Bytes) : Except String Message :=
  (Message.decode b).mapError (DecodeError.message envelope)

def readDelimited (envelope : Envelope) (b : Bytes) : Except String (Message × Bytes) :=
  (Message.decodeDelimited b).mapError (DecodeError.message envelope)

end Envelope
end CallGate.Handshake
