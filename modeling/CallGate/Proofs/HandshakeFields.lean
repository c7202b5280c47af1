import CallGate.Handshake.Message
import CallGate.Proofs.WireForms
import Mathlib.Data.List.Basic

/-! Handshake messages on the wire. Any sequence of fields is read, as long as those of the two known tags
have their own kind of content; the last one of each tag counts, wherever the sequence is cut. A message
that was written is read back, and nothing behind it is touched. -/

namespace CallGate.Handshake

namespace Message

open Wire

/-- A field that a peer may send: under a known tag stands the kind of content that belongs there. -/
structure Sent extends Written where
  version_wire : field.tag = versionTag → field.content.wire = .varint
  payload_wire : field.tag = payloadTag → field.content.wire = .lengthDelimited

/-- Fields on the wire, one after another. -/
def octets (sent : List Sent) : Bytes := sent.flatMap fun s => s.octets

def version? (f : Field) : Option UInt64 :=
  match f.content with
  | .varint n => if f.tag = versionTag then some n else none
  | _ => none

def payload? (f : Field) : Option Bytes :=
  match f.content with
  | .chunk b => if f.tag = payloadTag then some b else none
  | _ => none

/-- What the last field of each known tag says, over what was known before. -/
def absorb (m : Message) (fields : List Field) : Message where
  version := (fields.filterMap version?).getLast?.getD m.version
  payload := (fields.filterMap payload?).getLast?.getD m.payload

theorem absorb_append (m : Message) (fields more : List Field) :
    m.absorb (fields ++ more) = (m.absorb fields).absorb more := by
  simp only [absorb, List.filterMap_append, List.getLast?_append, Option.getD_or]

theorem mergeValue_version {limit : Nat} (m : Message) {n : UInt64} {value : Bytes}
    (form : IsVarint n.toNat value) (rest : Bytes) :
    mergeValue limit m ⟨versionTag, .varint⟩ (value ++ rest) = .ok ({ m with version := n }, rest) := by
  unfold mergeValue
  rw [if_pos rfl, if_pos rfl, form.getVarint]
  simp only [UInt64.ofNat_toNat]
  rfl

theorem mergeValue_payload {limit : Nat} (m : Message) {chunk length : Bytes}
    (form : IsVarint chunk.length length) (rest : Bytes) :
    mergeValue limit m ⟨payloadTag, .lengthDelimited⟩ (length ++ chunk ++ rest) =
      .ok ({ m with payload := chunk }, rest) := by
  unfold mergeValue
  rw [if_neg (by decide), if_pos rfl, if_pos rfl, getChunk_append form]
  rfl

theorem mergeValue_unknown {limit : Nat} (deep : 0 < limit) (m : Message) {f : Field} {value : Bytes}
    (form : f.content.IsForm value) (notVersion : f.key.tag ≠ versionTag)
    (notPayload : f.key.tag ≠ payloadTag) (rest : Bytes) :
    mergeValue limit m f.key (value ++ rest) = .ok (m, rest) := by
  unfold mergeValue
  rw [if_neg notVersion, if_neg notPayload, skipValue_append deep form]
  rfl

theorem mergeValue_sent {limit : Nat} (deep : 0 < limit) (m : Message) (s : Sent) (rest : Bytes) :
    mergeValue limit m s.field.key (s.value ++ rest) = .ok (m.absorb [s.field], rest) := by
  obtain ⟨⟨⟨tag, content⟩, key, value, -, -, -, form⟩, version, payload⟩ := s
  by_cases isVersion : tag = versionTag
  · have wire : content.wire = .varint := version isVersion
    subst isVersion
    cases form with
    | varint form => exact mergeValue_version m form rest
    | fixed64 | fixed32 | chunk => cases wire
  by_cases isPayload : tag = payloadTag
  · have wire : content.wire = .lengthDelimited := payload isPayload
    subst isPayload
    cases form with
    | chunk form => exact mergeValue_payload m form rest
    | fixed64 | fixed32 | varint => cases wire
  -- a tag that nobody asked for leaves the message as it is
  · have kept : m.absorb [⟨tag, content⟩] = m := by
      cases content <;> simp [absorb, version?, payload?, isVersion, isPayload]
    rw [kept]
    exact mergeValue_unknown deep m form isVersion isPayload rest

theorem mergeField_append {limit : Nat} (m : Message) {f : Field} {key : Bytes} (tag_pos : 0 < f.tag)
    (tag_lt : f.tag < 0x20000000) (form : IsVarint f.key.number key) (b : Bytes) :
    mergeField limit m (key ++ b) = mergeValue limit m f.key b := by
  rw [mergeField, getKey_append tag_pos tag_lt form]

/-- One field is taken over and what follows it is left. -/
theorem mergeField_sent {limit : Nat} (deep : 0 < limit) (m : Message) (s : Sent) (rest : Bytes) :
    mergeField limit m (s.octets ++ rest) = .ok (m.absorb [s.field], rest) := by
  rw [Written.octets, List.append_assoc, mergeField_append m s.tag_pos s.tag_lt s.key_form,
    mergeValue_sent deep]

theorem octets_cons (s : Sent) (sent : List Sent) : octets (s :: sent) = s.octets ++ octets sent := by
  simp [octets]

theorem mergeUntil_of_mergeField {limit stop : Nat} {m m' : Message} {b rest : Bytes}
    (more : stop < b.length) (step : mergeField limit m b = .ok (m', rest)) :
    mergeUntil limit stop m b = mergeUntil limit stop m' rest := by
  rw [mergeUntil, if_pos more]
  split
  · next failed => rw [step] at failed; cases failed
  · next found => rw [step] at found; cases found; rfl

theorem mergeUntil_of_error {limit stop : Nat} {m : Message} {b : Bytes} {e : DecodeError}
    (more : stop < b.length) (step : mergeField limit m b = .error e) :
    mergeUntil limit stop m b = (m, .error e) := by
  rw [mergeUntil, if_pos more]
  split
  · next failed => rw [step] at failed; cases failed; rfl
  · next found => rw [step] at found; cases found

theorem mergeUntil_of_length (limit : Nat) (m : Message) (b : Bytes) :
    mergeUntil limit b.length m b = (m, .ok b) := by
  rw [mergeUntil, if_neg (Nat.lt_irrefl _)]

/-- All the fields that end before the place to stop are taken over, one after another. -/
theorem mergeUntil_append {limit stop : Nat} (deep : 0 < limit) (m : Message) (sent : List Sent)
    {rest : Bytes} (before : stop ≤ rest.length) : mergeUntil limit stop m (octets sent ++ rest) =
      mergeUntil limit stop (m.absorb (sent.map fun s => s.field)) rest := by
  -- the message that the fields before have led to is any message
  induction sent generalizing m with
  | nil => rfl
  | cons s sent ih =>
    have step := mergeField_sent deep m s (octets sent ++ rest)
    have shorter := mergeField_shorter step
    have more : stop ≤ (octets sent ++ rest).length := Nat.le_trans before (by simp)
    rw [octets_cons, List.append_assoc, mergeUntil_of_mergeField (Nat.lt_of_le_of_lt more shorter) step,
      ih, ← absorb_append]
    rfl

theorem mergeUntil_sent {limit : Nat} (deep : 0 < limit) (m : Message) (sent : List Sent)
    (rest : Bytes) : mergeUntil limit rest.length m (octets sent ++ rest) =
      (m.absorb (sent.map fun s => s.field), .ok rest) := by
  rw [mergeUntil_append deep m sent (Nat.le_refl _), mergeUntil_of_length]

theorem merge_sent (m : Message) (sent : List Sent) :
    m.merge (octets sent) = (m.absorb (sent.map fun s => s.field), .ok ()) := by
  have read := mergeUntil_sent (by decide : 0 < depthLimit) m sent []
  rw [List.append_nil] at read
  rw [merge]
  simp only [List.length_nil] at read
  rw [read]
  rfl

/-- Merges chunks one after another, and gives how each of them went. -/
def mergeEach (m : Message) : List Bytes → Message × List (Except DecodeError Unit)
  | [] => (m, [])
  | chunk :: chunks =>
      let (m, outcome) := m.merge chunk
      let (m, outcomes) := mergeEach m chunks
      (m, outcome :: outcomes)

theorem mergeEach_sent (m : Message) (cut : List (List Sent)) :
    m.mergeEach (cut.map octets) =
      (m.absorb (cut.flatten.map fun s => s.field), cut.map fun _ => .ok ()) := by
  induction cut generalizing m with
  | nil => rfl
  | cons sent cut ih =>
    simp only [List.map_cons, mergeEach, merge_sent, ih, List.flatten_cons, List.map_append,
      absorb_append]

theorem decode_sent (sent : List Sent) :
    decode (octets sent) = .ok (({} : Message).absorb (sent.map fun s => s.field)) := by
  simp only [decode, merge_sent]

/-! ### A message as it is written -/

theorem versionTag_lt : versionTag < 0x20000000 := by decide

theorem payloadTag_lt : payloadTag < 0x20000000 := by decide

def sentVersion (n : UInt64) : Sent where
  toWritten := Field.written ⟨versionTag, .varint n⟩ Nat.one_pos versionTag_lt
    (.varint (isVarint_putVarint n.toNat_lt))
  version_wire := fun _ => rfl
  payload_wire := nofun

def sentPayload (b : Bytes) (fits : b.length < UInt64.size) : Sent where
  toWritten := Field.written ⟨payloadTag, .chunk b⟩ Nat.two_pos payloadTag_lt
    (.chunk (isVarint_putVarint fits))
  version_wire := nofun
  payload_wire := fun _ => rfl

@[simp] theorem octets_sentVersion (n : UInt64) :
    (sentVersion n).octets = Field.put ⟨versionTag, .varint n⟩ := rfl

@[simp] theorem octets_sentPayload (b : Bytes) (fits : b.length < UInt64.size) :
    (sentPayload b fits).octets = Field.put ⟨payloadTag, .chunk b⟩ := rfl

def versionFields (m : Message) : List Sent := if m.version = 0 then [] else [sentVersion m.version]

/-- The fields that a message is written with. -/
def sentFields (m : Message) (fits : m.payload.length < UInt64.size) : List Sent :=
  m.versionFields ++ if m.payload = [] then [] else [sentPayload m.payload fits]

theorem encode_eq_octets (m : Message) : m.encode = octets m.versionFields ++
    if m.payload = [] then [] else Field.put ⟨payloadTag, .chunk m.payload⟩ := by
  by_cases isVersion : m.version = 0 <;> by_cases isPayload : m.payload = [] <;>
    simp [encode, fields, octets, versionFields, isVersion, isPayload]

theorem octets_sentFields (m : Message) (fits : m.payload.length < UInt64.size) :
    octets (m.sentFields fits) = m.encode := by
  rw [encode_eq_octets, sentFields, octets, List.flatMap_append]
  by_cases isPayload : m.payload = [] <;> simp [octets, isPayload]

theorem absorb_sentFields (m : Message) (fits : m.payload.length < UInt64.size) :
    ({} : Message).absorb ((m.sentFields fits).map fun s => s.field) = m := by
  obtain ⟨version, payload⟩ := m
  by_cases isVersion : version = 0 <;> by_cases isPayload : payload = [] <;>
    simp [sentFields, versionFields, absorb, List.filterMap_cons, version?, payload?, sentVersion, sentPayload,
      Field.written, isVersion, isPayload]

theorem decode_encode {m : Message} (fits : m.payload.length < UInt64.size) :
    decode m.encode = .ok m := by
  rw [← octets_sentFields m fits, decode_sent, absorb_sentFields]

theorem put_version (n : UInt64) : Field.put ⟨versionTag, .varint n⟩ = 8 :: putVarint n.toNat := by
  have key : putKey ⟨versionTag, .varint⟩ = [8] := by
    rw [putKey, putVarint, if_pos (by decide)]
    rfl
  show putKey ⟨versionTag, .varint⟩ ++ putVarint n.toNat = _
  rw [key]
  rfl

theorem put_payload (b : Bytes) :
    Field.put ⟨payloadTag, .chunk b⟩ = 18 :: (putVarint b.length ++ b) := by
  have key : putKey ⟨payloadTag, .lengthDelimited⟩ = [18] := by
    rw [putKey, putVarint, if_pos (by decide)]
    rfl
  show putKey ⟨payloadTag, .lengthDelimited⟩ ++ (putVarint b.length ++ b) = _
  rw [key]
  rfl

/-- The octets of a message: 8 and the version, then 18, the length of the payload and the payload.
What has its default is left out. -/
theorem encode_eq (m : Message) : m.encode =
    (if m.version = 0 then [] else 8 :: putVarint m.version.toNat) ++
      if m.payload = [] then [] else 18 :: (putVarint m.payload.length ++ m.payload) := by
  by_cases isVersion : m.version = 0 <;> by_cases isPayload : m.payload = [] <;>
    simp [encode, fields, put_version, put_payload, isVersion, isPayload]

theorem mergeField_of_long (limit : Nat) (m : Message) {payload : Bytes}
    (long : UInt64.size ≤ payload.length) :
    mergeField limit m (Field.put ⟨payloadTag, .chunk payload⟩) =
      .error { field? := some "payload", cause := .varint } := by
  have unread : getChunk (putContent (.chunk payload)) = .error .varint := by
    rw [getChunk, putContent, getVarint_putVarint, if_neg (Nat.not_lt.2 long)]
  have value : mergeValue limit m ⟨payloadTag, .lengthDelimited⟩ (putContent (.chunk payload)) =
      .error { field? := some "payload", cause := .varint } := by
    rw [mergeValue, if_neg (by decide), if_pos rfl, if_pos rfl, unread]
    rfl
  rw [← value]
  exact mergeField_append m (f := ⟨payloadTag, .chunk payload⟩) Nat.two_pos payloadTag_lt
    (isVarint_putKey payloadTag_lt) _

/-- A payload whose length takes more than 64 bits is not read. -/
theorem decode_encode_of_long {m : Message} (long : UInt64.size ≤ m.payload.length) :
    decode m.encode = .error { field? := some "payload", cause := .varint } := by
  have nonempty : m.payload ≠ [] := by
    intro empty
    rw [empty] at long
    exact absurd long (by decide)
  -- the version is still read, and the payload behind it stops the reader
  have front := mergeUntil_append (by decide : 0 < depthLimit) {} m.versionFields
    (Nat.zero_le (Field.put ⟨payloadTag, .chunk m.payload⟩).length)
  have more : 0 < (Field.put ⟨payloadTag, .chunk m.payload⟩).length := by simp [put_payload]
  have stuck := mergeUntil_of_error more (mergeField_of_long depthLimit
    (({} : Message).absorb (m.versionFields.map fun s => s.field)) long)
  rw [encode_eq_octets, if_neg nonempty]
  simp only [decode, merge, front, stuck]
  rfl

theorem encodedLength_eq (m : Message) : m.encodedLength = m.encode.length := by
  rw [encode_eq, encodedLength]
  by_cases isVersion : m.version = 0 <;> by_cases isPayload : m.payload = [] <;>
    simp [putVarint_length, isVersion, isPayload] <;> omega

theorem payload_le_encodedLength (m : Message) : m.payload.length ≤ m.encodedLength := by
  rw [encodedLength]
  by_cases isPayload : m.payload = []
  · simp [isPayload]
  · rw [if_neg isPayload]
    omega

theorem decodeDelimited_encodeDelimited {m : Message} (fits : m.encodedLength < UInt64.size)
    (rest : Bytes) : decodeDelimited (m.encodeDelimited ++ rest) = .ok (m, rest) := by
  have short : m.payload.length < UInt64.size := Nat.lt_of_le_of_lt m.payload_le_encodedLength fits
  have read := mergeUntil_sent (by decide : 0 < depthLimit - 1) {} (m.sentFields short) rest
  rw [octets_sentFields, absorb_sentFields] at read
  have length : (m.encode ++ rest).length = m.encodedLength + rest.length := by
    rw [encodedLength_eq, List.length_append]
  have stop : (m.encode ++ rest).length - m.encodedLength = rest.length := by omega
  simp only [decodeDelimited, encodeDelimited, List.append_assoc, getVarint_putVarint, if_pos fits]
  rw [if_neg (by omega), stop, read]
  simp only [if_pos]

theorem decodeDelimited_of_long {m : Message} (long : UInt64.size ≤ m.encodedLength) (rest : Bytes) :
    decodeDelimited (m.encodeDelimited ++ rest) = .error { cause := .varint } := by
  simp only [decodeDelimited, encodeDelimited, List.append_assoc, getVarint_putVarint,
    if_neg (Nat.not_lt.2 long)]

end Message

namespace Envelope

open Wire

theorem read_eq_ok_iff {received : Envelope} {b : Bytes} {m : Message} :
    received.read b = .ok m ↔ Message.decode b = .ok m := by
  unfold read
  cases Message.decode b <;> simp [Except.mapError]

theorem readDelimited_eq_ok_iff {received : Envelope} {b : Bytes} {p : Message × Bytes} :
    received.readDelimited b = .ok p ↔ Message.decodeDelimited b = .ok p := by
  unfold readDelimited
  cases Message.decodeDelimited b <;> simp [Except.mapError]

/-- What is written as one type is read as either. The octets say no more than the fields that differ
from their default; behind their length, they are told from what follows. The only messages that are not
read back are those with a length that takes more than 64 bits, which no octets in memory have. -/
theorem read_write (sent received : Envelope) (m : Message) (rest : Bytes) :
    sent.write m = received.write m ∧
      sent.write m = (if m.version = 0 then [] else 8 :: putVarint m.version.toNat) ++
        (if m.payload = [] then [] else 18 :: (putVarint m.payload.length ++ m.payload)) ∧
      m.encodedLength = (sent.write m).length ∧
      (received.read (sent.write m) = .ok m ↔ m.payload.length < UInt64.size) ∧
      (received.readDelimited (sent.writeDelimited m ++ rest) = .ok (m, rest) ↔
        m.encodedLength < UInt64.size) := by
  refine ⟨rfl, m.encode_eq, m.encodedLength_eq, ?_, ?_⟩
  · rw [read_eq_ok_iff]
    refine ⟨fun read => ?_, Message.decode_encode⟩
    by_contra long
    have failed := Message.decode_encode_of_long (Nat.le_of_not_lt long)
    exact nomatch read.symm.trans failed
  · rw [readDelimited_eq_ok_iff]
    refine ⟨fun read => ?_, fun fits => Message.decodeDelimited_encodeDelimited fits rest⟩
    by_contra long
    have failed := Message.decodeDelimited_of_long (Nat.le_of_not_lt long) rest
    exact nomatch read.symm.trans failed

/-- The version is left out, and the payload of two octets stands behind its key and length. -/
example : Envelope.request.write { payload := [104, 105] } = [18, 2, 104, 105] := by cbv

/-- Whatever fields a peer sends, in any order and any form, the message has what the last one of each
known tag says, and it makes no difference where the sequence is cut. -/
theorem read_sent (received : Envelope) (sent : List Message.Sent) :
    ∃ m, received.read (Message.octets sent) = .ok m ∧
      m.version = ((sent.map fun s => s.field).filterMap Message.version?).getLast?.getD 0 ∧
      m.payload = ((sent.map fun s => s.field).filterMap Message.payload?).getLast?.getD [] ∧
      ∀ cut : List (List Message.Sent), cut.flatten = sent →
        Message.mergeEach {} (cut.map Message.octets) = (m, cut.map fun _ => .ok ()) := by
  refine ⟨_, read_eq_ok_iff.2 (Message.decode_sent sent), rfl, rfl, ?_⟩
  rintro cut rfl
  exact Message.mergeEach_sent {} cut

/-- A version of 7 in three octets, where one would do. -/
def longVersion : Message.Sent where
  field := ⟨Message.versionTag, .varint 7⟩
  key := [8]
  value := [0x87, 0x80, 0]
  tag_pos := Nat.one_pos
  tag_lt := Message.versionTag_lt
  key_form := ⟨.last (c := 8) (by decide), by decide, by decide⟩
  value_form := .varint ⟨.more (c := 0x87) (by decide) (.more (c := 0x80) (by decide)
    (.last (c := 0) (by decide))), by decide, by decide⟩
  version_wire := fun _ => rfl
  payload_wire := nofun

/-- A field of four octets under a tag that no message has. -/
def strangeField : Message.Sent where
  field := ⟨6, .fixed32 0x04030201⟩
  key := [0x35]
  value := [1, 2, 3, 4]
  tag_pos := by decide
  tag_lt := by decide
  key_form := ⟨.last (c := 0x35) (by decide), by decide, by decide⟩
  value_form := .fixed32 0x04030201
  version_wire := nofun
  payload_wire := nofun

/-- The strange field stands between two versions, and the sequence is cut before the second one. -/
theorem read_sent_long :
    let before : Bytes := [8, 0x87, 0x80, 0, 0x35, 1, 2, 3, 4]
    let after : Bytes := [8, 1, 18, 2, 104, 105]
    Envelope.response.read (before ++ after) = .ok { version := 1, payload := [104, 105] } ∧
      Message.mergeEach {} [before, after] =
        ({ version := 1, payload := [104, 105] }, [.ok (), .ok ()]) := by
  intro before after
  let front : List Message.Sent := [longVersion, strangeField]
  let back : List Message.Sent := [Message.sentVersion 1, Message.sentPayload [104, 105] (by decide)]
  have front_octets : Message.octets front = before := rfl
  have back_octets : Message.octets back = after := by
    simp [back, after, Message.octets, Message.put_version, Message.put_payload, putVarint]
  obtain ⟨⟨_, _⟩, read, ⟨⟩, ⟨⟩, merged⟩ := read_sent .response (front ++ back)
  have whole : Message.octets (front ++ back) = before ++ after := by
    rw [← front_octets, ← back_octets]
    exact List.flatMap_append
  have cut := merged [front, back] rfl
  simp only [List.map_cons, List.map_nil, front_octets, back_octets] at cut
  exact ⟨whole ▸ read, cut⟩

end Envelope
end CallGate.Handshake
