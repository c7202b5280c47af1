import CallGate.Wire.Varint

/-! The fields of a message on the wire: a key of a tag and a wire type, then a value of that type.
Fields of a tag that nobody asked for are skipped; a group is skipped with all that it holds. -/

namespace CallGate.Wire

inductive WireType where
  | varint | fixed64 | lengthDelimited | startGroup | endGroup | fixed32
  deriving DecidableEq, Repr

namespace WireType

def all : List WireType := [.varint, .fixed64, .lengthDelimited, .startGroup, .endGroup, .fixed32]

def number (w : WireType) : Nat := w.ctorIdx

def ofNat? (n : Nat) : Option WireType := all[n]?

theorem ofNat?_number (w : WireType) : ofNat? w.number = some w := by cases w <;> rfl

def name : WireType → String
  | .varint => "Varint"
  | .fixed64 => "SixtyFourBit"
  | .lengthDelimited => "LengthDelimited"
  | .startGroup => "StartGroup"
  | .endGroup => "EndGroup"
  | .fixed32 => "ThirtyTwoBit"

end WireType

/-- Why octets are not the fields of a message. -/
inductive Fault where
  | varint
  | key (value : Nat)
  | wireType (value : Nat)
  | tagZero
  | mismatch (actual expected : WireType)
  | underflow
  | endGroup
  | lengthExceeded
  | depth
  deriving DecidableEq, Repr

def Fault.message : Fault → String
  | .varint => "invalid varint"
  | .key value => "invalid key value: " ++ toString value
  | .wireType value => "invalid wire type value: " ++ toString value
  | .tagZero => "invalid tag value: 0"
  | .mismatch actual expected =>
      "invalid wire type: " ++ actual.name ++ " (expected " ++ expected.name ++ ")"
  | .underflow => "buffer underflow"
  | .endGroup => "unexpected end group tag"
  | .lengthExceeded => "delimited length exceeded"
  | .depth => "recursion limit reached"

/-- How deep groups may nest in a message read on its own. -/
def depthLimit : Nat := 100

structure FieldKey where
  tag : Nat
  wire : WireType
  deriving DecidableEq, Repr

def FieldKey.number (k : FieldKey) : Nat := k.tag * 8 + k.wire.number

def putKey (k : FieldKey) : Bytes := putVarint k.number

/-- The lowest `count` octets of a number, least first. -/
def littleEndian : Nat → Nat → Bytes
  | 0, _ => []
  | count + 1, n => UInt8.ofNat (n % 256) :: littleEndian count (n / 256)

/-- The value of a field that is no group. -/
inductive Content where
  | varint (n : UInt64)
  | fixed64 (n : UInt64)
  | fixed32 (n : UInt32)
  | chunk (b : Bytes)
  deriving DecidableEq, Repr

def Content.wire : Content → WireType
  | .varint _ => .varint
  | .fixed64 _ => .fixed64
  | .fixed32 _ => .fixed32
  | .chunk _ => .lengthDelimited

def putContent : Content → Bytes
  | .varint n => putVarint n.toNat
  | .fixed64 n => littleEndian 8 n.toNat
  | .fixed32 n => littleEndian 4 n.toNat
  | .chunk b => putVarint b.length ++ b

structure Field where
  tag : Nat
  content : Content
  deriving DecidableEq, Repr

def Field.put (f : Field) : Bytes := putKey ⟨f.tag, f.content.wire⟩ ++ putContent f.content

/-- A key fits 32 bits, has a known wire type, and a tag other than zero; the first of these that
fails is reported. -/
def getKey (b : Bytes) : Except Fault (FieldKey × Bytes) :=
  match getVarint b with
  | none => .error .varint
  | some (key, rest) =>
      if UInt32.size ≤ key then .error (.key key)
      else match WireType.ofNat? (key % 8) with
        | none => .error (.wireType (key % 8))
        | some wire => if key / 8 = 0 then .error .tagZero else .ok (⟨key / 8, wire⟩, rest)

/-- Reads a length and that many octets. -/
def getChunk (b : Bytes) : Except Fault (Bytes × Bytes) :=
  match getVarint b with
  | none => .error .varint
  | some (n, rest) =>
      if rest.length < n then .error .underflow else .ok (rest.take n, rest.drop n)

def skipOctets (n : Nat) (b : Bytes) : Except Fault Bytes :=
  if b.length < n then .error .underflow else .ok (b.drop n)

/-- Skips a value that is no group. -/
def skipPlain (wire : WireType) (b : Bytes) : Except Fault Bytes :=
  match wire with
  | .varint => match getVarint b with
      | none => .error .varint
      | some (_, rest) => .ok rest
  | .fixed64 => skipOctets 8 b
  | .fixed32 => skipOctets 4 b
  | .lengthDelimited => (getChunk b).map (·.2)
  | .startGroup | .endGroup => .error .endGroup

theorem getKey_shorter {b : Bytes} {k : FieldKey} {rest : Bytes} (h : getKey b = .ok (k, rest)) :
    rest.length < b.length := by
  unfold getKey at h
  split at h
  · cases h
  · next hv =>
    have := getVarint_shorter hv
    split at h
    · cases h
    · split at h
      · cases h
      · split at h
        · cases h
        · cases h; exact this

theorem getChunk_shorter {b chunk rest : Bytes} (h : getChunk b = .ok (chunk, rest)) :
    rest.length < b.length := by
  unfold getChunk at h
  split at h
  · cases h
  · next hv =>
    have := getVarint_shorter hv
    split at h
    · cases h
    · cases h; simp only [List.length_drop]; omega

theorem skipOctets_le {n : Nat} {b rest : Bytes} (h : skipOctets n b = .ok rest) :
    rest.length ≤ b.length := by
  unfold skipOctets at h
  split at h
  · cases h
  · cases h; simp

theorem skipPlain_le {wire : WireType} {b rest : Bytes} (h : skipPlain wire b = .ok rest) :
    rest.length ≤ b.length := by
  cases wire with
  | varint =>
    simp only [skipPlain] at h
    split at h
    · cases h
    · next hv => cases h; exact Nat.le_of_lt (getVarint_shorter hv)
  | fixed64 => exact skipOctets_le h
  | fixed32 => exact skipOctets_le h
  | lengthDelimited =>
    simp only [skipPlain] at h
    cases hc : getChunk b with
    | error e => rw [hc] at h; cases h
    | ok p => rw [hc] at h; cases h; exact Nat.le_of_lt (getChunk_shorter hc)
  | startGroup => cases h
  | endGroup => cases h

/-- Reads one field inside the groups `opened`, innermost first, and gives the groups still open
after it. A field `d` groups down needs a limit above `d`. -/
def stepGroup (limit : Nat) (tag : Nat) (outer : List Nat) (b : Bytes) :
    Except Fault (List Nat × Bytes) := do
  let (key, rest) ← getKey b
  if key.wire = .endGroup then
    if key.tag = tag then return (outer, rest) else throw .endGroup
  else if limit ≤ outer.length + 1 then throw .depth
  else if key.wire = .startGroup then return (key.tag :: tag :: outer, rest)
  else return (tag :: outer, ← skipPlain key.wire rest)

theorem stepGroup_shorter {limit tag : Nat} {outer opened : List Nat} {b rest : Bytes}
    (h : stepGroup limit tag outer b = .ok (opened, rest)) : rest.length < b.length := by
  unfold stepGroup at h
  cases hk : getKey b with
  | error e => rw [hk] at h; cases h
  | ok p =>
    obtain ⟨key, after⟩ := p
    have hlt := getKey_shorter hk
    rw [hk] at h
    simp only [bind, Except.bind, pure, Except.pure, throw, throwThe, MonadExceptOf.throw] at h
    split at h
    · split at h
      · cases h; exact hlt
      · cases h
    · split at h
      · cases h
      · split at h
        · cases h; exact hlt
        · cases hp : skipPlain key.wire after with
          | error e => rw [hp] at h; cases h
          | ok r =>
            rw [hp] at h; cases h
            exact Nat.lt_of_le_of_lt (skipPlain_le hp) hlt

/-- Skips to the end of all the groups in `opened`. -/
def skipGroups (limit : Nat) (opened : List Nat) (b : Bytes) : Except Fault Bytes :=
  match opened with
  | [] => .ok b
  | tag :: outer =>
      match _h : stepGroup limit tag outer b with
      | .error e => .error e
      | .ok (opened, rest) => skipGroups limit opened rest
termination_by b.length
decreasing_by exact stepGroup_shorter ‹_›

theorem skipGroups_le (limit : Nat) (opened : List Nat) (b : Bytes) :
    ∀ rest, skipGroups limit opened b = .ok rest → rest.length ≤ b.length := by
  fun_induction skipGroups limit opened b with
  | case1 => rintro rest ⟨⟩; exact Nat.le_refl _
  | case2 => nofun
  | case3 _ _ _ _ _ hs ih =>
    exact fun r h => Nat.le_trans (ih r h) (Nat.le_of_lt (stepGroup_shorter hs))

/-- Skips the value of a field whose key was read. -/
def skipValue (limit : Nat) (key : FieldKey) (b : Bytes) : Except Fault Bytes :=
  if limit = 0 then .error .depth
  else match key.wire with
    | .startGroup => skipGroups limit [key.tag] b
    | wire => skipPlain wire b

theorem skipValue_le {limit : Nat} {key : FieldKey} {b rest : Bytes}
    (h : skipValue limit key b = .ok rest) : rest.length ≤ b.length := by
  unfold skipValue at h
  split at h
  · cases h
  · split at h
    · exact skipGroups_le _ _ _ _ h
    · exact skipPlain_le h

end CallGate.Wire
