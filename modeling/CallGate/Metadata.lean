import CallGate.Base64
import CallGate.Text.Quoted

/-! The headers and trailers of a call: octet values under lower-case names, a name possibly
several times. Values under one name keep their order; that order is all a reader of one name sees. -/

namespace CallGate

/-- Entries in order of arrival. -/
structure Metadata where
  entries : List (String × Bytes) := []
  deriving DecidableEq, Repr

namespace Metadata

def empty : Metadata := {}

/-- The metadata with the one value `value` under `name`. -/
def single (name : String) (value : Bytes) : Metadata := ⟨[(name, value)]⟩

def isEmpty (m : Metadata) : Bool := m.entries.isEmpty

/-- The number of values, over all names. -/
def size (m : Metadata) : Nat := m.entries.length

/-- The values under a name, in order. -/
def values (m : Metadata) (name : String) : List Bytes :=
  (m.entries.filter (·.1 == name)).map (·.2)

def first? (m : Metadata) (name : String) : Option Bytes := (m.values name).head?

def mentions (m : Metadata) (name : String) : Bool := m.entries.any (·.1 == name)

/-- Adds the values of `n` after those of `m`. -/
def merge (m n : Metadata) : Metadata := ⟨m.entries ++ n.entries⟩

/-- The names `n` mentions get their values from `n` alone; the others keep theirs. -/
def replace (m n : Metadata) : Metadata :=
  merge ⟨m.entries.filter fun e => !n.mentions e.1⟩ n

@[simp] theorem values_empty (name : String) : empty.values name = [] := rfl

@[simp] theorem values_single (name : String) (value : Bytes) :
    (single name value).values name = [value] := by simp [single, values]

theorem values_single_of_ne {name other : String} (value : Bytes) (h : name ≠ other) :
    (single name value).values other = [] := by simp [single, values, h]

@[simp] theorem values_merge (m n : Metadata) (name : String) :
    (m.merge n).values name = m.values name ++ n.values name := by simp [merge, values]

theorem values_eq_nil_iff (m : Metadata) (name : String) :
    m.values name = [] ↔ m.mentions name = false := by
  simp [values, mentions, List.filter_eq_nil_iff]

theorem values_replace (m n : Metadata) (name : String) :
    (m.replace n).values name = if n.mentions name then n.values name else m.values name := by
  have kept : (Metadata.mk (m.entries.filter fun e => !n.mentions e.1)).values name =
      if n.mentions name then [] else m.values name := by
    unfold values
    rw [List.filter_filter]
    split
    · next h =>
      rw [List.map_eq_nil_iff, List.filter_eq_nil_iff]
      rintro ⟨k, v⟩ - hk
      simp only [Bool.and_eq_true, beq_iff_eq, Bool.not_eq_eq_eq_not, Bool.not_true] at hk
      rw [hk.1, h] at hk
      exact absurd hk.2 (by decide)
    · next h =>
      congr 1
      apply List.filter_congr
      rintro ⟨k, v⟩ -
      by_cases hk : k = name
      · subst hk; simpa using h
      · simp [hk]
  unfold replace
  rw [values_merge, kept]
  split
  · rfl
  · next h =>
    rw [(values_eq_nil_iff n name).2 (by simpa using h), List.append_nil]

/-- An octet that a header value may hold: a tab, or anything from the space on but the delete. -/
def isLegal (b : UInt8) : Bool := b == 9 || (32 ≤ b && b != 127)

/-- An octet of plain text: a tab, or a printable ASCII character. -/
def isVisible (b : UInt8) : Bool := b == 9 || (32 ≤ b && b < 127)

/-- The header value that carries a text, if every octet of the text is legal. -/
def valueOf? (text : String) : Option Bytes :=
  let b := Bytes.ofText text
  if b.all isLegal then some b else none

/-- The text of a header value, if it is plain text throughout. -/
def textOf? (value : Bytes) : Option String :=
  if value.all isVisible then some (String.ofList (value.map fun b => Char.ofNat b.toNat)) else none

/-- The octets of a header value that carries binary data. -/
def binaryOf (value : Bytes) : Except Base64.Fault Bytes := Base64.decode value

/-- The names in the order of their first values, each with all its values. -/
def groups (m : Metadata) : List (String × List Bytes) :=
  (m.entries.map (·.1)).eraseDups.map fun name => (name, m.values name)

private def quoteValueOctet (b : UInt8) : String :=
  if b = 34 then "\\\""
  else if isVisible b then (Char.ofNat b.toNat).toString
  else "\\x" ++ Text.hexDigits b.toNat

/-- A value between quotes, octets outside plain text by their code. -/
def quoteValue (value : Bytes) : String := "\"" ++ String.join (value.map quoteValueOctet) ++ "\""

/-- The diagnostic text of all headers. -/
def render (m : Metadata) : String :=
  let shown := m.groups.flatMap fun g => g.2.map fun v => Text.quote g.1 ++ ": " ++ quoteValue v
  "MetadataMap \x7b headers: \x7b" ++ String.intercalate ", " shown ++ "\x7d \x7d"

end Metadata
end CallGate
