import CallGate.Wire.Field
import Mathlib.Order.Basic

/-! The forms that numbers and fields may take on the wire. A writer may spend more octets on a number
than it needs, and fields of any tag may come; whatever form they take, reading gives the same number
and the same value, and leaves what follows. -/

namespace CallGate.Wire

/-- The octets are digits of the number in base 128, least first, of which every one but the last
carries the high bit. The last ones may be zero. -/
inductive Digits : Nat → Bytes → Prop where
  | last {c : UInt8} (low : c.toNat < 128) : Digits c.toNat [c]
  | more {c : UInt8} {n : Nat} {b : Bytes} (high : 128 ≤ c.toNat) (rest : Digits n b) :
      Digits (c.toNat - 128 + 128 * n) (c :: b)

/-- The octets are a form of a number of 64 bits. -/
structure IsVarint (n : Nat) (b : Bytes) : Prop where
  digits : Digits n b
  short : b.length ≤ 10
  fits : n < UInt64.size

theorem Digits.getVarintWithin {left n : Nat} {b : Bytes} (digits : Digits n b)
    (short : b.length ≤ left + 1) (fits : n < varintBound left) (rest : Bytes) :
    getVarintWithin left (b ++ rest) = some (n, rest) := by
  induction digits generalizing left with
  | @last c low =>
    cases left with
    | zero =>
      -- the last octet that may be read holds a single bit
      have bit : c.toNat ≤ 1 := Nat.le_of_lt_succ fits
      simp [Wire.getVarintWithin, bit]
    | succ left => simp [Wire.getVarintWithin, low]
  | @more c n b high digits ih =>
    cases left with
    | zero =>
      cases digits <;> simp at short
    | succ left =>
      rw [varintBound] at fits
      have read := @ih left (by simpa using short) (by omega)
      simp [Wire.getVarintWithin, Nat.not_lt.2 high, read]

theorem IsVarint.getVarint {n : Nat} {b : Bytes} (h : IsVarint n b) (rest : Bytes) :
    getVarint (b ++ rest) = some (n, rest) :=
  h.digits.getVarintWithin h.short h.fits rest

theorem digits_putVarint (n : Nat) : Digits n (putVarint n) := by
  fun_induction putVarint n with
  | case1 n low =>
    have same : (UInt8.ofNat n).toNat = n := octet_toNat (by omega)
    have digits := Digits.last (c := UInt8.ofNat n) (by omega)
    rwa [same] at digits
  | case2 n high ih =>
    have same : (UInt8.ofNat (n % 128 + 128)).toNat = n % 128 + 128 := octet_toNat (by omega)
    have digits := Digits.more (c := UInt8.ofNat (n % 128 + 128)) (by omega) ih
    rw [same] at digits
    have sum : n % 128 + 128 - 128 + 128 * (n / 128) = n := by omega
    rwa [sum] at digits

theorem varintLength_le {left n : Nat} (fits : n < varintBound left) : varintLength n ≤ left + 1 := by
  induction left generalizing n with
  | zero =>
    have low : n < 128 := Nat.lt_of_lt_of_le fits (by decide)
    simp [varintLength, low]
  | succ left ih =>
    rw [varintLength]
    rw [varintBound] at fits
    split
    · omega
    · exact Nat.succ_le_succ (ih (by omega))

theorem isVarint_putVarint {n : Nat} (fits : n < UInt64.size) : IsVarint n (putVarint n) where
  digits := digits_putVarint n
  short := by
    rw [putVarint_length]
    exact @varintLength_le 9 n fits
  fits := fits

/-- The octets are a form of the value. -/
inductive Content.IsForm : Content → Bytes → Prop where
  | varint {n : UInt64} {b : Bytes} (form : IsVarint n.toNat b) : IsForm (.varint n) b
  | fixed64 (n : UInt64) : IsForm (.fixed64 n) (littleEndian 8 n.toNat)
  | fixed32 (n : UInt32) : IsForm (.fixed32 n) (littleEndian 4 n.toNat)
  | chunk {length chunk : Bytes} (form : IsVarint chunk.length length) :
      IsForm (.chunk chunk) (length ++ chunk)

def Field.key (f : Field) : FieldKey := ⟨f.tag, f.content.wire⟩

/-- A field with the octets that it is written with. Tags have 29 bits and are not zero. -/
structure Written where
  field : Field
  key : Bytes
  value : Bytes
  tag_pos : 0 < field.tag
  tag_lt : field.tag < 0x20000000
  key_form : IsVarint field.key.number key
  value_form : field.content.IsForm value

def Written.octets (w : Written) : Bytes := w.key ++ w.value

theorem Content.wire_ne_startGroup (content : Content) : content.wire ≠ .startGroup := by
  cases content <;> nofun

theorem WireType.number_lt (w : WireType) : w.number < 8 := by cases w <;> decide

theorem Field.number_key_lt {f : Field} (tag_lt : f.tag < 0x20000000) : f.key.number < UInt32.size := by
  have wire := f.content.wire.number_lt
  simp only [Field.key, FieldKey.number, UInt32.size]
  omega

theorem isVarint_putKey {f : Field} (tag_lt : f.tag < 0x20000000) :
    IsVarint f.key.number (putKey f.key) :=
  isVarint_putVarint (Nat.lt_trans (Field.number_key_lt tag_lt) (by decide))

/-- A field in its shortest form. -/
def Field.written (f : Field) (tag_pos : 0 < f.tag) (tag_lt : f.tag < 0x20000000)
    (value_form : f.content.IsForm (putContent f.content)) : Written where
  field := f
  key := putKey f.key
  value := putContent f.content
  tag_pos := tag_pos
  tag_lt := tag_lt
  key_form := isVarint_putKey tag_lt
  value_form := value_form

theorem getKey_append {f : Field} {key : Bytes} (tag_pos : 0 < f.tag) (tag_lt : f.tag < 0x20000000)
    (form : IsVarint f.key.number key) (rest : Bytes) : getKey (key ++ rest) = .ok (f.key, rest) := by
  have wire := f.content.wire.number_lt
  have small := Field.number_key_lt tag_lt
  have kind : WireType.ofNat? (f.key.number % 8) = some f.content.wire := by
    rw [← WireType.ofNat?_number f.content.wire]
    congr 1
    simp only [Field.key, FieldKey.number]
    omega
  have tag : f.key.number / 8 = f.tag := by
    simp only [Field.key, FieldKey.number]
    omega
  simp only [getKey, form.getVarint]
  rw [if_neg (Nat.not_le.2 small), kind]
  simp only [tag]
  rw [if_neg (Nat.ne_of_gt tag_pos)]
  rfl

@[simp] theorem length_littleEndian (count n : Nat) : (littleEndian count n).length = count := by
  induction count generalizing n with
  | zero => rfl
  | succ count ih => rw [littleEndian, List.length_cons, ih]

theorem getChunk_append {chunk length : Bytes} (form : IsVarint chunk.length length) (rest : Bytes) :
    getChunk (length ++ chunk ++ rest) = .ok (chunk, rest) := by
  rw [List.append_assoc]
  simp [getChunk, form.getVarint]

theorem skipOctets_append {n : Nat} {b : Bytes} (length : b.length = n) (rest : Bytes) :
    skipOctets n (b ++ rest) = .ok rest := by
  subst length
  simp [skipOctets]

theorem skipPlain_append {content : Content} {value : Bytes} (form : content.IsForm value)
    (rest : Bytes) : skipPlain content.wire (value ++ rest) = .ok rest := by
  cases form with
  | varint form => simp [skipPlain, Content.wire, form.getVarint]
  | fixed64 n => exact skipOctets_append (length_littleEndian 8 n.toNat) rest
  | fixed32 n => exact skipOctets_append (length_littleEndian 4 n.toNat) rest
  | chunk form => simp only [skipPlain, Content.wire, getChunk_append form, Except.map]

theorem skipValue_append {limit : Nat} (deep : 0 < limit) {f : Field} {value : Bytes}
    (form : f.content.IsForm value) (rest : Bytes) :
    skipValue limit f.key (value ++ rest) = .ok rest := by
  rw [skipValue, if_neg (Nat.ne_of_gt deep)]
  split
  · next group => exact absurd group f.content.wire_ne_startGroup
  · exact skipPlain_append form rest

end CallGate.Wire
