/-! Octet strings, and the octets of a text. -/

namespace CallGate

/-- A string of octets, in order. -/
abbrev Bytes := List UInt8

namespace Bytes

/-- The UTF-8 octets of a text. -/
def ofText (s : String) : Bytes := s.toList.flatMap String.utf8EncodeChar

/-- The text whose UTF-8 octets are `b`, if there is one. -/
def text? (b : Bytes) : Option String := String.fromUTF8? b.toByteArray

theorem toByteArray_ofText (s : String) : (ofText s).toByteArray = s.toByteArray := by
  conv => rhs; rw [← String.ofList_toList (s := s), String.toByteArray_ofList]
  rfl

@[simp] theorem text?_ofText (s : String) : (ofText s).text? = some s := by
  have h := toByteArray_ofText s
  unfold text? String.fromUTF8?
  rw [h, dif_pos s.isValidUTF8]
  rfl

theorem eq_ofText_of_text? {b : Bytes} {s : String} (h : b.text? = some s) : b = ofText s := by
  unfold text? String.fromUTF8? at h
  split at h
  · next hv =>
    have hs : b.toByteArray = s.toByteArray := by
      rw [← Option.some.inj h]; rfl
    rw [← toByteArray_ofText] at hs
    have := congrArg ByteArray.data hs
    simpa using congrArg Array.toList this
  · cases h

theorem text?_eq_some_iff {b : Bytes} {s : String} : b.text? = some s ↔ b = ofText s :=
  ⟨eq_ofText_of_text?, fun h => h ▸ text?_ofText s⟩

theorem ofText_injective {s t : String} (h : ofText s = ofText t) : s = t := by
  have read := text?_ofText s
  rw [h, text?_ofText] at read
  exact (Option.some.inj read).symm

@[simp] theorem ofText_append (s t : String) : ofText (s ++ t) = ofText s ++ ofText t := by
  simp [ofText]

end Bytes
end CallGate
