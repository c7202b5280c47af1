import CallGate.Metadata

/-! Texts as header values. Any character but a control character can be sent, but only an ASCII
text is read back. -/

namespace CallGate

/-- Whether a text has ASCII characters only. -/
def Text.isAscii (s : String) : Bool := s.toList.all fun c => c.toNat < 128

theorem Text.isAscii_iff {s : String} : isAscii s = true ↔ ∀ c ∈ s.toList, c.toNat < 128 := by
  simp [isAscii]

namespace Bytes

private theorem utf8EncodeChar_of_lt {c : Char} (h : c.toNat < 128) :
    String.utf8EncodeChar c = [UInt8.ofNat c.toNat] := by
  have hv : c.val.toNat ≤ 127 := by
    have : c.val.toNat = c.toNat := rfl
    omega
  simp only [String.utf8EncodeChar, hv, if_true]
  rfl

/-- Any other character starts with an octet that no ASCII text has. -/
private theorem utf8EncodeChar_of_le {c : Char} (h : 128 ≤ c.toNat) :
    ∃ b ∈ String.utf8EncodeChar c, 128 ≤ b.toNat := by
  have hv : ¬ c.val.toNat ≤ 127 := by
    have : c.val.toNat = c.toNat := rfl
    omega
  simp only [String.utf8EncodeChar, hv, if_false]
  by_cases two : c.val.toNat ≤ 2047
  · rw [if_pos two]
    refine ⟨_, List.mem_cons_self, ?_⟩
    rw [UInt8.toNat_ofNat']
    omega
  · rw [if_neg two]
    by_cases three : c.val.toNat ≤ 65535
    · rw [if_pos three]
      refine ⟨_, List.mem_cons_self, ?_⟩
      rw [UInt8.toNat_ofNat']
      omega
    · rw [if_neg three]
      refine ⟨_, List.mem_cons_self, ?_⟩
      rw [UInt8.toNat_ofNat']
      omega

private theorem toNat_octet {c : Char} (h : c.toNat < 128) :
    (UInt8.ofNat c.toNat).toNat = c.toNat := by
  rw [UInt8.toNat_ofNat']
  omega

/-- The octets of an ASCII text are the codes of its characters. -/
theorem map_toNat_ofText {s : String} (h : Text.isAscii s = true) :
    (ofText s).map UInt8.toNat = s.toList.map Char.toNat := by
  have codes : ∀ cs : List Char, (∀ c ∈ cs, c.toNat < 128) →
      (cs.flatMap String.utf8EncodeChar).map UInt8.toNat = cs.map Char.toNat := by
    intro cs hcs
    induction cs with
    | nil => rfl
    | cons c cs ih =>
      have hc := hcs c (by simp)
      have rest := ih fun d hd => hcs d (by simp [hd])
      rw [List.flatMap_cons, List.map_append, rest, utf8EncodeChar_of_lt hc]
      simp only [List.map_cons, List.map_nil, toNat_octet hc, List.singleton_append]
  exact codes s.toList (Text.isAscii_iff.1 h)

theorem lt_of_mem_ofText {s : String} (h : Text.isAscii s = true) {b : UInt8}
    (hb : b ∈ ofText s) : b.toNat < 128 := by
  have hn : b.toNat ∈ s.toList.map Char.toNat := by
    rw [← map_toNat_ofText h]
    exact List.mem_map_of_mem hb
  obtain ⟨c, hc, heq⟩ := List.mem_map.1 hn
  rw [← heq]
  exact Text.isAscii_iff.1 h c hc

/-- The text whose characters have given codes below 128 has these codes for its octets. -/
theorem ofText_ofOctets {b : Bytes} (low : ∀ c ∈ b, c.toNat < 128) :
    ofText (String.ofList (b.map fun c => Char.ofNat c.toNat)) = b := by
  induction b with
  | nil => rfl
  | cons c b ih =>
    obtain ⟨first, rest⟩ := List.forall_mem_cons.1 low
    have code : (Char.ofNat c.toNat).toNat = c.toNat := by
      have valid : c.toNat.isValidChar := .inl (by omega)
      rw [Char.ofNat, dif_pos valid]
      rfl
    have tail := ih rest
    simp only [ofText, String.toList_ofList] at tail ⊢
    rw [List.map_cons, List.flatMap_cons, tail, utf8EncodeChar_of_lt (by rwa [code]), code,
      UInt8.ofNat_toNat]
    rfl

theorem exists_high_of_not_isAscii {s : String} (h : Text.isAscii s = false) :
    ∃ b ∈ ofText s, 128 ≤ b.toNat := by
  obtain ⟨c, hc, high⟩ : ∃ c ∈ s.toList, 128 ≤ c.toNat := by simpa [Text.isAscii] using h
  obtain ⟨b, hb, hle⟩ := utf8EncodeChar_of_le high
  exact ⟨b, List.mem_flatMap.2 ⟨c, hc, hb⟩, hle⟩

end Bytes

namespace Metadata

/-- Of the octets that can be sent, only those of ASCII characters are plain text. -/
theorem isVisible_iff {b : UInt8} : isVisible b = true ↔ isLegal b = true ∧ b.toNat < 128 := by
  simp only [isVisible, isLegal, Bool.or_eq_true, Bool.and_eq_true, beq_iff_eq, bne_iff_ne,
    decide_eq_true_eq, UInt8.le_iff_toNat_le, UInt8.lt_iff_toNat_lt, ← UInt8.toNat_inj, ne_eq]
  simp only [UInt8.reduceToNat]
  omega

theorem valueOf?_eq_some_iff {text : String} {value : Bytes} :
    valueOf? text = some value ↔ (∀ b ∈ value, isLegal b = true) ∧ value = Bytes.ofText text := by
  simp only [valueOf?]
  split
  · next legal =>
    rw [List.all_eq_true] at legal
    constructor
    · rintro ⟨⟩
      exact ⟨legal, rfl⟩
    · rintro ⟨-, rfl⟩
      rfl
  · next illegal =>
    rw [List.all_eq_true] at illegal
    constructor
    · intro h
      cases h
    · rintro ⟨legal, rfl⟩
      exact absurd legal illegal

/-- A header that carries an ASCII text is read back as that text. -/
theorem textOf?_of_isAscii {text : String} {value : Bytes} (h : valueOf? text = some value)
    (ascii : Text.isAscii text = true) : textOf? value = some text := by
  obtain ⟨legal, rfl⟩ := valueOf?_eq_some_iff.1 h
  have visible : (Bytes.ofText text).all isVisible = true := by
    rw [List.all_eq_true]
    intro b hb
    exact isVisible_iff.2 ⟨legal b hb, Bytes.lt_of_mem_ofText ascii hb⟩
  have chars : (Bytes.ofText text).map (fun b => Char.ofNat b.toNat) = text.toList := by
    have := congrArg (List.map Char.ofNat) (Bytes.map_toNat_ofText ascii)
    simpa [Function.comp_def, Char.ofNat_toNat] using this
  rw [textOf?, if_pos visible, chars, String.ofList_toList]

/-- A header that carries any other text is not read at all. -/
theorem textOf?_of_not_isAscii {text : String} {value : Bytes} (h : valueOf? text = some value)
    (ascii : Text.isAscii text = false) : textOf? value = none := by
  obtain ⟨-, rfl⟩ := valueOf?_eq_some_iff.1 h
  obtain ⟨b, hb, high⟩ := Bytes.exists_high_of_not_isAscii ascii
  rw [textOf?, if_neg]
  intro visible
  have low := (isVisible_iff.1 (List.all_eq_true.1 visible b hb)).2
  omega

/-- The octets of a text are read back as that text, or not at all. -/
theorem textOf?_ofText (text : String) : textOf? (Bytes.ofText text) =
    if (Bytes.ofText text).all isVisible then some text else none := by
  by_cases visible : (Bytes.ofText text).all isVisible = true
  · have legal : valueOf? text = some (Bytes.ofText text) := by
      rw [valueOf?_eq_some_iff]
      refine ⟨?_, rfl⟩
      intro b hb
      exact (isVisible_iff.1 (List.all_eq_true.1 visible b hb)).1
    have ascii : Text.isAscii text = true := by
      rw [← Bool.not_eq_false]
      intro other
      have garbled := textOf?_of_not_isAscii legal other
      simp [textOf?, visible] at garbled
    rw [if_pos visible, textOf?_of_isAscii legal ascii]
  · rw [if_neg visible, textOf?, if_neg visible]

/-- A header is read as the text whose octets it holds, if that is plain text throughout. -/
theorem textOf?_eq_some_iff {value : Bytes} {text : String} :
    textOf? value = some text ↔ value.all isVisible = true ∧ value = Bytes.ofText text := by
  constructor
  · intro h
    unfold textOf? at h
    split at h
    · next visible =>
      refine ⟨visible, ?_⟩
      rw [← Option.some.inj h, Bytes.ofText_ofOctets]
      intro b hb
      exact (isVisible_iff.1 (List.all_eq_true.1 visible b hb)).2
    · cases h
  · rintro ⟨visible, rfl⟩
    rw [textOf?_ofText, if_pos visible]

theorem all_isVisible_ofText {text : String}
    (printable : ∀ c ∈ text.toList, 32 ≤ c.toNat ∧ c.toNat < 127) :
    (Bytes.ofText text).all isVisible = true := by
  have ascii : Text.isAscii text = true := by
    rw [Text.isAscii_iff]
    intro c hc
    have := (printable c hc).2
    omega
  rw [List.all_eq_true]
  intro b hb
  have code : b.toNat ∈ text.toList.map Char.toNat := by
    rw [← Bytes.map_toNat_ofText ascii]
    exact List.mem_map_of_mem hb
  obtain ⟨c, hc, same⟩ := List.mem_map.1 code
  have range := printable c hc
  simp only [isVisible, Bool.or_eq_true, Bool.and_eq_true, decide_eq_true_eq, UInt8.le_iff_toNat_le,
    UInt8.lt_iff_toNat_lt, UInt8.reduceToNat]
  omega

end Metadata
end CallGate
