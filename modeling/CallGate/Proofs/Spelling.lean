import CallGate.Text.Blank
import CallGate.Text.Lowercase
import Mathlib.Data.List.DropRight

/-! What a text is without the white space at its ends, and which texts have a plain word as their
lower case. Beyond ASCII only the Kelvin sign has a plain letter as its lower case, so a word without
a `k` is spelled with its own letters in either case and with nothing else. -/

namespace CallGate.Text

/-- The text is `core` amid white space, and `core` neither starts nor ends with white space. -/
structure IsTrimmed (cs core : List Char) : Prop where
  amid : ∃ before after, cs = before ++ core ++ after ∧
    (∀ c ∈ before, isBlank c = true) ∧ ∀ c ∈ after, isBlank c = true
  first : ∀ c ∈ core.head?, isBlank c = false
  last : ∀ c ∈ core.getLast?, isBlank c = false

theorem trim_eq_rdropWhile (cs : List Char) : trim cs = (cs.dropWhile isBlank).rdropWhile isBlank :=
  rfl

theorem dropWhile_of_first {core : List Char} (nonempty : core ≠ []) (rest : List Char)
    (first : ∀ c ∈ core.head?, isBlank c = false) :
    (core ++ rest).dropWhile isBlank = core ++ rest := by
  obtain ⟨c, core, rfl⟩ := List.exists_cons_of_ne_nil nonempty
  have plain : isBlank c = false := first c rfl
  exact List.dropWhile_cons_of_neg (by simp [plain])

theorem rdropWhile_of_last {core after : List Char} (last : ∀ c ∈ core.getLast?, isBlank c = false)
    (blank : ∀ c ∈ after, isBlank c = true) : (core ++ after).rdropWhile isBlank = core := by
  have dropped : (core ++ after).rdropWhile isBlank = core.rdropWhile isBlank := by
    rw [List.rdropWhile, List.reverse_append, List.dropWhile_append_of_pos (by simpa using blank)]
    rfl
  rw [dropped, List.rdropWhile_eq_self_iff]
  intro nonempty
  simp [last _ (List.getLast?_eq_getLast_of_ne_nil nonempty)]

theorem IsTrimmed.eq_trim {cs core : List Char} (h : IsTrimmed cs core) : core = trim cs := by
  obtain ⟨⟨before, after, rfl, blankBefore, blankAfter⟩, first, last⟩ := h
  rw [trim_eq_rdropWhile, List.append_assoc, List.dropWhile_append_of_pos blankBefore]
  by_cases empty : core = []
  · have gone : after.dropWhile isBlank = [] := List.dropWhile_eq_nil_iff.2 blankAfter
    rw [empty, List.nil_append, gone, List.rdropWhile_nil]
  · rw [dropWhile_of_first empty after first, rdropWhile_of_last last blankAfter]

theorem isTrimmed_trim (cs : List Char) : IsTrimmed cs (trim cs) where
  amid := by
    refine ⟨cs.takeWhile isBlank, (cs.dropWhile isBlank).rtakeWhile isBlank, ?_,
      fun _ => List.mem_takeWhile_imp, fun _ => List.mem_rtakeWhile_imp⟩
    rw [trim_eq_rdropWhile, List.append_assoc, List.rdropWhile_append_rtakeWhile,
      List.takeWhile_append_dropWhile]
  first := by
    intro c hc
    have head : (cs.dropWhile isBlank).head? = some c := by
      obtain ⟨rest, same⟩ : trim cs <+: cs.dropWhile isBlank := List.rdropWhile_prefix _ _
      rw [← same, List.head?_append, hc]
      rfl
    have plain := List.head?_dropWhile_not isBlank cs
    rw [head] at plain
    exact plain
  last := by
    intro c hc
    obtain ⟨nonempty, rfl⟩ := List.mem_getLast?_eq_getLast hc
    exact Bool.eq_false_iff.2 (List.rdropWhile_last_not isBlank _ nonempty)

/-- The Kelvin sign, a capital of its own whose lower case is the letter `k`. -/
def kelvin : Char := Char.ofNat 0x212A

/-- The capitals of a run become characters beyond ASCII, or the run is the Kelvin sign alone. -/
def CaseRun.staysForeign (r : CaseRun) : Bool :=
  (r.first == kelvin.toNat && r.last == kelvin.toNat) ||
    (128 ≤ r.first + r.shift && (r.last + r.shift < 0xD800 ||
      (0xDFFF < r.first + r.shift && r.last + r.shift < 0x110000)))

theorem lowercaseRuns_stayForeign : lowercaseRuns.all CaseRun.staysForeign = true := by
  decide +kernel

theorem toNat_ofNat_of_scalar {n : Nat} (h : n < 0xD800 ∨ 0xDFFF < n ∧ n < 0x110000) :
    (Char.ofNat n).toNat = n := by
  have valid : n.isValidChar := h
  rw [Char.ofNat, dif_pos valid]
  rfl

theorem foreign_of_holds {r : CaseRun} {n : Nat} (mem : r ∈ lowercaseRuns) (holds : r.holds n)
    (other : n ≠ kelvin.toNat) : 128 ≤ (Char.ofNat (n + r.shift).toNat).toNat := by
  have stays : r.staysForeign = true := List.all_eq_true.1 lowercaseRuns_stayForeign r mem
  simp only [CaseRun.holds, Bool.and_eq_true, decide_eq_true_eq] at holds
  simp only [CaseRun.staysForeign, Bool.or_eq_true, Bool.and_eq_true, decide_eq_true_eq,
    beq_iff_eq] at stays
  rw [toNat_ofNat_of_scalar (by omega)]
  omega

theorem foreign_of_lowercaseChar {c : Char} (foreign : 128 ≤ c.toNat) (other : c ≠ kelvin) :
    ∃ d ∈ lowercaseChar c, 128 ≤ d.toNat := by
  unfold lowercaseChar
  rw [if_neg (by omega)]
  split
  · exact ⟨Char.ofNat 0x307, by simp, by decide⟩
  · split
    · next r found =>
      have holds : r.holds c.toNat = true := by simpa using List.find?_some found
      have code : c.toNat ≠ kelvin.toNat := fun same => other (Char.toNat_inj.1 same)
      exact ⟨_, List.mem_singleton_self _,
        foreign_of_holds (List.mem_of_find?_eq_some found) holds code⟩
    · exact ⟨c, List.mem_singleton_self c, foreign⟩

/-- A character that is not plain leaves a mark in lower case: a character that is not plain either, or
the letter `k`. -/
theorem mark_of_lowercaseAmid {c : Char} (foreign : 128 ≤ c.toNat) (before after : List Char) :
    ∃ d ∈ lowercaseAmid before c after, 128 ≤ d.toNat ∨ d = 'k' := by
  by_cases sigma : c = 'Σ'
  · have small : lowercaseAmid before c after = ['ς'] ∨ lowercaseAmid before c after = ['σ'] := by
      rw [lowercaseAmid, if_pos sigma]
      split <;> simp
    rcases small with small | small <;> rw [small] <;>
      exact ⟨_, List.mem_singleton_self _, .inl (by decide)⟩
  · rw [lowercaseAmid, if_neg sigma]
    by_cases other : c = kelvin
    · exact ⟨'k', by subst other; decide +kernel, .inr rfl⟩
    · obtain ⟨d, mem, far⟩ := foreign_of_lowercaseChar foreign other
      exact ⟨d, mem, .inl far⟩

theorem mark_of_lowercaseAfter {cs : List Char} {c : Char} (mem : c ∈ cs) (foreign : 128 ≤ c.toNat)
    (before : List Char) : ∃ d ∈ lowercaseAfter before cs, 128 ≤ d.toNat ∨ d = 'k' := by
  induction cs generalizing before with
  | nil => cases mem
  | cons e cs ih =>
    rw [lowercaseAfter]
    rcases List.mem_cons.1 mem with rfl | mem
    · obtain ⟨d, hd, mark⟩ := mark_of_lowercaseAmid foreign before cs
      exact ⟨d, List.mem_append_left _ hd, mark⟩
    · obtain ⟨d, hd, mark⟩ := ih mem (e :: before)
      exact ⟨d, List.mem_append_right _ hd, mark⟩

theorem toLower_of_foreign {c : Char} (foreign : 128 ≤ c.toNat) : c.toLower = c := by
  have small : ¬ (c.val ≥ 65 ∧ c.val ≤ 90) := by
    rintro ⟨-, le⟩
    have bound : c.toNat ≤ 90 := UInt32.le_iff_toNat_le.1 le
    omega
  unfold Char.toLower
  simp [small]

/-- A plain word without a `k` is the lower case of its own spellings in ASCII and of nothing else. -/
theorem lowercase_eq_iff {cs word : List Char} (plain : ∀ d ∈ word, d.toNat < 128)
    (noKelvin : 'k' ∉ word) : lowercase cs = word ↔ cs.map Char.toLower = word := by
  constructor
  · -- any other character would leave its mark in the word
    rintro rfl
    have ascii : ∀ c ∈ cs, c.toNat < 128 := by
      intro c mem
      by_contra far
      obtain ⟨d, hd, foreign | rfl⟩ := mark_of_lowercaseAfter mem (Nat.le_of_not_lt far) []
      · exact absurd (plain d hd) (Nat.not_lt.2 foreign)
      · exact noKelvin hd
    exact (lowercase_ascii ascii).symm
  · rintro rfl
    refine lowercase_ascii fun c mem => ?_
    by_contra far
    have same : c.toLower = c := toLower_of_foreign (Nat.le_of_not_lt far)
    exact far (same ▸ plain c.toLower (List.mem_map_of_mem mem))

end CallGate.Text
