/-! A text cut in two at the first place of a character. -/

namespace CallGate.Text

/-- The parts before and after the first `c`, which belongs to neither. -/
def cutList? (c : Char) (cs : List Char) : Option (List Char × List Char) :=
  match cs.dropWhile (· != c) with
  | _ :: after => some (cs.takeWhile (· != c), after)
  | [] => none

def cut? (c : Char) (s : String) : Option (String × String) :=
  (cutList? c s.toList).map fun p => (String.ofList p.1, String.ofList p.2)

theorem cutList?_append {c : Char} {front : List Char} (after : List Char) (h : c ∉ front) :
    cutList? c (front ++ c :: after) = some (front, after) := by
  have keep : ∀ d ∈ front, (d != c) = true := by
    intro d hd
    simp only [bne_iff_ne, ne_eq]
    rintro rfl
    exact h hd
  have ht : (front ++ c :: after).takeWhile (· != c) = front := by
    rw [List.takeWhile_append_of_pos keep]; simp
  have hd : (front ++ c :: after).dropWhile (· != c) = c :: after := by
    rw [List.dropWhile_append_of_pos keep]; simp
  simp [cutList?, ht, hd]

theorem cutList?_eq_none {c : Char} {cs : List Char} (h : c ∉ cs) : cutList? c cs = none := by
  have hd : cs.dropWhile (· != c) = [] := by
    induction cs with
    | nil => rfl
    | cons d cs ih =>
      simp only [List.mem_cons, not_or] at h
      have hd : (d != c) = true := by simpa using Ne.symm h.1
      simp [List.dropWhile, hd, ih h.2]
  simp [cutList?, hd]

theorem cutList?_eq_some_iff {c : Char} {cs front after : List Char} :
    cutList? c cs = some (front, after) ↔ c ∉ front ∧ cs = front ++ c :: after := by
  constructor
  · intro h
    by_cases found : c ∈ cs
    · obtain ⟨before, rest, split, first⟩ := List.eq_append_cons_of_mem found
      rw [split, cutList?_append rest first] at h
      cases h
      exact ⟨first, split⟩
    · rw [cutList?_eq_none found] at h
      cases h
  · rintro ⟨first, rfl⟩
    exact cutList?_append after first

theorem cut?_append {c : Char} {front : String} (after : String) (h : c ∉ front.toList) :
    cut? c (front ++ String.singleton c ++ after) = some (front, after) := by
  simp [cut?, cutList?_append after.toList h]

theorem cut?_eq_none {c : Char} {s : String} (h : c ∉ s.toList) : cut? c s = none := by
  simp [cut?, cutList?_eq_none h]

/-- A text is cut into what stands before its first `c` and what follows that. -/
theorem cut?_eq_some_iff {c : Char} {s front after : String} :
    cut? c s = some (front, after) ↔
      c ∉ front.toList ∧ s = front ++ String.singleton c ++ after := by
  constructor
  · intro h
    obtain ⟨⟨cs, ds⟩, cut, same⟩ := Option.map_eq_some_iff.1 h
    cases same
    obtain ⟨first, split⟩ := cutList?_eq_some_iff.1 cut
    refine ⟨by simpa using first, ?_⟩
    apply String.toList_injective
    simpa using split
  · rintro ⟨first, rfl⟩
    exact cut?_append after first

end CallGate.Text
