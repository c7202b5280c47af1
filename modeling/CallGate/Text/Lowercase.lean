import CallGate.Text.CaseData
import CallGate.Text.Range

/-! Lower case by the full Unicode mapping. Two letters need more than a table: a capital I with a
dot becomes two characters, and a capital sigma depends on whether it ends its word. -/

namespace CallGate.Text

def CaseRun.holds (r : CaseRun) (n : Nat) : Bool :=
  r.first ≤ n && n ≤ r.last && (n - r.first) % r.stride == 0

/-- Lower case of one character on its own. -/
def lowercaseChar (c : Char) : List Char :=
  if c.toNat < 0x80 then [c.toLower]
  else if c.toNat = 0x130 then ['i', Char.ofNat 0x307]
  else match lowercaseRuns.find? (·.holds c.toNat) with
    | some r => [Char.ofNat (c.toNat + r.shift).toNat]
    | none => [c]

/-- Whether a cased letter comes next, characters that case ignores left aside. -/
def meetsCased (cs : List Char) : Bool :=
  match cs.dropWhile (inRanges caseIgnorableRanges) with
  | c :: _ => inRanges casedRanges c
  | [] => false

/-- Lower case of `c` between the characters before it, nearest first, and those after it. -/
def lowercaseAmid (before : List Char) (c : Char) (after : List Char) : List Char :=
  if c = 'Σ' then
    if meetsCased before && !meetsCased after then ['ς'] else ['σ']
  else lowercaseChar c

def lowercaseAfter (before : List Char) : List Char → List Char
  | [] => []
  | c :: rest => lowercaseAmid before c rest ++ lowercaseAfter (c :: before) rest

def lowercase (cs : List Char) : List Char := lowercaseAfter [] cs

theorem casedRanges_ascending : ascending casedRanges = true := by decide +kernel

theorem caseIgnorableRanges_ascending : ascending caseIgnorableRanges = true := by decide +kernel

theorem lowercaseChar_ascii {c : Char} (h : c.toNat < 0x80) : lowercaseChar c = [c.toLower] := by
  simp [lowercaseChar, h]

theorem lowercase_ascii {cs : List Char} (h : ∀ c ∈ cs, c.toNat < 0x80) :
    lowercase cs = cs.map Char.toLower := by
  suffices ∀ before, lowercaseAfter before cs = cs.map Char.toLower from this []
  induction cs with
  | nil => intro _; rfl
  | cons c cs ih =>
    intro before
    have hc := h c (by simp)
    have hs : c ≠ 'Σ' := by rintro rfl; exact absurd hc (by decide)
    simp [lowercaseAfter, lowercaseAmid, hs, lowercaseChar_ascii hc,
      ih (fun d hd => h d (by simp [hd]))]

end CallGate.Text
