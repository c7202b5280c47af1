import CallGate.Text.Blank

/-! The smallest parts of a pattern: characters, and what a backslash introduces. No table of cases
and none of categories is at hand, so what would need one is not allowed. -/

namespace CallGate.Text.Pattern

/-- How a pattern is read. -/
structure Mode where
  /-- Case is left aside. -/
  fold : Bool := false
  /-- The pattern is about characters; otherwise it is about octets. -/
  unicode : Bool := true
  /-- White space and comments say nothing. -/
  spaced : Bool := false
  deriving DecidableEq, Repr

/-- A text without the white space and the comments that it starts with. -/
def skipSpace (comment : Bool) : List Char → List Char
  | [] => []
  | c :: cs =>
      if comment then skipSpace (c != '\n') cs
      else if isBlank c then skipSpace false cs
      else if c = '#' then skipSpace true cs
      else c :: cs

def Mode.skip (m : Mode) (cs : List Char) : List Char := if m.spaced then skipSpace false cs else cs

/-- The first character that is neither white space nor the start of a comment. A comment does not
hide what stands in it. -/
def peekSpace (comment : Bool) : List Char → Option Char
  | [] => none
  | c :: cs =>
      if isBlank c then peekSpace comment cs
      else if c = '#' && !comment then peekSpace true cs
      else some c

def Mode.peek (m : Mode) (cs : List Char) : Option Char :=
  if m.spaced then (peekSpace false cs).or cs.head? else cs.head?

theorem length_skipSpace_le (comment : Bool) (cs : List Char) :
    (skipSpace comment cs).length ≤ cs.length := by
  induction cs generalizing comment with
  | nil => simp [skipSpace]
  | cons c cs ih =>
    have (b : Bool) : (skipSpace b cs).length ≤ (c :: cs).length :=
      Nat.le_trans (ih b) (by simp)
    unfold skipSpace
    split
    · exact this _
    · split
      · exact this _
      · split
        · exact this _
        · exact Nat.le_refl _

theorem Mode.length_skip_le (m : Mode) (cs : List Char) : (m.skip cs).length ≤ cs.length := by
  unfold Mode.skip
  split
  · exact length_skipSpace_le false cs
  · exact Nat.le_refl _

inductive Atom where
  /-- One character, and whether the two digits of its code stand for it. -/
  | char (c : Char) (byCode : Bool)
  /-- The digits, the blanks or the characters of words, or all but these. -/
  | kind (negated : Bool)
  /-- A place where the text starts or ends. -/
  | edge
  /-- A place where a word does, or does not. -/
  | wordEdge
  deriving DecidableEq, Repr

def hexDigit? (c : Char) : Option Nat :=
  if c.isDigit then some (c.toNat - '0'.toNat)
  else if 'a' ≤ c ∧ c ≤ 'f' then some (c.toNat - 'a'.toNat + 10)
  else if 'A' ≤ c ∧ c ≤ 'F' then some (c.toNat - 'A'.toNat + 10)
  else none

/-- The character with a code of so many digits more, after digits that stand for `value`. -/
def code? (m : Mode) : Nat → Nat → List Char → Option (Char × List Char)
  | 0, value, cs => if value.isValidChar then some (Char.ofNat value, m.skip cs) else none
  | left + 1, value, cs =>
      match m.skip cs with
      | [] => none
      | c :: rest => (hexDigit? c).bind fun digit => code? m left (16 * value + digit) rest

/-- How many digits the code has that a letter introduces. -/
def codeLength? : Char → Option Nat
  | 'x' => some 2
  | 'u' => some 4
  | 'U' => some 8
  | _ => none

/-- What one letter or sign stands for after a backslash. Signs of ASCII stand for themselves, the
two that are places apart. -/
def escaped? : Char → Option Atom
  | 'd' | 's' | 'w' => some (.kind false)
  | 'D' | 'S' | 'W' => some (.kind true)
  | 'a' => some (.char '\x07' false)
  | 'f' => some (.char '\x0c' false)
  | 't' => some (.char '\t' false)
  | 'n' => some (.char '\n' false)
  | 'r' => some (.char '\r' false)
  | 'v' => some (.char '\x0b' false)
  | 'A' | 'z' => some .edge
  | 'b' | 'B' | '<' | '>' => some .wordEdge
  | c => if c.toNat < 0x80 ∧ ¬ c.isAlphanum then some (.char c false) else none

/-- What a backslash introduces. -/
def escape? (m : Mode) : List Char → Option (Atom × List Char)
  | [] => none
  | c :: rest =>
      match codeLength? c with
      | some n => (code? m n 0 rest).map fun (d, rest) => (.char d (n = 2), rest)
      | none => (escaped? c).map fun a => (a, rest)

/-- Whether an atom can be matched. Among characters none can while case is left aside, as that
takes a table, and words are not known. Among octets those outside of ASCII do not make up texts. -/
def Mode.allows (m : Mode) : Atom → Bool
  | .char c byCode => if m.unicode then !m.fold else !byCode || c.toNat < 0x80
  | .kind negated => !m.unicode && !negated
  | .edge => true
  | .wordEdge => !m.unicode

/-- A set holds characters, or octets, but no places. -/
def Mode.allowsInSet (m : Mode) : Atom → Bool
  | .char c _ => if m.unicode then !m.fold else c.toNat < 0x80
  | .kind negated => !m.unicode && !negated
  | _ => false

theorem length_code? {m : Mode} {left value : Nat} {cs rest : List Char} {c : Char}
    (h : code? m left value cs = some (c, rest)) : rest.length ≤ cs.length := by
  induction left generalizing value cs with
  | zero =>
    simp only [code?] at h
    split at h
    · cases h
      exact m.length_skip_le cs
    · cases h
  | succ left ih =>
    have hs := m.length_skip_le cs
    simp only [code?] at h
    split at h
    · cases h
    · next d ds hd =>
      obtain ⟨digit, -, h⟩ := Option.bind_eq_some_iff.1 h
      have := ih h
      simp only [hd, List.length_cons] at hs
      omega

theorem length_escape? {m : Mode} {cs rest : List Char} {a : Atom}
    (h : escape? m cs = some (a, rest)) : rest.length < cs.length := by
  cases cs with
  | nil => cases h
  | cons c cs =>
    refine Nat.lt_succ_of_le ?_
    simp only [escape?] at h
    split at h
    · obtain ⟨⟨d, r⟩, hd, he⟩ := Option.map_eq_some_iff.1 h
      cases he
      exact length_code? hd
    · obtain ⟨b, -, he⟩ := Option.map_eq_some_iff.1 h
      cases he
      exact Nat.le_refl _

end CallGate.Text.Pattern
