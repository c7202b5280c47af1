import CallGate.Text.Pattern.Atom
import CallGate.Text.Pattern.Parts

/-! Sets of characters in brackets. A set holds characters, ranges, named kinds and other sets, and
three operators join what stands before them with what follows. -/

namespace CallGate.Text.Pattern

/-- What was read of a set: how deep all before the last operator nests, and what follows. -/
structure Layer where
  before? : Option Nat := none
  items : Parts := {}
  deriving DecidableEq, Repr

def Layer.add (l : Layer) (depth : Nat) : Layer := { l with items := l.items.add depth }

def Layer.total (l : Layer) : Nat :=
  match l.before? with
  | none => l.items.total
  | some depth => max depth l.items.total + 1

/-- Operators take everything before them. -/
def Layer.operate (l : Layer) : Layer := { before? := some l.total }

/-- A part of a set. -/
inductive SetToken where
  | opened (items : Parts)
  | closed
  | operator
  | item
  deriving DecidableEq, Repr

def kindNames : List String :=
  ["alnum", "alpha", "ascii", "blank", "cntrl", "digit", "graph", "lower", "print", "punct",
   "space", "upper", "word", "xdigit"]

/-- Whether all but the named characters are meant, which a sign in front says. -/
def negation : List Char → Bool × List Char
  | '^' :: rest => (true, rest)
  | cs => (false, cs)

/-- A kind named between colons. -/
def named? : List Char → Option (Bool × List Char)
  | ':' :: cs =>
      let (negated, cs) := negation cs
      let name := cs.takeWhile (· != ':')
      match cs.drop name.length with
      | ':' :: ']' :: rest =>
          if kindNames.contains (String.ofList name) then some (negated, rest) else none
      | _ => none
  | _ => none

def Mode.allowsNamed (m : Mode) (negated : Bool) : Bool := if m.unicode then !m.fold else !negated

/-- Dashes that a set starts with stand for themselves, and so does the bracket that would leave it
empty. -/
def leading (m : Mode) (items : Parts) (cs : List Char) : Parts × List Char :=
  match cs with
  | '-' :: rest =>
      have := m.length_skip_le rest
      leading m (items.add 0) (m.skip rest)
  | ']' :: rest => if items.count = 0 then (items.add 0, m.skip rest) else (items, cs)
  | _ => (items, cs)
termination_by cs.length
decreasing_by simp only [List.length_cons]; omega

/-- The start of a set, after its bracket. -/
def openSet? (m : Mode) (cs : List Char) : Option (Parts × List Char) :=
  let (negated, cs) := negation (m.skip cs)
  let (items, rest) := leading m {} (m.skip cs)
  if (negated → m.unicode) ∧ (0 < items.count → m.allowsInSet (.char '-' false)) then
    some (items, rest)
  else none

/-- A character, or what a backslash introduces; other signs stand for themselves in a set. -/
def member? (m : Mode) : List Char → Option (Atom × List Char)
  | [] => none
  | '\\' :: rest => escape? m rest
  | c :: rest => some (.char c false, rest)

/-- Only characters can be the two ends of a range, and they must be in order. -/
def Atom.notAfter : Atom → Atom → Bool
  | .char a _, .char b _ => a ≤ b
  | _, _ => false

/-- What is left after a member or a range. A dash before a bracket or a dash starts no range. -/
def item? (m : Mode) (cs : List Char) : Option (List Char) :=
  (member? m cs).bind fun (a, rest) =>
    if m.allowsInSet a then
      match m.skip rest with
      | '-' :: after =>
          if m.peek after = some ']' ∨ m.peek after = some '-' then some ('-' :: after)
          else (member? m (m.skip after)).bind fun (b, rest) =>
            if m.allowsInSet b ∧ a.notAfter b then some rest else none
      | rest => some rest
    else none

/-- The next part of a set. -/
def setToken? (m : Mode) : List Char → Option (SetToken × List Char)
  | [] => none
  | '[' :: rest =>
      match named? rest with
      | some (negated, rest) => if m.allowsNamed negated then some (.item, rest) else none
      | none => (openSet? m rest).map fun (items, rest) => (.opened items, rest)
  | ']' :: rest => some (.closed, rest)
  | '&' :: '&' :: rest | '-' :: '-' :: rest | '~' :: '~' :: rest => some (.operator, rest)
  | cs => (item? m cs).map fun rest => (.item, rest)

theorem length_negation (cs : List Char) : (negation cs).2.length ≤ cs.length := by
  unfold negation
  split
  · exact Nat.le_succ _
  · exact Nat.le_refl _

theorem length_named? {cs rest : List Char} {negated : Bool}
    (h : named? cs = some (negated, rest)) : rest.length ≤ cs.length := by
  unfold named? at h
  split at h
  · next cs =>
    have hn := length_negation cs
    dsimp only at h
    split at h
    · next r hr =>
      have hl := congrArg List.length hr
      simp only [List.length_drop, List.length_cons] at hl ⊢
      split at h
      · cases h
        omega
      · cases h
    · cases h
  · cases h

theorem length_leading (m : Mode) (items : Parts) (cs : List Char) :
    (leading m items cs).2.length ≤ cs.length := by
  fun_induction leading m items cs with
  | case1 items rest hs ih => simp only [List.length_cons]; omega
  | case2 items rest =>
    have := m.length_skip_le rest
    simp only [List.length_cons]
    omega
  | case3 => exact Nat.le_refl _
  | case4 => exact Nat.le_refl _

theorem length_openSet? {m : Mode} {cs rest : List Char} {items : Parts}
    (h : openSet? m cs = some (items, rest)) : rest.length ≤ cs.length := by
  simp only [openSet?] at h
  split at h
  · cases h
    calc
      _ ≤ (m.skip (negation (m.skip cs)).2).length := length_leading _ _ _
      _ ≤ (negation (m.skip cs)).2.length := m.length_skip_le _
      _ ≤ (m.skip cs).length := length_negation _
      _ ≤ cs.length := m.length_skip_le _
  · cases h

theorem length_member? {m : Mode} {cs rest : List Char} {a : Atom}
    (h : member? m cs = some (a, rest)) : rest.length < cs.length := by
  unfold member? at h
  split at h
  · cases h
  · exact Nat.lt_succ_of_lt (length_escape? h)
  · cases h
    exact Nat.lt_succ_self _

theorem length_item? {m : Mode} {cs rest : List Char} (h : item? m cs = some rest) :
    rest.length < cs.length := by
  obtain ⟨⟨a, r⟩, ha, h⟩ := Option.bind_eq_some_iff.1 h
  have hr := length_member? ha
  have hs := m.length_skip_le r
  dsimp only at h
  split at h
  · split at h
    · next after hd =>
      have hl := congrArg List.length hd
      have ht := m.length_skip_le after
      simp only [List.length_cons] at hl
      split at h
      · cases h
        simp only [List.length_cons]
        omega
      · obtain ⟨⟨b, r⟩, hb, h⟩ := Option.bind_eq_some_iff.1 h
        have := length_member? hb
        dsimp only at h
        split at h
        · cases h
          omega
        · cases h
    · cases h
      omega
  · cases h

theorem length_setToken? {m : Mode} {cs rest : List Char} {t : SetToken}
    (h : setToken? m cs = some (t, rest)) : rest.length < cs.length := by
  unfold setToken? at h
  split at h
  · cases h
  · refine Nat.lt_succ_of_le ?_
    split at h
    · next hn =>
      split at h
      · cases h
        exact length_named? hn
      · cases h
    · obtain ⟨⟨items, r⟩, ho, h⟩ := Option.map_eq_some_iff.1 h
      cases h
      exact length_openSet? ho
  iterate 4 cases h; simp only [List.length_cons]; omega
  obtain ⟨r, hr, h⟩ := Option.map_eq_some_iff.1 h
  cases h
  exact length_item? hr

/-- How deep a set nests, and what is left after it; `outer` are the sets around the one at hand. -/
def set? (m : Mode) (outer : List Layer) (l : Layer) (cs : List Char) : Option (Nat × List Char) :=
  match h : setToken? m (m.skip cs) with
  | none => none
  | some (t, rest) =>
      have := Nat.lt_of_lt_of_le (length_setToken? h) (m.length_skip_le cs)
      match t, outer with
      | .opened items, outer => set? m (l :: outer) { items } rest
      | .closed, [] => some (l.total + 1, rest)
      | .closed, around :: outer => set? m outer (around.add (l.total + 1)) rest
      | .operator, outer => set? m outer l.operate rest
      | .item, outer => set? m outer (l.add 0) rest
termination_by cs.length

theorem length_set? {m : Mode} {outer : List Layer} {l : Layer} {cs rest : List Char} {depth : Nat}
    (h : set? m outer l cs = some (depth, rest)) : rest.length < cs.length := by
  fun_induction set? m outer l cs with
  | case1 => cases h
  | case2 l cs r items outer _ _ hlt ih => exact Nat.lt_trans (ih h) hlt
  | case3 l cs r _ _ hlt => cases h; exact hlt
  | case4 l cs r around outer _ _ hlt ih => exact Nat.lt_trans (ih h) hlt
  | case5 l cs r outer _ _ hlt ih => exact Nat.lt_trans (ih h) hlt
  | case6 l cs r outer _ _ hlt ih => exact Nat.lt_trans (ih h) hlt

end CallGate.Text.Pattern
