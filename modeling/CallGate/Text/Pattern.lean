import CallGate.Text.Pattern.Set
import CallGate.Text.Word

/-! Which texts are regular expressions that an automaton over octets can match. Groups nest and
carry flags; flags alone in brackets hold until the group around them ends. A count in braces is
never allowed, as nothing can close it where these texts come from. -/

namespace CallGate.Text.Pattern

inductive Token where
  /-- A character, a place or a set, and how deep it nests. -/
  | part (depth : Nat)
  | repetition
  | bar
  | opened (m : Mode) (name? : Option (List Char))
  | turned (m : Mode)
  | closed
  deriving DecidableEq, Repr

def flagLetters : List Char := ['i', 'm', 's', 'u', 'U', 'R', 'x', '-']

/-- A flag is on when its letter stands before the dash, and off after it. -/
def Mode.turn (m : Mode) (letters : List Char) : Mode :=
  let turn (letter : Char) (now : Bool) : Bool :=
    if letters.contains letter then (letters.takeWhile (· != '-')).contains letter else now
  { fold := turn 'i' m.fold, unicode := turn 'u' m.unicode, spaced := turn 'x' m.spaced }

/-- Flags, no letter twice, and what stands for the group that they are for. -/
def flags? (m : Mode) (cs : List Char) : Option (Token × List Char) :=
  let letters := cs.takeWhile fun c => c != ':' && c != ')'
  if letters.Nodup ∧ letters ⊆ flagLetters ∧ letters.getLast? ≠ some '-' then
    match cs.drop letters.length with
    | ':' :: rest => some (.opened (m.turn letters) none, rest)
    | ')' :: rest => if letters = [] then none else some (.turned (m.turn letters), rest)
    | _ => none
  else none

def startsName (c : Char) : Bool := c == '_' || isLetter c

def continuesName (c : Char) : Bool := c == '_' || c == '.' || c == '[' || c == ']' || isWord c

/-- The name of a group, up to the bracket that closes it. -/
def name? (m : Mode) (cs : List Char) : Option (Token × List Char) :=
  let name := cs.takeWhile (· != '>')
  match name, cs.drop name.length with
  | c :: ds, _ :: rest =>
      if startsName c ∧ ds.all continuesName then some (.opened m (some name), rest) else none
  | _, _ => none

/-- The start of a group, after its bracket. -/
def group? (m : Mode) : List Char → Option (Token × List Char)
  | '?' :: 'P' :: '<' :: rest => name? m rest
  | '?' :: '<' :: rest => name? m rest
  | '?' :: rest => flags? m rest
  | rest => some (.opened m none, rest)

/-- What follows a repetition and the sign, if there is one, that asks for as little as possible. -/
def lazy (cs : List Char) : List Char := if cs.head? = some '?' then cs.tail else cs

/-- The next part of a pattern. -/
def token? (m : Mode) : List Char → Option (Token × List Char)
  | [] => none
  | '(' :: rest => group? m (m.skip rest)
  | ')' :: rest => some (.closed, rest)
  | '|' :: rest => some (.bar, rest)
  | '?' :: rest | '*' :: rest | '+' :: rest => some (.repetition, lazy rest)
  | '[' :: rest => (openSet? m rest).bind fun (items, rest) =>
      (set? m [] { items } rest).map fun (depth, rest) => (.part depth, rest)
  | '\\' :: rest => (escape? m rest).bind fun (a, rest) =>
      if m.allows a then some (.part 0, rest) else none
  | '.' :: rest => if m.unicode then some (.part 0, rest) else none
  | '^' :: rest | '$' :: rest => some (.part 0, rest)
  | '\x7b' :: _ => none
  | c :: rest => if m.allows (.char c false) then some (.part 0, rest) else none

/-- A group that is open: its branches so far, and the parts of the branch at hand. -/
structure Group where
  mode : Mode := {}
  branches : Parts := {}
  parts : Parts := {}
  /-- How deep the last part nests, if it can be repeated. -/
  last? : Option Nat := none
  deriving DecidableEq, Repr

def Group.add (g : Group) (depth : Nat) : Group :=
  { g with parts := g.parts.add depth, last? := some depth }

def Group.total (g : Group) : Nat := (g.branches.add g.parts.total).total

/-- The group at hand, those around it, and the names given so far. -/
structure State where
  group : Group := {}
  outer : List Group := []
  names : List (List Char) := []
  deriving DecidableEq, Repr

/-- What a part leads to. Only what can be matched can be repeated, so flags cannot be, and a name
is given once. -/
def State.take? (s : State) : Token → Option State
  | .part depth => some { s with group := s.group.add depth }
  | .repetition => s.group.last?.map fun depth =>
      { s with group.parts.depth := max s.group.parts.depth (depth + 1)
               group.last? := some (depth + 1) }
  | .bar => some { s with group :=
      { mode := s.group.mode, branches := s.group.branches.add s.group.parts.total } }
  | .opened m name? =>
      if name?.all fun name => !s.names.contains name then
        some ⟨{ mode := m }, s.group :: s.outer, name?.toList ++ s.names⟩
      else none
  | .turned m => some { s with group :=
      { s.group with mode := m, parts := s.group.parts.add 0, last? := none } }
  | .closed =>
      match s.outer with
      | [] => none
      | around :: outer => some { s with group := around.add (s.group.total + 1), outer }

theorem length_flags? {m : Mode} {cs rest : List Char} {t : Token}
    (h : flags? m cs = some (t, rest)) : rest.length < cs.length := by
  simp only [flags?] at h
  split at h
  · split at h
    · next hr =>
      have hl := congrArg List.length hr
      simp only [List.length_drop, List.length_cons] at hl
      cases h
      omega
    · next hr =>
      have hl := congrArg List.length hr
      simp only [List.length_drop, List.length_cons] at hl
      split at h
      · cases h
      · cases h
        omega
    · cases h
  · cases h

theorem length_name? {m : Mode} {cs rest : List Char} {t : Token}
    (h : name? m cs = some (t, rest)) : rest.length < cs.length := by
  simp only [name?] at h
  split at h
  · next hr =>
    have hl := congrArg List.length hr
    simp only [List.length_drop, List.length_cons] at hl
    split at h
    · cases h
      omega
    · cases h
  · cases h

theorem length_group? {m : Mode} {cs rest : List Char} {t : Token}
    (h : group? m cs = some (t, rest)) : rest.length ≤ cs.length := by
  unfold group? at h
  split at h
  · have := length_name? h
    simp only [List.length_cons]
    omega
  · have := length_name? h
    simp only [List.length_cons]
    omega
  · have := length_flags? h
    simp only [List.length_cons]
    omega
  · cases h
    exact Nat.le_refl _

theorem length_lazy (cs : List Char) : (lazy cs).length ≤ cs.length := by
  unfold lazy
  split
  · simp
  · exact Nat.le_refl _

theorem length_token? {m : Mode} {cs rest : List Char} {t : Token}
    (h : token? m cs = some (t, rest)) : rest.length < cs.length := by
  unfold token? at h
  split at h
  · cases h
  all_goals refine Nat.lt_succ_of_le ?_
  · exact Nat.le_trans (length_group? h) (m.length_skip_le _)
  · cases h; exact Nat.le_refl _
  · cases h; exact Nat.le_refl _
  iterate 3 cases h; exact length_lazy _
  · obtain ⟨⟨items, r⟩, ho, h⟩ := Option.bind_eq_some_iff.1 h
    obtain ⟨⟨depth, r'⟩, hs, h⟩ := Option.map_eq_some_iff.1 h
    cases h
    exact Nat.le_trans (Nat.le_of_lt (length_set? hs)) (length_openSet? ho)
  · obtain ⟨⟨a, r⟩, ha, h⟩ := Option.bind_eq_some_iff.1 h
    dsimp only at h
    split at h
    · cases h
      exact Nat.le_of_lt (length_escape? ha)
    · cases h
  · split at h
    · cases h; exact Nat.le_refl _
    · cases h
  · cases h; exact Nat.le_refl _
  · cases h; exact Nat.le_refl _
  · cases h
  · split at h
    · cases h; exact Nat.le_refl _
    · cases h

/-- The state at the end of a text, if each of its parts may stand where it does. -/
def run (s : State) (cs : List Char) : Option State :=
  if s.group.mode.skip cs = [] then some s
  else match h : token? s.group.mode (s.group.mode.skip cs) with
    | none => none
    | some (t, rest) =>
        have := Nat.lt_of_lt_of_le (length_token? h) (s.group.mode.length_skip_le cs)
        (s.take? t).bind (run · rest)
termination_by cs.length

/-- No group is left open, and nothing nests too deep. -/
def State.isFinal (s : State) : Bool := s.outer.isEmpty && s.group.total ≤ maxDepth

def isPattern (cs : List Char) : Bool := (run {} cs).any State.isFinal

end CallGate.Text.Pattern
