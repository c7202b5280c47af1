/-! How deep a pattern nests. -/

namespace CallGate.Text.Pattern

/-- Parts side by side: how many there are, and how deep the deepest nests. -/
structure Parts where
  count : Nat := 0
  depth : Nat := 0
  deriving DecidableEq, Repr

def Parts.add (p : Parts) (depth : Nat) : Parts := ⟨p.count + 1, max p.depth depth⟩

/-- Two parts or more are a layer of their own. -/
def Parts.total (p : Parts) : Nat := if p.count ≤ 1 then p.depth else p.depth + 1

/-- How deep a pattern may nest. -/
def maxDepth : Nat := 250

end CallGate.Text.Pattern
