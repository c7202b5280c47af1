import CallGate.Context

/-! Contexts derived from a root, one step after another. A look-up gives what the last step under its
key has bound, or nothing if that is of another kind, whatever was bound before. The identity is the
last one attached: no step that binds a value brings one about, hides it or takes it away. -/

namespace CallGate

namespace Chain

variable {κ ν τ : Type} [DecidableEq κ] [DecidableEq τ]

/-- The values bound under a key, where the first binding stands first. -/
def valuesUnder (key : κ) (bound : List (κ × ν)) : List ν :=
  (bound.filter (·.1 == key)).map (·.2)

/-- The last of some values, if it has the kind asked for, and not one before it that has. -/
def lastOfKind (kind : ν → τ) (values : List ν) (asked : τ) : Option ν :=
  match values.getLast? with
  | some v => if kind v = asked then some v else none
  | none => none

/-- Of the values bound under a key it is the last that is nearest. -/
theorem nearest?_reverse (bound : List (κ × ν)) (key : κ) :
    Chain.nearest? bound.reverse key = (valuesUnder key bound).getLast? := by
  rw [nearest?, ← List.head?_filter, List.filter_reverse, List.head?_reverse, valuesUnder,
    List.getLast?_map]

theorem value?_reverse (kind : ν → τ) (bound : List (κ × ν)) (key : κ) (asked : τ) :
    Chain.value? kind bound.reverse key asked = lastOfKind kind (valuesUnder key bound) asked := by
  rw [value?, nearest?_reverse, lastOfKind]
  cases (valuesUnder key bound).getLast? with
  | none => rfl
  | some v => simp [Option.filter]

end Chain

/-- A step from a context to one derived from it. -/
inductive Derivation where
  | bind (name : String) (value : Value)
  | attach (identity : Identity)

namespace Derivation

def apply (c : Context) : Derivation → Context
  | bind name value => c.bind name value
  | attach identity => c.attach identity

/-- What a step binds, and to which key. -/
def binding : Derivation → Key × Value
  | bind name value => (.shared name, value)
  | attach identity => (.caller, .peer identity.content)

/-- The identity that a step attaches. -/
def identity? : Derivation → Option Identity
  | bind .. => none
  | attach identity => some identity

end Derivation

namespace Context

/-- The context that steps make of another, the first of them first. -/
def derive (c : Context) (steps : List Derivation) : Context := steps.foldl Derivation.apply c

/-- What steps bind, the first of them first. -/
def bound (steps : List Derivation) : List (Key × Value) := steps.map Derivation.binding

def identities (steps : List Derivation) : List Identity := steps.filterMap Derivation.identity?

/-- What steps from a root have made visible. -/
structure Shows (c : Context) (m : Metadata) (steps : List Derivation) : Prop where
  value : ∀ name kind, c.value? name kind =
    Chain.lastOfKind Value.kind (Chain.valuesUnder (.shared name) (bound steps)) kind
  identity : c.identity? = (identities steps).getLast?
  metadata : c.metadata = m
  render : c.render = "CallContext \x7b metadata_entries: " ++ toString m.size ++ ", values: " ++
    toString steps.length ++ " \x7d"

theorem derive_eq (c : Context) (steps : List Derivation) :
    c.derive steps = { c with bindings := (bound steps).reverse ++ c.bindings } := by
  induction steps generalizing c with
  | nil => rfl
  | cons step steps ih =>
    have first : step.apply c = { c with bindings := step.binding :: c.bindings } := by
      cases step <;> rfl
    show (step.apply c).derive steps = _
    rw [ih, first]
    simp [bound]

/-- Only attaching binds under the key of the caller. -/
theorem valuesUnder_caller (steps : List Derivation) :
    Chain.valuesUnder .caller (bound steps) = (identities steps).map fun i => .peer i.content := by
  induction steps with
  | nil => rfl
  | cons step steps ih =>
    cases step with
    | bind name v => exact ih
    | attach identity => exact congrArg (Value.peer identity.content :: ·) ih

/-- A derived context shows the last value under each name and the last identity, the headers of its
root, and in its text no more than the numbers of headers and of steps. The law of its look-ups is the
same whatever keys, values and kinds there are. -/
theorem derive_shows :
    (∀ (m : Metadata) (steps : List Derivation), ((root m).derive steps).Shows m steps) ∧
      ∀ {κ ν τ : Type} [DecidableEq κ] [DecidableEq τ] (kind : ν → τ) (bound : List (κ × ν))
        (key : κ) (asked : τ), Chain.value? kind bound.reverse key asked =
          Chain.lastOfKind kind (Chain.valuesUnder key bound) asked := by
  refine ⟨?_, Chain.value?_reverse⟩
  intro m steps
  have derived : (root m).derive steps = { metadata := m, bindings := (bound steps).reverse } := by
    rw [derive_eq, root, List.append_nil]
  rw [derived]
  refine ⟨?value, ?identity, rfl, ?render⟩
  case value =>
    intro name kind
    exact Chain.value?_reverse Value.kind (bound steps) (.shared name) kind
  case identity =>
    rw [identity?, Chain.nearest?_reverse, valuesUnder_caller, List.getLast?_map]
    cases (identities steps).getLast? <;> rfl
  case render =>
    unfold render
    simp [bound]

/-- A number hides the text bound before it, and a peer under a public name is no identity. -/
example :
    let c := (root {}).derive [.bind "tenant" (.text "a"), .attach ⟨.text "u"⟩,
      .bind "tenant" (.word 1), .bind "PeerIdentity" (.peer (.text "v"))]
    c.value? "tenant" .text = none ∧ c.value? "tenant" .word = some (.word 1) ∧
      c.identity? = some ⟨.text "u"⟩ := by decide

end Context
end CallGate
