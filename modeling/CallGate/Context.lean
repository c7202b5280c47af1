import CallGate.Metadata

/-! The context of one call: its headers and a chain of bindings, the nearest first. Deriving a
context never changes the one it came from. The identity of the caller is bound under a key of its
own that no public binding can reach. -/

namespace CallGate

/-- What a binding can hold. A peer is an identity around a value. -/
inductive Value where
  | text (s : String)
  | word (n : UInt32)
  | long (n : UInt64)
  | unit
  | peer (content : Value)
  deriving DecidableEq, Repr

inductive Value.Kind where
  | text | word | long | unit | peer
  deriving DecidableEq, Repr

def Value.kind : Value → Kind
  | .text _ => .text
  | .word _ => .word
  | .long _ => .long
  | .unit => .unit
  | .peer _ => .peer

/-- Who the caller is, in whatever form the collaborator that vouched for it chose. -/
structure Identity where
  content : Value
  deriving DecidableEq, Repr

/-- An identity does not show its content. -/
def Identity.render (_ : Identity) : String := "PeerIdentity(..)"

inductive Key where
  | caller
  | shared (name : String)
  deriving DecidableEq, Repr

/-- What is bound under keys, the nearest binding first. -/
abbrev Chain (κ ν : Type) := List (κ × ν)

namespace Chain

variable {κ ν τ : Type} [BEq κ] [BEq τ]

/-- The value of the nearest binding of a key. -/
def nearest? (chain : Chain κ ν) (key : κ) : Option ν := (chain.find? (·.1 == key)).map (·.2)

/-- The value of the nearest binding of a key, if it has the kind asked for. Bindings further off are
not looked at, whatever their kind. -/
def value? (kind : ν → τ) (chain : Chain κ ν) (key : κ) (asked : τ) : Option ν :=
  (chain.nearest? key).filter (kind · == asked)

end Chain

structure Context where
  metadata : Metadata := {}
  bindings : Chain Key Value := []
  deriving DecidableEq, Repr

namespace Context

/-- The context a call starts with. -/
def root (metadata : Metadata) : Context := { metadata }

def bind (c : Context) (name : String) (value : Value) : Context :=
  { c with bindings := (.shared name, value) :: c.bindings }

def attach (c : Context) (identity : Identity) : Context :=
  { c with bindings := (.caller, .peer identity.content) :: c.bindings }

/-- The value bound under a name, if it has the kind asked for. -/
def value? (c : Context) (name : String) (kind : Value.Kind) : Option Value :=
  c.bindings.value? Value.kind (.shared name) kind

/-- The caller's identity, if one was attached. -/
def identity? (c : Context) : Option Identity :=
  match c.bindings.nearest? .caller with
  | some (.peer content) => some ⟨content⟩
  | _ => none

/-- Headers carry credentials, so only their number is shown. -/
def render (c : Context) : String :=
  "CallContext \x7b metadata_entries: " ++ toString c.metadata.size ++ ", values: " ++
    toString c.bindings.length ++ " \x7d"

@[simp] theorem identity?_root (m : Metadata) : (root m).identity? = none := rfl

@[simp] theorem identity?_attach (c : Context) (i : Identity) : (c.attach i).identity? = some i := rfl

@[simp] theorem identity?_bind (c : Context) (name : String) (v : Value) :
    (c.bind name v).identity? = c.identity? := by
  simp [identity?, Chain.nearest?, bind]

@[simp] theorem metadata_attach (c : Context) (i : Identity) : (c.attach i).metadata = c.metadata := rfl

@[simp] theorem metadata_bind (c : Context) (name : String) (v : Value) :
    (c.bind name v).metadata = c.metadata := rfl

end Context
end CallGate
