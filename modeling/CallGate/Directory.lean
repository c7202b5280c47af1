import CallGate.Collaborator

/-! Users and tokens kept in memory, as a validator and as the token table of an authenticator. A
token that was issued is known by its user before any table is looked at, the latest first. -/

namespace CallGate

/-- What is known about a user: a password and the token it earns, or a status that refuses it. -/
inductive Account where
  | member (password token : String)
  | refused (status : Status)
  deriving DecidableEq, Repr

/-- Tokens with the name or the status each stands for, and the status of all others. -/
structure TokenTable (κ : Type) where
  tokens : List (κ × Except Status String)
  unknown : Status := { code := .unauthenticated, message := "invalid token" }

/-- The tokens that were issued to someone, the latest first. -/
structure Issued where
  bearer : List (String × String) := []
  binary : List (Bytes × String) := []
  deriving DecidableEq, Repr

def namedIdentity (name : String) : Identity := ⟨.text name⟩

def TokenTable.resolve {κ : Type} [DecidableEq κ] (t : TokenTable κ) (issued : List (κ × String))
    (token : κ) : Except Status Identity :=
  match List.lookup token issued with
  | some name => .ok (namedIdentity name)
  | none => match List.lookup token t.tokens with
      | some answer => answer.map namedIdentity
      | none => .error t.unknown

structure Directory where
  users : List (String × Account)
  table : TokenTable String

def wrongPassword : Status :=
  { code := .unauthenticated, message := "invalid username or password" }

def Directory.validator (d : Directory) : Validator Issued where
  validate username password s :=
    match List.lookup username d.users with
    | some (.refused status) => (.error status, s)
    | some (.member expected token) =>
        if password = expected then (.ok token, { s with bearer := (token, username) :: s.bearer })
        else (.error wrongPassword, s)
    | none => (.error wrongPassword, s)
  isValid token s := (d.table.resolve s.bearer token, s)

end CallGate
