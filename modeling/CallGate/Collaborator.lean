import CallGate.Trace

/-! The parties that know who callers are. A collaborator keeps state of any type `σ` between its
answers, so a token that one call is given can be known to later calls. -/

namespace CallGate

/-- Checks passwords, and the bearer tokens it issued for them. -/
structure Validator (σ : Type) where
  validate : (username password : String) → σ → Except Status String × σ
  isValid : (token : String) → σ → Except Status Identity × σ

/-- A finite exchange of payloads with the peer that may branch on what it reads and on what fails,
and ends with a result and a report. -/
inductive Exchange (ρ : Type) where
  | done (result : Except Status Unit) (report : ρ)
  | read (next : Except Failure Bytes → Exchange ρ)
  | send (payload : Bytes) (next : Except Failure Unit → Exchange ρ)

/-- Drives the handshake, and checks the tokens it issued there. The report of an exchange is the
authenticator's state after it. -/
structure Authenticator (σ : Type) where
  authenticate : σ → Exchange σ
  isValid : (token : Bytes) → σ → Except Status Identity × σ

/-- What becomes of a call. -/
inductive Verdict where
  /-- The handler sees the call's own context; a stream may have been given a trailer. -/
  | pass (trailer : Option Metadata)
  /-- The handler sees a context with this identity. -/
  | identify (identity : Identity)
  | reject (status : Status)
  deriving DecidableEq

/-- The context a handler is entered with, or the status of a rejected call. -/
def Verdict.grant (c : Context) : Verdict → Except Status Context
  | .pass _ => .ok c
  | .identify i => .ok (c.attach i)
  | .reject status => .error status

/-- A verdict, the state the collaborator was left in, and what happened on the way. -/
structure Decision (σ : Type) where
  verdict : Verdict
  state : σ
  trace : Trace := []

end CallGate
