import CallGate.Config
import CallGate.Scheme.BasicBearer
import CallGate.Scheme.HandshakeToken

/-! The gate every call passes before its handler: one scheme, or open access, with the suffix that
tells handshakes from other methods. -/

namespace CallGate

inductive Gate (σ : Type) where
  | openAccess (suffix : String)
  | handshakeToken (authenticator : Authenticator σ) (suffix : String)
  | basicBearer (validator : Validator σ) (suffix : String)

namespace Gate

variable {σ : Type}

def suffix : Gate σ → String
  | openAccess suffix | handshakeToken _ suffix | basicBearer _ suffix => suffix

/-- The scheme in force; none with open access. -/
def scheme? : Gate σ → Option Scheme
  | openAccess _ => none
  | handshakeToken .. => some .handshakeToken
  | basicBearer .. => some .basicBearer

def name (g : Gate σ) : String := (g.scheme?.map Scheme.name).getD "none"

/-- Who drives handshakes, if the scheme has them driven. -/
def authenticator? : Gate σ → Option (Authenticator σ)
  | handshakeToken authenticator _ => some authenticator
  | _ => none

/-- The gate that settings ask for, with what installing it logs. A scheme needs its collaborator,
except that handshakes without an authenticator mean open access; and open access has to be
allowed. -/
def ofConfig (c : Config) (authenticator : Option (Authenticator σ))
    (validator : Option (Validator σ)) : Except Failure (Gate σ × Notice) :=
  match c.mode, authenticator, validator with
  | .basicBearer, _, some v => .ok (basicBearer v c.suffix, .installed .basicBearer)
  | .basicBearer, _, none => .error (.misconfigured "basic_bearer mode requires a validator")
  | .handshake, some a, _ => .ok (handshakeToken a c.suffix, .installed .handshakeToken)
  | .handshake, none, _ | .none, _, _ =>
      if c.allowUnauthenticated then .ok (openAccess c.suffix, .openAccess)
      else .error (.misconfigured ("auth mode '" ++ c.mode.name ++
        "' has no authenticator and unauthenticated access is not allowed"))

/-- Decides a unary call. -/
def interceptUnary (g : Gate σ) (method : Method) (m : Metadata) (s : σ) : Decision σ :=
  match g with
  | basicBearer v _ => BasicBearer.decideUnary v method m s
  | openAccess _ | handshakeToken .. => HandshakeToken.decideUnary g.authenticator? method m s

/-- Decides a streaming call on its stream, which may be given a trailer. -/
def hook {S : Type} [Streaming.StreamMetadata S] (g : Gate σ) (method : Method) (stream : S) (s : σ) :
    Decision σ × S :=
  match g with
  | basicBearer v suffix => BasicBearer.decideStream v suffix method stream s
  | openAccess suffix | handshakeToken _ suffix =>
      HandshakeToken.decideStream g.authenticator? suffix method stream s

/-- The method a handshake is taken to call, which always ends with the suffix: the one it was
called by if that fits, else the Flight handshake if that fits, else the suffix itself. -/
def handshakeMethod (g : Gate σ) (called : Option Method) : Method :=
  match called.filter (·.isHandshake g.suffix) with
  | some method => method
  | none =>
      if Method.flightHandshake.isHandshake g.suffix then Method.flightHandshake else ⟨g.suffix⟩

theorem handshakeMethod_isHandshake (g : Gate σ) (called : Option Method) :
    (g.handshakeMethod called).isHandshake g.suffix = true := by
  unfold handshakeMethod
  split
  · next h => exact (Option.filter_eq_some_iff.1 h).2
  · split
    · assumption
    · simp

end Gate
end CallGate
