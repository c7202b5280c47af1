import CallGate.Metadata

/-! How a call ends: a code, a message for people, details for programs, and trailing metadata. -/

namespace CallGate

inductive Code where
  | ok | cancelled | unknown | invalidArgument | deadlineExceeded | notFound | alreadyExists
  | permissionDenied | resourceExhausted | failedPrecondition | aborted | outOfRange
  | unimplemented | internal | unavailable | dataLoss | unauthenticated
  deriving DecidableEq, Repr

namespace Code

/-- All codes, each at the place of its number. -/
def all : List Code :=
  [.ok, .cancelled, .unknown, .invalidArgument, .deadlineExceeded, .notFound, .alreadyExists,
   .permissionDenied, .resourceExhausted, .failedPrecondition, .aborted, .outOfRange,
   .unimplemented, .internal, .unavailable, .dataLoss, .unauthenticated]

def number (c : Code) : Nat := c.ctorIdx

/-- The code of a number; a number without one stands for an unknown error. -/
def ofInt (n : Int) : Code := if n < 0 then .unknown else all.getD n.toNat .unknown

def name : Code → String
  | .ok => "Ok"
  | .cancelled => "Cancelled"
  | .unknown => "Unknown"
  | .invalidArgument => "InvalidArgument"
  | .deadlineExceeded => "DeadlineExceeded"
  | .notFound => "NotFound"
  | .alreadyExists => "AlreadyExists"
  | .permissionDenied => "PermissionDenied"
  | .resourceExhausted => "ResourceExhausted"
  | .failedPrecondition => "FailedPrecondition"
  | .aborted => "Aborted"
  | .outOfRange => "OutOfRange"
  | .unimplemented => "Unimplemented"
  | .internal => "Internal"
  | .unavailable => "Unavailable"
  | .dataLoss => "DataLoss"
  | .unauthenticated => "Unauthenticated"

end Code

structure Status where
  code : Code
  message : String
  details : Bytes := []
  metadata : Metadata := {}
  deriving DecidableEq, Repr

/-- The diagnostic text of a status. -/
def Status.render (s : Status) : String :=
  "status: " ++ s.code.name ++ ", message: " ++ Text.quote s.message ++ ", details: " ++
    Text.bracket (s.details.map fun b => toString b.toNat) ++ ", metadata: " ++ s.metadata.render

end CallGate
