import CallGate.Method

/-! What the gate reports: log notices and counted attempts. -/

namespace CallGate

inductive Level where
  | error | warn | info | debug | trace
  deriving DecidableEq, Repr

/-- Severer levels are smaller. -/
def Level.rank : Level → Nat
  | .error => 1
  | .warn => 2
  | .info => 3
  | .debug => 4
  | .trace => 5

def Level.name : Level → String
  | .error => "ERROR"
  | .warn => "WARN"
  | .info => "INFO"
  | .debug => "DEBUG"
  | .trace => "TRACE"

/-- The two ways of telling who calls. -/
inductive Scheme where
  | handshakeToken
  | basicBearer
  deriving DecidableEq, Repr

def Scheme.name : Scheme → String
  | .handshakeToken => "handshake"
  | .basicBearer => "basic_bearer"

/-- How a call comes in: one request, or a stream of messages. -/
inductive Entry where
  | unary
  | stream
  deriving DecidableEq, Repr

/-- What a log entry says. -/
inductive Notice where
  | accepted (scheme : Scheme) (entry : Entry) (method : Method)
  | issued (method : Method)
  | rejected (scheme : Scheme) (entry : Entry) (method : Method) (reason : String)
  | installed (scheme : Scheme)
  | openAccess
  | unsendableToken
  | misconfigured (reason : String)
  | clientGone
  deriving DecidableEq, Repr

namespace Notice

def level : Notice → Level
  | .accepted .. | .issued _ | .clientGone => .debug
  | .rejected .. | .openAccess => .warn
  | .installed _ => .info
  | .unsendableToken | .misconfigured _ => .error

def message : Notice → String
  | .accepted _ .unary _ => "gRPC call authenticated"
  | .accepted _ .stream _ => "gRPC stream authenticated"
  | .issued _ => "Bearer token issued"
  | .rejected _ .unary _ _ => "gRPC call rejected"
  | .rejected _ .stream _ _ => "gRPC stream rejected"
  | .installed .handshakeToken => "gRPC authentication enabled: handshake mode"
  | .installed .basicBearer => "gRPC authentication enabled: basic/bearer mode"
  | .openAccess => "gRPC authentication disabled: every call is accepted without credentials"
  | .unsendableToken => "Validator issued a token that is not a valid metadata value"
  | .misconfigured reason => "Authentication misconfigured: " ++ reason
  | .clientGone => "Client went away before the stream completed"

inductive Field where
  | method (path : String)
  | scheme (name : String)
  | reason (text : String)
  deriving DecidableEq, Repr

def fields : Notice → List Field
  | .accepted scheme _ method => [.method method.path, .scheme scheme.name]
  | .issued method => [.method method.path, .scheme Scheme.basicBearer.name]
  | .rejected scheme _ method reason =>
      [.method method.path, .scheme scheme.name, .reason reason]
  | _ => []

/-- The part of the program a notice comes from, by which logs are filtered. -/
def target : Notice → String
  | .accepted .handshakeToken .. | .rejected .handshakeToken .. =>
      "flight_auth::grpc::interceptor::handshake_auth"
  | .accepted .basicBearer .. | .rejected .basicBearer .. | .issued _ =>
      "flight_auth::grpc::interceptor::bearer"
  | .installed _ | .openAccess => "flight_auth::grpc::interceptor::auth"
  | .unsendableToken | .misconfigured _ => "flight_auth::error"
  | .clientGone => "flight_auth::grpc::stream"

end Notice

def Notice.Field.name : Field → String
  | .method _ => "method"
  | .scheme _ => "scheme"
  | .reason _ => "reason"

def Notice.Field.text : Field → String
  | .method s | .scheme s | .reason s => s

/-- The kinds of calls that are counted apart. -/
inductive Attempt.Kind where
  | unary | stream | handshake
  deriving DecidableEq, Repr

/-- An authentication attempt, as it is counted. -/
structure Attempt where
  scheme : Scheme
  kind : Attempt.Kind
  accepted : Bool
  deriving DecidableEq, Repr

def Attempt.Kind.name : Kind → String
  | .unary => "unary"
  | .stream => "stream"
  | .handshake => "handshake"

def Entry.kind : Entry → Attempt.Kind
  | .unary => .unary
  | .stream => .stream

end CallGate
