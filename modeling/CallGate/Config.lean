import CallGate.Bytes
import CallGate.Method
import CallGate.Text.Blank
import CallGate.Text.Lowercase

/-! The settings of a gate, read from environment variables and written back to them. -/

namespace CallGate

/-- The scheme asked for. -/
inductive Mode where
  | none | handshake | basicBearer
  deriving DecidableEq, Repr

namespace Mode

def name : Mode → String
  | .none => "none"
  | .handshake => "handshake"
  | .basicBearer => "basic_bearer"

/-- A mode's name with white space around it and case left aside. -/
def normalize (text : String) : String :=
  String.ofList (Text.lowercase (Text.trim text.toList))

/-- The mode a normalized name stands for. -/
def ofName? : String → Option Mode
  | "none" => some .none
  | "handshake" => some .handshake
  | "basic_bearer" | "basic-bearer" | "bearer" => some .basicBearer
  | _ => Option.none

end Mode

/-- Why settings cannot be read. -/
inductive ConfigError where
  | unknownMode (name : String)
  deriving DecidableEq, Repr

def ConfigError.cause : ConfigError → String
  | .unknownMode name => "unknown auth mode '" ++ name ++ "'"

/-- The message on top of the cause names the variable at fault. -/
def ConfigError.message : ConfigError → String
  | .unknownMode _ => "Invalid FLIGHT_AUTH_MODE"

def Mode.parse (text : String) : Except ConfigError Mode :=
  match ofName? (normalize text) with
  | some m => .ok m
  | Option.none => .error (.unknownMode (normalize text))

structure TelemetryConfig where
  logFormat : String := "text"
  metrics : Bool := false
  deriving DecidableEq, Repr

structure Config where
  mode : Mode := .handshake
  suffix : String := defaultSuffix
  allowUnauthenticated : Bool := false
  telemetry : TelemetryConfig := {}
  deriving DecidableEq, Repr

/-- What is set, by name; the first entry of a name counts. -/
abbrev Environment := List (String × String)

namespace Config

/-- A flag is on only when its text is `true`, in any case and with nothing around it. -/
def isOn (text : String) : Bool := Text.lowercase text.toList == "true".toList

/-- Reads settings through a lookup of variables. Only an unknown mode is an error. -/
def load (lookup : String → Option String) : Except ConfigError Config := do
  let flag := fun name => ((lookup name).map isOn).getD false
  let mode ← Mode.parse ((lookup "FLIGHT_AUTH_MODE").getD "handshake")
  return {
    mode
    suffix := ((lookup "FLIGHT_AUTH_HANDSHAKE_SUFFIX").filter (· ≠ "")).getD defaultSuffix
    allowUnauthenticated := flag "FLIGHT_AUTH_ALLOW_UNAUTHENTICATED"
    telemetry := {
      logFormat := (lookup "LOG_FORMAT").getD "text"
      metrics := flag "METRICS_ENABLED" } }

def ofEnvironment (env : Environment) : Except ConfigError Config := load fun name => List.lookup name env

/-- Reads settings from variables that hold octets; one that is no text counts as unset. -/
def ofOctets (env : List (String × Bytes)) : Except ConfigError Config :=
  load fun name => (List.lookup name env).bind Bytes.text?

def flagText (on : Bool) : String := if on then "true" else "false"

/-- The environment that reads back as these settings, if their suffix is not empty. -/
def toEnvironment (c : Config) : Environment :=
  [("FLIGHT_AUTH_MODE", c.mode.name),
   ("FLIGHT_AUTH_HANDSHAKE_SUFFIX", c.suffix),
   ("FLIGHT_AUTH_ALLOW_UNAUTHENTICATED", flagText c.allowUnauthenticated),
   ("LOG_FORMAT", c.telemetry.logFormat),
   ("METRICS_ENABLED", flagText c.telemetry.metrics)]

end Config
end CallGate
