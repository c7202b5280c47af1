import CallGate.Config
import CallGate.Metrics
import CallGate.Telemetry.Filter
import CallGate.Text.Quoted

/-! Logs and metrics of a whole process. Each can be installed once; installing again fails. -/

namespace CallGate.Telemetry

/-- A written notice: a line of text, or a record that keeps its parts. -/
inductive Line where
  | text (line : String)
  | record (level message target : String) (fields : List Notice.Field)
  deriving DecidableEq, Repr

/-- Texts are plain, but the scheme stands between quotes. -/
def fieldText (f : Notice.Field) : String :=
  match f with
  | .scheme name => f.name ++ "=" ++ Text.quote name
  | f => f.name ++ "=" ++ f.text

def lineOf (structured : Bool) (n : Notice) : Line :=
  if structured then .record n.level.name n.message n.target n.fields
  else .text (String.join ([n.level.name, " ", n.target, ": ", n.message] ++
    n.fields.map fun f => " " ++ fieldText f))

structure Subscriber where
  filter : Filter
  structured : Bool

/-- What a process has installed. -/
structure Installation where
  registry : Option Metrics.Registry := none
  /-- Whether someone was given the means to read the metrics. -/
  readable : Bool := false
  subscriber : Option Subscriber := none
  lines : List Line := []

inductive InstallError where
  | recorder
  | subscriber
  deriving DecidableEq, Repr

def InstallError.message : InstallError → String
  | .recorder => "failed to install Prometheus recorder"
  | .subscriber => "failed to install tracing subscriber"

namespace Installation

/-- Installs what the settings ask for, metrics first; says whether metrics can be read. Metrics stay
installed if the logs then fail. -/
def install (p : Installation) (c : TelemetryConfig) (setting : Option String) :
    Except InstallError Bool × Installation :=
  if c.metrics && p.registry.isSome then (.error .recorder, p)
  else
    let p := if c.metrics then { p with registry := some (Metrics.Registry.describe {}) } else p
    match p.subscriber with
    | some _ => (.error .subscriber, p)
    | none =>
        (.ok c.metrics,
         { p with
           subscriber := some ⟨filterOf setting, c.logFormat == "json"⟩
           readable := p.readable || c.metrics })

/-- Writes a notice, if there is a subscriber and its filter admits it. -/
def note (p : Installation) (n : Notice) : Installation :=
  match p.subscriber with
  | some s => if admits s.filter n then { p with lines := p.lines ++ [lineOf s.structured n] } else p
  | none => p

def describe (p : Installation) : Installation :=
  { p with registry := p.registry.map Metrics.Registry.describe }

def record (p : Installation) (l : Metrics.Labels) : Installation :=
  { p with registry := p.registry.map fun r => r.record l }

/-- The text of the metrics, for those who can read them. -/
def render (p : Installation) : Option (List String) :=
  if p.readable then p.registry.map Metrics.Registry.render else none

end Installation
end CallGate.Telemetry
