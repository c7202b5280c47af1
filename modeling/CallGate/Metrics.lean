import CallGate.Notice

/-! Counted attempts by scheme, kind of call and outcome, and their Prometheus text. Describing the
metric shows every series the gate can count from the start, at zero until its first attempt. -/

namespace CallGate.Metrics

def metricName : String := "flight_auth_attempts_total"

def metricHelp : String := "Total number of gRPC authentication attempts"

/-- The labels that tell one series from another. -/
structure Labels where
  scheme : String
  kind : String
  result : String
  deriving DecidableEq, Repr

/-- How an outcome is labelled. -/
def resultName (accepted : Bool) : String := if accepted then "success" else "rejected"

def labels (a : Attempt) : Labels := ⟨a.scheme.name, a.kind.name, resultName a.accepted⟩

/-- The series that are shown from the start: for each scheme its unary calls and its streams, and
handshakes only where a password is exchanged for a token. -/
def declared : List Labels :=
  (["handshake", "basic_bearer"].flatMap fun scheme =>
    ["unary", "stream"].flatMap fun kind =>
      ["success", "rejected"].map fun result => ⟨scheme, kind, result⟩) ++
  ["success", "rejected"].map fun result => ⟨"basic_bearer", "handshake", result⟩

/-- Series in the order of their first sample. -/
structure Registry where
  described : Bool := false
  samples : List (Labels × Nat) := []
  deriving DecidableEq, Repr

namespace Registry

def value? (r : Registry) (l : Labels) : Option Nat := (r.samples.find? (·.1 == l)).map (·.2)

/-- Adds `n` to a series, which starts at zero. -/
def add (r : Registry) (l : Labels) (n : Nat) : Registry :=
  { r with samples :=
      if r.samples.any (·.1 == l) then
        r.samples.map fun s => if s.1 == l then (s.1, s.2 + n) else s
      else r.samples ++ [(l, n)] }

/-- Counts one attempt. -/
def record (r : Registry) (l : Labels) : Registry := r.add l 1

/-- Adds the help text and shows every declared series, counts unchanged. -/
def describe (r : Registry) : Registry :=
  { declared.foldl (fun r l => r.add l 0) r with described := true }

end Registry

/-- A label's text between quotes. A backslash is held back until it is known whether what follows
escapes it: two in a row stand for one, and one before a quote goes with the quote's own. -/
def escapeFrom (held : Bool) : List Char → List Char
  | [] => if held then ['\\', '\\'] else []
  | '\n' :: rest => '\\' :: 'n' :: escapeFrom held rest
  | '"' :: rest => '\\' :: '"' :: escapeFrom false rest
  | '\\' :: rest => (if held then ['\\', '\\'] else []) ++ escapeFrom (!held) rest
  | c :: rest => (if held then ['\\', '\\'] else []) ++ c :: escapeFrom false rest

def escape (s : String) : String := String.ofList (escapeFrom false s.toList)

/-- How a series is called in the text. -/
def seriesName (l : Labels) : String :=
  metricName ++ "\x7bscheme=\"" ++ escape l.scheme ++ "\",kind=\"" ++ escape l.kind ++
    "\",result=\"" ++ escape l.result ++ "\"\x7d"

/-- The series by the names the text has for them. Where two have the same name, only the one that
came later shows. -/
def Registry.shown (r : Registry) : List (String × Nat) :=
  r.samples.foldl (fun shown s =>
    shown.filter (·.1 ≠ seriesName s.1) ++ [(seriesName s.1, s.2)]) []

/-- The lines of the text in sorted order. -/
def Registry.render (r : Registry) : List String :=
  if r.samples.isEmpty then []
  else
    let help := if r.described then ["# HELP " ++ metricName ++ " " ++ metricHelp] else []
    let lines := help ++ ["# TYPE " ++ metricName ++ " counter"] ++
      r.shown.map fun s => s.1 ++ " " ++ toString s.2
    lines.mergeSort fun a b => !decide (b < a)

end CallGate.Metrics
