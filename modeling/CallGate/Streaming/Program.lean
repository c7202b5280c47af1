import CallGate.Streaming.Duplex

/-! Handlers of streaming calls, as finite programs that may branch on all they receive, and streams
kept in memory that record what is done to them. -/

namespace CallGate.Streaming

/-- A handler's steps, its result, and a report for whoever started it. -/
inductive Program (In Out ρ : Type) where
  | done (result : Except Status Unit) (report : ρ)
  | recv (next : Except Status (Option In) → Program In Out ρ)
  | send (message : Out) (next : Except Status Unit → Program In Out ρ)
  | setTrailer (trailer : Metadata) (next : Program In Out ρ)

/-- What is recorded of a stream in memory. Sends are recorded, or all fail alike. -/
structure Tape (Out : Type) where
  sendFailure : Option Status := none
  sent : List Out := []
  trailers : List Metadata := []

instance {Out : Type} : Sink (Tape Out) Out (Except Status Unit) where
  send tape m :=
    match tape.sendFailure with
    | some s => (.error s, tape)
    | none => (.ok (), { tape with sent := tape.sent ++ [m] })
  setTrailer tape t := { tape with trailers := tape.trailers ++ [t] }

/-- A stream in memory. -/
structure Recording (In Out : Type) extends Tape Out where
  stream : ServerStream In

namespace Recording

variable {In Out : Type}

def context (r : Recording In Out) : Context := r.stream.context

/-- What is yet to be received. -/
def inbound (r : Recording In Out) : List (Except Status In) := r.stream.inbound

def recv (r : Recording In Out) : Except Status (Option In) × Recording In Out :=
  let (a, stream) := r.stream.recv
  (a, { r with stream })

def send (r : Recording In Out) (m : Out) : Except Status Unit × Recording In Out :=
  let (a, tape) := r.stream.send r.toTape m
  (a, { r with toTape := tape })

def setTrailer (r : Recording In Out) (t : Metadata) : Recording In Out :=
  { r with toTape := r.stream.setTrailer r.toTape t }

instance : StreamMetadata (Recording In Out) where
  context := context
  setTrailer := setTrailer

/-- The stream after the first of what is inbound was received. -/
def advance (r : Recording In Out) : Recording In Out := { r with stream := r.stream.rest }

@[simp] theorem inbound_advance (r : Recording In Out) : r.advance.inbound = r.inbound.tail :=
  r.stream.inbound_rest

theorem recv_eq (r : Recording In Out) : r.recv = (hearing r.inbound 0, r.advance) := by
  rw [recv, ServerStream.recv_eq]
  rfl

theorem send_eq (r : Recording In Out) (m : Out) : r.send m =
    match r.sendFailure with
    | some s => (.error s, r)
    | none => (.ok (), { r with sent := r.sent ++ [m] }) := by
  obtain ⟨⟨sendFailure, _, _⟩, _⟩ := r
  rw [send, ServerStream.send_eq]
  cases sendFailure <;> rfl

theorem setTrailer_eq (r : Recording In Out) (t : Metadata) :
    r.setTrailer t = { r with trailers := r.trailers ++ [t] } := by
  rw [setTrailer, ServerStream.setTrailer_eq]
  rfl

end Recording

variable {In Out ρ : Type}

/-- Runs a program on a recording to its end. -/
def Program.runOn : Program In Out ρ → Recording In Out →
    (Except Status Unit × ρ) × Recording In Out
  | .done result report, r => ((result, report), r)
  | .recv next, r => let (a, r) := r.recv; (next a).runOn r
  | .send m next, r => let (a, r) := r.send m; (next a).runOn r
  | .setTrailer t next, r => next.runOn (r.setTrailer t)

end CallGate.Streaming
