import CallGate.Streaming.Program

/-! A handler and a client at the two ends of one call, taking turns in any order; and the outcome of
a call whose client reads all there is, or leaves before that. -/

namespace CallGate.Streaming

/-- Where a handler stands. After its result the completion may still wait for a slot. -/
inductive Task (In Out ρ : Type) where
  | running (program : Program In Out ρ)
  | completing (report : ρ)
  | over (report : ρ)

structure Session (In Out ρ : Type) where
  task : Task In Out ρ
  call : Duplex In Out
  /-- What the client has read, in order. -/
  received : List (Item Out) := []
  /-- Whether the client has read to the end. -/
  ended : Bool := false
  notices : List Notice := []

inductive Turn where
  | handler
  | client
  deriving DecidableEq, Repr

/-- What a send reports to the handler. -/
def Offer.outcome : Offer → Except Status Unit
  | .accepted => .ok ()
  | .full | .gone => .error clientLeft

namespace Session

variable {In Out ρ : Type}

/-- The handler's turn. A send into a full buffer waits for a later turn. -/
def stepHandler (s : Session In Out ρ) : Session In Out ρ :=
  match s.task with
  | .running (.done result report) =>
      let (o, call) := s.call.detach.finish result
      { s with
        call
        task := if o = .full then .completing report else .over report
        notices := s.notices ++ o.notices }
  | .running (.recv next) =>
      let (a, call) := s.call.recv
      { s with call, task := .running (next a) }
  | .running (.send m next) =>
      let (o, call) := s.call.send m
      if o = .full then s else { s with call, task := .running (next o.outcome) }
  | .running (.setTrailer t next) =>
      { s with call := s.call.setTrailer t, task := .running next }
  | .completing report =>
      match s.call.resume with
      | (some .full, _) => s
      | (o, call) =>
          { s with call, task := .over report, notices := s.notices ++ (o.map Offer.notices).getD [] }
  | .over _ => s

/-- The client's turn. -/
def stepClient (s : Session In Out ρ) : Session In Out ρ :=
  if s.call.outbox.reading then
    match s.call.next with
    | (.item i, call) => { s with call, received := s.received ++ [i] }
    | (.pending, _) => s
    | (.ended, _) => { s with ended := true }
  else s

def step (s : Session In Out ρ) : Turn → Session In Out ρ
  | .handler => s.stepHandler
  | .client => s.stepClient

def run (s : Session In Out ρ) (turns : List Turn) : Session In Out ρ := turns.foldl step s

end Session

/-- What is left of a call after its handler and its client are through. -/
structure Finished (In Out ρ : Type) where
  report : ρ
  call : Duplex In Out
  received : List (Item Out)
  notices : List Notice

variable {In Out ρ : Type}

def Reading.item? : Reading Out → Option (Item Out)
  | .item i => some i
  | _ => none

/-- The client reads one item if the buffer is full. -/
def Duplex.relieve (d : Duplex In Out) : List (Item Out) × Duplex In Out :=
  if d.outbox.reading ∧ capacity ≤ d.outbox.used then
    let (r, d) := d.next
    (r.item?.toList, d)
  else ([], d)

/-- Ends a call with the handler's result while the client reads to the end. -/
def Duplex.conclude (d : Duplex In Out) (result : Except Status Unit) :
    List (Item Out) × List Notice × Duplex In Out :=
  let (first, d) := d.detach.relieve
  let (o, d) := d.finish result
  let (rest, d) := d.drain
  (first ++ rest.filterMap Reading.item?, o.notices, d)

/-- Runs a program to its end while the client reads whenever the buffer is full, and all the rest
afterwards. -/
def Program.playOut : Program In Out ρ → Duplex In Out → List (Item Out) → Finished In Out ρ
  | .done result report, d, received =>
      let (rest, notices, d) := d.conclude result
      ⟨report, d, received ++ rest, notices⟩
  | .recv next, d, received =>
      let (a, d) := d.recv
      (next a).playOut d received
  | .send m next, d, received =>
      let (first, d) := d.relieve
      let (o, d) := d.send m
      (next o.outcome).playOut d (received ++ first)
  | .setTrailer t next, d, received => next.playOut (d.setTrailer t) received

/-- The client leaves, and the handler goes on to its end without it. -/
def Session.desert (s : Session In Out ρ) : Finished In Out ρ :=
  let call := s.call.hangUp
  match s.task with
  | .running program =>
      let f := program.playOut call s.received
      { f with notices := s.notices ++ f.notices }
  | .completing report =>
      let (o, call) := call.resume
      ⟨report, call, s.received, s.notices ++ (o.map Offer.notices).getD []⟩
  | .over report => ⟨report, call, s.received, s.notices⟩

/-- A call that was let in, its handler not started yet. -/
structure Accepted (In Out ρ : Type) where
  program : Program In Out ρ
  call : Duplex In Out

namespace Accepted

/-- The session in which nothing was done yet. -/
def session (a : Accepted In Out ρ) : Session In Out ρ := { task := .running a.program, call := a.call }

/-- The call whose client reads to the end. -/
def playOut (a : Accepted In Out ρ) : Finished In Out ρ := a.program.playOut a.call []

/-- The call whose client leaves once it and the handler have taken some turns. -/
def playDeserted (a : Accepted In Out ρ) (turns : List Turn) : Finished In Out ρ :=
  (a.session.run turns).desert

end Accepted
end CallGate.Streaming
