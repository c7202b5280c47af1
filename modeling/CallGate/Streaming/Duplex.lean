import CallGate.Streaming.Outbox
import CallGate.Streaming.ServerStream
import CallGate.Trace

/-! A streaming call seen from its two ends. The handler holds a stream that receives and sends; the
client reads responses; a completion handle ends the response with the handler's result and the
trailers set so far. -/

namespace CallGate.Streaming

/-- What the client reads: a message, or the status that ends the call. -/
abbrev Item (Out : Type) := Except Status Out

/-- What the handler's stream and the completion handle share. -/
structure Line (Out : Type) where
  trailer : Metadata := {}
  outbox : Outbox (Item Out) := {}

/-- Trailers replace what was set under the same names before. -/
instance {Out : Type} : Sink (Line Out) Out Offer where
  send line m :=
    let (o, outbox) := line.outbox.offer (.ok m)
    (o, { line with outbox })
  setTrailer line t := { line with trailer := line.trailer.replace t }

structure Duplex (In Out : Type) extends Line Out where
  stream : ServerStream In
  /-- Whether the handler's stream is still held. -/
  attached : Bool := true
  /-- Whether the completion handle was not used yet. -/
  completable : Bool := true

/-- What a send fails with once the client has left. -/
def clientLeft : Status :=
  { code := .cancelled, message := "response stream closed by client" }

def Offer.notices : Offer → List Notice
  | .gone => [.clientGone]
  | _ => []

/-- The status that a result and trailers end the response with. Success without trailers needs
none. -/
def terminal? (trailer : Metadata) : Except Status Unit → Option Status
  | .ok () => if trailer.isEmpty then none else some { code := .ok, message := "", metadata := trailer }
  | .error s => some { s with metadata := s.metadata.merge trailer }

/-- What the client finds when it reads. -/
inductive Reading (Out : Type) where
  | item (i : Item Out)
  | pending
  | ended

namespace Duplex

variable {In Out : Type}

/-- A call that comes in with headers and a sequence of messages and errors. -/
def receive (metadata : Metadata) (inbound : List (Except Status In)) : Duplex In Out :=
  { stream := .own (.root metadata) inbound }

/-- The context the stream shows. -/
def shown (d : Duplex In Out) : Context := d.stream.context

/-- The context shown under the outermost wrapper, if there is one. -/
def inner? (d : Duplex In Out) : Option Context := d.stream.unwrap?.map ServerStream.context

/-- What the handler has yet to receive. -/
def inbound (d : Duplex In Out) : List (Except Status In) := d.stream.inbound

def box (d : Duplex In Out) : Duplex In Out := { d with stream := .boxed d.stream }

def wrap (d : Duplex In Out) (c : Context) : Duplex In Out := { d with stream := .wrapped d.stream c }

def unwrap? (d : Duplex In Out) : Option (Duplex In Out) :=
  d.stream.unwrap?.map fun stream => { d with stream }

def recv (d : Duplex In Out) : Except Status (Option In) × Duplex In Out :=
  let (a, stream) := d.stream.recv
  (a, { d with stream })

def send (d : Duplex In Out) (m : Out) : Offer × Duplex In Out :=
  let (o, line) := d.stream.send d.toLine m
  (o, { d with toLine := line })

def setTrailer (d : Duplex In Out) (t : Metadata) : Duplex In Out :=
  { d with toLine := d.stream.setTrailer d.toLine t }

instance : StreamMetadata (Duplex In Out) where
  context := shown
  setTrailer := setTrailer

/-- The call once its handler has received the first of what is inbound. -/
def advance (d : Duplex In Out) : Duplex In Out := { d with stream := d.stream.rest }

@[simp] theorem inbound_advance (d : Duplex In Out) : d.advance.inbound = d.inbound.tail :=
  d.stream.inbound_rest

theorem recv_eq (d : Duplex In Out) : d.recv = (hearing d.inbound 0, d.advance) := by
  rw [recv, ServerStream.recv_eq]
  rfl

theorem send_eq (d : Duplex In Out) (m : Out) : d.send m =
    ((d.outbox.offer (.ok m)).1, { d with outbox := (d.outbox.offer (.ok m)).2 }) := by
  rw [send, ServerStream.send_eq]
  rfl

theorem setTrailer_eq (d : Duplex In Out) (t : Metadata) :
    d.setTrailer t = { d with trailer := d.trailer.replace t } := by
  rw [setTrailer, ServerStream.setTrailer_eq]
  rfl

/-- Gives up the stream with all its wrappers. -/
def detach (d : Duplex In Out) : Duplex In Out := { d with attached := false }

/-- Uses the completion handle. The trailers are taken now, even if the status has to wait. -/
def finish (d : Duplex In Out) (result : Except Status Unit) : Offer × Duplex In Out :=
  let done := { d with completable := false, trailer := {} }
  match terminal? d.trailer result with
  | none => (.accepted, done)
  | some status =>
      let (o, outbox) := d.outbox.await (.error status)
      (o, { done with outbox })

theorem finish_of_silent {d : Duplex In Out} {result : Except Status Unit}
    (silent : terminal? d.trailer result = none) :
    d.finish result = (.accepted, { d with completable := false, trailer := {} }) := by
  rw [finish, silent]

theorem finish_of_terminal {d : Duplex In Out} {result : Except Status Unit} {status : Status}
    (terminal : terminal? d.trailer result = some status) :
    d.finish result = ((d.outbox.await (.error status)).1, { d with
      completable := false, trailer := {}, outbox := (d.outbox.await (.error status)).2 }) := by
  rw [finish, terminal]

/-- Goes on with a completion that waits for a slot; none if there is no such completion. -/
def resume (d : Duplex In Out) : Option Offer × Duplex In Out :=
  let (o, outbox) := d.outbox.resume
  (o, { d with outbox })

/-- Whether anyone is left who may still send. -/
def hasSender (d : Duplex In Out) : Bool :=
  d.attached || d.completable || d.outbox.waiting.isSome

/-- The client reads. The response has ended once it is empty and nobody may send any more. -/
def next (d : Duplex In Out) : Reading Out × Duplex In Out :=
  match d.outbox.take with
  | (some i, outbox) => (.item i, { d with outbox })
  | (none, _) => (if d.hasSender then .pending else .ended, d)

theorem next_of_nil {d : Duplex In Out} (queue : d.outbox.queue = []) :
    d.next = (if d.hasSender then .pending else .ended, d) := by
  simp [next, Outbox.take, queue]

theorem next_of_cons {d : Duplex In Out} {i : Item Out} {rest : List (Item Out)}
    (queue : d.outbox.queue = i :: rest) :
    d.next = (.item i, { d with outbox := d.outbox.take.2 }) := by
  rw [next, Outbox.take_of_cons queue]

/-- The client reads `n` times. -/
def nexts : Nat → Duplex In Out → List (Reading Out) × Duplex In Out
  | 0, d => ([], d)
  | n + 1, d =>
      let (r, d) := d.next
      let (rs, d) := nexts n d
      (r :: rs, d)

/-- The client reads until there is nothing to read; that takes one reading more than there are
items. -/
def drain (d : Duplex In Out) : List (Reading Out) × Duplex In Out :=
  nexts (d.outbox.queue.length + 1) d

def hangUp (d : Duplex In Out) : Duplex In Out := { d with outbox := d.outbox.hangUp }

section Frame

variable (d : Duplex In Out) (stream : ServerStream In)

/-- A client that reads does not look at the handler's stream. -/
theorem next_frame : ({ d with stream } : Duplex In Out).next = (d.next.1, { d.next.2 with stream }) := by
  cases queue : d.outbox.queue with
  | nil => rw [next_of_nil queue, next_of_nil (d := { d with stream }) queue]; rfl
  | cons i rest => rw [next_of_cons queue, next_of_cons (d := { d with stream }) queue]

theorem nexts_frame (n : Nat) : nexts n ({ d with stream } : Duplex In Out) =
    ((nexts n d).1, { (nexts n d).2 with stream }) := by
  induction n generalizing d with
  | zero => rfl
  | succ n ih => simp only [nexts, next_frame, ih]

theorem finish_frame (result : Except Status Unit) :
    ({ d with stream } : Duplex In Out).finish result =
      ((d.finish result).1, { (d.finish result).2 with stream }) := by
  unfold finish
  cases terminal? d.trailer result <;> rfl

theorem stream_next : d.next.2.stream = d.stream := congrArg (·.2.stream) (d.next_frame d.stream)

theorem stream_finish (result : Except Status Unit) : (d.finish result).2.stream = d.stream :=
  congrArg (·.2.stream) (d.finish_frame d.stream result)

end Frame

end Duplex

/-- What can be done to a call at its ends. A send that finds the buffer full is given up at once. A
completion is begun and goes on as far as it can in one step; one that has to wait is kept, and the
handle is never dropped without being used. -/
inductive Op (Out : Type) where
  | recv
  | send (message : Out)
  | setTrailer (trailer : Metadata)
  | box
  | wrap (context : Context)
  | unwrap
  | detach
  | next
  | hangUp
  | finish (result : Except Status Unit)
  | resume

/-- What comes of an operation. The last four say that what it needs is no longer there. -/
inductive Answer (In Out : Type) where
  | received (message : Except Status (Option In))
  | sent (offer : Offer)
  | done
  | notWrapped
  | read (reading : Reading Out)
  | finished (offer : Offer)
  | noStream
  | noReader
  | noCompletion
  | notFinishing

/-- What an operation logs. -/
def Answer.notices {In Out : Type} : Answer In Out → List Notice
  | .finished o => o.notices
  | _ => []

namespace Duplex

variable {In Out : Type}

/-- An operation on the handler's stream, which fails once the stream was given up. -/
def onStream (d : Duplex In Out) (act : Answer In Out × Duplex In Out) :
    Answer In Out × Duplex In Out :=
  if d.attached then act else (.noStream, d)

def step (d : Duplex In Out) : Op Out → Answer In Out × Duplex In Out
  | .recv => d.onStream (let (a, d) := d.recv; (.received a, d))
  | .send m => d.onStream (let (o, d) := d.send m; (.sent o, d))
  | .setTrailer t => d.onStream (.done, d.setTrailer t)
  | .box => d.onStream (.done, d.box)
  | .wrap c => d.onStream (.done, d.wrap c)
  | .unwrap => d.onStream (match d.unwrap? with
      | some d => (.done, d)
      | none => (.notWrapped, d))
  | .detach => (.done, d.detach)
  | .next =>
      if d.outbox.reading then let (r, d) := d.next; (.read r, d) else (.noReader, d)
  | .hangUp => (.done, d.hangUp)
  | .finish r =>
      if d.completable then let (o, d) := d.finish r; (.finished o, d) else (.noCompletion, d)
  | .resume => match d.resume with
      | (some o, d) => (.finished o, d)
      | (none, d) => (.notFinishing, d)

/-- The answers of operations one after another. -/
def run (d : Duplex In Out) : List (Op Out) → List (Answer In Out) × Duplex In Out
  | [] => ([], d)
  | op :: ops =>
      let (a, d) := d.step op
      let (as, d) := d.run ops
      (a :: as, d)

/-- Whatever is done at the two ends, the buffer stays sound. -/
theorem outbox_step {d : Duplex In Out} (h : d.outbox.Sound) (op : Op Out) :
    (d.step op).2.outbox.Sound := by
  cases op with
  | recv =>
    simp only [step, onStream, recv]
    split <;> exact h
  | send m =>
    simp only [step, onStream, send_eq]
    split
    · exact h.offer _
    · exact h
  | setTrailer t =>
    simp only [step, onStream, setTrailer_eq]
    split <;> exact h
  | box | wrap c =>
    simp only [step, onStream]
    split <;> exact h
  | unwrap =>
    simp only [step, onStream, unwrap?]
    split
    · cases d.stream.unwrap? <;> exact h
    · exact h
  | detach => exact h
  | next =>
    simp only [step]
    split
    · cases queue : d.outbox.queue with
      | nil =>
        rw [next_of_nil queue]
        exact h
      | cons i rest =>
        rw [next_of_cons queue]
        exact h.take
    · exact h
  | hangUp => exact h.hangUp
  | finish r =>
    simp only [step]
    split
    · cases terminal : terminal? d.trailer r with
      | none =>
        rw [finish_of_silent terminal]
        exact h
      | some status =>
        rw [finish_of_terminal terminal]
        exact h.await _
    · exact h
  | resume =>
    have hr := h.resume
    simp only [step, resume]
    cases hq : d.outbox.resume with
    | mk o outbox =>
      rw [hq] at hr
      cases o <;> exact hr

end Duplex
end CallGate.Streaming
