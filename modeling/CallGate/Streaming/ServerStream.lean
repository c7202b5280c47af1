import CallGate.Context
import CallGate.Status

/-! Streams as interceptors and handlers hold them. A stream can be put in a box, and a wrapper can show
a context in the place of the stream's own; both pass on whatever else is asked of them to the stream
inside. -/

namespace CallGate.Streaming

/-- What an interceptor can do with a stream, whatever the messages are. -/
class StreamMetadata (S : Type) where
  context : S → Context
  setTrailer : S → Metadata → S

/-- Where a stream leaves what goes out: its messages, and the trailers of the call. -/
class Sink (L : Type) (Out Sent : outParam Type) where
  send : L → Out → Sent × L
  setTrailer : L → Metadata → L

/-- The stream that a call came in with, a stream in a box, or one behind a wrapper. -/
inductive ServerStream (In : Type) where
  | own (context : Context) (inbound : List (Except Status In))
  | boxed (inner : ServerStream In)
  | wrapped (inner : ServerStream In) (context : Context)

/-- What the `n`-th receiving finds: what is in that place, or the end. -/
def hearing {In : Type} (inbound : List (Except Status In)) (n : Nat) : Except Status (Option In) :=
  match inbound[n]? with
  | some (.ok m) => .ok (some m)
  | some (.error s) => .error s
  | none => .ok none

theorem hearing_tail {In : Type} (inbound : List (Except Status In)) (n : Nat) :
    hearing inbound.tail n = hearing inbound (n + 1) := by
  rw [hearing, hearing, List.getElem?_tail]

namespace ServerStream

variable {In Out Sent L : Type}

/-- The context shown. -/
def context : ServerStream In → Context
  | own context _ => context
  | boxed inner => inner.context
  | wrapped _ context => context

/-- The next inbound message, or none at the end. An error is reported once and is not the end. -/
def recv : ServerStream In → Except Status (Option In) × ServerStream In
  | own context [] => (.ok none, own context [])
  | own context (.ok m :: rest) => (.ok (some m), own context rest)
  | own context (.error s :: rest) => (.error s, own context rest)
  | boxed inner =>
      let (a, inner) := inner.recv
      (a, boxed inner)
  | wrapped inner context =>
      let (a, inner) := inner.recv
      (a, wrapped inner context)

section Sink

variable [Sink L Out Sent]

def send (sink : L) : ServerStream In → Out → Sent × L
  | own .., m => Sink.send sink m
  | boxed inner, m => inner.send sink m
  | wrapped inner _, m => inner.send sink m

def setTrailer (sink : L) : ServerStream In → Metadata → L
  | own .., t => Sink.setTrailer sink t
  | boxed inner, t => inner.setTrailer sink t
  | wrapped inner _, t => inner.setTrailer sink t

end Sink

/-- What is inside the outermost wrapper, if there is one. A box does not hide it. -/
def unwrap? : ServerStream In → Option (ServerStream In)
  | own .. => none
  | boxed inner => inner.unwrap?
  | wrapped inner _ => some inner

/-- What the call still brings. -/
def inbound : ServerStream In → List (Except Status In)
  | own _ inbound => inbound
  | boxed inner | wrapped inner _ => inner.inbound

/-- The context that the call came in with, whatever is shown. -/
def root : ServerStream In → Context
  | own context _ => context
  | boxed inner | wrapped inner _ => inner.root

/-- The contexts of the wrappers, the outermost first. -/
def layers : ServerStream In → List Context
  | own .. => []
  | boxed inner => inner.layers
  | wrapped inner context => context :: inner.layers

/-- The same stream with the first of what is inbound left out. -/
def rest : ServerStream In → ServerStream In
  | own context inbound => own context inbound.tail
  | boxed inner => boxed inner.rest
  | wrapped inner context => wrapped inner.rest context

@[simp] theorem inbound_rest (s : ServerStream In) : s.rest.inbound = s.inbound.tail := by
  induction s with
  | own => rfl
  | boxed _ ih | wrapped _ _ ih => exact ih

@[simp] theorem root_rest (s : ServerStream In) : s.rest.root = s.root := by
  induction s with
  | own => rfl
  | boxed _ ih | wrapped _ _ ih => exact ih

@[simp] theorem layers_rest (s : ServerStream In) : s.rest.layers = s.layers := by
  induction s with
  | own => rfl
  | boxed _ ih => exact ih
  | wrapped _ context ih => exact congrArg (context :: ·) ih

/-- However it is wrapped, a stream receives what is inbound, and nothing but that is used up. -/
theorem recv_eq (s : ServerStream In) : s.recv = (hearing s.inbound 0, s.rest) := by
  induction s with
  | own context inbound => rcases inbound with _ | ⟨_ | _, _⟩ <;> rfl
  | boxed inner ih => rw [recv, ih]; rfl
  | wrapped inner context ih => rw [recv, ih]; rfl

section Sink

variable [Sink L Out Sent]

/-- However it is wrapped, a stream leaves its messages in the sink. -/
theorem send_eq (s : ServerStream In) (sink : L) (m : Out) : s.send sink m = Sink.send sink m := by
  induction s with
  | own => rfl
  | boxed _ ih | wrapped _ _ ih => exact ih

theorem setTrailer_eq (s : ServerStream In) (sink : L) (t : Metadata) :
    s.setTrailer sink t = Sink.setTrailer sink t := by
  induction s with
  | own => rfl
  | boxed _ ih | wrapped _ _ ih => exact ih

end Sink

/-- A stream shows the context of its outermost wrapper, and its own if there is none. -/
theorem context_eq (s : ServerStream In) : s.context = s.layers.headD s.root := by
  induction s with
  | own | wrapped => rfl
  | boxed _ ih => exact ih

/-- Taking the outermost wrapper off takes off its context. -/
theorem unwrap?_eq_none_iff {s : ServerStream In} : s.unwrap? = none ↔ s.layers = [] := by
  induction s with
  | own => simp [unwrap?, layers]
  | boxed _ ih => exact ih
  | wrapped => simp [unwrap?, layers]

theorem of_unwrap? {s inner : ServerStream In} (h : s.unwrap? = some inner) :
    inner.inbound = s.inbound ∧ inner.root = s.root ∧
      ∃ c, s.layers = c :: inner.layers := by
  induction s with
  | own => cases h
  | boxed _ ih => exact ih h
  | wrapped _ c => cases h; exact ⟨rfl, rfl, c, rfl⟩

end ServerStream
end CallGate.Streaming
