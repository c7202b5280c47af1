import CallGate.Gate
import CallGate.Handshake.Connection

/-! Calls served behind a gate: the gate decides, and the handler runs only if it lets the call in. -/

namespace CallGate

open Streaming

/-- The outcome of a call, the state collaborators are left in, and what happened. -/
structure Served (σ α : Type) where
  outcome : α
  state : σ
  trace : Trace

/-- The stream that a handler gets, in a box; behind a wrapper that shows the caller's identity, if
there is one. -/
def Verdict.furnish {In : Type} (stream : ServerStream In) : Verdict → Except Status (ServerStream In)
  | .pass _ => .ok (.boxed stream)
  | .identify i => .ok (.boxed (.wrapped stream (stream.context.attach i)))
  | .reject status => .error status

namespace Gate

variable {σ In Out ρ Req Resp : Type}

/-- A unary call: the handler's answer, or the gate's refusal. -/
def serveUnary (g : Gate σ) (method : Method) (m : Metadata) (request : Req)
    (handler : Context → Req → Except Status Resp) (s : σ) : Served σ (Except Status Resp) :=
  let d := g.interceptUnary method m s
  match d.verdict.grant (.root m) with
  | .error status => ⟨.error status, d.state, d.trace⟩
  | .ok c => ⟨handler c request, d.state, d.trace ++ [.entered c]⟩

/-- Decides a call on its stream, and hands that on. -/
def authorize (g : Gate σ) (method : Method) (d : Duplex In Out) (s : σ) :
    Served σ (Except Status (Duplex In Out)) :=
  let (decision, d) := g.hook method d s
  let granted := (decision.verdict.furnish d.stream).map fun stream => { d with stream }
  ⟨granted, decision.state, decision.trace⟩

/-- A streaming call: its handler and its stream, or the gate's refusal. -/
def serveStreaming (g : Gate σ) (method : Method) (m : Metadata)
    (inbound : List (Except Status In)) (handler : Context → Program In Out ρ) (s : σ) :
    Served σ (Except Status (Accepted In Out ρ)) :=
  let r := g.authorize method (.receive m inbound) s
  match r.outcome with
  | .error status => ⟨.error status, r.state, r.trace⟩
  | .ok d => ⟨.ok ⟨handler d.shown, d⟩, r.state, r.trace ++ [.entered d.shown]⟩

/-- The handshake call, whatever name it was called by. Its handler reports the authenticator's
state and what was exchanged. -/
def serveHandshake (g : Gate σ) (called : Option Method) (m : Metadata)
    (inbound : List (Except Status Handshake.Message)) (s : σ) :
    Served σ (Except Status (Accepted Handshake.Message Handshake.Message (σ × Trace))) :=
  let method := g.handshakeMethod called
  let asked := (g.hook method (Duplex.receive m inbound : Duplex _ Handshake.Message) s).1.state
  g.serveStreaming method m inbound (fun _ => Handshake.handler g.authenticator? asked) s

/-- A streaming call on a stream in memory, run to its end: the handler's result and report, or the
gate's refusal. -/
def serveOn (g : Gate σ) (method : Method) (r : Recording In Out)
    (handler : Context → Program In Out ρ) (s : σ) :
    Served σ (Except Status (Except Status Unit × ρ)) × Recording In Out :=
  let (decision, r) := g.hook method r s
  match decision.verdict.furnish r.stream with
  | .error status => (⟨.error status, decision.state, decision.trace⟩, r)
  | .ok stream =>
      let (result, r) := (handler stream.context).runOn { r with stream }
      (⟨.ok result, decision.state, decision.trace ++ [.entered stream.context]⟩, r)

end Gate

/-- Whether the client of a stream reads its response to the end, or leaves once it and the handler
have taken some turns. -/
inductive Client where
  | reads
  | leaves (turns : List Turn)
  deriving DecidableEq, Repr

/-- A call to a server, with the handler of its method. -/
inductive Call (Req Resp In Out ρ : Type) where
  | unary (method : Method) (metadata : Metadata) (request : Req)
      (handler : Context → Req → Except Status Resp)
  | stream (method : Method) (metadata : Metadata) (inbound : List (Except Status In))
      (handler : Context → Program In Out ρ) (client : Client)
  | handshake (called : Option Method) (metadata : Metadata)
      (inbound : List (Except Status Handshake.Message)) (client : Client)

/-- What comes of a call. -/
inductive Reply (Resp Out ρ : Type) where
  | answered (result : Except Status Resp)
  | rejected (status : Status)
  | streamed (responses : List (Item Out)) (report : ρ)
  | exchanged (responses : List (Item Handshake.Message))

def Streaming.Accepted.playFor {In Out ρ : Type} (a : Accepted In Out ρ) : Client → Finished In Out ρ
  | .reads => a.playOut
  | .leaves turns => a.playDeserted turns

namespace Gate

variable {σ In Out ρ Req Resp : Type}

/-- Serves a call to its end. -/
def serve (g : Gate σ) (call : Call Req Resp In Out ρ) (s : σ) : Served σ (Reply Resp Out ρ) :=
  match call with
  | .unary method m request handler =>
      let r := g.serveUnary method m request handler s
      ⟨.answered r.outcome, r.state, r.trace⟩
  | .stream method m inbound handler client =>
      let r := g.serveStreaming method m inbound handler s
      match r.outcome with
      | .error status => ⟨.rejected status, r.state, r.trace⟩
      | .ok accepted =>
          let f := accepted.playFor client
          ⟨.streamed f.received f.report, r.state, r.trace ++ f.notices.map .noted⟩
  | .handshake called m inbound client =>
      let r := g.serveHandshake called m inbound s
      match r.outcome with
      | .error status => ⟨.rejected status, r.state, r.trace⟩
      | .ok accepted =>
          let f := accepted.playFor client
          ⟨.exchanged f.received, f.report.1, r.trace ++ f.report.2 ++ f.notices.map .noted⟩

/-- Serves calls one after another; what collaborators learn in one is known in the next. -/
def serveAll (g : Gate σ) : List (Call Req Resp In Out ρ) → σ → Served σ (List (Reply Resp Out ρ))
  | [], s => ⟨[], s, []⟩
  | call :: calls, s =>
      let r := g.serve call s
      let rest := g.serveAll calls r.state
      ⟨r.outcome :: rest.outcome, rest.state, r.trace ++ rest.trace⟩

end Gate
end CallGate
