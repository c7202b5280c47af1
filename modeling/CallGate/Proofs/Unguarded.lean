import CallGate.Proofs.Accounting
import CallGate.Proofs.HandshakeCall

/-! A gate without a scheme is not noticed. A run of calls through it is what their handlers make of
them on their own, each with nothing but the headers of its call, and of all gates only those without a
scheme are like that. -/

namespace CallGate

open Streaming

variable {σ Req Resp In Out ρ : Type}

namespace Streaming.Program

/-- A program does on a stream in a box what it does on the stream. -/
theorem runOn_boxed (p : Program In Out ρ) (r : Recording In Out) :
    p.runOn { r with stream := .boxed r.stream } =
      ((p.runOn r).1, { (p.runOn r).2 with stream := .boxed (p.runOn r).2.stream }) := by
  induction p generalizing r with
  | done result report => rfl
  | recv next ih =>
    simp only [runOn, Recording.recv_eq]
    exact ih _ r.advance
  | send m next ih =>
    obtain ⟨⟨sendFailure, sent, trailers⟩, stream⟩ := r
    simp only [runOn, Recording.send_eq]
    cases sendFailure with
    | none => exact ih (.ok ()) ⟨⟨none, sent ++ [m], trailers⟩, stream⟩
    | some status => exact ih (.error status) ⟨⟨some status, sent, trailers⟩, stream⟩
  | setTrailer t next ih =>
    simp only [runOn, Recording.setTrailer_eq]
    exact ih { r with trailers := r.trailers ++ [t] }

theorem script_boxed (p : Program In Out ρ) (d : Duplex In Out) : p.script d.box = p.script d := by
  have ran : p.runOn d.box.recording = _ := p.runOn_boxed d.recording
  simp only [script, ran]
  rfl

end Streaming.Program

namespace Call

/-- The reply of the handler of a call when nothing stands in front of it. A handshake that nobody
drives ends at once. -/
def reply : Call Req Resp In Out ρ → Reply Resp Out ρ
  | unary _ m request handler => .answered (handler (.root m) request)
  | stream _ m inbound handler client =>
      let f := (Accepted.mk (handler (.root m)) (.receive m inbound)).playFor client
      .streamed f.received f.report
  | handshake .. => .exchanged []

/-- What the stream of a call logs when nothing stands in front of its handler. -/
def notices : Call Req Resp In Out ρ → List Notice
  | stream _ m inbound handler client =>
      ((Accepted.mk (handler (.root m)) (.receive m inbound)).playFor client).notices
  | _ => []

/-- What happens in a call when nothing stands in front of its handler. -/
def happenings (call : Call Req Resp In Out ρ) : Trace :=
  .entered (.root call.metadata) :: call.notices.map .noted

end Call

namespace Gate

/-- Nothing that a caller, a handler or a collaborator can observe tells the gate from no gate. -/
structure Transparent (g : Gate σ) : Prop where
  unary : ∀ {Req Resp : Type} (method : Method) (m : Metadata) (request : Req)
    (handler : Context → Req → Except Status Resp) (s : σ),
    g.serveUnary method m request handler s =
      ⟨handler (.root m) request, s, [.entered (.root m)]⟩
  /-- The handler of a stream gets the call itself in a box, which makes no difference in whatever turns
  it and its client take, and what the client reads is what the handler sends and ends with. -/
  streaming : ∀ {In Out ρ : Type} (method : Method) (m : Metadata)
    (inbound : List (Except Status In)) (handler : Context → Program In Out ρ) (s : σ),
    let own : Accepted In Out ρ := ⟨handler (.root m), .receive m inbound⟩
    let boxed : Accepted In Out ρ := { own with call := own.call.box }
    g.serveStreaming method m inbound handler s = ⟨.ok boxed, s, [.entered (.root m)]⟩ ∧
      boxed.EndToEnd inbound ∧ boxed.script = own.script ∧
      ∀ turns, ∃ stream : ServerStream In, boxed.session.run turns =
        { own.session.run turns with call := { (own.session.run turns).call with stream } }
  inMemory : ∀ {In Out ρ : Type} (method : Method) (r : Recording In Out)
    (handler : Context → Program In Out ρ) (s : σ),
    let own := (handler r.context).runOn r
    g.serveOn method r handler s =
      (⟨.ok own.1, s, [.entered r.context]⟩, { own.2 with stream := .boxed own.2.stream })
  run : ∀ {Req Resp In Out ρ : Type} (calls : List (Call Req Resp In Out ρ)) (s : σ),
    g.serveAll calls s = ⟨calls.map Call.reply, s, calls.flatMap Call.happenings⟩
  /-- Nobody is consulted, nothing is counted, nobody is known, and nothing is logged that a handler on
  its own would not have logged. -/
  silent : ∀ {Req Resp In Out ρ : Type} (calls : List (Call Req Resp In Out ρ)) (s : σ),
    (g.serveAll calls s).trace.consultations = [] ∧
      (g.serveAll calls s).trace.attempts = [] ∧
      (g.serveAll calls s).trace.notices = calls.flatMap Call.notices ∧
      ∀ c ∈ (g.serveAll calls s).trace.contexts, c.identity? = none

/-- How an open gate comes about: as one that was disabled, or from settings that allow it and either
ask for no scheme or leave handshakes without anyone to drive them. -/
inductive Unlocked : Except Failure (Gate σ) → Prop
  | disabled (suffix : String) : Unlocked (.ok (openAccess suffix))
  | configured {c : Config} {a : Option (Authenticator σ)} {v : Option (Validator σ)}
      (allowed : c.allowUnauthenticated = true)
      (undriven : c.mode = .none ∨ c.mode = .handshake ∧ a = none) :
      Unlocked ((ofConfig c a v).map Prod.fst)

theorem Unlocked.exists_openAccess {built : Except Failure (Gate σ)} (h : Unlocked built) :
    ∃ suffix, built = .ok (openAccess suffix) := by
  cases h with
  | disabled suffix => exact ⟨suffix, rfl⟩
  | @configured c a v allowed undriven =>
    refine ⟨c.suffix, ?_⟩
    obtain mode | ⟨mode, rfl⟩ := undriven <;> simp [ofConfig, mode, allowed, Except.map]

section Happenings

variable (calls : List (Call Req Resp In Out ρ))

theorem of_mem_happenings {e : Event} (he : e ∈ calls.flatMap Call.happenings) :
    (∃ m, e = .entered (.root m)) ∨ ∃ n, e = .noted n := by
  obtain ⟨call, -, happened⟩ := List.mem_flatMap.1 he
  obtain rfl | noted := List.mem_cons.1 happened
  · exact .inl ⟨call.metadata, rfl⟩
  · obtain ⟨n, -, rfl⟩ := List.mem_map.1 noted
    exact .inr ⟨n, rfl⟩

theorem consultations_happenings : Trace.consultations (calls.flatMap Call.happenings) = [] := by
  rw [Trace.consultations, List.filter_eq_nil_iff]
  intro e he
  obtain ⟨m, rfl⟩ | ⟨n, rfl⟩ := of_mem_happenings calls he
  all_goals exact Bool.false_ne_true

theorem attempts_happenings : Trace.attempts (calls.flatMap Call.happenings) = [] := by
  rw [Trace.attempts, List.filterMap_eq_nil_iff]
  intro e he
  obtain ⟨m, rfl⟩ | ⟨n, rfl⟩ := of_mem_happenings calls he
  all_goals rfl

theorem identity?_happenings {c : Context}
    (entered : c ∈ Trace.contexts (calls.flatMap Call.happenings)) : c.identity? = none := by
  obtain ⟨e, he, context⟩ := List.mem_filterMap.1 entered
  obtain ⟨m, rfl⟩ | ⟨n, rfl⟩ := of_mem_happenings calls he
  · cases context
    exact Context.identity?_root m
  · cases context

theorem notices_happenings :
    Trace.notices (calls.flatMap Call.happenings) = calls.flatMap Call.notices := by
  have own (call : Call Req Resp In Out ρ) : Trace.notices call.happenings = call.notices := by
    show (call.notices.map .noted).filterMap Event.notice? = call.notices
    rw [List.filterMap_map]
    exact List.filterMap_some
  induction calls with
  | nil => rfl
  | cons call calls ih =>
    rw [List.flatMap_cons, Trace.notices_append, ih, List.flatMap_cons, own]

end Happenings

variable (suffix : String)

/-- A gate without a scheme leaves a call to its handler. -/
theorem serve_openAccess (call : Call Req Resp In Out ρ) (s : σ) :
    (openAccess suffix).serve call s = ⟨call.reply, s, call.happenings⟩ := by
  cases call with
  | unary => rfl
  | stream method m inbound handler client =>
    let p := handler (.root m)
    let d : Duplex In Out := .receive m inbound
    let boxed := (Accepted.mk p d.box).playFor client
    have served : (openAccess suffix).serve
        (.stream method m inbound handler client : Call Req Resp In Out ρ) s =
          ⟨.streamed boxed.received boxed.report, s,
            .entered (.root m) :: boxed.notices.map .noted⟩ := rfl
    have alike : (ServerStream.boxed d.stream).Alike id d.stream := .of_inbound rfl
    obtain ⟨_, played⟩ := Accepted.playFor_alike p.heeds_id alike client
    have played : boxed = _ := played
    rw [served, played]
    rfl
  | handshake called m inbound client =>
    let idle := (Accepted.mk (Handshake.handler (none : Option (Authenticator σ)) s)
      (Duplex.receive m inbound).box).playFor client
    have served : (openAccess suffix).serve
        (.handshake called m inbound client : Call Req Resp In Out ρ) s =
          ⟨.exchanged idle.received, idle.report.1,
            [.entered (.root m)] ++ idle.report.2 ++ idle.notices.map .noted⟩ := by
      rw [serve, serveHandshake_unasked (by simp [scheme?])]
      rfl
    obtain ⟨read, report, quiet⟩ := playFor_undriven m inbound client s
    rw [served, read, report, quiet]
    rfl

theorem serveAll_openAccess (calls : List (Call Req Resp In Out ρ)) (s : σ) :
    (openAccess suffix).serveAll calls s =
      ⟨calls.map Call.reply, s, calls.flatMap Call.happenings⟩ := by
  induction calls with
  | nil => rfl
  | cons call calls ih =>
    simp only [serveAll, serve_openAccess, ih]
    rfl

theorem transparent_openAccess : (openAccess suffix : Gate σ).Transparent where
  unary _ _ _ _ _ := rfl
  streaming _ m inbound handler _ := by
    refine ⟨rfl, Accepted.endToEnd ⟨rfl, rfl, rfl⟩, ?_, ?_⟩
    · exact Program.script_boxed (handler (.root m)) (.receive m inbound)
    · intro turns
      have alike : Session.Alike id (Accepted.mk (handler (.root m)) (.receive m inbound)).session
          (Accepted.mk (handler (.root m)) (Duplex.receive m inbound).box).session :=
        ⟨fun p _ => p.heeds_id, .boxed (.own (.root m) inbound), .of_inbound rfl, rfl⟩
      obtain ⟨-, stream, -, run⟩ := alike.run turns
      exact ⟨stream, run⟩
  inMemory method r handler s := by
    intro own
    let boxed := (handler r.context).runOn { r with stream := .boxed r.stream }
    have served : (openAccess suffix).serveOn method r handler s =
        (⟨.ok boxed.1, s, [.entered r.context]⟩, boxed.2) := rfl
    have ran : boxed = (own.1, { own.2 with stream := .boxed own.2.stream }) :=
      (handler r.context).runOn_boxed r
    rw [served, ran]
  run calls s := serveAll_openAccess suffix calls s
  silent calls s := by
    rw [serveAll_openAccess]
    exact ⟨consultations_happenings calls, attempts_happenings calls, notices_happenings calls,
      fun _ entered => identity?_happenings calls entered⟩

/-- A gate with a scheme counts a unary call that no gate would not have counted. -/
theorem transparent_iff [Nonempty σ] {g : Gate σ} : g.Transparent ↔ g.scheme? = none := by
  constructor
  · intro transparent
    obtain ⟨s⟩ := ‹Nonempty σ›
    let call : Call Unit Unit Unit Unit Unit := .unary ⟨""⟩ .empty () fun _ _ => .ok ()
    have uncounted : (g.attend ⟨call, s⟩).trace.attempts = [] := by
      have silent := (transparent.silent [call] s).2.1
      rw [serveAll_trace] at silent
      simpa [visits] using silent
    have series := labels_attend (g := g) (v := ⟨call, s⟩)
    rw [uncounted] at series
    cases g with
    | openAccess => rfl
    | handshakeToken | basicBearer => cases series
  · intro opened
    cases g with
    | openAccess suffix => exact transparent_openAccess suffix
    | handshakeToken | basicBearer => cases opened

/-- An open gate, however it comes about, is not noticed. -/
theorem unlocked_transparent {built : Except Failure (Gate σ)} (h : Unlocked built) :
    ∃ g, built = .ok g ∧ g.Transparent := by
  obtain ⟨suffix, rfl⟩ := h.exists_openAccess
  exact ⟨openAccess suffix, rfl, transparent_openAccess suffix⟩

/-- Calls with headers that no scheme could read. -/
def garbled : List (Call Unit Unit Unit Unit Unit) :=
  [soloUnary (Bytes.ofText "Basic !!"),
    .stream ⟨"/svc/Get"⟩ (.single HandshakeToken.headerName (Bytes.ofText "!!")) []
      (fun c => .done (if c.identity? = none then .ok () else .error clientLeft) ()) .reads]

/-- Though both collaborators are at hand, neither is asked about headers that it would refuse. -/
theorem unlocked_transparent_garbled :
    ∃ g, (ofConfig { suffix := "/Other", mode := .none, allowUnauthenticated := true }
        (some (Script.authenticator [] { tokens := [] })) (some (soloValidator "t"))).map Prod.fst =
          .ok g ∧
      (g.serveAll garbled {}).outcome = [.answered (.ok ()), .streamed [] ()] ∧
      (g.serveAll garbled {}).trace.consultations = [] ∧
      (g.serveAll garbled {}).trace.notices = [] := by
  let c : Config := { suffix := "/Other", mode := .none, allowUnauthenticated := true }
  obtain ⟨g, built, transparent⟩ := unlocked_transparent (.configured (c := c) rfl (.inl rfl))
  obtain ⟨unasked, -, unlogged, -⟩ := transparent.silent garbled ({} : Issued)
  refine ⟨g, built, ?_, unasked, unlogged⟩
  rw [transparent.run]
  rfl

end Gate
end CallGate
