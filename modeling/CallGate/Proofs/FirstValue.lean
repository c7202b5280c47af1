import CallGate.Proofs.OpenAccess
import CallGate.Proofs.Refusal

/-! Which headers count. A gate reads the first value of its own header and no other, so calls that
differ in anything else are decided alike; and if their handlers do not look at the headers, they are
served alike to the end. -/

namespace CallGate

open Streaming

variable {σ Req Resp In Out ρ : Type}

def Context.withHeaders (c : Context) (m : Metadata) : Context := { c with metadata := m }

/-- The event with other headers in the context that a handler is entered with. -/
def Event.withHeaders (m : Metadata) : Event → Event
  | .entered c => .entered (c.withHeaders m)
  | e => e

theorem Trace.map_withHeaders {t : Trace} (unentered : t.contexts = []) (m : Metadata) :
    t.map (Event.withHeaders m) = t := by
  rw [contexts, List.filterMap_eq_nil_iff] at unentered
  have same : ∀ e ∈ t, e.withHeaders m = id e := by
    intro e he
    have other := unentered e he
    cases e with
    | entered c => cases other
    | _ => rfl
  rw [List.map_congr_left same, List.map_id]

namespace Call

/-- The same call with other headers. -/
def withHeaders (m : Metadata) : Call Req Resp In Out ρ → Call Req Resp In Out ρ
  | .unary method _ request handler => .unary method m request handler
  | .stream method _ inbound handler client => .stream method m inbound handler client
  | .handshake called _ inbound client => .handshake called m inbound client

/-- Whether the handler of a call leaves the headers alone. The authenticator of a handshake does not
get to see them. -/
def Blind : Call Req Resp In Out ρ → Prop
  | .unary _ _ _ handler => ∀ c m, handler (Context.withHeaders c m) = handler c
  | .stream _ _ _ handler _ => ∀ c m, handler (Context.withHeaders c m) = handler c
  | .handshake .. => True

end Call

theorem Verdict.grant_withHeaders {v : Verdict} {m : Metadata} {c : Context}
    (granted : v.grant (.root m) = .ok c) (n : Metadata) :
    v.grant (.root n) = .ok (c.withHeaders n) := by
  cases v with
  | pass | identify => cases granted; rfl
  | reject => cases granted

/-- Only the handler's stream has anything of the headers and of what is inbound. -/
theorem Verdict.opened_frame (v : Verdict) (m n : Metadata) (inbound other : List (Except Status In)) :
    (v.opened (.receive n other) : Duplex In Out) = { v.opened (.receive m inbound) with
      stream := (v.opened (.receive n other) : Duplex In Out).stream } := by
  match v with
  | .pass none | .pass (some _) | .identify _ | .reject _ => rfl

theorem Verdict.inbound_opened (v : Verdict) (m : Metadata) (inbound : List (Except Status In)) :
    (v.opened (.receive m inbound) : Duplex In Out).stream.inbound = inbound := by
  match v with
  | .pass none | .pass (some _) | .identify _ | .reject _ => rfl

/-- The stream that a verdict opens is played alike whatever its headers are. -/
theorem Verdict.playFor_opened (v : Verdict) (p : Program In Out ρ) (m n : Metadata)
    (inbound : List (Except Status In)) (client : Client) :
    ∃ call, (Accepted.mk p (v.opened (.receive n inbound))).playFor client =
      { (Accepted.mk p (v.opened (.receive m inbound))).playFor client with call } := by
  rw [v.opened_frame m n inbound]
  refine Accepted.playFor_alike p.heeds_id (.of_inbound ?_) client
  rw [v.inbound_opened, v.inbound_opened]

namespace Gate

/-- Whether a gate reads two calls' headers alike: its own header has the same first value in both, or
is missing from both. -/
def ReadsAlike (g : Gate σ) (m n : Metadata) : Prop :=
  ∀ scheme, g.scheme? = some scheme → m.first? scheme.headerName = n.first? scheme.headerName

theorem decideCall_congr {g : Gate σ} {m n : Metadata} (alike : g.ReadsAlike m n) (entry : Entry)
    (method : Method) (s : σ) : g.decideCall entry method m s = g.decideCall entry method n s := by
  cases g with
  | openAccess suffix => rfl
  | handshakeToken a suffix =>
    have header : m.first? HandshakeToken.headerName = n.first? HandshakeToken.headerName :=
      alike .handshakeToken rfl
    have token : HandshakeToken.presentedToken m = HandshakeToken.presentedToken n := by
      simp only [HandshakeToken.presentedToken, header]
    have check (entry : Entry) :
        HandshakeToken.check a entry method m s = HandshakeToken.check a entry method n s := by
      simp only [HandshakeToken.check, token]
    cases entry with
    | unary => exact check .unary
    | stream =>
      show (HandshakeToken.decideStream (some a) suffix method (Context.root m) s).1 =
        (HandshakeToken.decideStream (some a) suffix method (Context.root n) s).1
      unfold HandshakeToken.decideStream
      dsimp only
      split
      · rfl
      · exact check .stream
  | basicBearer v suffix =>
    have header : m.first? BasicBearer.headerName = n.first? BasicBearer.headerName :=
      alike .basicBearer rfl
    cases entry with
    | unary =>
      have token : BasicBearer.unaryToken m = BasicBearer.unaryToken n := by
        simp only [BasicBearer.unaryToken, header]
      show BasicBearer.decideUnary v method m s = BasicBearer.decideUnary v method n s
      simp only [BasicBearer.decideUnary, token]
    | stream =>
      have demand (handshake : Bool) :
          BasicBearer.demand handshake m = BasicBearer.demand handshake n := by
        simp only [BasicBearer.demand, header]
      have settled (demanded : Except Failure BasicBearer.Demand) :
          (BasicBearer.settle v (Context.root m) s demanded).1 =
            (BasicBearer.settle v (Context.root n) s demanded).1 := by
        rw [BasicBearer.settle_eq v (Context.root m) (Context.root n)]
      show (BasicBearer.decideStream v suffix method (Context.root m) s).1 =
        (BasicBearer.decideStream v suffix method (Context.root n) s).1
      have headers (m : Metadata) : (StreamMetadata.context (Context.root m)).metadata = m := rfl
      simp only [BasicBearer.decideStream, headers, demand, settled]

/-- A handler that leaves the headers alone does the same whatever they are. -/
theorem conduct_withHeaders (g : Gate σ) (d : Decision σ) (c : Context) (m : Metadata)
    {call : Call Req Resp In Out ρ} (blind : call.Blind) :
    g.conduct d (c.withHeaders m) (call.withHeaders m) = g.conduct d c call := by
  cases call with
  | unary method n request handler => simp only [conduct, Call.withHeaders, blind c m]
  | stream method n inbound handler client =>
    obtain ⟨_, played⟩ := d.verdict.playFor_opened (handler c) n m inbound client
    simp only [conduct, Call.withHeaders, blind c m, played]
  | handshake called n inbound client =>
    obtain ⟨_, played⟩ := d.verdict.playFor_opened
      (Handshake.handler g.authenticator? d.state) n m inbound client
    simp only [conduct, Call.withHeaders, played]

section Visits

variable {g : Gate σ} {x y : Visit σ Req Resp In Out ρ}

/-- Two visits that bring the same as far as a gate can tell, and find its collaborator in the same
state. -/
structure Akin (g : Gate σ) (x y : Visit σ Req Resp In Out ρ) : Prop where
  entry : x.call.entry = y.call.entry
  method : g.methodOf x.call = g.methodOf y.call
  header : g.ReadsAlike x.call.metadata y.call.metadata
  found : x.found = y.found

theorem Akin.judge (h : g.Akin x y) : g.judge x = g.judge y := by
  rw [Gate.judge, Gate.judge, h.entry, h.method, h.found]
  exact decideCall_congr h.header _ _ _

/-- All that comes of two visits on which the gate treats their callers alike. The verdict holds the
identity of the caller and the trailer that is set, or the status of a refusal. -/
structure Indistinct (g : Gate σ) (x y : Visit σ Req Resp In Out ρ) : Prop where
  interception : (g.attend x).trace.interception = (g.attend y).trace.interception
  hearings : (g.attend x).trace.hearings = (g.attend y).trace.hearings
  attempts : (g.attend x).trace.attempts = (g.attend y).trace.attempts
  verdict : (g.judge x).verdict = (g.judge y).verdict
  refused : ∀ status, g.RefusedWith x status ↔ g.RefusedWith y status
  identities : (g.attend x).trace.contexts.map Context.identity? =
    (g.attend y).trace.contexts.map Context.identity?
  /-- Where the two calls differ in their headers alone and their handler does not look at them,
  everything is the same but the headers in the context that it is entered with. -/
  served : ∀ m, y.call = x.call.withHeaders m → x.call.Blind →
    g.attend y = ⟨(g.attend x).outcome, (g.attend x).state,
      (g.attend x).trace.map (Event.withHeaders m)⟩

theorem Akin.identities (h : g.Akin x y) : (g.attend x).trace.contexts.map Context.identity? =
    (g.attend y).trace.contexts.map Context.identity? := by
  rw [contexts_attend, contexts_attend, h.judge]
  cases (g.judge y).verdict with
  | pass | identify | reject => rfl

theorem Akin.served (h : g.Akin x y) {m : Metadata} (other : y.call = x.call.withHeaders m)
    (blind : x.call.Blind) :
    g.attend y = ⟨(g.attend x).outcome, (g.attend x).state,
      (g.attend x).trace.map (Event.withHeaders m)⟩ := by
  have judged := h.judge
  have quiet := Trace.map_withHeaders (g.contexts_judge x) m
  cases granted : (g.judge x).verdict.grant (.root x.call.metadata) with
  | error status =>
    have rejected := Verdict.grant_eq_error_iff.1 granted
    rw [attend_refused rejected, attend_refused (judged ▸ rejected), ← judged, quiet, other]
    cases x.call <;> rfl
  | ok c =>
    have headers : y.call.metadata = m := by
      rw [other]
      cases x.call <;> rfl
    have granted' : (g.judge y).verdict.grant (.root y.call.metadata) = .ok (c.withHeaders m) := by
      rw [headers, ← judged]
      exact Verdict.grant_withHeaders granted m
    have silent := (g.isAftermath_conduct (g.judge x) c x.call).contexts
    rw [attend_conduct granted, attend_conduct granted', ← judged, other,
      g.conduct_withHeaders _ c m blind, List.map_append, List.map_cons, quiet,
      Trace.map_withHeaders silent]
    rfl

/-- The gate decides by the first value of its own header: whatever else is different in two calls
of one method, they are treated alike. -/
theorem attend_indistinct (akin : g.Akin x y) : g.Indistinct x y := by
  have judged := akin.judge
  constructor
  · rw [interception_attend, interception_attend, judged]
  · rw [hearings_attend, hearings_attend, judged]
  · rw [attempts_attend, attempts_attend, judged]
  · rw [judged]
  · intro status
    rw [refusedWith_iff, refusedWith_iff, judged]
  · exact akin.identities
  · intro m other blind
    exact akin.served other blind

end Visits

/-- A second value of the header, another scheme's header and headers of no scheme change nothing of
what a handshake hands out. -/
theorem attend_indistinct_solo :
    let more : Metadata := ⟨[("auth-token-bin", Bytes.ofText "!!!"),
      ("authorization", Bytes.ofText "Basic dTpw"), ("authorization", Bytes.ofText "Bearer t"),
      ("x-trace", [])]⟩
    ((soloGate "t").attend ⟨soloHandshake.withHeaders more, {}⟩).outcome =
      .exchanged [.error ⟨.ok, "", [], .single BasicBearer.headerName (Bytes.ofText "Bearer t")⟩] := by
  intro more
  have header : (soloGate "t").ReadsAlike soloHandshake.metadata
      (soloHandshake.withHeaders more).metadata := by
    rintro _ ⟨⟩
    rfl
  have akin : (soloGate "t").Akin ⟨soloHandshake, {}⟩ ⟨soloHandshake.withHeaders more, {}⟩ :=
    ⟨rfl, rfl, header, rfl⟩
  rw [(attend_indistinct akin).served more rfl trivial]
  rfl

end Gate
end CallGate
