import CallGate.Directory
import CallGate.Proofs.Decision
import CallGate.Proofs.Handlers

/-! A run of calls, one visit after another. A visit is a decision and, if that lets the call in, a
handler; whatever happens after the handler is entered asks nobody about the caller and counts
nothing. -/

namespace CallGate

open Streaming

variable {σ Req Resp In Out ρ : Type}

/-- The stream that the handler of a call gets under a verdict. -/
def Verdict.opened (v : Verdict) (d : Duplex In Out) : Duplex In Out :=
  match v with
  | .pass (some trailer) => (d.setTrailer trailer).box
  | .identify i => (d.wrap (d.shown.attach i)).box
  | _ => d.box

theorem Verdict.grant_eq_error_iff {v : Verdict} {c : Context} {status : Status} :
    v.grant c = .error status ↔ v = .reject status := by
  cases v <;> simp [Verdict.grant]

namespace Call

def entry : Call Req Resp In Out ρ → Entry
  | unary .. => .unary
  | stream .. | handshake .. => .stream

def metadata : Call Req Resp In Out ρ → Metadata
  | unary _ m _ _ | stream _ m _ _ _ | handshake _ m _ _ => m

/-- The reply to a call that the gate refuses. No handler has a part in it. -/
def refused (status : Status) : Call Req Resp In Out ρ → Reply Resp Out ρ
  | unary .. => .answered (.error status)
  | stream .. | handshake .. => .rejected status

end Call

/-- A call of a run, with the state it finds. -/
structure Visit (σ Req Resp In Out ρ : Type) where
  call : Call Req Resp In Out ρ
  found : σ

namespace Gate

/-- The visits of a run, in order. -/
def visits (g : Gate σ) : List (Call Req Resp In Out ρ) → σ → List (Visit σ Req Resp In Out ρ)
  | [], _ => []
  | call :: calls, s => ⟨call, s⟩ :: g.visits calls (g.serve call s).state

/-- What comes of a visit. -/
def attend (g : Gate σ) (v : Visit σ Req Resp In Out ρ) : Served σ (Reply Resp Out ρ) :=
  g.serve v.call v.found

/-- The method a call is taken to ask for. -/
def methodOf (g : Gate σ) : Call Req Resp In Out ρ → Method
  | .unary method .. | .stream method .. => method
  | .handshake called .. => g.handshakeMethod called

/-- What the gate decides about a visit. -/
def judge (g : Gate σ) (v : Visit σ Req Resp In Out ρ) : Decision σ :=
  g.decideCall v.call.entry (g.methodOf v.call) v.call.metadata v.found

/-- The reply of a call's own handler, run once with the context `c` after the decision `d`. -/
def handled (g : Gate σ) (d : Decision σ) (c : Context) : Call Req Resp In Out ρ → Reply Resp Out ρ
  | .unary _ _ request handler => .answered (handler c request)
  | .stream _ m inbound handler client =>
      let f := (Accepted.mk (handler c) (d.verdict.opened (.receive m inbound))).playFor client
      .streamed f.received f.report
  | .handshake _ m inbound client =>
      let handler := Handshake.handler g.authenticator? d.state
      .exchanged ((Accepted.mk handler (d.verdict.opened (.receive m inbound))).playFor client).received

/-- All that comes of a call once it has entered its handler with the context `c` after the decision
`d`. -/
def conduct (g : Gate σ) (d : Decision σ) (c : Context) :
    Call Req Resp In Out ρ → Served σ (Reply Resp Out ρ)
  | .unary _ _ request handler => ⟨.answered (handler c request), d.state, []⟩
  | .stream _ m inbound handler client =>
      let f := (Accepted.mk (handler c) (d.verdict.opened (.receive m inbound))).playFor client
      ⟨.streamed f.received f.report, d.state, f.notices.map .noted⟩
  | .handshake _ m inbound client =>
      let handler := Handshake.handler g.authenticator? d.state
      let f := (Accepted.mk handler (d.verdict.opened (.receive m inbound))).playFor client
      ⟨.exchanged f.received, f.report.1, f.report.2 ++ f.notices.map .noted⟩

end Gate

/-- What may happen once a handler runs: the exchange of a handshake, and a client found gone. -/
def Event.isAftermath : Event → Bool
  | .authenticating | .read _ | .sent .. | .noted .clientGone => true
  | _ => false

/-- What may happen between an authenticator and its peer. -/
def Event.isExchange : Event → Bool
  | .read _ | .sent .. | .noted .clientGone => true
  | _ => false

def Event.isHearing : Event → Bool
  | .validated .. | .checkedToken .. | .checkedBinary .. => true
  | _ => false

namespace Trace

/-- What collaborators were asked about the caller, and what they answered. -/
def hearings (t : Trace) : Trace := t.filter Event.isHearing

/-- What happened before any handler was entered. -/
def interception (t : Trace) : Trace := t.takeWhile fun e => e.context?.isNone

@[simp] theorem hearings_append (s t : Trace) : hearings (s ++ t) = s.hearings ++ t.hearings :=
  List.filter_append ..

theorem interception_eq_self {t : Trace} (h : t.contexts = []) : t.interception = t := by
  rw [contexts, List.filterMap_eq_nil_iff] at h
  have keep : interception (t ++ []) = t ++ interception [] :=
    List.takeWhile_append_of_pos fun e he => by simp [h e he]
  simpa [interception] using keep

theorem interception_append {t : Trace} (h : t.contexts = []) (c : Context) (after : Trace) :
    interception (t ++ .entered c :: after) = t := by
  rw [contexts, List.filterMap_eq_nil_iff] at h
  rw [interception, List.takeWhile_append_of_pos fun e he => by simp [h e he]]
  simp [Event.context?]

/-- A trace in which a handler is at work already. -/
def IsAftermath (t : Trace) : Prop := ∀ e ∈ t, e.isAftermath = true

/-- A trace of reads and sends, and of a client found gone. -/
def IsExchange (t : Trace) : Prop := ∀ e ∈ t, e.isExchange = true

theorem IsExchange.isAftermath {t : Trace} (h : t.IsExchange) : t.IsAftermath := by
  intro e he
  have exchange := h e he
  cases e with
  | read | sent => rfl
  | noted notice =>
    cases notice with
    | clientGone => rfl
    | _ => cases exchange
  | _ => cases exchange

theorem IsAftermath.append {s t : Trace} (hs : s.IsAftermath) (ht : t.IsAftermath) :
    IsAftermath (s ++ t) := by
  intro e he
  rcases List.mem_append.1 he with h | h
  · exact hs e h
  · exact ht e h

theorem IsAftermath.hearings {t : Trace} (h : t.IsAftermath) : t.hearings = [] := by
  rw [Trace.hearings, List.filter_eq_nil_iff]
  intro e he
  have := h e he
  cases e <;> simp_all [Event.isAftermath, Event.isHearing]

theorem IsAftermath.contexts {t : Trace} (h : t.IsAftermath) : t.contexts = [] := by
  rw [Trace.contexts, List.filterMap_eq_nil_iff]
  intro e he
  have := h e he
  cases e <;> simp_all [Event.isAftermath, Event.context?]

theorem IsAftermath.attempts {t : Trace} (h : t.IsAftermath) : t.attempts = [] := by
  rw [Trace.attempts, List.filterMap_eq_nil_iff]
  intro e he
  have := h e he
  cases e <;> simp_all [Event.isAftermath, Event.attempt?]

end Trace

namespace Streaming

theorem Accepted.isExchange_notices (a : Accepted In Out ρ) (client : Client) :
    Trace.IsExchange ((a.playFor client).notices.map .noted) := by
  intro e he
  obtain ⟨n, hn, rfl⟩ := List.mem_map.1 he
  rw [a.notices_playFor client n hn]
  rfl

theorem Accepted.isAftermath_notices (a : Accepted In Out ρ) (client : Client) :
    Trace.IsAftermath ((a.playFor client).notices.map .noted) :=
  (a.isExchange_notices client).isAftermath

end Streaming

namespace Handshake

theorem Runs.isExchange {x : Exchange ρ} {inbound : List (Except Status Message)} {events : Trace}
    {report : ρ} (h : Runs x inbound events report) : events.IsExchange := by
  induction h with
  | done => exact nofun
  | read _ ih | send _ _ ih => exact List.forall_mem_cons.2 ⟨rfl, ih⟩

theorem isAftermath_report (a : Option (Authenticator σ)) (s : σ) (d : Duplex Message Message)
    (client : Client) :
    Trace.IsAftermath ((Accepted.mk (handler a s) d).playFor client).report.2 := by
  cases a with
  | none =>
    rw [report_unauthenticated]
    exact nofun
  | some a =>
    obtain ⟨exchanged, events, runs⟩ := report_authenticated a s d client
    rw [events]
    exact List.forall_mem_cons.2 ⟨rfl, runs.isExchange.isAftermath⟩

end Handshake

theorem Credential.hearings_checked (c : Credential) (answer : Except Status Identity) (n : Notice)
    (a : Attempt) : Trace.hearings [c.checked answer, .noted n, .counted a] = [c.checked answer] := by
  cases c <;> rfl

namespace Gate

/-- What the collaborator of a gate says in a state, and the state that this leaves it in. -/
def Says (g : Gate σ) (s : σ) : Event → σ → Prop
  | .validated username password answer, s' =>
      ∃ v, g = basicBearer v g.suffix ∧ v.validate username password s = (answer, s')
  | .checkedToken token answer, s' =>
      ∃ v, g = basicBearer v g.suffix ∧ v.isValid token s = (answer, s')
  | .checkedBinary token answer, s' =>
      ∃ a, g = handshakeToken a g.suffix ∧ a.isValid token s = (answer, s')
  | _, _ => False

/-- All that is heard of a collaborator that is found in the state `s` and left in the state `s'`: what
it was asked and said, if it was asked at all. -/
inductive Hears (g : Gate σ) (s : σ) : Trace → σ → Prop
  | nothing : Hears g s [] s
  | once {e : Event} {s' : σ} (said : g.Says s e s') : Hears g s [e] s'

theorem vouch?_text {g : Gate σ} {token : String} {s : σ} {answer : Except Status Identity × σ}
    (h : g.vouch? (.text token) s = some answer) :
    ∃ v, g = basicBearer v g.suffix ∧ v.isValid token s = answer := by
  cases g with
  | basicBearer v suffix => exact ⟨v, rfl, Option.some.inj h⟩
  | openAccess | handshakeToken => cases h

theorem vouch?_octets {g : Gate σ} {token : Bytes} {s : σ} {answer : Except Status Identity × σ}
    (h : g.vouch? (.octets token) s = some answer) :
    ∃ a, g = handshakeToken a g.suffix ∧ a.isValid token s = answer := by
  cases g with
  | handshakeToken a suffix => exact ⟨a, rfl, Option.some.inj h⟩
  | openAccess | basicBearer => cases h

theorem says_of_vouch? {g : Gate σ} {c : Credential} {s s' : σ} {answer : Except Status Identity}
    (h : g.vouch? c s = some (answer, s')) : g.Says s (c.checked answer) s' := by
  cases c with
  | text token => exact vouch?_text h
  | octets token => exact vouch?_octets h

namespace Course

variable {g : Gate σ} {entry : Entry} {method : Method} {m : Metadata} {s : σ} {d : Decision σ}

/-- Nobody is heard twice about one call, and what is heard is what the collaborator says. -/
theorem hears (h : g.Course entry method m s d) : g.Hears s d.trace.hearings d.state := by
  cases h with
  | waved | unreadable | unmet => exact .nothing
  | accepted _ _ _ answer | refused _ _ _ answer =>
    rw [Credential.hearings_checked]
    exact .once (says_of_vouch? answer)
  | barred validator _ _ answer | issued validator _ _ answer | unsendable validator _ _ answer =>
    exact .once ⟨_, validator, answer⟩

theorem says_of_hearings (h : g.Course entry method m s d) {e : Event}
    (heard : d.trace.hearings = [e]) : g.Says s e d.state := by
  have hears := h.hears
  rw [heard] at hears
  cases hears with
  | once said => exact said

/-- A call that brings its credential is decided by what the collaborator says about it. -/
theorem of_credential (h : g.Course entry method m s d) (presents : g.obtains entry method = false)
    {c : Credential} (hc : g.credential? entry m = some c) :
    ∃ scheme, g.scheme? = some scheme ∧
      ((∃ i s', g.vouch? c s = some (.ok i, s') ∧ d = ⟨.identify i, s',
        [c.checked (.ok i), .noted (.accepted scheme entry method),
          .counted ⟨scheme, entry.kind, true⟩]⟩) ∨
      ∃ status s', g.vouch? c s = some (.error status, s') ∧
        d = ⟨.reject (g.refusal entry status), s',
          [c.checked (.error status), .noted (.rejected scheme entry method status.message),
            .counted ⟨scheme, entry.kind, false⟩]⟩) := by
  cases h with
  | waved free =>
    rcases free with free | ⟨-, obtains⟩
    · simp [credential?_of_open free] at hc
    · simp [presents] at obtains
  | unreadable scheme _ header => simp [credential?_of_unreadable scheme header] at hc
  | unmet scheme stream header =>
    rw [presents] at header
    simp [stream, credential?_of_unmet scheme header] at hc
  | @accepted scheme c' i s' scheme_eq _ credential answer =>
    obtain rfl : c' = c := Option.some.inj (credential.symm.trans hc)
    exact ⟨scheme, scheme_eq, .inl ⟨i, s', answer, rfl⟩⟩
  | @refused scheme c' status s' scheme_eq _ credential answer =>
    obtain rfl : c' = c := Option.some.inj (credential.symm.trans hc)
    exact ⟨scheme, scheme_eq, .inr ⟨status, s', answer, rfl⟩⟩
  | barred _ obtains | issued _ obtains | unsendable _ obtains => simp [presents] at obtains

/-- A call that brings its credential has it checked, once, and what the collaborator says about it is
all that the decision depends on. -/
theorem answered (h : g.Course entry method m s d) (presents : g.obtains entry method = false)
    {c : Credential} (credential : g.credential? entry m = some c) :
    ∃ answer, g.vouch? c s = some (answer, d.state) ∧ d.trace.hearings = [c.checked answer] ∧
      d.verdict = match answer with
        | .ok i => .identify i
        | .error status => .reject (g.refusal entry status) := by
  obtain ⟨_, -, ⟨i, s', vouched, rfl⟩ | ⟨status, s', vouched, rfl⟩⟩ :=
    h.of_credential presents credential
  · exact ⟨.ok i, vouched, c.hearings_checked _ _ _, rfl⟩
  · exact ⟨.error status, vouched, c.hearings_checked _ _ _, rfl⟩

theorem verdict_of_refusal (h : g.Course entry method m s d)
    (presents : g.obtains entry method = false) {c : Credential} {status : Status} {s' : σ}
    (credential : g.credential? entry m = some c)
    (refused : g.vouch? c s = some (.error status, s')) :
    d.verdict = .reject (g.refusal entry status) := by
  obtain ⟨answer, vouched, -, verdict⟩ := h.answered presents credential
  cases refused.symm.trans vouched
  exact verdict

/-- A call that brings none is decided without anyone being asked. -/
theorem hearings_of_none (h : g.Course entry method m s d)
    (presents : g.obtains entry method = false) (hc : g.credential? entry m = none) :
    d.trace.hearings = [] := by
  cases h with
  | waved | unreadable | unmet => rfl
  | accepted _ _ credential | refused _ _ credential => simp [hc] at credential
  | barred _ obtains | issued _ obtains | unsendable _ obtains => simp [presents] at obtains

/-- A stream whose headers do not fit is refused for that reason. -/
theorem verdict_of_unmet (h : g.Course entry method m s d)
    (scheme : g.scheme? = some .basicBearer) (stream : entry = .stream) {f : Failure}
    (header : BasicBearer.demand (g.obtains entry method) m = .error f) :
    d.verdict = .reject f.status := by
  cases h with
  | waved free => simp [scheme] at free
  | unreadable other => simp [scheme] at other
  | @unmet f' _ _ header' =>
    obtain rfl : f' = f := Except.error.inj (header'.symm.trans header)
    rfl
  | accepted _ presents credential | refused _ presents credential =>
    rw [presents] at header
    simp [stream, credential?_of_unmet scheme header] at credential
  | barred _ obtains header' | issued _ obtains header' | unsendable _ obtains header' =>
    simp [obtains, header'] at header

end Course

section Streams

variable {g : Gate σ} {method : Method} {m : Metadata} {inbound : List (Except Status In)}
  {handler : Context → Program In Out ρ} {s : σ}

theorem hook_receive : g.hook method (.receive m inbound : Duplex In Out) s =
    (g.decideCall .stream method m s,
      (g.decideCall .stream method m s).verdict.apply (.receive m inbound)) :=
  g.hook_eq method (.receive m inbound : Duplex In Out) s

theorem serveStreaming_refused {status : Status}
    (h : (g.decideCall .stream method m s).verdict = .reject status) :
    g.serveStreaming method m inbound handler s =
      ⟨.error status, (g.decideCall .stream method m s).state,
        (g.decideCall .stream method m s).trace⟩ := by
  simp only [serveStreaming, authorize, hook_receive, h]
  rfl

theorem serveStreaming_granted {c : Context}
    (h : (g.decideCall .stream method m s).verdict.grant (.root m) = .ok c) :
    g.serveStreaming method m inbound handler s =
      ⟨.ok ⟨handler c, (g.decideCall .stream method m s).verdict.opened (.receive m inbound)⟩,
        (g.decideCall .stream method m s).state,
        (g.decideCall .stream method m s).trace ++ [.entered c]⟩ := by
  cases hv : (g.decideCall .stream method m s).verdict with
  | pass trailer =>
    rw [hv] at h
    cases h
    cases trailer <;> simp only [serveStreaming, authorize, hook_receive, hv] <;> rfl
  | identify i =>
    rw [hv] at h
    cases h
    simp only [serveStreaming, authorize, hook_receive, hv]
    rfl
  | reject status =>
    rw [hv] at h
    cases h

end Streams

theorem judge_course (g : Gate σ) (v : Visit σ Req Resp In Out ρ) :
    g.Course v.call.entry (g.methodOf v.call) v.call.metadata v.found (g.judge v) :=
  g.decideCall_course v.call.entry (g.methodOf v.call) v.call.metadata v.found

theorem contexts_judge (g : Gate σ) (v : Visit σ Req Resp In Out ρ) :
    (g.judge v).trace.contexts = [] := by
  have course := g.judge_course v
  generalize g.judge v = d at course ⊢
  cases course with
  | @accepted _ c => cases c <;> rfl
  | @refused _ c => cases c <;> rfl
  | _ => rfl

theorem attend_refused {g : Gate σ} {v : Visit σ Req Resp In Out ρ} {status : Status}
    (h : (g.judge v).verdict = .reject status) :
    g.attend v = ⟨v.call.refused status, (g.judge v).state, (g.judge v).trace⟩ := by
  obtain ⟨call, s⟩ := v
  cases call with
  | unary method m request handler =>
    have hv : (g.interceptUnary method m s).verdict = .reject status := h
    simp only [attend, serve, serveUnary, hv, Verdict.grant]
    rfl
  | stream method m inbound handler client =>
    have hv : (g.decideCall .stream method m s).verdict = .reject status := h
    simp only [attend, serve, serveStreaming_refused hv]
    rfl
  | handshake called m inbound client =>
    have hv : (g.decideCall .stream (g.handshakeMethod called) m s).verdict = .reject status := h
    simp only [attend, serve, serveHandshake, hook_receive, serveStreaming_refused hv]
    rfl

/-- A call that is let in enters its handler once, after the decision. -/
theorem attend_conduct {g : Gate σ} {v : Visit σ Req Resp In Out ρ} {c : Context}
    (h : (g.judge v).verdict.grant (.root v.call.metadata) = .ok c) :
    g.attend v = ⟨(g.conduct (g.judge v) c v.call).outcome, (g.conduct (g.judge v) c v.call).state,
      (g.judge v).trace ++ .entered c :: (g.conduct (g.judge v) c v.call).trace⟩ := by
  obtain ⟨call, s⟩ := v
  cases call with
  | unary method m request handler =>
    have hv : (g.interceptUnary method m s).verdict.grant (.root m) = .ok c := h
    simp only [attend, serve, serveUnary, hv]
    rfl
  | stream method m inbound handler client =>
    have hv : (g.decideCall .stream method m s).verdict.grant (.root m) = .ok c := h
    simp only [attend, serve, serveStreaming_granted hv, List.append_assoc]
    rfl
  | handshake called m inbound client =>
    have hv : (g.decideCall .stream (g.handshakeMethod called) m s).verdict.grant (.root m) =
        .ok c := h
    simp only [attend, serve, serveHandshake, hook_receive, serveStreaming_granted hv,
      List.append_assoc]
    rfl

theorem isAftermath_conduct (g : Gate σ) (d : Decision σ) (c : Context)
    (call : Call Req Resp In Out ρ) : (g.conduct d c call).trace.IsAftermath := by
  cases call with
  | unary => simp [conduct, Trace.IsAftermath]
  | stream method m inbound handler client => exact Accepted.isAftermath_notices _ client
  | handshake called m inbound client =>
    exact (Handshake.isAftermath_report _ _ _ client).append (Accepted.isAftermath_notices _ client)

theorem attend_granted {g : Gate σ} {v : Visit σ Req Resp In Out ρ} {c : Context}
    (h : (g.judge v).verdict.grant (.root v.call.metadata) = .ok c) :
    (g.attend v).outcome = g.handled (g.judge v) c v.call ∧
      ∃ after : Trace, after.IsAftermath ∧
        (g.attend v).trace = (g.judge v).trace ++ .entered c :: after := by
  rw [attend_conduct h]
  refine ⟨?_, _, g.isAftermath_conduct (g.judge v) c v.call, rfl⟩
  cases v.call <;> rfl

/-- Up to its handler, a visit is its decision. -/
theorem interception_attend (g : Gate σ) (v : Visit σ Req Resp In Out ρ) :
    (g.attend v).trace.interception = (g.judge v).trace := by
  cases hv : (g.judge v).verdict.grant (.root v.call.metadata) with
  | error status =>
    rw [attend_refused (Verdict.grant_eq_error_iff.1 hv)]
    exact Trace.interception_eq_self (g.contexts_judge v)
  | ok c =>
    obtain ⟨-, after, -, ht⟩ := attend_granted hv
    rw [ht]
    exact Trace.interception_append (g.contexts_judge v) c after

/-- The context a handler is entered with, if one is, is the one that the verdict grants. -/
theorem contexts_attend (g : Gate σ) (v : Visit σ Req Resp In Out ρ) :
    (g.attend v).trace.contexts =
      ((g.judge v).verdict.grant (.root v.call.metadata)).toOption.toList := by
  cases hv : (g.judge v).verdict.grant (.root v.call.metadata) with
  | error status =>
    rw [attend_refused (Verdict.grant_eq_error_iff.1 hv)]
    exact g.contexts_judge v
  | ok c =>
    obtain ⟨-, after, ha, ht⟩ := attend_granted hv
    rw [ht, Trace.contexts_append, g.contexts_judge]
    show c :: after.contexts = [c]
    rw [ha.contexts]

/-- After its decision a visit asks nobody about the caller and counts nothing. -/
theorem attend_trace (g : Gate σ) (v : Visit σ Req Resp In Out ρ) :
    ∃ after : Trace, (g.attend v).trace = (g.judge v).trace ++ after ∧
      after.hearings = [] ∧ after.attempts = [] := by
  cases hv : (g.judge v).verdict.grant (.root v.call.metadata) with
  | error status =>
    refine ⟨[], ?_, rfl, rfl⟩
    rw [attend_refused (Verdict.grant_eq_error_iff.1 hv), List.append_nil]
  | ok c =>
    obtain ⟨-, after, aftermath, trace⟩ := attend_granted hv
    exact ⟨_, trace, aftermath.hearings, aftermath.attempts⟩

theorem hearings_attend (g : Gate σ) (v : Visit σ Req Resp In Out ρ) :
    (g.attend v).trace.hearings = (g.judge v).trace.hearings := by
  obtain ⟨after, trace, unheard, -⟩ := g.attend_trace v
  rw [trace, Trace.hearings_append, unheard, List.append_nil]

theorem attempts_attend (g : Gate σ) (v : Visit σ Req Resp In Out ρ) :
    (g.attend v).trace.attempts = (g.judge v).trace.attempts := by
  obtain ⟨after, trace, -, uncounted⟩ := g.attend_trace v
  rw [trace, Trace.attempts_append, uncounted, List.append_nil]

theorem state_conduct {g : Gate σ} {d : Decision σ} {c : Context} {call : Call Req Resp In Out ρ}
    (undriven : .authenticating ∉ (g.conduct d c call).trace) : (g.conduct d c call).state = d.state := by
  cases call with
  | unary | stream => rfl
  | handshake called m inbound client =>
    cases driver : g.authenticator? with
    | none => simp only [conduct, driver, Handshake.report_unauthenticated]
    | some a =>
      simp only [conduct, driver] at undriven
      let stream : Duplex Handshake.Message Handshake.Message := d.verdict.opened (.receive m inbound)
      obtain ⟨_, events, -⟩ := Handshake.report_authenticated a d.state stream client
      have started : Event.authenticating ∈
          ((Accepted.mk (Handshake.handler (some a) d.state) stream).playFor client).report.2 := by
        rw [events]
        exact List.mem_cons_self
      exact absurd (List.mem_append_left _ started) undriven

/-- A visit leaves the collaborator as its decision does, unless an authenticator is started. -/
theorem state_attend {g : Gate σ} {v : Visit σ Req Resp In Out ρ}
    (undriven : .authenticating ∉ (g.attend v).trace) : (g.attend v).state = (g.judge v).state := by
  cases hv : (g.judge v).verdict.grant (.root v.call.metadata) with
  | error status => rw [attend_refused (Verdict.grant_eq_error_iff.1 hv)]
  | ok c =>
    rw [attend_conduct hv] at undriven ⊢
    exact state_conduct fun started =>
      undriven (List.mem_append_right _ (List.mem_cons_of_mem _ started))

theorem serveAll_trace (g : Gate σ) (calls : List (Call Req Resp In Out ρ)) (s : σ) :
    (g.serveAll calls s).trace = (g.visits calls s).flatMap fun v => (g.attend v).trace := by
  induction calls generalizing s with
  | nil => rfl
  | cons call calls ih => simp [serveAll, visits, attend, ih]

theorem serveAll_outcome (g : Gate σ) (calls : List (Call Req Resp In Out ρ)) (s : σ) :
    (g.serveAll calls s).outcome = (g.visits calls s).map fun v => (g.attend v).outcome := by
  induction calls generalizing s with
  | nil => rfl
  | cons call calls ih => simp [serveAll, visits, attend, ih]

end Gate

/-- A directory with one user, whose password earns `token`. -/
def soloValidator (token : String) : Validator Issued :=
  Directory.validator { users := [("u", .member "p" token)], table := { tokens := [] } }

def soloGate (token : String) : Gate Issued := .basicBearer (soloValidator token) defaultSuffix

/-- The handshake of that user, who signs in with `u:p`. -/
def soloHandshake : Call Unit Unit Unit Unit Unit :=
  .handshake none (.single BasicBearer.headerName (Bytes.ofText "Basic dTpw")) [] .reads

/-- A unary call that presents a header value. -/
def soloUnary (value : Bytes) : Call Unit Unit Unit Unit Unit :=
  .unary ⟨"/svc/Get"⟩ (.single BasicBearer.headerName value) () fun _ _ => .ok ()

/-- A caller of the one user's gate who presents `value` on a stream. -/
def soloStranger (value : String) : Visit Issued Unit Unit Unit Unit Unit :=
  ⟨.stream ⟨"/svc/Get"⟩ (.single BasicBearer.headerName (Bytes.ofText value)) []
    (fun _ => .done (.ok ()) ()) .reads, {}⟩

/-- An authenticator that knows no tokens. -/
def ignorant : Authenticator Unit where
  authenticate _ := .done (.ok ()) ()
  isValid _ s := (.error { code := .unauthenticated, message := "invalid token" }, s)

end CallGate
