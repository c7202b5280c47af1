import CallGate.Proofs.Visits

/-! Who gets in. A handler is entered only with a licence: open access, a handshake that is owed to
nobody or was paid for by a password, or a collaborator's word for the credential of the same call. -/

namespace CallGate

open Streaming

variable {σ Req Resp In Out ρ : Type}

namespace Trace

/-- Passwords that were checked, with what came of it. -/
def signIns (t : Trace) : Trace := t.filter fun
  | .validated .. => true
  | _ => false

/-- Credentials that were checked, with what came of it. -/
def checks (t : Trace) : Trace := t.filter fun
  | .checkedToken .. | .checkedBinary .. => true
  | _ => false

end Trace

/-- Why a call may enter its handler after all that was asked about its caller, and the identity
that the handler is to see. -/
inductive Licence (g : Gate σ) (call : Call Req Resp In Out ρ) (asked : Trace) :
    Option Identity → Prop where
  | openAccess (free : g.scheme? = none) : Licence g call asked none
  | handshake
      (stream : call.entry = .stream)
      (named : (g.methodOf call).isHandshake g.suffix = true)
      (paid : g.scheme? = some .basicBearer → ∃ username password token,
        asked.signIns = [.validated username password (.ok token)] ∧
          (BasicBearer.tokenTrailer? token).isSome) :
      Licence g call asked none
  | vouched {c : Credential} {i : Identity}
      (presented : g.credential? call.entry call.metadata = some c)
      (answered : asked.checks = [c.checked (.ok i)]) :
      Licence g call asked (some i)

/-- A licence rests on what was asked about the caller and on nothing else that happened. -/
theorem Licence.of_hearings {g : Gate σ} {call : Call Req Resp In Out ρ} {s t : Trace}
    {who : Option Identity} (h : s.hearings = t.hearings) (l : Licence g call s who) :
    Licence g call t who := by
  have signIns_hearings : ∀ u : Trace, u.hearings.signIns = u.signIns := by
    intro u
    simp only [Trace.hearings, Trace.signIns, List.filter_filter]
    exact List.filter_congr fun e _ => by cases e <;> rfl
  have checks_hearings : ∀ u : Trace, u.hearings.checks = u.checks := by
    intro u
    simp only [Trace.hearings, Trace.checks, List.filter_filter]
    exact List.filter_congr fun e _ => by cases e <;> rfl
  have hs : s.signIns = t.signIns := by rw [← signIns_hearings s, h, signIns_hearings]
  have hc : s.checks = t.checks := by rw [← checks_hearings s, h, checks_hearings]
  cases l with
  | openAccess free => exact .openAccess free
  | handshake stream named paid => exact .handshake stream named (by rwa [← hs])
  | vouched presented answered => exact .vouched presented (by rwa [← hc])

/-- Under a scheme a licence is a handshake, paid for if that scheme asks for passwords, or a
collaborator's word. -/
theorem Licence.of_scheme {g : Gate σ} {call : Call Req Resp In Out ρ} {asked : Trace}
    {who : Option Identity} (l : Licence g call asked who) {scheme : Scheme}
    (hs : g.scheme? = some scheme) :
    (g.obtains call.entry (g.methodOf call) = true ∧ who = none ∧
      (scheme = .basicBearer → ∃ username password token,
        asked.signIns = [.validated username password (.ok token)] ∧
          (BasicBearer.tokenTrailer? token).isSome)) ∨
      ∃ c i, who = some i ∧ asked.checks = [Credential.checked c (.ok i)] := by
  cases l with
  | openAccess free => simp [hs] at free
  | handshake stream named paid =>
    have paid' := fun h : scheme = .basicBearer => paid (by rw [hs, h])
    exact .inl ⟨Gate.obtains_eq_true.2 ⟨stream, named⟩, rfl, paid'⟩
  | vouched presented answered => exact .inr ⟨_, _, rfl, answered⟩

namespace Gate

namespace Course

variable {g : Gate σ} {call : Call Req Resp In Out ρ} {s : σ} {d : Decision σ}

/-- A decision that lets a call in gives it a licence. -/
theorem licence (h : g.Course call.entry (g.methodOf call) call.metadata s d) {c : Context}
    (hc : d.verdict.grant (.root call.metadata) = .ok c) :
    c.metadata = call.metadata ∧ Licence g call d.trace c.identity? := by
  cases h with
  | waved free =>
    cases hc
    refine ⟨rfl, ?_⟩
    rcases free with free | ⟨scheme, obtains⟩
    · exact .openAccess free
    · obtain ⟨stream, named⟩ := obtains_eq_true.1 obtains
      exact .handshake stream named (by simp [scheme])
  | @accepted _ c _ _ _ _ credential =>
    cases hc
    exact ⟨rfl, .vouched credential (by cases c <;> rfl)⟩
  | issued validator obtains header answer carried =>
    cases hc
    obtain ⟨stream, named⟩ := obtains_eq_true.1 obtains
    exact ⟨rfl, .handshake stream named fun _ => ⟨_, _, _, rfl, by rw [carried]; rfl⟩⟩
  | unreadable | unmet | refused | barred | unsendable => cases hc

/-- Only a decision that lets a call in gives it a licence. -/
theorem granted (h : g.Course call.entry (g.methodOf call) call.metadata s d)
    {who : Option Identity} (l : Licence g call d.trace who) :
    ∃ c, d.verdict.grant (.root call.metadata) = .ok c ∧ c.identity? = who := by
  cases h with
  | waved =>
    refine ⟨_, rfl, ?_⟩
    cases l with
    | openAccess | handshake => rfl
    | vouched presented answered => cases answered
  | unreadable scheme presents =>
    obtain ⟨obtains, -, -⟩ | ⟨c, i, -, answered⟩ := l.of_scheme scheme
    · simp [obtains] at presents
    · cases answered
  | unmet scheme =>
    obtain ⟨-, -, paid⟩ | ⟨c, i, -, answered⟩ := l.of_scheme scheme
    · obtain ⟨_, _, _, unasked, -⟩ := paid rfl
      cases unasked
    · cases answered
  | @accepted _ c i _ scheme presents =>
    obtain ⟨obtains, -, -⟩ | ⟨c', i', rfl, answered⟩ := l.of_scheme scheme
    · simp [obtains] at presents
    · have same : [c.checked (.ok i)] = [c'.checked (.ok i')] := by
        rw [← answered]
        cases c <;> rfl
      simp only [List.cons.injEq, and_true, Credential.checked_inj, Except.ok.injEq] at same
      exact ⟨_, rfl, congrArg some same.2⟩
  | @refused _ c status _ scheme presents =>
    obtain ⟨obtains, -, -⟩ | ⟨c', i', -, answered⟩ := l.of_scheme scheme
    · simp [obtains] at presents
    · have same : [c.checked (.error status)] = [c'.checked (.ok i')] := by
        rw [← answered]
        cases c <;> rfl
      simp [Credential.checked_inj] at same
  | barred validator =>
    obtain ⟨-, -, paid⟩ | ⟨c, i, -, answered⟩ := l.of_scheme (scheme?_of_validator validator)
    · obtain ⟨_, _, _, answered, -⟩ := paid rfl
      cases answered
    · cases answered
  | issued validator =>
    obtain ⟨-, rfl, -⟩ | ⟨c, i, -, answered⟩ := l.of_scheme (scheme?_of_validator validator)
    · exact ⟨_, rfl, rfl⟩
    · cases answered
  | unsendable validator obtains header answer carried =>
    obtain ⟨-, -, paid⟩ | ⟨c, i, -, answered⟩ := l.of_scheme (scheme?_of_validator validator)
    · obtain ⟨_, _, _, answered, sendable⟩ := paid rfl
      cases answered
      simp [carried] at sendable
    · cases answered

end Course

/-- What has to hold of a visit: its handler is entered at most once and only with a licence, the
caller has been heard by then, and no licence is refused. -/
structure Admits (g : Gate σ) (v : Visit σ Req Resp In Out ρ) : Prop where
  once : (g.attend v).trace.contexts.length ≤ 1
  licensed : ∀ c ∈ (g.attend v).trace.contexts,
    c.metadata = v.call.metadata ∧ Licence g v.call (g.attend v).trace.interception c.identity?
  /-- What is heard is what the collaborator says in the state in which the call finds it. -/
  said : g.Hears v.found (g.attend v).trace.interception.hearings (g.judge v).state
  /-- Only an authenticator that is started in the handler does more to that state. -/
  left : .authenticating ∉ (g.attend v).trace → (g.attend v).state = (g.judge v).state
  heard : (g.attend v).trace.interception.hearings = (g.attend v).trace.hearings
  honoured : ∀ who, Licence g v.call (g.attend v).trace who →
    ∃ c, (g.attend v).trace.contexts = [c] ∧ c.identity? = who
  /-- A caller whose credential the collaborator vouches for gets in. -/
  welcomed : ∀ c i s', g.obtains v.call.entry (g.methodOf v.call) = false →
    g.credential? v.call.entry v.call.metadata = some c → g.vouch? c v.found = some (.ok i, s') →
    (g.attend v).trace.contexts = [(Context.root v.call.metadata).attach i]
  handled : ∀ c ∈ (g.attend v).trace.contexts,
    (g.attend v).outcome = g.handled (g.judge v) c v.call
  refused : (g.attend v).trace.contexts = [] →
    ∃ status, (g.attend v).outcome = v.call.refused status

theorem admits (g : Gate σ) (v : Visit σ Req Resp In Out ρ) : g.Admits v := by
  have course := g.judge_course v
  have contexts := g.contexts_attend v
  have heard : (g.attend v).trace.interception.hearings = (g.attend v).trace.hearings := by
    rw [g.interception_attend, g.hearings_attend]
  have honoured : ∀ who, Licence g v.call (g.attend v).trace who →
      ∃ c, (g.attend v).trace.contexts = [c] ∧ c.identity? = who := by
    intro who l
    obtain ⟨c, hc, hi⟩ := course.granted (l.of_hearings (g.hearings_attend v))
    exact ⟨c, by rw [contexts, hc]; rfl, hi⟩
  have said : g.Hears v.found (g.attend v).trace.interception.hearings (g.judge v).state := by
    rw [heard, g.hearings_attend]
    exact course.hears
  have welcomed : ∀ c i s', g.obtains v.call.entry (g.methodOf v.call) = false →
      g.credential? v.call.entry v.call.metadata = some c → g.vouch? c v.found = some (.ok i, s') →
      (g.attend v).trace.contexts = [(Context.root v.call.metadata).attach i] := by
    intro c i s' presents credential vouched
    obtain ⟨answer, asked, -, verdict⟩ := course.answered presents credential
    cases vouched.symm.trans asked
    rw [contexts, verdict]
    rfl
  cases hv : (g.judge v).verdict.grant (.root v.call.metadata) with
  | error status =>
    have none_entered : (g.attend v).trace.contexts = [] := by rw [contexts, hv]; rfl
    have outcome := congrArg Served.outcome (attend_refused (Verdict.grant_eq_error_iff.1 hv))
    exact ⟨by simp [none_entered], by simp [none_entered], said, state_attend, heard, honoured,
      welcomed, by simp [none_entered], fun _ => ⟨status, outcome⟩⟩
  | ok c =>
    have entered : (g.attend v).trace.contexts = [c] := by rw [contexts, hv]; rfl
    have licence := course.licence hv
    rw [← g.interception_attend] at licence
    exact ⟨by simp [entered], by simpa [entered] using licence, said, state_attend, heard, honoured,
      welcomed, by simpa [entered] using (attend_granted hv).1, by simp [entered]⟩

/-- No handler of a run is entered without a licence, whatever collaborators say and whatever
callers send; and no licence is refused. -/
theorem entered_iff_licensed (g : Gate σ) (calls : List (Call Req Resp In Out ρ)) (s : σ) :
    (g.serveAll calls s).trace = ((g.visits calls s).flatMap fun v => (g.attend v).trace) ∧
      (g.serveAll calls s).outcome = ((g.visits calls s).map fun v => (g.attend v).outcome) ∧
      ∀ v ∈ g.visits calls s, g.Admits v :=
  ⟨g.serveAll_trace calls s, g.serveAll_outcome calls s, fun v _ => g.admits v⟩

/-- A token that was earned in one call licenses the next. -/
theorem entered_iff_licensed_solo :
    ∃ v ∈ (soloGate "t").visits [soloHandshake, soloUnary (Bytes.ofText "Bearer t")] {},
      v.call.entry = .unary ∧ ∃ c, ((soloGate "t").attend v).trace.contexts = [c] ∧
        c.identity? = some (namedIdentity "u") := by
  have known : ((soloGate "t").serve soloHandshake {}).state = { bearer := [("t", "u")] } := by rfl
  have mem : ⟨soloUnary (Bytes.ofText "Bearer t"), { bearer := [("t", "u")] }⟩ ∈
      (soloGate "t").visits [soloHandshake, soloUnary (Bytes.ofText "Bearer t")] {} := by
    simp [visits, known]
  exact ⟨_, mem, rfl, ((entered_iff_licensed (soloGate "t") _ {}).2.2 _ mem).honoured _
    (.vouched (c := .text "t") rfl rfl)⟩

end Gate
end CallGate
