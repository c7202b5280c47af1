import CallGate.Metrics
import CallGate.Proofs.Visits

/-! What a gate counts and logs of its decisions. Each call it decides is counted once and logged
once, a call whose binary token cannot be read excepted: that one is refused without a trace. -/

namespace CallGate

open Streaming

variable {σ Req Resp In Out ρ : Type}

def Verdict.isAccepted : Verdict → Bool
  | .reject _ => false
  | _ => true

namespace Gate

def kind (g : Gate σ) (entry : Entry) (method : Method) : Attempt.Kind :=
  if g.scheme? = some .basicBearer ∧ g.obtains entry method = true then .handshake else entry.kind

/-- Whether a call passes without being decided at all. -/
def exempt (g : Gate σ) (entry : Entry) (method : Method) : Bool :=
  match g.scheme? with
  | none => true
  | some .handshakeToken => g.obtains entry method
  | some .basicBearer => false

/-- Whether a call that is decided brings a token in octets that cannot be read. -/
def unreadable (g : Gate σ) (entry : Entry) (method : Method) (m : Metadata) : Bool :=
  g.scheme? == some .handshakeToken && !g.obtains entry method &&
    (HandshakeToken.presentedToken m).toOption.isNone

/-- The books on one call: a single count under its labels; if it was accepted a single debug entry,
and else a single warning, with the method, the scheme and a reason. -/
structure Ledger (g : Gate σ) (entry : Entry) (method : Method) (accepted : Bool)
    (counts : List Attempt) (log : List Notice) : Prop where
  counted : counts.map Metrics.labels =
    [⟨g.name, (g.kind entry method).name, Metrics.resultName accepted⟩]
  welcomed : accepted = true →
    (∃ n, log.filter (·.level = .debug) = [n]) ∧ log.filter (·.level = .warn) = []
  refused : accepted = false →
    log.filter (·.level = .debug) = [] ∧
      ∃ n reason, log.filter (·.level = .warn) = [n] ∧
        n.fields = [.method method.path, .scheme g.name, .reason reason]

theorem name_of_scheme {g : Gate σ} {scheme : Scheme} (h : g.scheme? = some scheme) :
    g.name = scheme.name := by simp [name, h]

theorem kind_of_presents {g : Gate σ} {entry : Entry} {method : Method}
    (h : g.obtains entry method = false) : g.kind entry method = entry.kind := by simp [kind, h]

theorem kind_of_basicBearer {g : Gate σ} {method : Method} (h : g.scheme? = some .basicBearer) :
    g.kind .stream method = if g.obtains .stream method then .handshake else .stream := by
  simp [kind, h, Entry.kind]

namespace Ledger

variable {g : Gate σ} {entry : Entry} {method : Method} {scheme : Scheme}

theorem of_accepted {n : Notice} (hs : g.scheme? = some scheme) (level : n.level = .debug) :
    g.Ledger entry method true [⟨scheme, g.kind entry method, true⟩] [n] := by
  constructor
  · simp [Metrics.labels, name_of_scheme hs]
  · intro _
    exact ⟨⟨n, by simp [level]⟩, by simp [level]⟩
  · intro h
    cases h

/-- An error that is logged on the way is neither a warning nor for debugging. -/
theorem of_rejected {before : List Notice} (reason : String) (hs : g.scheme? = some scheme)
    (errors : ∀ n ∈ before, n.level = .error) :
    g.Ledger entry method false [⟨scheme, g.kind entry method, false⟩]
      (before ++ [.rejected scheme entry method reason]) := by
  have quiet : ∀ level ≠ Level.error, before.filter (·.level = level) = [] := by
    intro level other
    rw [List.filter_eq_nil_iff]
    intro n hn
    simpa [errors n hn] using Ne.symm other
  constructor
  · simp [Metrics.labels, name_of_scheme hs]
  · intro h
    cases h
  · intro _
    rw [List.filter_append, List.filter_append, quiet _ (by decide), quiet _ (by decide)]
    refine ⟨by simp [Notice.level], .rejected scheme entry method reason, reason, ?_, ?_⟩
    · simp [Notice.level]
    · simp [Notice.fields, name_of_scheme hs]

end Ledger

namespace Course

variable {g : Gate σ} {entry : Entry} {method : Method} {m : Metadata} {s : σ} {d : Decision σ}

theorem trace_of_exempt (h : g.Course entry method m s d) (skipped : g.exempt entry method = true) :
    d.trace = [] := by
  cases h with
  | waved | unreadable => rfl
  | unmet scheme => simp [exempt, scheme] at skipped
  | @accepted scheme _ _ _ hs presents | @refused scheme _ _ _ hs presents =>
    cases scheme <;> simp [exempt, hs, presents] at skipped
  | barred validator | issued validator | unsendable validator =>
    simp [exempt, scheme?_of_validator validator] at skipped

theorem of_unreadable (h : g.Course entry method m s d)
    (hu : g.unreadable entry method m = true) :
    d.trace = [] ∧ d.verdict = .reject (Failure.status .badBinaryToken) := by
  simp only [Gate.unreadable, Bool.and_eq_true, beq_iff_eq, Bool.not_eq_true'] at hu
  obtain ⟨⟨scheme, presents⟩, none⟩ := hu
  obtain ⟨f, header⟩ : ∃ f, HandshakeToken.presentedToken m = .error f := by
    cases hp : HandshakeToken.presentedToken m with
    | ok token => simp [hp, Except.toOption] at none
    | error f => exact ⟨f, rfl⟩
  cases h with
  | waved free => simp [scheme, presents] at free
  | unreadable => exact ⟨rfl, rfl⟩
  | unmet other => simp [scheme] at other
  | accepted _ _ credential | refused _ _ credential =>
    simp [credential?_of_unreadable scheme header] at credential
  | barred _ obtains | issued _ obtains | unsendable _ obtains => simp [presents] at obtains

theorem ledger (h : g.Course entry method m s d) (decided : g.exempt entry method = false)
    (readable : g.unreadable entry method m = false) :
    g.Ledger entry method d.verdict.isAccepted d.trace.attempts d.trace.notices := by
  cases h with
  | waved free =>
    rcases free with free | ⟨scheme, obtains⟩
    · simp [exempt, free] at decided
    · simp [exempt, scheme, obtains] at decided
  | unreadable scheme presents header =>
    simp [Gate.unreadable, scheme, presents, header, Except.toOption] at readable
  | @unmet f scheme stream header =>
    subst stream
    have books : g.Ledger .stream method false _ ([] ++ [.rejected .basicBearer .stream method _]) :=
      .of_rejected f.status.message scheme (by simp)
    rw [kind_of_basicBearer scheme] at books
    exact books
  | @accepted scheme c i s' hs presents =>
    have books : g.Ledger entry method true _ _ :=
      .of_accepted (n := .accepted scheme entry method) hs rfl
    rw [kind_of_presents presents] at books
    cases c <;> exact books
  | @refused scheme c status s' hs presents =>
    have books : g.Ledger entry method false _ ([] ++ [.rejected scheme entry method _]) :=
      .of_rejected status.message hs (by simp)
    rw [kind_of_presents presents] at books
    cases c <;> exact books
  | @barred v username password status s' validator obtains =>
    obtain ⟨rfl, -⟩ := obtains_eq_true.1 obtains
    have scheme := scheme?_of_validator validator
    have books : g.Ledger .stream method false _ ([] ++ [.rejected .basicBearer .stream method _]) :=
      .of_rejected status.message scheme (by simp)
    rw [kind_of_basicBearer scheme, obtains] at books
    exact books
  | issued validator obtains =>
    obtain ⟨rfl, -⟩ := obtains_eq_true.1 obtains
    have scheme := scheme?_of_validator validator
    have books : g.Ledger .stream method true _ _ := .of_accepted (n := .issued method) scheme rfl
    rw [kind_of_basicBearer scheme, obtains] at books
    exact books
  | unsendable validator obtains =>
    obtain ⟨rfl, -⟩ := obtains_eq_true.1 obtains
    have scheme := scheme?_of_validator validator
    have books : g.Ledger .stream method false _
        ([.unsendableToken] ++ [.rejected .basicBearer .stream method _]) :=
      .of_rejected (Failure.status .unsendableToken).message scheme (by simp [Notice.level])
    rw [kind_of_basicBearer scheme, obtains] at books
    exact books

end Course

section Visits

variable (g : Gate σ) (v : Visit σ Req Resp In Out ρ)

def isExempt : Bool := g.exempt v.call.entry (g.methodOf v.call)

def isUnreadable : Bool := g.unreadable v.call.entry (g.methodOf v.call) v.call.metadata

/-- All that is counted of a visit, and all that is logged before its handler, is in order. -/
def Accounted : Prop :=
  g.Ledger v.call.entry (g.methodOf v.call) (g.judge v).verdict.isAccepted
    (g.attend v).trace.attempts (g.attend v).trace.interception.notices

/-- Nothing is counted of a visit, and nothing logged before its handler. -/
def Unrecorded : Prop :=
  (g.attend v).trace.attempts = [] ∧ (g.attend v).trace.interception.notices = []

def series : Metrics.Labels :=
  ⟨g.name, (g.kind v.call.entry (g.methodOf v.call)).name,
    Metrics.resultName (g.judge v).verdict.isAccepted⟩

variable {g v}

theorem unrecorded_of_trace (h : (g.judge v).trace = []) : g.Unrecorded v := by
  constructor
  · rw [attempts_attend, h]
    rfl
  · rw [interception_attend, h]
    rfl

theorem unrecorded_of_isExempt (h : g.isExempt v = true) : g.Unrecorded v :=
  unrecorded_of_trace ((g.judge_course v).trace_of_exempt h)

theorem unrecorded_of_isUnreadable (h : g.isUnreadable v = true) : g.Unrecorded v :=
  unrecorded_of_trace ((g.judge_course v).of_unreadable h).1

theorem accounted_of_readable (decided : g.isExempt v = false) (readable : g.isUnreadable v = false) :
    g.Accounted v := by
  rw [Accounted, attempts_attend, interception_attend]
  exact (g.judge_course v).ledger decided readable

theorem Unrecorded.not_accounted (h : g.Unrecorded v) : ¬ g.Accounted v := by
  intro books
  have counted := books.counted
  rw [h.1] at counted
  cases counted

/-- A visit adds one to its series, or nothing to any. -/
theorem labels_attend :
    (g.attend v).trace.attempts.map Metrics.labels =
      if g.isExempt v || g.isUnreadable v then [] else [g.series v] := by
  cases exempt : g.isExempt v with
  | true => simp [(unrecorded_of_isExempt exempt).1]
  | false =>
    cases unreadable : g.isUnreadable v with
    | true => simp [(unrecorded_of_isUnreadable unreadable).1]
    | false => exact (accounted_of_readable exempt unreadable).counted

end Visits

/-- Every call that is decided is counted and logged once if it can be read, and a call that is not
decided never; so the counts of a run are the series of the visits that were decided and read. -/
theorem accounted_iff_readable (g : Gate σ) (calls : List (Call Req Resp In Out ρ)) (s : σ) :
    (∀ v ∈ g.visits calls s,
      (g.isExempt v = true → g.Unrecorded v) ∧
      (g.isExempt v = false → (g.Accounted v ↔ g.isUnreadable v = false)) ∧
      (g.isUnreadable v = true → g.Unrecorded v ∧
        (g.attend v).outcome = v.call.refused (Failure.status .badBinaryToken))) ∧
    (g.serveAll calls s).trace.attempts.map Metrics.labels =
      ((g.visits calls s).filter fun v => !(g.isExempt v || g.isUnreadable v)).map g.series := by
  constructor
  · intro v _
    refine ⟨unrecorded_of_isExempt, ?_, ?_⟩
    · intro decided
      constructor
      · intro books
        apply Bool.eq_false_iff.2
        intro hu
        exact (unrecorded_of_isUnreadable hu).not_accounted books
      · exact accounted_of_readable decided
    · intro hu
      have verdict := ((g.judge_course v).of_unreadable hu).2
      exact ⟨unrecorded_of_isUnreadable hu, by rw [attend_refused verdict]⟩
  · rw [serveAll_trace]
    generalize g.visits calls s = visits
    induction visits with
    | nil => rfl
    | cons v visits ih =>
      rw [List.flatMap_cons, Trace.attempts_append, List.map_append, ih, labels_attend,
        List.filter_cons]
      cases g.isExempt v || g.isUnreadable v with
      | true => rfl
      | false => rfl

theorem accounted_iff_readable_solo :
    ((soloGate "t").serveAll [soloHandshake, soloUnary (Bytes.ofText "Bearer t")] {}).trace.attempts.map
        Metrics.labels =
      [⟨"basic_bearer", "handshake", "success"⟩, ⟨"basic_bearer", "unary", "success"⟩] :=
  (accounted_iff_readable (soloGate "t") _ {}).2.trans rfl

/-- A call that is refused for its header, in no series and in no log. -/
theorem unreadable_not_accounted :
    ¬ ∀ v ∈ (handshakeToken ignorant defaultSuffix).visits
        [(.unary ⟨"/svc/Get"⟩ (.single HandshakeToken.headerName (Bytes.ofText "!!!")) ()
          fun _ _ => .ok () : Call Unit Unit Unit Unit Unit)] (),
      (handshakeToken ignorant defaultSuffix).isExempt v = false →
        (handshakeToken ignorant defaultSuffix).Accounted v := by
  intro all
  have books := all _ List.mem_cons_self rfl
  cases books.counted

end Gate
end CallGate
