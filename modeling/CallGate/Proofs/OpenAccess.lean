import CallGate.Proofs.Visits

/-! Who needs no credentials. A gate that settings ask for lets strangers in only where it was told
to, with one exception: tokens that a handshake issues are asked of no stream at all if the suffix of
handshakes is empty, since every method ends with it. -/

namespace CallGate

open Streaming

variable {σ Req Resp In Out ρ : Type}

def Scheme.headerName : Scheme → String
  | .handshakeToken => HandshakeToken.headerName
  | .basicBearer => BasicBearer.headerName

/-- What a call without credentials counts as presenting. -/
def Scheme.noCredential : Scheme → Credential
  | .handshakeToken => .octets []
  | .basicBearer => .text ""

/-- Whether handshake tokens are asked for, but not of this method's streams. -/
def Config.Exempts (c : Config) (method : Method) : Prop :=
  c.mode = .handshake ∧ method.isHandshake c.suffix = true

namespace Gate

def Anonymous (g : Gate σ) (m : Metadata) : Prop :=
  ∀ scheme, g.scheme? = some scheme → m.first? scheme.headerName = none

/-- A gate whose collaborator, if it has one, refuses the empty token. -/
def RefusesEmpty (g : Gate σ) (s : σ) : Prop :=
  ∀ scheme, g.scheme? = some scheme →
    ∃ status s', g.vouch? scheme.noCredential s = some (.error status, s')

def Rejects (g : Gate σ) (v : Visit σ Req Resp In Out ρ) : Prop :=
  (g.attend v).trace.contexts = [] ∧ ∃ status, (g.attend v).outcome = v.call.refused status

theorem rejects_iff {g : Gate σ} {v : Visit σ Req Resp In Out ρ} :
    g.Rejects v ↔ ∃ status, (g.judge v).verdict = .reject status := by
  constructor
  · rintro ⟨unentered, -⟩
    rw [contexts_attend] at unentered
    cases hv : (g.judge v).verdict with
    | pass trailer | identify i =>
      rw [hv] at unentered
      cases unentered
    | reject status => exact ⟨status, rfl⟩
  · rintro ⟨status, hv⟩
    refine ⟨?_, status, by rw [attend_refused hv]⟩
    rw [contexts_attend, hv]
    rfl

/-- A gate that was asked for has the suffix it was asked for, and a scheme unless open access is
allowed; and what it is was logged. -/
theorem ofConfig_ok {c : Config} {a : Option (Authenticator σ)} {v : Option (Validator σ)}
    {g : Gate σ} {logged : Notice} (h : ofConfig c a v = .ok (g, logged)) :
    (c.allowUnauthenticated = true ∧ g = openAccess c.suffix ∧ logged = .openAccess) ∨
      (c.mode = .handshake ∧ (∃ a, g = handshakeToken a c.suffix) ∧
        logged = .installed .handshakeToken) ∨
      (c.mode = .basicBearer ∧ (∃ v, g = basicBearer v c.suffix) ∧
        logged = .installed .basicBearer) := by
  unfold ofConfig at h
  split at h
  · next v mode =>
    cases h
    exact .inr (.inr ⟨mode, ⟨v, rfl⟩, rfl⟩)
  · cases h
  · next a mode =>
    cases h
    exact .inr (.inl ⟨mode, ⟨a, rfl⟩, rfl⟩)
  all_goals
    split at h
    · next allowed =>
      cases h
      exact .inl ⟨allowed, rfl, rfl⟩
    · cases h

section Strangers

variable {g : Gate σ} {entry : Entry} {method : Method} {m : Metadata} {s : σ} {d : Decision σ}

/-- Without credentials the empty token is presented; only a stream under passwords and bearer
tokens presents nothing. -/
theorem credential?_of_anonymous {scheme : Scheme} (hs : g.scheme? = some scheme)
    (stranger : g.Anonymous m) (asked : entry = .unary ∨ scheme = .handshakeToken) :
    g.credential? entry m = some scheme.noCredential := by
  have header := stranger scheme hs
  cases g with
  | openAccess => cases hs
  | handshakeToken a suffix =>
    cases hs
    simp only [Scheme.headerName] at header
    simp [credential?, HandshakeToken.presentedToken, header, Scheme.noCredential, Except.toOption]
  | basicBearer v suffix =>
    cases hs
    simp only [Scheme.headerName] at header
    rcases asked with rfl | other
    · simp [credential?, BasicBearer.unaryToken, header, Scheme.noCredential]
    · cases other

theorem Course.verdict_of_anonymous (h : g.Course entry method m s d) {scheme : Scheme}
    (hs : g.scheme? = some scheme) (stranger : g.Anonymous m) (refuses : g.RefusesEmpty s)
    (asked : g.obtains entry method = true → scheme ≠ .handshakeToken) :
    ∃ status, d.verdict = .reject status := by
  obtain ⟨status, s', answer⟩ := refuses scheme hs
  cases scheme with
  | handshakeToken =>
    have presents : g.obtains entry method = false := by
      cases hp : g.obtains entry method with
      | false => rfl
      | true => exact absurd rfl (asked hp)
    have credential : g.credential? entry m = some Scheme.handshakeToken.noCredential :=
      credential?_of_anonymous hs stranger (.inr rfl)
    exact ⟨_, h.verdict_of_refusal presents credential answer⟩
  | basicBearer =>
    cases entry with
    | unary =>
      have credential := credential?_of_anonymous hs stranger (.inl (Eq.refl Entry.unary))
      exact ⟨_, h.verdict_of_refusal rfl credential answer⟩
    | stream =>
      have header : m.first? BasicBearer.headerName = none := stranger _ hs
      have demand : BasicBearer.demand (g.obtains .stream method) m = .error .noCredentials := by
        simp [BasicBearer.demand, header]
      exact ⟨_, h.verdict_of_unmet hs rfl demand⟩

/-- Streams that hand out tokens pass before anything is read, asked, logged or counted. -/
theorem Course.of_exempt (h : g.Course entry method m s d)
    (hs : g.scheme? = some .handshakeToken) (obtains : g.obtains entry method = true) :
    d = ⟨.pass none, s, []⟩ := by
  cases h with
  | waved => rfl
  | unreadable _ presents | accepted _ presents | refused _ presents =>
    simp [obtains] at presents
  | unmet other => simp [hs] at other
  | barred validator | issued validator | unsendable validator =>
    have other := scheme?_of_validator validator
    simp [hs] at other

theorem Course.verdict_of_exempt (h : g.Course entry method m s d)
    (hs : g.scheme? = some .handshakeToken) (obtains : g.obtains entry method = true) :
    d.verdict = .pass none := by
  rw [h.of_exempt hs obtains]

end Strangers

/-- Without open access, the exempt methods are those whose streams hand out tokens. -/
theorem exempts_iff {c : Config} {a : Option (Authenticator σ)} {v : Option (Validator σ)}
    {g : Gate σ} {logged : Notice} (h : ofConfig c a v = .ok (g, logged))
    (closed : c.allowUnauthenticated = false) (method : Method) :
    c.Exempts method ↔
      g.scheme? = some .handshakeToken ∧ method.isHandshake g.suffix = true := by
  obtain ⟨allowed, -⟩ | ⟨mode, ⟨a, rfl⟩, -⟩ | ⟨mode, ⟨v, rfl⟩, -⟩ := ofConfig_ok h
  · simp [closed] at allowed
  · simp [Config.Exempts, mode, scheme?, Gate.suffix]
  · simp [Config.Exempts, mode, scheme?]

/-- Only the empty suffix exempts every method. -/
theorem exists_not_exempt_iff (c : Config) :
    (∃ method, ¬ c.Exempts method) ↔ ¬ (c.mode = .handshake ∧ c.suffix = "") := by
  constructor
  · rintro ⟨method, asked⟩ ⟨mode, empty⟩
    apply asked
    exact ⟨mode, by simp [empty]⟩
  · intro h
    refine ⟨⟨""⟩, ?_⟩
    rintro ⟨mode, fits⟩
    apply h
    refine ⟨mode, ?_⟩
    simpa [Method.isHandshake_iff] using fits

section Installed

variable {c : Config} {a : Option (Authenticator σ)} {v : Option (Validator σ)} {g : Gate σ}
  {logged : Notice}

/-- Where open access is not allowed, strangers get in by the exempt streams and no other way. -/
theorem rejects_anonymous_iff (installed : ofConfig c a v = .ok (g, logged))
    (closed : c.allowUnauthenticated = false) {x : Visit σ Req Resp In Out ρ}
    (refuses : g.RefusesEmpty x.found) (stranger : g.Anonymous x.call.metadata) :
    g.Rejects x ↔ x.call.entry = .unary ∨ ¬ c.Exempts (g.methodOf x.call) := by
  have course := g.judge_course x
  have exempt := exempts_iff installed closed (g.methodOf x.call)
  rw [rejects_iff]
  by_cases waved : x.call.entry = .stream ∧ c.Exempts (g.methodOf x.call)
  · obtain ⟨stream, exempts⟩ := waved
    obtain ⟨scheme, named⟩ := exempt.1 exempts
    have verdict := course.verdict_of_exempt scheme (obtains_eq_true.2 ⟨stream, named⟩)
    simp [verdict, stream, exempts]
  · have asked : x.call.entry = .unary ∨ ¬ c.Exempts (g.methodOf x.call) := by
      cases he : x.call.entry with
      | unary => exact .inl rfl
      | stream => exact .inr fun h => waved ⟨he, h⟩
    simp only [asked, iff_true]
    obtain ⟨scheme, hs⟩ : ∃ scheme, g.scheme? = some scheme := by
      obtain ⟨allowed, -⟩ | ⟨-, ⟨a, rfl⟩, -⟩ | ⟨-, ⟨v, rfl⟩, -⟩ := ofConfig_ok installed
      · simp [closed] at allowed
      · exact ⟨.handshakeToken, rfl⟩
      · exact ⟨.basicBearer, rfl⟩
    apply course.verdict_of_anonymous hs stranger refuses
    rintro obtains rfl
    obtain ⟨stream, named⟩ := obtains_eq_true.1 obtains
    exact waved ⟨stream, exempt.2 ⟨hs, named⟩⟩

theorem rejects_anonymous_unary {scheme : Scheme} (hs : g.scheme? = some scheme)
    {x : Visit σ Req Resp In Out ρ} (unary : x.call.entry = .unary)
    (refuses : g.RefusesEmpty x.found) (stranger : g.Anonymous x.call.metadata) :
    g.Rejects x := by
  rw [rejects_iff]
  apply (g.judge_course x).verdict_of_anonymous hs stranger refuses
  intro obtains
  have stream := (obtains_eq_true.1 obtains).1
  simp [unary] at stream

/-- Without a scheme a gate was allowed to let everyone in, and warns of it. -/
theorem open_of_scheme_eq_none (installed : ofConfig c a v = .ok (g, logged)) (hs : g.scheme? = none) :
    c.allowUnauthenticated = true ∧ logged = .openAccess ∧ logged.level = .warn := by
  obtain ⟨allowed, -, rfl⟩ | ⟨-, ⟨a, rfl⟩, -⟩ | ⟨-, ⟨v, rfl⟩, -⟩ := ofConfig_ok installed
  · exact ⟨allowed, rfl, rfl⟩
  · simp [scheme?] at hs
  · simp [scheme?] at hs

/-- Where open access is not allowed, strangers get in by the exempt streams and no other way, and
some stream is not exempt unless the suffix is empty. A gate that lets all strangers in was told to,
and says so. -/
theorem open_access_explicit [Nonempty Req] {s : σ} (installed : ofConfig c a v = .ok (g, logged))
    (refuses : g.RefusesEmpty s) :
    (c.allowUnauthenticated = false →
      (∀ x : Visit σ Req Resp In Out ρ, x.found = s → g.Anonymous x.call.metadata →
        (g.Rejects x ↔ x.call.entry = .unary ∨ ¬ c.Exempts (g.methodOf x.call))) ∧
      ((∃ method, ¬ c.Exempts method) ↔ ¬ (c.mode = .handshake ∧ c.suffix = ""))) ∧
    ((∀ x : Visit σ Req Resp In Out ρ, x.found = s → g.Anonymous x.call.metadata → ¬ g.Rejects x) →
      c.allowUnauthenticated = true ∧ logged = .openAccess ∧ logged.level = .warn) := by
  constructor
  · intro closed
    refine ⟨?_, exists_not_exempt_iff c⟩
    rintro x rfl stranger
    exact rejects_anonymous_iff installed closed refuses stranger
  · intro welcome
    cases hs : g.scheme? with
    | none => exact open_of_scheme_eq_none installed hs
    | some scheme =>
      obtain ⟨request⟩ := ‹Nonempty Req›
      let x : Visit σ Req Resp In Out ρ :=
        ⟨.unary ⟨""⟩ .empty request fun _ _ => .error { code := .unknown, message := "" }, s⟩
      have stranger : g.Anonymous x.call.metadata := fun _ _ => rfl
      have rejects : g.Rejects x := rejects_anonymous_unary hs rfl refuses stranger
      exact absurd rejects (welcome x rfl stranger)

end Installed

theorem open_access_explicit_solo :
    ofConfig { mode := .basicBearer } none (some (soloValidator "t")) =
        .ok (soloGate "t", .installed .basicBearer) ∧
      (soloGate "t").RefusesEmpty {} ∧
      (soloGate "t").Rejects
        ⟨(.unary ⟨"/svc/Get"⟩ .empty () fun _ _ => .ok () : Call Unit Unit Unit Unit Unit), {}⟩ := by
  let x : Visit Issued Unit Unit Unit Unit Unit :=
    ⟨.unary ⟨"/svc/Get"⟩ .empty () fun _ _ => .ok (), {}⟩
  have installed : ofConfig { mode := .basicBearer } none (some (soloValidator "t")) =
      .ok (soloGate "t", .installed .basicBearer) := rfl
  have refuses : (soloGate "t").RefusesEmpty {} := by
    rintro _ ⟨⟩
    exact ⟨_, _, rfl⟩
  have guarded : (soloGate "t").Rejects x ↔ _ :=
    ((open_access_explicit installed refuses).1 rfl).1 x rfl fun _ _ => rfl
  exact ⟨installed, refuses, guarded.2 (.inl rfl)⟩

/-- With an empty suffix no stream is asked for its token, though open access is not allowed. -/
theorem empty_suffix_exempts_all :
    ∃ g, ofConfig { mode := .handshake, suffix := "" } (some ignorant) none =
        .ok (g, .installed .handshakeToken) ∧
      g.RefusesEmpty () ∧
      ¬ ∃ method, ∀ x : Visit Unit Unit Unit Unit Unit Unit, x.found = () →
        g.Anonymous x.call.metadata → x.call.entry = .stream → g.methodOf x.call = method →
          g.Rejects x := by
  refine ⟨handshakeToken ignorant "", rfl, ?_, ?_⟩
  · rintro _ ⟨⟩
    exact ⟨_, _, rfl⟩
  · rintro ⟨method, all⟩
    let x : Visit Unit Unit Unit Unit Unit Unit :=
      ⟨.stream method .empty [] (fun _ => .done (.ok ()) ()) .reads, ()⟩
    have rejects := all x rfl (fun _ _ => rfl) rfl rfl
    obtain ⟨status, rejected⟩ := rejects_iff.1 rejects
    have obtains : (handshakeToken ignorant "").obtains .stream method = true :=
      obtains_eq_true.2 ⟨rfl, method.isHandshake_empty⟩
    have passed := (judge_course _ x).verdict_of_exempt rfl obtains
    rw [rejected] at passed
    cases passed

end Gate
end CallGate
