import CallGate.Gate

/-! What can come of a decision. A caller presents at most one credential, which the collaborator
vouches for or refuses; a handshake passes without one, or trades a password for a token. -/

namespace CallGate

open Streaming

/-- A context by itself, as a stream that forgets its trailers. -/
instance : StreamMetadata Context where
  context c := c
  setTrailer c _ := c

/-- What a verdict says was done to a stream: it was given the trailer, if there is one. -/
def Verdict.apply {S : Type} [StreamMetadata S] (stream : S) : Verdict → S
  | .pass (some trailer) => StreamMetadata.setTrailer stream trailer
  | _ => stream

theorem Verdict.apply_of_unset {S : Type} [StreamMetadata S] {v : Verdict}
    (unset : ∀ trailer, v ≠ .pass (some trailer)) (stream : S) : v.apply stream = stream := by
  match v with
  | .pass (some trailer) => exact absurd rfl (unset trailer)
  | .pass none | .identify _ | .reject _ => rfl

/-- What a caller presents in order to be known. -/
inductive Credential where
  | text (token : String)
  | octets (token : Bytes)
  deriving DecidableEq, Repr

/-- The question about a credential, with its answer. -/
def Credential.checked : Credential → Except Status Identity → Event
  | text token => .checkedToken token
  | octets token => .checkedBinary token

theorem Credential.checked_inj {c d : Credential} {a b : Except Status Identity} :
    c.checked a = d.checked b ↔ c = d ∧ a = b := by
  cases c <;> cases d <;> simp [checked]

namespace Gate

variable {σ : Type}

/-- What a gate decides about a call by its headers. -/
def decideCall (g : Gate σ) (entry : Entry) (method : Method) (m : Metadata) (s : σ) : Decision σ :=
  match entry with
  | .unary => g.interceptUnary method m s
  | .stream => (g.hook method (Context.root m) s).1

/-- The credential in a call's own headers. -/
def credential? (g : Gate σ) (entry : Entry) (m : Metadata) : Option Credential :=
  match g, entry with
  | openAccess _, _ => none
  | handshakeToken .., _ => (HandshakeToken.presentedToken m).toOption.map .octets
  | basicBearer .., .unary => some (.text (BasicBearer.unaryToken m))
  | basicBearer .., .stream =>
      match BasicBearer.demand false m with
      | .ok (.present token) => some (.text token)
      | _ => none

/-- What the collaborator says about a credential of the kind it knows. -/
def vouch? (g : Gate σ) (c : Credential) (s : σ) : Option (Except Status Identity × σ) :=
  match g, c with
  | handshakeToken a _, .octets token => some (a.isValid token s)
  | basicBearer v _, .text token => some (v.isValid token s)
  | _, _ => none

/-- Whether the call obtains tokens rather than presenting one. -/
def obtains (g : Gate σ) (entry : Entry) (method : Method) : Bool :=
  entry == .stream && method.isHandshake g.suffix

theorem obtains_eq_true {g : Gate σ} {entry : Entry} {method : Method} :
    g.obtains entry method = true ↔ entry = .stream ∧ method.isHandshake g.suffix = true := by
  simp [obtains]

theorem scheme?_of_validator {g : Gate σ} {v : Validator σ} (h : g = basicBearer v g.suffix) :
    g.scheme? = some .basicBearer := by rw [h]; rfl

theorem authenticator?_eq_none_iff {g : Gate σ} :
    g.authenticator? = none ↔ g.scheme? ≠ some .handshakeToken := by
  cases g <;> simp [authenticator?, scheme?]

theorem credential?_of_open {g : Gate σ} {entry : Entry} {m : Metadata} (h : g.scheme? = none) :
    g.credential? entry m = none := by
  cases g with
  | openAccess => rfl
  | handshakeToken | basicBearer => cases h

theorem credential?_of_unreadable {g : Gate σ} {entry : Entry} {m : Metadata} {f : Failure}
    (scheme : g.scheme? = some .handshakeToken) (header : HandshakeToken.presentedToken m = .error f) :
    g.credential? entry m = none := by
  cases g with
  | handshakeToken => simp [credential?, header, Except.toOption]
  | openAccess | basicBearer => cases scheme

theorem credential?_of_unmet {g : Gate σ} {m : Metadata} {f : Failure}
    (scheme : g.scheme? = some .basicBearer) (header : BasicBearer.demand false m = .error f) :
    g.credential? .stream m = none := by
  cases g with
  | basicBearer => simp [credential?, header]
  | openAccess | handshakeToken => cases scheme

/-- The status of a call whose credential was refused. -/
def refusal (g : Gate σ) (entry : Entry) (cause : Status) : Status :=
  match g with
  | handshakeToken .. => HandshakeToken.refusal entry cause
  | _ => cause

/-- The ways a decision can go, with all that is asked, logged and counted on each. -/
inductive Course (g : Gate σ) (entry : Entry) (method : Method) (m : Metadata) (s : σ) :
    Decision σ → Prop where
  | waved
      (free : g.scheme? = none ∨ g.scheme? = some .handshakeToken ∧ g.obtains entry method = true) :
      Course g entry method m s ⟨.pass none, s, []⟩
  | unreadable
      (scheme : g.scheme? = some .handshakeToken)
      (presents : g.obtains entry method = false)
      (header : HandshakeToken.presentedToken m = .error .badBinaryToken) :
      Course g entry method m s ⟨.reject (Failure.status .badBinaryToken), s, []⟩
  | unmet {f : Failure}
      (scheme : g.scheme? = some .basicBearer)
      (stream : entry = .stream)
      (header : BasicBearer.demand (g.obtains entry method) m = .error f) :
      Course g entry method m s ⟨.reject f.status, s,
        BasicBearer.report (g.obtains entry method) method (.reject f.status)⟩
  | accepted {scheme : Scheme} {c : Credential} {i : Identity} {s' : σ}
      (scheme_eq : g.scheme? = some scheme)
      (presents : g.obtains entry method = false)
      (credential : g.credential? entry m = some c)
      (answer : g.vouch? c s = some (.ok i, s')) :
      Course g entry method m s ⟨.identify i, s',
        [c.checked (.ok i), .noted (.accepted scheme entry method),
          .counted ⟨scheme, entry.kind, true⟩]⟩
  | refused {scheme : Scheme} {c : Credential} {status : Status} {s' : σ}
      (scheme_eq : g.scheme? = some scheme)
      (presents : g.obtains entry method = false)
      (credential : g.credential? entry m = some c)
      (answer : g.vouch? c s = some (.error status, s')) :
      Course g entry method m s ⟨.reject (g.refusal entry status), s',
        [c.checked (.error status), .noted (.rejected scheme entry method status.message),
          .counted ⟨scheme, entry.kind, false⟩]⟩
  | barred {v : Validator σ} {username password : String} {status : Status} {s' : σ}
      (validator : g = basicBearer v g.suffix)
      (obtains : g.obtains entry method = true)
      (header : BasicBearer.demand true m = .ok (.signIn username password))
      (answer : v.validate username password s = (.error status, s')) :
      Course g entry method m s ⟨.reject status, s',
        .validated username password (.error status) ::
          BasicBearer.report true method (.reject status)⟩
  | issued {v : Validator σ} {username password token : String} {trailer : Metadata} {s' : σ}
      (validator : g = basicBearer v g.suffix)
      (obtains : g.obtains entry method = true)
      (header : BasicBearer.demand true m = .ok (.signIn username password))
      (answer : v.validate username password s = (.ok token, s'))
      (carried : BasicBearer.tokenTrailer? token = some trailer) :
      Course g entry method m s ⟨.pass (some trailer), s',
        .validated username password (.ok token) ::
          BasicBearer.report true method (.pass (some trailer))⟩
  | unsendable {v : Validator σ} {username password token : String} {s' : σ}
      (validator : g = basicBearer v g.suffix)
      (obtains : g.obtains entry method = true)
      (header : BasicBearer.demand true m = .ok (.signIn username password))
      (answer : v.validate username password s = (.ok token, s'))
      (carried : BasicBearer.tokenTrailer? token = none) :
      Course g entry method m s ⟨.reject (Failure.status .unsendableToken), s',
        .validated username password (.ok token) :: .noted .unsendableToken ::
          BasicBearer.report true method (.reject (Failure.status .unsendableToken))⟩

end Gate

namespace BasicBearer

/-- A handshake demands a token for a password, any other stream presents one. -/
theorem demandOf_ok {handshake : Bool} {value : String} {d : Demand}
    (h : demandOf handshake value = .ok d) :
    (handshake = true ∧ ∃ username password, d = .signIn username password) ∨
      (handshake = false ∧ ∃ token, d = .present token) := by
  unfold demandOf at h
  dsimp only at h
  split at h
  · next hh =>
    split at h
    · obtain ⟨p, -, rfl⟩ : ∃ p, signIn (splitScheme value).2 = .ok p ∧ .signIn p.1 p.2 = d := by
        cases hs : signIn (splitScheme value).2 with
        | error f => rw [hs] at h; cases h
        | ok p => rw [hs] at h; exact ⟨p, rfl, Except.ok.inj h⟩
      exact .inl ⟨hh, p.1, p.2, rfl⟩
    · cases h
  · next hh =>
    split at h
    · exact .inr ⟨by simpa using hh, _, (Except.ok.inj h).symm⟩
    · cases h

theorem demand_ok {handshake : Bool} {m : Metadata} {d : Demand}
    (h : demand handshake m = .ok d) :
    (handshake = true ∧ ∃ username password, d = .signIn username password) ∨
      (handshake = false ∧ ∃ token, d = .present token) := by
  unfold demand at h
  split at h
  · cases h
  · split at h
    · cases h
    · exact demandOf_ok h

theorem signIn_error {credential : String} {f : Failure} (h : signIn credential = .error f) :
    f.notices = [] := by
  unfold signIn at h
  split at h
  · cases h
    rfl
  · split at h
    · cases h
    · cases h
      rfl

theorem demandOf_error {handshake : Bool} {value : String} {f : Failure}
    (h : demandOf handshake value = .error f) : f.notices = [] := by
  unfold demandOf at h
  dsimp only at h
  split at h
  · split at h
    · cases hs : signIn (splitScheme value).2 with
      | ok p =>
        rw [hs] at h
        cases h
      | error f' =>
        rw [hs] at h
        cases h
        exact signIn_error hs
    · cases h
      rfl
  · split at h
    · cases h
    · cases h
      rfl

/-- What is wrong with the headers of a stream is no fault of the server's, and logged as none. -/
theorem demand_error {handshake : Bool} {m : Metadata} {f : Failure}
    (h : demand handshake m = .error f) : f.notices = [] := by
  unfold demand at h
  split at h
  · cases h
    rfl
  · split at h
    · cases h
      rfl
    · exact demandOf_error h

end BasicBearer

/-- The only fault of a binary header is that it cannot be read. -/
theorem HandshakeToken.presentedToken_error {m : Metadata} {f : Failure}
    (h : presentedToken m = .error f) : f = .badBinaryToken := by
  unfold presentedToken at h
  split at h
  · cases h
  · split at h <;> cases h
    rfl

namespace Gate

variable {σ : Type}

/-- The answer about a binary token decides the call. -/
private theorem course_octets (a : Authenticator σ) (suffix : String) (entry : Entry)
    (method : Method) (m : Metadata) (s : σ)
    (hp : (handshakeToken a suffix).obtains entry method = false) :
    (handshakeToken a suffix).Course entry method m s (HandshakeToken.check a entry method m s) := by
  cases hc : HandshakeToken.presentedToken m with
  | error f =>
    cases HandshakeToken.presentedToken_error hc
    simp only [HandshakeToken.check, hc]
    exact .unreadable rfl hp hc
  | ok token =>
    have hcred : (handshakeToken a suffix).credential? entry m = some (.octets token) := by
      simp [credential?, hc, Except.toOption]
    rcases hv : a.isValid token s with ⟨answer, s'⟩
    have hv' : (handshakeToken a suffix).vouch? (.octets token) s = some (answer, s') :=
      congrArg some hv
    cases answer with
    | ok i =>
      simp only [HandshakeToken.check, hc, hv]
      exact .accepted rfl hp hcred hv'
    | error status =>
      simp only [HandshakeToken.check, hc, hv]
      exact .refused rfl hp hcred hv'

private theorem course_unary (v : Validator σ) (suffix : String) (method : Method) (m : Metadata)
    (s : σ) :
    (basicBearer v suffix).Course .unary method m s (BasicBearer.decideUnary v method m s) := by
  have hcred : (basicBearer v suffix).credential? .unary m =
      some (.text (BasicBearer.unaryToken m)) := rfl
  rcases hv : v.isValid (BasicBearer.unaryToken m) s with ⟨answer, s'⟩
  have hv' : (basicBearer v suffix).vouch? (.text (BasicBearer.unaryToken m)) s =
      some (answer, s') := congrArg some hv
  cases answer with
  | ok i =>
    simp only [BasicBearer.decideUnary, hv]
    exact .accepted rfl rfl hcred hv'
  | error status =>
    simp only [BasicBearer.decideUnary, hv]
    exact .refused rfl rfl hcred hv'

/-- A handshake trades a password for a token, if the validator gives one that can be sent. -/
private theorem course_signIn (v : Validator σ) (suffix : String) (method : Method) (m : Metadata)
    (s : σ) {username password : String}
    (hh : (basicBearer v suffix).obtains .stream method = true)
    (hd : BasicBearer.demand true m = .ok (.signIn username password)) :
    (basicBearer v suffix).Course .stream method m s
      (BasicBearer.decideStream v suffix method (Context.root m) s).1 := by
  have hm : method.isHandshake suffix = true := hh
  have headers : (StreamMetadata.context (Context.root m)).metadata = m := rfl
  rcases hv : v.validate username password s with ⟨answer, s'⟩
  cases answer with
  | error status =>
    simp only [BasicBearer.decideStream, BasicBearer.settle, headers, hm, hd, hv]
    exact .barred rfl hh hd hv
  | ok token =>
    cases ht : BasicBearer.tokenTrailer? token with
    | none =>
      simp only [BasicBearer.decideStream, BasicBearer.settle, headers, hm, hd, hv, ht]
      exact .unsendable rfl hh hd hv ht
    | some trailer =>
      simp only [BasicBearer.decideStream, BasicBearer.settle, headers, hm, hd, hv, ht]
      exact .issued rfl hh hd hv ht

/-- Any other stream is let in if the validator knows its token. -/
private theorem course_present (v : Validator σ) (suffix : String) (method : Method) (m : Metadata)
    (s : σ) {token : String} (hh : (basicBearer v suffix).obtains .stream method = false)
    (hd : BasicBearer.demand false m = .ok (.present token)) :
    (basicBearer v suffix).Course .stream method m s
      (BasicBearer.decideStream v suffix method (Context.root m) s).1 := by
  have hm : method.isHandshake suffix = false := hh
  have headers : (StreamMetadata.context (Context.root m)).metadata = m := rfl
  have hcred : (basicBearer v suffix).credential? .stream m = some (.text token) := by
    simp [credential?, hd]
  rcases hv : v.isValid token s with ⟨answer, s'⟩
  have hv' : (basicBearer v suffix).vouch? (.text token) s = some (answer, s') :=
    congrArg some hv
  cases answer with
  | ok i =>
    simp only [BasicBearer.decideStream, BasicBearer.settle, headers, hm, hd, hv]
    exact .accepted rfl hh hcred hv'
  | error status =>
    simp only [BasicBearer.decideStream, BasicBearer.settle, headers, hm, hd, hv]
    exact .refused rfl hh hcred hv'

private theorem course_stream (v : Validator σ) (suffix : String) (method : Method) (m : Metadata)
    (s : σ) :
    (basicBearer v suffix).Course .stream method m s
      (BasicBearer.decideStream v suffix method (Context.root m) s).1 := by
  cases hd : BasicBearer.demand ((basicBearer v suffix).obtains .stream method) m with
  | error f =>
    have hd' : BasicBearer.demand (method.isHandshake suffix) m = .error f := hd
    have hn := BasicBearer.demand_error hd
    have headers : (StreamMetadata.context (Context.root m)).metadata = m := rfl
    simp only [BasicBearer.decideStream, BasicBearer.settle, BasicBearer.refuse, headers, hd', hn,
      List.map_nil, List.append_nil, List.nil_append]
    exact .unmet rfl rfl hd
  | ok d =>
    obtain ⟨hh, username, password, rfl⟩ | ⟨hh, token, rfl⟩ := BasicBearer.demand_ok hd
    · exact course_signIn v suffix method m s hh (hh ▸ hd)
    · exact course_present v suffix method m s hh (hh ▸ hd)

/-- Every decision goes one of these ways. -/
theorem decideCall_course (g : Gate σ) (entry : Entry) (method : Method) (m : Metadata) (s : σ) :
    g.Course entry method m s (g.decideCall entry method m s) := by
  cases g with
  | openAccess suffix => cases entry <;> exact .waved (.inl rfl)
  | handshakeToken a suffix =>
    cases entry with
    | unary => exact course_octets a suffix .unary method m s rfl
    | stream =>
      show Course _ .stream method m s
        (HandshakeToken.decideStream (some a) suffix method (Context.root m) s).1
      unfold HandshakeToken.decideStream
      dsimp only
      split
      · next h => exact .waved (.inr ⟨rfl, h⟩)
      · next h => exact course_octets a suffix .stream method m s (Bool.eq_false_iff.2 h)
  | basicBearer v suffix =>
    cases entry with
    | unary => exact course_unary v suffix method m s
    | stream => exact course_stream v suffix method m s

end Gate

section Stream

variable {σ S : Type} [StreamMetadata S]

theorem BasicBearer.settle_eq (v : Validator σ) (stream : S) (c : Context) (s : σ)
    (demanded : Except Failure Demand) : settle v stream s demanded =
      ((settle v c s demanded).1, (settle v c s demanded).1.verdict.apply stream) := by
  match demanded with
  | .error f => rfl
  | .ok (.signIn username password) =>
    rcases answered : v.validate username password s with ⟨status | token, s'⟩
    · simp only [settle, answered]
      rfl
    · cases carried : tokenTrailer? token <;> simp only [settle, answered, carried] <;> rfl
  | .ok (.present token) =>
    rcases answered : v.isValid token s with ⟨status | i, s'⟩ <;>
      simp only [settle, answered] <;> rfl

/-- A call that presents a token never passes on its own context. -/
theorem HandshakeToken.check_ne_pass (a : Authenticator σ) (entry : Entry) (method : Method)
    (m : Metadata) (s : σ) (trailer : Option Metadata) :
    (check a entry method m s).verdict ≠ .pass trailer := by
  cases read : presentedToken m with
  | error f => simp [check, read]
  | ok token =>
    rcases answered : a.isValid token s with ⟨status | i, s'⟩ <;> simp [check, read, answered]

/-- A decision is made by the headers that the stream shows. The trailer that it tells of was set on the
stream, and no other. -/
theorem Gate.hook_eq (g : Gate σ) (method : Method) (stream : S) (s : σ) :
    let d := g.decideCall .stream method (StreamMetadata.context stream).metadata s
    g.hook method stream s = (d, d.verdict.apply stream) := by
  intro d
  let m := (StreamMetadata.context stream).metadata
  cases g with
  | openAccess suffix => rfl
  | handshakeToken a suffix =>
    show HandshakeToken.decideStream (some a) suffix method stream s =
      ((HandshakeToken.decideStream (some a) suffix method (Context.root m) s).1,
        (HandshakeToken.decideStream (some a) suffix method (Context.root m) s).1.verdict.apply stream)
    unfold HandshakeToken.decideStream
    dsimp only
    split
    · rfl
    · have unset := fun trailer => HandshakeToken.check_ne_pass a .stream method m s (some trailer)
      exact Prod.ext rfl (Verdict.apply_of_unset unset stream).symm
  | basicBearer v suffix =>
    show BasicBearer.decideStream v suffix method stream s =
      ((BasicBearer.decideStream v suffix method (Context.root m) s).1,
        (BasicBearer.decideStream v suffix method (Context.root m) s).1.verdict.apply stream)
    unfold BasicBearer.decideStream
    dsimp only
    rw [BasicBearer.settle_eq v stream (Context.root m)]
    rfl

theorem Gate.hook_course (g : Gate σ) (method : Method) (stream : S) (s : σ) :
    g.Course .stream method (StreamMetadata.context stream).metadata s (g.hook method stream s).1 := by
  rw [g.hook_eq]
  exact g.decideCall_course ..

end Stream
end CallGate
