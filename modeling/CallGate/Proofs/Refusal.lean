import CallGate.Proofs.Visits

/-! What a refused call is told. A validator's own words reach the client unchanged, an authenticator's
are told by their message. A call whose headers do not do is refused as not authenticated before anyone
is asked, and a token that no header can carry is the server's fault. -/

namespace CallGate

variable {σ Req Resp In Out ρ : Type}

namespace BasicBearer

/-- The text of the header that a stream is decided by. -/
def headerText? (m : Metadata) : Option String := (m.first? headerName).bind Metadata.textOf?

/-- The scheme word that a stream has to present. -/
def schemeWord (handshake : Bool) : String := if handshake then basicWord else bearerWord

/-- What can be wrong with the headers of a stream, and what that is called. -/
inductive Misfit (handshake : Bool) (m : Metadata) : Failure → Prop
  | missing (header : m.first? headerName = none) : Misfit handshake m .noCredentials
  | unreadable {value : Bytes} (header : m.first? headerName = some value)
      (garbled : Metadata.textOf? value = none) : Misfit handshake m .malformedCredentials
  | foreign {text : String} (header : headerText? m = some text)
      (other : (splitScheme text).1 ≠ schemeWord handshake) :
      Misfit handshake m (.unsupportedScheme (splitScheme text).1)
  | undecodable {text : String} {cause : Base64.Fault} (asked : handshake = true)
      (header : headerText? m = some text) (word : (splitScheme text).1 = basicWord)
      (garbled : Base64.decode (Bytes.ofText (splitScheme text).2) = .error cause) :
      Misfit handshake m (.badEncoding cause)
  | shapeless {text : String} {octets : Bytes} (asked : handshake = true)
      (header : headerText? m = some text) (word : (splitScheme text).1 = basicWord)
      (decoded : Base64.decode (Bytes.ofText (splitScheme text).2) = .ok octets)
      (unpaired : octets.text?.bind (Text.cut? ':') = none) :
      Misfit handshake m .malformedCredentials

theorem demand_of_text {m : Metadata} {text : String} (header : headerText? m = some text)
    (handshake : Bool) : demand handshake m = demandOf handshake text := by
  obtain ⟨value, first, readable⟩ := Option.bind_eq_some_iff.1 header
  simp only [demand, first, readable]

theorem Misfit.demand {handshake : Bool} {m : Metadata} {f : Failure} (h : Misfit handshake m f) :
    demand handshake m = .error f := by
  cases h with
  | missing header => simp only [BasicBearer.demand, header]
  | unreadable header garbled => simp only [BasicBearer.demand, header, garbled]
  | foreign header other =>
    rw [demand_of_text header, demandOf]
    cases handshake with
    | false => exact if_neg other
    | true => exact if_neg other
  | @undecodable text cause asked header word garbled =>
    have failed : signIn (splitScheme text).2 = .error (.badEncoding cause) := by
      unfold signIn
      rw [garbled]
    simp [demand_of_text header, demandOf, asked, word, failed, Except.map]
  | @shapeless text octets asked header word decoded unpaired =>
    have failed : signIn (splitScheme text).2 = .error .malformedCredentials := by
      unfold signIn
      simp only [decoded, unpaired]
    simp [demand_of_text header, demandOf, asked, word, failed, Except.map]

theorem Misfit.of_demandOf {handshake : Bool} {m : Metadata} {text : String} {f : Failure}
    (header : headerText? m = some text) (h : demandOf handshake text = .error f) :
    Misfit handshake m f := by
  unfold demandOf at h
  dsimp only at h
  split at h
  · next asked =>
    split at h
    · next word =>
      unfold signIn at h
      split at h
      · next cause garbled =>
        cases h
        exact .undecodable asked header word garbled
      · next octets decoded =>
        split at h
        · cases h
        · next unpaired =>
          cases h
          exact .shapeless asked header word decoded unpaired
    · next other =>
      cases h
      exact .foreign header (by rw [schemeWord, if_pos asked]; exact other)
  · next asked =>
    split at h
    · cases h
    · next other =>
      cases h
      exact .foreign header (by rw [schemeWord, if_neg asked]; exact other)

theorem demand_eq_error_iff {handshake : Bool} {m : Metadata} {f : Failure} :
    demand handshake m = .error f ↔ Misfit handshake m f := by
  constructor
  · intro h
    unfold demand at h
    split at h
    · next header =>
      cases h
      exact .missing header
    · next value header =>
      split at h
      · next garbled =>
        cases h
        exact .unreadable header garbled
      · next text readable =>
        have known : headerText? m = some text := by
          simp only [headerText?, header, Option.bind_some, readable]
        exact .of_demandOf known h
  · exact Misfit.demand

/-- A token cannot be carried if it has an octet that no header value may hold. -/
theorem tokenTrailer?_eq_none_iff {token : String} :
    tokenTrailer? token = none ↔ ∃ b ∈ Bytes.ofText token, Metadata.isLegal b = false := by
  have word : (Bytes.ofText (bearerWord ++ " ")).all Metadata.isLegal = true := by decide
  unfold tokenTrailer? Metadata.valueOf? presentation
  rw [Option.map_eq_none_iff]
  simp only [Bytes.ofText_append (bearerWord ++ " ") token, List.all_append, word, Bool.true_and]
  simp

end BasicBearer

theorem Call.refused_inj {status other : Status} (call : Call Req Resp In Out ρ)
    (h : (call.refused status : Reply Resp Out ρ) = call.refused other) : status = other := by
  cases call with
  | unary => exact Except.error.inj (Reply.answered.inj h)
  | stream | handshake => exact Reply.rejected.inj h

theorem HandshakeToken.presentedToken_eq_error_iff {m : Metadata} {f : Failure} :
    presentedToken m = .error f ↔ f = .badBinaryToken ∧ ∃ value cause,
      m.first? headerName = some value ∧ Metadata.binaryOf value = .error cause := by
  unfold presentedToken
  cases header : m.first? headerName with
  | none => simp
  | some value => cases decoded : Metadata.binaryOf value <;> simp [decoded, eq_comm]

namespace Gate

/-- What can be wrong with the headers of a call, and what that is called. Only streams are asked for
a text that can be read. -/
inductive Unfit (g : Gate σ) (entry : Entry) (method : Method) (m : Metadata) : Failure → Prop
  | octets {value : Bytes} {cause : Base64.Fault} (scheme : g.scheme? = some .handshakeToken)
      (presents : g.obtains entry method = false)
      (header : m.first? HandshakeToken.headerName = some value)
      (garbled : Metadata.binaryOf value = .error cause) : Unfit g entry method m .badBinaryToken
  | text {f : Failure} (scheme : g.scheme? = some .basicBearer) (stream : entry = .stream)
      (misfit : BasicBearer.Misfit (g.obtains entry method) m f) : Unfit g entry method m f

theorem Unfit.unauthenticated {g : Gate σ} {entry : Entry} {method : Method} {m : Metadata}
    {f : Failure} (h : g.Unfit entry method m f) : f.status.code = .unauthenticated := by
  cases h with
  | octets => rfl
  | text _ _ misfit => cases misfit <;> rfl

/-- Why a call is refused, by its headers and by all that was heard about its caller, and with what. -/
inductive Grounds (g : Gate σ) (entry : Entry) (method : Method) (m : Metadata) (heard : Trace) :
    Status → Prop
  | unfit {f : Failure} (headers : g.Unfit entry method m f) : Grounds g entry method m heard f.status
  | unknown {token : String} {status : Status}
      (said : heard = [.checkedToken token (.error status)]) : Grounds g entry method m heard status
  | barred {username password : String} {status : Status}
      (said : heard = [.validated username password (.error status)]) :
      Grounds g entry method m heard status
  | retold {token : Bytes} {status : Status}
      (said : heard = [.checkedBinary token (.error status)]) : Grounds g entry method m heard
        { code := if entry = .unary then .permissionDenied else .unauthenticated,
          message := "auth-error: " ++ status.message, details := [], metadata := {} }
  | unsendable {username password token : String}
      (said : heard = [.validated username password (.ok token)])
      (illegal : ∃ b ∈ Bytes.ofText token, Metadata.isLegal b = false) :
      Grounds g entry method m heard
        { code := .internal, message := "failed to attach issued token", details := [],
          metadata := {} }

theorem refusal_of_validator {g : Gate σ} {v : Validator σ} (h : g = basicBearer v g.suffix)
    (entry : Entry) (cause : Status) : g.refusal entry cause = cause := by
  rw [h]
  rfl

theorem refusal_of_authenticator {g : Gate σ} {a : Authenticator σ}
    (h : g = handshakeToken a g.suffix) (entry : Entry) (cause : Status) :
    g.refusal entry cause =
      { code := if entry = .unary then .permissionDenied else .unauthenticated,
        message := "auth-error: " ++ cause.message, details := [], metadata := {} } := by
  rw [h]
  cases entry <;> rfl

namespace Course

variable {g : Gate σ} {entry : Entry} {method : Method} {m : Metadata} {s : σ} {d : Decision σ}

/-- A call is refused only on grounds that are known. -/
theorem grounds (h : g.Course entry method m s d) {status : Status}
    (rejected : d.verdict = .reject status) :
    g.Grounds entry method m d.trace.hearings status := by
  cases h with
  | waved | accepted | issued => cases rejected
  | unreadable scheme presents header =>
    cases rejected
    obtain ⟨-, value, cause, first, garbled⟩ :=
      HandshakeToken.presentedToken_eq_error_iff.1 header
    exact .unfit (.octets scheme presents first garbled)
  | unmet scheme stream header =>
    cases rejected
    exact .unfit (.text scheme stream (BasicBearer.demand_eq_error_iff.1 header))
  | @refused _ c _ _ _ _ _ answer =>
    cases rejected
    rw [Credential.hearings_checked]
    cases c with
    | text token =>
      obtain ⟨v, gate, -⟩ := vouch?_text answer
      rw [refusal_of_validator gate]
      exact .unknown rfl
    | octets token =>
      obtain ⟨a, gate, -⟩ := vouch?_octets answer
      rw [refusal_of_authenticator gate]
      exact .retold rfl
  | barred =>
    cases rejected
    exact .barred rfl
  | unsendable _ _ _ _ carried =>
    cases rejected
    exact .unsendable rfl (BasicBearer.tokenTrailer?_eq_none_iff.1 carried)

/-- Headers that do not do settle a call before anyone is asked. -/
theorem of_unfit (h : g.Course entry method m s d) {f : Failure}
    (headers : g.Unfit entry method m f) :
    d.verdict = .reject f.status ∧ d.trace.consultations = [] := by
  cases headers with
  | octets scheme presents first garbled =>
    have header := HandshakeToken.presentedToken_eq_error_iff.2 ⟨rfl, _, _, first, garbled⟩
    cases h with
    | waved free => simp [scheme, presents] at free
    | unreadable => exact ⟨rfl, rfl⟩
    | unmet other => simp [scheme] at other
    | accepted _ _ credential | refused _ _ credential =>
      simp [credential?_of_unreadable scheme header] at credential
    | barred _ obtains | issued _ obtains | unsendable _ obtains => simp [presents] at obtains
  | text scheme stream misfit =>
    have header := misfit.demand
    refine ⟨h.verdict_of_unmet scheme stream header, ?_⟩
    cases h with
    | waved | unreadable | unmet => rfl
    | accepted _ presents credential | refused _ presents credential =>
      rw [presents] at header
      simp [stream, credential?_of_unmet scheme header] at credential
    | barred _ obtains header' | issued _ obtains header' | unsendable _ obtains header' =>
      simp [obtains, header'] at header

/-- A call whose caller was not recognized is refused. -/
theorem verdict_of_checked (h : g.Course entry method m s d) {c : Credential} {status : Status}
    (said : d.trace.hearings = [c.checked (.error status)]) :
    d.verdict = .reject (g.refusal entry status) := by
  cases h with
  | waved | unreadable | unmet => cases said
  | accepted =>
    rw [Credential.hearings_checked, List.singleton_inj, Credential.checked_inj] at said
    cases said.2
  | refused =>
    rw [Credential.hearings_checked, List.singleton_inj, Credential.checked_inj] at said
    cases said.2
    rfl
  | barred | issued | unsendable => cases c <;> cases said

/-- What a validator says to a password decides the call. -/
theorem verdict_of_validated (h : g.Course entry method m s d) {username password : String}
    {answer : Except Status String}
    (said : d.trace.hearings = [.validated username password answer]) :
    d.verdict = match answer with
      | .error status => .reject status
      | .ok token =>
          match BasicBearer.tokenTrailer? token with
          | some trailer => .pass (some trailer)
          | none => .reject (Failure.status .unsendableToken) := by
  cases h with
  | waved | unreadable | unmet => cases said
  | @accepted _ c | @refused _ c =>
    rw [Credential.hearings_checked] at said
    cases c <;> cases said
  | barred =>
    cases said
    rfl
  | issued _ _ _ _ carried | unsendable _ _ _ _ carried =>
    cases said
    simp only [carried]

/-- A handshake that presents a password has it validated, once, and nothing else is asked. -/
theorem hearings_of_signIn (h : g.Course entry method m s d) {w : Validator σ}
    (gate : g = basicBearer w g.suffix) (obtains : g.obtains entry method = true)
    {username password : String}
    (header : BasicBearer.demand true m = .ok (.signIn username password)) :
    d.trace.hearings = [.validated username password (w.validate username password s).1] := by
  have scheme := scheme?_of_validator gate
  cases h with
  | waved free => simp [scheme] at free
  | unreadable other => simp [scheme] at other
  | unmet _ _ header' =>
    rw [obtains, header] at header'
    cases header'
  | accepted _ presents | refused _ presents => simp [obtains] at presents
  | @barred v _ _ _ _ validator _ header' answer | @issued v _ _ _ _ _ validator _ header' answer
  | @unsendable v _ _ _ _ validator _ header' answer =>
    obtain rfl : w = v := by
      rw [gate] at validator
      exact (Gate.basicBearer.inj validator).1
    cases header.symm.trans header'
    rw [answer]
    rfl

/-- A call is refused whenever there are grounds for it. -/
theorem verdict_of_grounds (h : g.Course entry method m s d) {status : Status}
    (grounds : g.Grounds entry method m d.trace.hearings status) : d.verdict = .reject status := by
  cases grounds with
  | unfit headers => exact (h.of_unfit headers).1
  | @unknown token _ said =>
    obtain ⟨v, gate, -⟩ := h.says_of_hearings said
    rw [h.verdict_of_checked (c := .text token) said, refusal_of_validator gate]
  | @retold token cause said =>
    obtain ⟨a, gate, -⟩ := h.says_of_hearings said
    rw [h.verdict_of_checked (c := .octets token) said, refusal_of_authenticator gate]
  | barred said => exact h.verdict_of_validated said
  | unsendable said illegal =>
    rw [h.verdict_of_validated said]
    simp only [BasicBearer.tokenTrailer?_eq_none_iff.2 illegal]
    rfl

end Course

/-- No handler is entered on the visit, and a status takes the place of the response. -/
def RefusedWith (g : Gate σ) (v : Visit σ Req Resp In Out ρ) (status : Status) : Prop :=
  (g.attend v).trace.contexts = [] ∧ (g.attend v).outcome = v.call.refused status

theorem refusedWith_iff {g : Gate σ} {v : Visit σ Req Resp In Out ρ} {status : Status} :
    g.RefusedWith v status ↔ (g.judge v).verdict = .reject status := by
  constructor
  · rintro ⟨unentered, reply⟩
    rw [contexts_attend] at unentered
    cases granted : (g.judge v).verdict.grant (.root v.call.metadata) with
    | ok c => simp [granted, Except.toOption] at unentered
    | error other =>
      have rejected := Verdict.grant_eq_error_iff.1 granted
      rw [attend_refused rejected] at reply
      rw [rejected, v.call.refused_inj reply]
  · intro rejected
    rw [RefusedWith, attend_refused rejected]
    exact ⟨g.contexts_judge v, rfl⟩

/-- How the gate refuses on a visit. A call is refused with a status exactly on grounds for that
status, and a refusal for which nobody was heard is one for want of authentication. -/
structure Refusals (g : Gate σ) (v : Visit σ Req Resp In Out ρ) : Prop where
  said : g.Hears v.found (g.attend v).trace.hearings (g.judge v).state
  grounds : ∀ status, g.RefusedWith v status ↔
    g.Grounds v.call.entry (g.methodOf v.call) v.call.metadata (g.attend v).trace.hearings status
  /-- A validator's refusal of a bearer token is the gate's. -/
  unknown : ∀ w token status, g = basicBearer w g.suffix →
    g.obtains v.call.entry (g.methodOf v.call) = false →
    g.credential? v.call.entry v.call.metadata = some (.text token) →
    (w.isValid token v.found).1 = .error status → g.RefusedWith v status
  /-- An authenticator's refusal of a token is told by its message. -/
  retold : ∀ a token status, g = handshakeToken a g.suffix →
    g.obtains v.call.entry (g.methodOf v.call) = false →
    g.credential? v.call.entry v.call.metadata = some (.octets token) →
    (a.isValid token v.found).1 = .error status → g.RefusedWith v
      { code := if v.call.entry = .unary then .permissionDenied else .unauthenticated,
        message := "auth-error: " ++ status.message, details := [], metadata := {} }
  /-- A validator's refusal of a password is the gate's. -/
  barred : ∀ w username password status, g = basicBearer w g.suffix →
    g.obtains v.call.entry (g.methodOf v.call) = true →
    BasicBearer.demand true v.call.metadata = .ok (.signIn username password) →
    (w.validate username password v.found).1 = .error status → g.RefusedWith v status
  unsendable : ∀ w username password token, g = basicBearer w g.suffix →
    g.obtains v.call.entry (g.methodOf v.call) = true →
    BasicBearer.demand true v.call.metadata = .ok (.signIn username password) →
    (w.validate username password v.found).1 = .ok token →
    (∃ b ∈ Bytes.ofText token, Metadata.isLegal b = false) → g.RefusedWith v
      { code := .internal, message := "failed to attach issued token", details := [], metadata := {} }
  unfit : ∀ f, g.Unfit v.call.entry (g.methodOf v.call) v.call.metadata f →
    g.RefusedWith v f.status ∧ f.status.code = .unauthenticated ∧
      (g.attend v).trace.consultations = []
  unheard : ∀ status, g.RefusedWith v status → (g.attend v).trace.hearings = [] →
    status.code = .unauthenticated ∧ (g.attend v).trace.consultations = []

/-- A credential that the collaborator refuses has the call refused. -/
theorem refusedWith_of_vouch? {g : Gate σ} {v : Visit σ Req Resp In Out ρ} {c : Credential}
    {status : Status} {s' : σ} (presents : g.obtains v.call.entry (g.methodOf v.call) = false)
    (credential : g.credential? v.call.entry v.call.metadata = some c)
    (refused : g.vouch? c v.found = some (.error status, s')) :
    g.RefusedWith v (g.refusal v.call.entry status) :=
  refusedWith_iff.2 ((g.judge_course v).verdict_of_refusal presents credential refused)

/-- What a refused call is told, whatever the gate, the call and the state of the collaborator. -/
theorem attend_refusals (g : Gate σ) (v : Visit σ Req Resp In Out ρ) : g.Refusals v := by
  have course := g.judge_course v
  have refused_iff (status : Status) : g.RefusedWith v status ↔
      g.Grounds v.call.entry (g.methodOf v.call) v.call.metadata (g.attend v).trace.hearings
        status := by
    rw [refusedWith_iff, hearings_attend]
    exact ⟨course.grounds, course.verdict_of_grounds⟩
  have unfit (f : Failure) (headers : g.Unfit v.call.entry (g.methodOf v.call) v.call.metadata f) :
      g.RefusedWith v f.status ∧ f.status.code = .unauthenticated ∧
        (g.attend v).trace.consultations = [] := by
    obtain ⟨rejected, unconsulted⟩ := course.of_unfit headers
    refine ⟨refusedWith_iff.2 rejected, headers.unauthenticated, ?_⟩
    rw [attend_refused rejected]
    exact unconsulted
  refine ⟨?said, refused_iff, ?unknown, ?retold, ?barred, ?unsendable, unfit, ?unheard⟩
  case said =>
    rw [hearings_attend]
    exact course.hears
  case unknown =>
    intro w token status gate presents credential answer
    have vouched : g.vouch? (.text token) v.found =
        some (.error status, (w.isValid token v.found).2) := by
      rw [gate, ← answer]
      rfl
    rw [← refusal_of_validator gate v.call.entry status]
    exact refusedWith_of_vouch? presents credential vouched
  case retold =>
    intro a token status gate presents credential answer
    have vouched : g.vouch? (.octets token) v.found =
        some (.error status, (a.isValid token v.found).2) := by
      rw [gate, ← answer]
      rfl
    rw [← refusal_of_authenticator gate v.call.entry status]
    exact refusedWith_of_vouch? presents credential vouched
  case barred =>
    intro w username password status gate obtains header answer
    have heard := course.hearings_of_signIn gate obtains header
    rw [answer] at heard
    exact refusedWith_iff.2 (course.verdict_of_validated heard)
  case unsendable =>
    intro w username password token gate obtains header answer illegal
    have heard := course.hearings_of_signIn gate obtains header
    rw [answer] at heard
    rw [refusedWith_iff, course.verdict_of_validated heard]
    simp only [BasicBearer.tokenTrailer?_eq_none_iff.2 illegal]
    rfl
  case unheard =>
    intro status refused silent
    -- All other grounds are answers that were heard.
    cases (refused_iff status).1 refused with
    | unfit headers => exact (unfit _ headers).2
    | unknown said | barred said | retold said | unsendable said => cases silent.symm.trans said

end Gate
end CallGate
