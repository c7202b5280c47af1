import CallGate.Proofs.FirstValue
import CallGate.Proofs.TokenReuse

/-! What the log tells about tokens and passwords. It follows from what a collaborator says about a
caller and from what is wrong with the headers; and what is said of the headers repeats two things that
were presented: a token without a scheme word, and what keeps a password from being decoded. -/

namespace CallGate

open Streaming

variable {σ Req Resp In Out ρ : Type}

/-- What a collaborator says when it is asked, whatever it is asked about. -/
inductive Testimony where
  | password (answer : Except Status String)
  | token (answer : Except Status Identity)

def Event.testimony? : Event → Option Testimony
  | .validated _ _ answer => some (.password answer)
  | .checkedToken _ answer | .checkedBinary _ answer => some (.token answer)
  | _ => none

/-- What was said about a caller, in order. -/
def Trace.testimony (t : Trace) : List Testimony := t.hearings.filterMap Event.testimony?

theorem Credential.testimony_checked (c : Credential) (answer : Except Status Identity) (n : Notice)
    (a : Attempt) :
    Trace.testimony [c.checked answer, .noted n, .counted a] = [.token answer] := by
  cases c <;> rfl

theorem Credential.notices_checked (c : Credential) (answer : Except Status Identity) (n : Notice)
    (a : Attempt) : Trace.notices [c.checked answer, .noted n, .counted a] = [n] := by
  cases c <;> rfl

/-- How a token is presented: as a text, bare or after a scheme word, or as octets in Base64. -/
inductive Manner where
  | bare
  | worded (word : String)
  | binary

namespace Manner

def headerName : Manner → String
  | bare | worded _ => BasicBearer.headerName
  | binary => HandshakeToken.headerName

def Carries : Manner → String → Bytes → Prop
  | bare, token, value => value = Bytes.ofText token
  | worded word, token, value => ' ' ∉ word.toList ∧ value = Bytes.ofText (word ++ " " ++ token)
  | binary, token, value => Metadata.binaryOf value = .ok (Bytes.ofText token)

end Manner

namespace BasicBearer

/-- A token of visible characters that is no scheme word. -/
structure Plain (token : String) : Prop where
  visible : ∀ c ∈ token.toList, 33 ≤ c.toNat ∧ c.toNat < 127
  notBasic : token ≠ basicWord
  notBearer : token ≠ bearerWord

theorem Plain.unspaced {token : String} (h : Plain token) : ' ' ∉ token.toList := by
  intro spaced
  have visible := (h.visible ' ' spaced).1
  revert visible
  decide

theorem Plain.all_isVisible {token : String} (h : Plain token) :
    (Bytes.ofText token).all Metadata.isVisible = true := by
  apply Metadata.all_isVisible_ofText
  intro c hc
  have := h.visible c hc
  omega

/-- The text of an error, if there is one. -/
def complaint? {α : Type} : Except Failure α → Option String
  | .error f => some f.status.message
  | .ok _ => none

/-- What is said against the headers of a stream, if they do not do. -/
def objection? (handshake : Bool) (m : Metadata) : Option String := complaint? (demand handshake m)

/-- What keeps a credential from being decoded. -/
def fault? (credential : String) : Option String :=
  match Base64.decode (Bytes.ofText credential) with
  | .error cause => some cause.message
  | .ok _ => none

/-- What an objection to the headers repeats of the token that they present. -/
def exposed? (handshake : Bool) (token : String) : Manner → Option String
  | .bare => some token
  | .worded word => if handshake = true ∧ word = basicWord then fault? token else none
  | .binary => none

section Objections

variable {handshake : Bool} {m n : Metadata} {token token' word : String}

theorem objection?_of_misfit {f : Failure} (h : Misfit handshake m f) :
    objection? handshake m = some f.status.message := by
  rw [objection?, h.demand]
  rfl

theorem Plain.ne_schemeWord (h : Plain token) (handshake : Bool) : token ≠ schemeWord handshake := by
  cases handshake with
  | true => exact h.notBasic
  | false => exact h.notBearer

/-- A bare token is taken for a scheme word. -/
theorem objection?_bare (plain : Plain token)
    (header : m.first? headerName = some (Bytes.ofText token)) :
    objection? handshake m = some ("unsupported authorization scheme: " ++ token) := by
  have text : headerText? m = some token := by
    rw [headerText?, header, Option.bind_some, Metadata.textOf?_ofText, if_pos plain.all_isVisible]
  have cut := splitScheme_of_unspaced plain.unspaced
  have other : (splitScheme token).1 ≠ schemeWord handshake := by
    rw [cut]
    exact plain.ne_schemeWord handshake
  rw [objection?_of_misfit (.foreign text other), cut]
  rfl

/-- Of a token after a scheme word only a password for a handshake is looked into. -/
theorem objection?_worded (plain : Plain token) (unspaced : ' ' ∉ word.toList)
    (header : m.first? headerName = some (Bytes.ofText (word ++ " " ++ token))) :
    objection? handshake m =
      if (Bytes.ofText word).all Metadata.isVisible then
        if word = schemeWord handshake then
          if handshake then complaint? (signIn token) else none
        else some ("unsupported authorization scheme: " ++ word)
      else some "malformed credentials" := by
  have visible : (Bytes.ofText (word ++ " " ++ token)).all Metadata.isVisible =
      (Bytes.ofText word).all Metadata.isVisible := by
    have space : (Bytes.ofText " ").all Metadata.isVisible = true := by decide
    simp only [Bytes.ofText_append, List.all_append, space, plain.all_isVisible, Bool.and_true]
  by_cases readable : (Bytes.ofText word).all Metadata.isVisible = true
  · have text : headerText? m = some (word ++ " " ++ token) := by
      rw [headerText?, header, Option.bind_some, Metadata.textOf?_ofText, visible, if_pos readable]
    have cut := splitScheme_append unspaced token
    rw [if_pos readable]
    by_cases own : word = schemeWord handshake
    · rw [if_pos own, objection?, demand_of_text text, demandOf, cut, own]
      cases handshake with
      | true => cases signed : signIn token <;> simp [schemeWord, signed, Except.map, complaint?]
      | false => simp [schemeWord, complaint?]
    · have other : (splitScheme (word ++ " " ++ token)).1 ≠ schemeWord handshake := by
        rw [cut]
        exact own
      rw [if_neg own, objection?_of_misfit (.foreign text other), cut]
      rfl
  · have garbled : Metadata.textOf? (Bytes.ofText (word ++ " " ++ token)) = none := by
      rw [Metadata.textOf?_ofText, visible, if_neg readable]
    rw [if_neg readable, objection?_of_misfit (.unreadable header garbled)]
    rfl

/-- A password for a handshake is looked into. -/
theorem objection?_password (plain : Plain token)
    (header : m.first? headerName = some (Bytes.ofText (basicWord ++ " " ++ token))) :
    objection? true m = complaint? (signIn token) := by
  have unspaced : ' ' ∉ basicWord.toList := by simp [basicWord]
  have readable : (Bytes.ofText basicWord).all Metadata.isVisible = true := by decide
  rw [objection?_worded plain unspaced header, if_pos readable]
  rfl

/-- No other token after a scheme word is. -/
theorem objection?_worded_congr (plain : Plain token) (plain' : Plain token')
    (unspaced : ' ' ∉ word.toList) (unasked : ¬ (handshake = true ∧ word = basicWord))
    (header : m.first? headerName = some (Bytes.ofText (word ++ " " ++ token)))
    (header' : n.first? headerName = some (Bytes.ofText (word ++ " " ++ token'))) :
    objection? handshake m = objection? handshake n := by
  rw [objection?_worded plain unspaced header, objection?_worded plain' unspaced header']
  cases handshake with
  | false => rfl
  | true =>
    have other : word ≠ schemeWord true := fun own => unasked ⟨rfl, own⟩
    rw [if_neg other, if_neg other]

/-- What is said against a password is what keeps it from being decoded, or the same for all. -/
theorem complaint?_signIn (credential : String) :
    (∃ text, fault? credential = some text ∧
      complaint? (signIn credential) = some ("invalid basic auth encoding: " ++ text)) ∨
    (fault? credential = none ∧ (complaint? (signIn credential) = none ∨
      complaint? (signIn credential) = some "malformed credentials")) := by
  unfold signIn fault?
  cases Base64.decode (Bytes.ofText credential) with
  | error cause => exact .inl ⟨cause.message, rfl, rfl⟩
  | ok octets =>
    dsimp only
    split
    · exact .inr ⟨rfl, .inl rfl⟩
    · exact .inr ⟨rfl, .inr rfl⟩

theorem complaint?_signIn_eq_iff
    (both : (complaint? (signIn token)).isSome = (complaint? (signIn token')).isSome) :
    complaint? (signIn token) = complaint? (signIn token') ↔ fault? token = fault? token' := by
  have encoding (a b : String) : "invalid basic auth encoding: " ++ a =
      "invalid basic auth encoding: " ++ b ↔ a = b := String.append_right_inj _
  have foreign (a : String) : "invalid basic auth encoding: " ++ a ≠ "malformed credentials" := by
    intro same
    have := congrArg String.toList same
    simp at this
  rcases complaint?_signIn token with ⟨a, fault, said⟩ | ⟨fault, said | said⟩ <;>
    rcases complaint?_signIn token' with ⟨b, fault', said'⟩ | ⟨fault', said' | said'⟩ <;>
    rw [said, said'] at both ⊢ <;> rw [fault, fault'] <;>
    simp [encoding, foreign, (foreign _).symm] at both ⊢

end Objections

end BasicBearer

/-- Headers that present two plain tokens in the same manner, and agree on all other headers that a
gate could read. -/
structure Manner.Paired (manner : Manner) (token token' : String) (m n : Metadata) : Prop where
  plain : BasicBearer.Plain token
  plain' : BasicBearer.Plain token'
  carried : ∃ value, m.first? manner.headerName = some value ∧ manner.Carries token value
  carried' : ∃ value, n.first? manner.headerName = some value ∧ manner.Carries token' value
  others : ∀ name, name ≠ manner.headerName → m.first? name = n.first? name

theorem Manner.Paired.of_single {manner : Manner} {token token' : String} {value value' : Bytes}
    (plain : BasicBearer.Plain token) (plain' : BasicBearer.Plain token')
    (carries : manner.Carries token value) (carries' : manner.Carries token' value') :
    manner.Paired token token' (.single manner.headerName value)
      (.single manner.headerName value') := by
  refine ⟨plain, plain', ⟨value, ?_, carries⟩, ⟨value', ?_, carries'⟩, ?_⟩
  · simp [Metadata.first?]
  · simp [Metadata.first?]
  · intro name other
    simp [Metadata.first?, Metadata.values_single_of_ne _ other.symm]

/-- Two tokens are objected to in the same words if the words repeat the same of them. -/
theorem Manner.Paired.objection?_eq_iff {manner : Manner} {token token' : String} {m n : Metadata}
    (h : manner.Paired token token' m n) (handshake : Bool)
    (both : (BasicBearer.objection? handshake m).isSome =
      (BasicBearer.objection? handshake n).isSome) :
    BasicBearer.objection? handshake m = BasicBearer.objection? handshake n ↔
      BasicBearer.exposed? handshake token manner = BasicBearer.exposed? handshake token' manner := by
  obtain ⟨value, header, carries⟩ := h.carried
  obtain ⟨value', header', carries'⟩ := h.carried'
  cases manner with
  | bare =>
    subst carries carries'
    rw [BasicBearer.objection?_bare h.plain header, BasicBearer.objection?_bare h.plain' header']
    simp only [BasicBearer.exposed?, Option.some.injEq, String.append_right_inj]
  | binary =>
    have same := h.others BasicBearer.headerName (by decide)
    have alike : BasicBearer.objection? handshake m = BasicBearer.objection? handshake n := by
      simp only [BasicBearer.objection?, BasicBearer.demand, same]
    exact iff_of_true alike rfl
  | worded word =>
    obtain ⟨unspaced, rfl⟩ := carries
    obtain ⟨-, rfl⟩ := carries'
    by_cases asked : handshake = true ∧ word = BasicBearer.basicWord
    · obtain ⟨rfl, rfl⟩ := asked
      rw [BasicBearer.objection?_password h.plain header,
        BasicBearer.objection?_password h.plain' header'] at both ⊢
      simp only [BasicBearer.exposed?, and_self, if_true]
      exact BasicBearer.complaint?_signIn_eq_iff both
    · simp only [BasicBearer.exposed?, if_neg asked, iff_true]
      exact BasicBearer.objection?_worded_congr h.plain h.plain' unspaced asked header header'

/-- What the log says of a call, by what is wrong with its headers and what was said about its
caller. -/
def Scheme.logged (scheme : Scheme) (entry : Entry) (method : Method) :
    Option String → List Testimony → List Notice
  | some reason, _ => [.rejected scheme entry method reason]
  | none, [.token (.ok _)] => [.accepted scheme entry method]
  | none, [.token (.error status)] | none, [.password (.error status)] =>
      [.rejected scheme entry method status.message]
  | none, [.password (.ok token)] =>
      if (BasicBearer.tokenTrailer? token).isSome then [.issued method]
      else [.unsendableToken, .rejected scheme entry method (Failure.status .unsendableToken).message]
  | none, _ => []

/-- The verdict, if it lets the call in. -/
def Verdict.granted? : Verdict → Option Verdict
  | .reject _ => none
  | v => some v

theorem Verdict.eq_of_granted? {u v : Verdict} {c c' : Context} (same : u.granted? = v.granted?)
    (granted : u.grant c = .ok c') : u = v := by
  cases u with
  | reject => cases granted
  | pass | identify =>
    cases v with
    | reject => cases same
    | pass | identify => exact Option.some.inj same

theorem Verdict.eq_reject_of_granted? {v : Verdict} (h : v.granted? = none) :
    ∃ status, v = .reject status := by
  cases v with
  | reject status => exact ⟨status, rfl⟩
  | pass | identify => cases h

/-- The objection shows in the log. -/
theorem Scheme.logged_eq_iff (scheme : Scheme) (entry : Entry) (method : Method)
    {objection objection' : Option String} (both : objection.isSome = objection'.isSome)
    (said : List Testimony) :
    scheme.logged entry method objection said =
      scheme.logged entry method objection' said ↔ objection = objection' := by
  cases objection with
  | none =>
    cases objection' with
    | none => exact iff_of_true rfl rfl
    | some reason' => cases both
  | some reason =>
    cases objection' with
    | none => cases both
    | some reason' => simp [logged]

namespace Gate

/-- What is wrong with the headers of a call that has to bring a text. -/
def objection? (g : Gate σ) (entry : Entry) (method : Method) (m : Metadata) : Option String :=
  match g, entry with
  | basicBearer .., .stream => BasicBearer.objection? (g.obtains .stream method) m
  | _, _ => none

/-- What of a token shows in the log whatever is said about it. -/
def exposed? (g : Gate σ) (entry : Entry) (method : Method) (token : String) (manner : Manner) :
    Option String :=
  match g, entry with
  | basicBearer .., .stream => BasicBearer.exposed? (g.obtains .stream method) token manner
  | _, _ => none

def logged (g : Gate σ) (entry : Entry) (method : Method) (objection : Option String)
    (said : List Testimony) : List Notice :=
  match g.scheme? with
  | some scheme => scheme.logged entry method objection said
  | none => []

theorem logged_nil (g : Gate σ) (entry : Entry) (method : Method) :
    g.logged entry method none [] = [] := by
  cases g <;> rfl

/-- The verdict on a call that is let in, by what was said about its caller. -/
def favour? (g : Gate σ) (entry : Entry) (method : Method) : List Testimony → Option Verdict
  | [] =>
      if g.scheme? = none ∨ g.scheme? = some .handshakeToken ∧ g.obtains entry method = true then
        some (.pass none)
      else none
  | [.token (.ok i)] => some (.identify i)
  | [.password (.ok token)] => (BasicBearer.tokenTrailer? token).map fun t => .pass (some t)
  | _ => none

section Courses

variable {g : Gate σ} {entry : Entry} {method : Method} {m : Metadata} {s : σ} {d : Decision σ}

theorem objection?_of_scheme (other : g.scheme? ≠ some .basicBearer) :
    g.objection? entry method m = none := by
  cases g with
  | basicBearer => exact absurd rfl other
  | openAccess | handshakeToken => rfl

theorem scheme?_ne_of_free
    (free : g.scheme? = none ∨ g.scheme? = some .handshakeToken ∧ g.obtains entry method = true) :
    g.scheme? ≠ some .basicBearer := by
  rcases free with free | ⟨free, -⟩ <;> simp [free]

theorem objection?_of_demand {demand : BasicBearer.Demand}
    (header : BasicBearer.demand (g.obtains entry method) m = .ok demand) :
    g.objection? entry method m = none := by
  cases g with
  | openAccess | handshakeToken => rfl
  | basicBearer v suffix =>
    cases entry with
    | unary => rfl
    | stream => simp only [objection?, BasicBearer.objection?, header, BasicBearer.complaint?]

theorem objection?_of_credential (presents : g.obtains entry method = false) {c : Credential}
    (credential : g.credential? entry m = some c) : g.objection? entry method m = none := by
  cases g with
  | openAccess | handshakeToken => rfl
  | basicBearer v suffix =>
    cases entry with
    | unary => rfl
    | stream =>
      simp only [credential?] at credential
      split at credential
      · next token header => exact objection?_of_demand (presents ▸ header)
      · cases credential

theorem objection?_of_unmet (scheme : g.scheme? = some .basicBearer) (stream : entry = .stream)
    {f : Failure} (header : BasicBearer.demand (g.obtains entry method) m = .error f) :
    g.objection? entry method m = some f.status.message := by
  subst stream
  cases g with
  | openAccess | handshakeToken => cases scheme
  | basicBearer v suffix =>
    simp only [objection?, BasicBearer.objection?, header, BasicBearer.complaint?]

/-- What is logged about a call depends on nothing else. -/
theorem Course.notices (h : g.Course entry method m s d) :
    d.trace.notices = g.logged entry method (g.objection? entry method m) d.trace.testimony := by
  cases h with
  | waved free =>
    rw [objection?_of_scheme (scheme?_ne_of_free free)]
    exact (g.logged_nil entry method).symm
  | unreadable scheme =>
    rw [objection?_of_scheme (by simp [scheme])]
    exact (g.logged_nil entry method).symm
  | unmet scheme stream header =>
    rw [objection?_of_unmet scheme stream header, logged, scheme, stream]
    rfl
  | accepted scheme presents credential =>
    rw [objection?_of_credential presents credential, logged, scheme, Credential.notices_checked,
      Credential.testimony_checked]
    rfl
  | refused scheme presents credential =>
    rw [objection?_of_credential presents credential, logged, scheme, Credential.notices_checked,
      Credential.testimony_checked]
    rfl
  | barred validator obtains header =>
    have stream := (obtains_eq_true.1 obtains).1
    rw [objection?_of_demand (obtains ▸ header), logged, scheme?_of_validator validator, stream]
    rfl
  | issued validator obtains header answer carried =>
    have stream := (obtains_eq_true.1 obtains).1
    rw [objection?_of_demand (obtains ▸ header), logged, scheme?_of_validator validator, stream]
    exact (if_pos (by rw [carried]; rfl)).symm
  | unsendable validator obtains header answer carried =>
    have stream := (obtains_eq_true.1 obtains).1
    rw [objection?_of_demand (obtains ▸ header), logged, scheme?_of_validator validator, stream]
    exact (if_neg (by rw [carried]; exact Bool.false_ne_true)).symm

/-- Headers are objected to on streams under passwords and bearer tokens, and just when nothing is
said about the caller. -/
theorem Course.objection?_isSome (h : g.Course entry method m s d) :
    (g.objection? entry method m).isSome = true ↔
      g.scheme? = some .basicBearer ∧ entry = .stream ∧ d.trace.testimony = [] := by
  cases h with
  | waved free =>
    have other := scheme?_ne_of_free free
    simp [objection?_of_scheme other, other]
  | unreadable scheme => simp [objection?_of_scheme, scheme]
  | unmet scheme stream header =>
    rw [objection?_of_unmet scheme stream header]
    exact iff_of_true rfl ⟨scheme, stream, rfl⟩
  | accepted scheme presents credential | refused scheme presents credential =>
    rw [objection?_of_credential presents credential, Credential.testimony_checked]
    simp
  | barred _ obtains header | issued _ obtains header | unsendable _ obtains header =>
    rw [objection?_of_demand (obtains ▸ header)]
    exact iff_of_false Bool.false_ne_true nofun

/-- What is said about the caller settles who is let in. -/
theorem Course.granted? (h : g.Course entry method m s d) :
    d.verdict.granted? = g.favour? entry method d.trace.testimony := by
  cases h with
  | waved free => exact (if_pos free).symm
  | unreadable scheme presents => exact (if_neg (by simp [scheme, presents])).symm
  | unmet scheme => exact (if_neg (by simp [scheme])).symm
  | accepted | refused =>
    rw [Credential.testimony_checked]
    rfl
  | barred => rfl
  | issued _ _ _ _ carried =>
    show some _ = (BasicBearer.tokenTrailer? _).map _
    rw [carried]
    rfl
  | unsendable _ _ _ _ carried =>
    show none = (BasicBearer.tokenTrailer? _).map _
    rw [carried]
    rfl

end Courses

/-- With the same said about both callers, the same is logged just if the same shows of their tokens. -/
theorem logged_eq_iff {g : Gate σ} {entry : Entry} {method : Method} {manner : Manner}
    {token token' : String} {m n : Metadata} (h : manner.Paired token token' m n)
    (both : (g.objection? entry method m).isSome = (g.objection? entry method n).isSome)
    (said : List Testimony) :
    g.logged entry method (g.objection? entry method m) said =
        g.logged entry method (g.objection? entry method n) said ↔
      g.exposed? entry method token manner = g.exposed? entry method token' manner := by
  cases g with
  | openAccess | handshakeToken => exact iff_of_true rfl rfl
  | basicBearer v suffix =>
    cases entry with
    | unary => exact iff_of_true rfl rfl
    | stream =>
      have logged := Scheme.basicBearer.logged_eq_iff .stream method both said
      exact logged.trans (h.objection?_eq_iff _ both)

section Visits

variable {g : Gate σ} {manner : Manner} {token token' : String} {x y : Visit σ Req Resp In Out ρ}

/-- Two visits that present `token` and `token'` in the same manner, ask for the same method in the
same way, and find the collaborator in the same state. -/
structure Presenting (g : Gate σ) (manner : Manner) (token token' : String)
    (x y : Visit σ Req Resp In Out ρ) : Prop where
  entry : x.call.entry = y.call.entry
  method : g.methodOf x.call = g.methodOf y.call
  headers : manner.Paired token token' x.call.metadata y.call.metadata
  found : x.found = y.found

/-- Two visits that the log does not tell apart. -/
structure Discreet (g : Gate σ) (x y : Visit σ Req Resp In Out ρ) : Prop where
  interception : (g.attend x).trace.interception.notices = (g.attend y).trace.interception.notices
  /-- Where the calls differ in their headers alone and their handler does not look at them, the
  whole of the log is the same. -/
  whole : ∀ m, y.call = x.call.withHeaders m → x.call.Blind →
    (g.attend x).trace.notices = (g.attend y).trace.notices

theorem testimony_attend (g : Gate σ) (v : Visit σ Req Resp In Out ρ) :
    (g.attend v).trace.testimony = (g.judge v).trace.testimony := by
  rw [Trace.testimony, Trace.testimony, hearings_attend]

theorem Presenting.notices_judge_iff (h : g.Presenting manner token token' x y)
    (said : (g.judge x).trace.testimony = (g.judge y).trace.testimony) :
    (g.judge x).trace.notices = (g.judge y).trace.notices ↔
      g.exposed? x.call.entry (g.methodOf x.call) token manner =
        g.exposed? x.call.entry (g.methodOf x.call) token' manner := by
  have left := g.judge_course x
  have right := g.judge_course y
  rw [← h.entry, ← h.method] at right
  have both : (g.objection? x.call.entry (g.methodOf x.call) x.call.metadata).isSome =
      (g.objection? x.call.entry (g.methodOf x.call) y.call.metadata).isSome := by
    rw [Bool.eq_iff_iff, left.objection?_isSome, right.objection?_isSome, said]
  rw [left.notices, right.notices, said]
  exact logged_eq_iff h.headers both (g.judge y).trace.testimony

/-- What a handler leads to depends on the verdict, and if an authenticator drives it on the state
that the decision left. -/
theorem conduct_trace_congr {d e : Decision σ} (verdict : d.verdict = e.verdict)
    (state : g.authenticator? ≠ none → g.obtains x.call.entry (g.methodOf x.call) = true →
      d.state = e.state) (c : Context) :
    (g.conduct d c x.call).trace = (g.conduct e c x.call).trace := by
  obtain ⟨call, found⟩ := x
  cases call with
  | unary => rfl
  | stream => simp only [conduct, verdict]
  | handshake called m inbound client =>
    cases driver : g.authenticator? with
    | some a =>
      have obtains := obtains_eq_true.2 ⟨Eq.refl Entry.stream, g.handshakeMethod_isHandshake called⟩
      have left := state (by simp [driver]) obtains
      simp only [conduct, verdict, left]
    | none =>
      let idle : Program Handshake.Message Handshake.Message Unit := .done (.ok ()) ()
      have undriven (s : σ) :
          Handshake.handler (none : Option (Authenticator σ)) s = idle.retold fun _ => (s, []) := rfl
      simp only [conduct, verdict, driver, undriven, Accepted.playFor_retold]
      rfl

theorem Presenting.notices_attend_iff (h : g.Presenting manner token token' x y)
    (said : (g.judge x).trace.testimony = (g.judge y).trace.testimony) {m : Metadata}
    (other : y.call = x.call.withHeaders m) (blind : x.call.Blind) :
    (g.attend x).trace.notices = (g.attend y).trace.notices ↔
      (g.judge x).trace.notices = (g.judge y).trace.notices := by
  have left := g.judge_course x
  have right := g.judge_course y
  rw [← h.entry, ← h.method] at right
  have same : (g.judge x).verdict.granted? = (g.judge y).verdict.granted? := by
    rw [left.granted?, right.granted?, said]
  have headers : y.call.metadata = m := by
    rw [other]
    cases x.call <;> rfl
  cases granted : (g.judge x).verdict.grant (.root x.call.metadata) with
  | error status =>
    have rejected := Verdict.grant_eq_error_iff.1 granted
    obtain ⟨status', rejected'⟩ : ∃ status', (g.judge y).verdict = .reject status' := by
      rw [rejected] at same
      exact Verdict.eq_reject_of_granted? same.symm
    rw [attend_refused rejected, attend_refused rejected']
  | ok c =>
    have verdict := Verdict.eq_of_granted? same granted
    have granted' : (g.judge y).verdict.grant (.root y.call.metadata) = .ok (c.withHeaders m) := by
      rw [headers, ← verdict]
      exact Verdict.grant_withHeaders granted m
    have state (driven : g.authenticator? ≠ none)
        (obtains : g.obtains x.call.entry (g.methodOf x.call) = true) :
        (g.judge x).state = (g.judge y).state := by
      have scheme : g.scheme? = some .handshakeToken := by
        simpa [authenticator?_eq_none_iff] using driven
      rw [left.of_exempt scheme obtains, right.of_exempt scheme obtains, h.found]
    have after : (g.conduct (g.judge y) (c.withHeaders m) y.call).trace =
        (g.conduct (g.judge x) c x.call).trace := by
      rw [other, g.conduct_withHeaders _ c m blind, conduct_trace_congr verdict state]
    have silent (c : Context) (t : Trace) : Trace.notices (.entered c :: t) = t.notices := rfl
    rw [attend_conduct granted, attend_conduct granted', after]
    simp only [Trace.notices_append, silent, List.append_left_inj]

/-- The log tells two such visits apart, though the same was said about their callers, just if what
shows of the tokens is different. -/
theorem attend_discreet_iff (h : g.Presenting manner token token' x y)
    (said : (g.attend x).trace.testimony = (g.attend y).trace.testimony) :
    g.Discreet x y ↔ g.exposed? x.call.entry (g.methodOf x.call) token manner =
      g.exposed? x.call.entry (g.methodOf x.call) token' manner := by
  rw [testimony_attend, testimony_attend] at said
  rw [← h.notices_judge_iff said]
  constructor
  · intro discreet
    rw [← interception_attend, ← interception_attend]
    exact discreet.interception
  · intro same
    constructor
    · rw [interception_attend, interception_attend, same]
    · intro m other blind
      exact (h.notices_attend_iff said other blind).2 same

end Visits

/-- Two wrong passwords for a handshake. -/
theorem attend_discreet_iff_solo :
    let attempt (value : String) : Visit Issued Unit Unit Unit Unit Unit :=
      ⟨soloHandshake.withHeaders (.single BasicBearer.headerName (Bytes.ofText value)), {}⟩
    let x := attempt "Basic dTpx"
    let y := attempt "Basic dTpy"
    (soloGate "t").Presenting (.worded "Basic") "dTpx" "dTpy" x y ∧
      ((soloGate "t").attend x).trace.testimony = [.password (.error wrongPassword)] ∧
      ((soloGate "t").attend x).trace.testimony = ((soloGate "t").attend y).trace.testimony ∧
      (soloGate "t").Discreet x y := by
  intro attempt x y
  have headers : Manner.Paired (.worded "Basic") "dTpx" "dTpy" x.call.metadata y.call.metadata :=
    .of_single ⟨by simp, by decide, by decide⟩ ⟨by simp, by decide, by decide⟩
      ⟨by decide, rfl⟩ ⟨by decide, rfl⟩
  have presenting : (soloGate "t").Presenting (.worded "Basic") "dTpx" "dTpy" x y :=
    ⟨Eq.refl Entry.stream, Eq.refl ((soloGate "t").handshakeMethod none), headers, rfl⟩
  have said : ((soloGate "t").attend x).trace.testimony = [.password (.error wrongPassword)] := rfl
  have said' : ((soloGate "t").attend y).trace.testimony = [.password (.error wrongPassword)] := rfl
  have decoded : BasicBearer.fault? "dTpx" = none := rfl
  have decoded' : BasicBearer.fault? "dTpy" = none := rfl
  have same : (soloGate "t").exposed? .stream ((soloGate "t").methodOf x.call) "dTpx"
      (.worded "Basic") = (soloGate "t").exposed? .stream ((soloGate "t").methodOf x.call) "dTpy"
      (.worded "Basic") := by
    simp only [exposed?, soloGate, BasicBearer.exposed?, decoded, decoded']
  exact ⟨presenting, said, said.trans said'.symm,
    (attend_discreet_iff presenting (said.trans said'.symm)).2 same⟩

/-- A token on a stream without its scheme word is logged, though nobody was even asked about it. -/
theorem bare_token_logged :
    let g := soloGate "t"
    let x := soloStranger "s3cret"
    let y := soloStranger "hunter2"
    g.Presenting .bare "s3cret" "hunter2" x y ∧
      (g.attend x).trace.testimony = (g.attend y).trace.testimony ∧
      (g.attend x).trace.notices = [.rejected .basicBearer .stream ⟨"/svc/Get"⟩
        "unsupported authorization scheme: s3cret"] ∧
      ¬ g.Discreet x y := by
  intro g x y
  have headers : Manner.Paired .bare "s3cret" "hunter2" x.call.metadata y.call.metadata :=
    .of_single ⟨by simp, by decide, by decide⟩ ⟨by simp, by decide, by decide⟩ rfl rfl
  refine ⟨⟨rfl, rfl, headers, rfl⟩, rfl, rfl, ?_⟩
  intro discreet
  have logged : (g.attend x).trace.interception.notices ≠ (g.attend y).trace.interception.notices := by
    decide
  exact logged discreet.interception

end Gate
end CallGate
