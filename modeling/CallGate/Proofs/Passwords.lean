import CallGate.Proofs.Agreement
import CallGate.Proofs.Encodings
import Mathlib.Data.List.DropRight

/-! Passwords in headers. A user name without a colon and any password are read from the Base64 of the
two with a colon between them, whatever is left of its padding, and from no other credential; so a
validator is asked about just what a handshake presents, and any other handshake is refused unheard. -/

namespace CallGate

variable {σ Req Resp In Out ρ : Type}

theorem Base64.encodes_encode (octets : Bytes) : Encodes octets (encode octets) :=
  ⟨0, Nat.zero_le _, (List.append_nil _).symm⟩

/-- Base64 is plain text. -/
theorem Base64.Encodes.isVisible {octets text : Bytes} (h : Encodes octets text) :
    ∀ c ∈ text, Metadata.isVisible c = true := by
  have symbols : ∀ d < 64, Metadata.isVisible (symbol d) = true := by decide
  obtain ⟨k, -, rfl⟩ := h
  intro c hc
  rcases List.mem_append.1 hc with symbol | padding
  · rw [encode_eq_map] at symbol
    obtain ⟨d, digit, rfl⟩ := List.mem_map.1 symbol
    exact symbols d (sextets_lt octets d digit)
  · rw [List.eq_of_mem_replicate padding]
    rfl

theorem Base64.Encodes.exists_ofText {octets text : Bytes} (h : Encodes octets text) :
    ∃ credential, Bytes.ofText credential = text := by
  refine ⟨_, Bytes.ofText_ofOctets ?_⟩
  intro c hc
  exact (Metadata.isVisible_iff.1 (h.isVisible c hc)).2

namespace BasicBearer

/-- A credential without the padding at its end. -/
def unpadded (credential : String) : String :=
  String.ofList (credential.toList.rdropWhile (· == '='))

/-- The header values that sign a user in with a password. -/
def SignsIn (username password : String) (value : Bytes) : Prop :=
  ':' ∉ username.toList ∧ ∃ encoded, value = Bytes.ofText (basicWord ++ " ") ++ encoded ∧
    Base64.Encodes (Bytes.ofText (username ++ ":" ++ password)) encoded

theorem signIn_eq_ok_iff {credential username password : String} :
    signIn credential = .ok (username, password) ↔ ':' ∉ username.toList ∧
      Base64.Encodes (Bytes.ofText (username ++ ":" ++ password)) (Bytes.ofText credential) := by
  constructor
  · intro h
    unfold signIn at h
    split at h
    · cases h
    · next octets decoded =>
      split at h
      · next pair cut =>
        cases h
        obtain ⟨text, read, cut⟩ := Option.bind_eq_some_iff.1 cut
        obtain ⟨first, rfl⟩ := Text.cut?_eq_some_iff.1 cut
        rw [Bytes.text?_eq_some_iff.1 read] at decoded
        exact ⟨first, Base64.decode_eq_ok_iff.1 decoded⟩
      · cases h
  · rintro ⟨first, encodes⟩
    have cut : Text.cut? ':' (username ++ ":" ++ password) = some (username, password) :=
      Text.cut?_append password first
    simp only [signIn, Base64.decode_eq_ok_iff.2 encodes, Bytes.text?_ofText, Option.bind_some, cut]

/-- A credential is accepted just if it encodes a text with a colon. -/
theorem exists_signIn_iff {credential : String} : (∃ pair, signIn credential = .ok pair) ↔
    ∃ text, ':' ∈ text.toList ∧ Base64.Encodes (Bytes.ofText text) (Bytes.ofText credential) := by
  constructor
  · rintro ⟨⟨username, password⟩, signed⟩
    exact ⟨username ++ ":" ++ password, by simp, (signIn_eq_ok_iff.1 signed).2⟩
  · rintro ⟨text, colon, encodes⟩
    obtain ⟨front, after, split, first⟩ := List.eq_append_cons_of_mem colon
    have whole : text = String.ofList front ++ ":" ++ String.ofList after := by
      apply String.toList_injective
      simpa using split
    subst whole
    exact ⟨_, signIn_eq_ok_iff.2 ⟨by simpa using first, encodes⟩⟩

private theorem rdropWhile_padded {cs : List Char} (clean : ∀ c ∈ cs, c ≠ '=') (k : Nat) :
    (cs ++ List.replicate k '=').rdropWhile (· == '=') = cs := by
  induction k with
  | zero =>
    rw [List.replicate_zero, List.append_nil, List.rdropWhile_eq_self_iff]
    intro nonempty
    simpa using clean _ (List.getLast_mem nonempty)
  | succ k ih =>
    rw [List.replicate_succ', ← List.append_assoc, List.rdropWhile_concat_pos _ _ _ rfl, ih]

private theorem ofText_padding (k : Nat) :
    Bytes.ofText (String.ofList (List.replicate k '=')) = List.replicate k Base64.pad := by
  have octet : String.utf8EncodeChar '=' = [Base64.pad] := by decide
  simp [Bytes.ofText, List.flatMap_replicate, octet]

/-- Without its padding a credential is what its octets are written as. -/
theorem ofText_unpadded {octets : Bytes} {credential : String}
    (h : Base64.Encodes octets (Bytes.ofText credential)) :
    Bytes.ofText (unpadded credential) = Base64.encode octets := by
  obtain ⟨k, -, text⟩ := h
  obtain ⟨core, written⟩ := (Base64.encodes_encode octets).exists_ofText
  have whole : credential = core ++ String.ofList (List.replicate k '=') := by
    apply Bytes.ofText_injective
    rw [text, Bytes.ofText_append, written, ofText_padding]
  have clean : ∀ c ∈ core.toList, c ≠ '=' := by
    rintro c hc rfl
    have octet : Base64.pad ∈ Bytes.ofText core := List.mem_flatMap.2 ⟨'=', hc, by decide⟩
    rw [written] at octet
    exact Base64.ne_pad_of_mem_encode octet rfl
  rw [unpadded, whole, String.toList_append, String.toList_ofList, rdropWhile_padded clean,
    String.ofList_toList, written]

/-- Two credentials are read alike just if they differ in nothing but their padding. -/
theorem signIn_eq_iff_unpadded {credential other : String} {pair pair' : String × String}
    (h : signIn credential = .ok pair) (h' : signIn other = .ok pair') :
    pair = pair' ↔ unpadded credential = unpadded other := by
  obtain ⟨username, password⟩ := pair
  obtain ⟨username', password'⟩ := pair'
  obtain ⟨first, encodes⟩ := signIn_eq_ok_iff.1 h
  obtain ⟨first', encodes'⟩ := signIn_eq_ok_iff.1 h'
  constructor
  · intro same
    cases same
    apply Bytes.ofText_injective
    rw [ofText_unpadded encodes, ofText_unpadded encodes']
  · -- The octets of both are the same, and these are split at their first colon.
    intro same
    have written := ofText_unpadded encodes
    rw [same, ofText_unpadded encodes'] at written
    have octets := (Base64.encodes_encode _).unique (written ▸ Base64.encodes_encode _)
    have cut : Text.cut? ':' (username ++ ":" ++ password) = some (username, password) :=
      Text.cut?_append password first
    have cut' : Text.cut? ':' (username' ++ ":" ++ password') = some (username', password') :=
      Text.cut?_append password' first'
    rw [Bytes.ofText_injective octets] at cut
    exact Option.some.inj (cut.symm.trans cut')

/-- The bare scheme word presents no password. -/
theorem signIn_empty_ne_ok (pair : String × String) : signIn "" ≠ .ok pair := by
  obtain ⟨username, password⟩ := pair
  intro signed
  obtain ⟨-, k, -, text⟩ := signIn_eq_ok_iff.1 signed
  have length := congrArg List.length text
  simp only [List.length_append, Base64.length_encode, Bytes.ofText_append] at length
  have colon : (Bytes.ofText ":").length = 1 := by decide
  have none : (Bytes.ofText "").length = 0 := rfl
  omega

theorem demandOf_eq_signIn_iff {text username password : String} :
    demandOf true text = .ok (.signIn username password) ↔ ∃ credential,
      text = basicWord ++ " " ++ credential ∧ signIn credential = .ok (username, password) := by
  constructor
  · intro h
    unfold demandOf at h
    dsimp only at h
    rw [if_pos rfl] at h
    split at h
    · next word =>
      cases signed : signIn (splitScheme text).2 with
      | error f =>
        rw [signed] at h
        cases h
      | ok pair =>
        rw [signed] at h
        cases h
        rcases splitScheme_cases text with bare | ⟨word', credential, whole, cut⟩
        · rw [bare] at signed
          exact absurd signed (signIn_empty_ne_ok pair)
        · rw [cut] at word signed
          exact ⟨credential, word ▸ whole, signed⟩
    · cases h
  · rintro ⟨credential, rfl, signed⟩
    have cut : splitScheme (basicWord ++ " " ++ credential) = (basicWord, credential) :=
      splitScheme_append (by decide) credential
    simp [demandOf, cut, signed, Except.map]

/-- A handshake demands a token for a user name and a password just if its header signs that user in
with that password. -/
theorem demand_eq_signIn_iff {m : Metadata} {username password : String} :
    demand true m = .ok (.signIn username password) ↔
      ∃ value, m.first? headerName = some value ∧ SignsIn username password value := by
  constructor
  · intro h
    obtain ⟨text, header, demanded⟩ := exists_text_of_demand h
    obtain ⟨value, first, readable⟩ := Option.bind_eq_some_iff.1 header
    obtain ⟨-, rfl⟩ := Metadata.textOf?_eq_some_iff.1 readable
    obtain ⟨credential, rfl, signed⟩ := demandOf_eq_signIn_iff.1 demanded
    obtain ⟨colonless, encodes⟩ := signIn_eq_ok_iff.1 signed
    exact ⟨_, first, colonless, _, Bytes.ofText_append _ _, encodes⟩
  · rintro ⟨_, first, colonless, encoded, rfl, encodes⟩
    obtain ⟨credential, rfl⟩ := encodes.exists_ofText
    have word : (Bytes.ofText (basicWord ++ " ")).all Metadata.isVisible = true := by decide
    have readable : Metadata.textOf? (Bytes.ofText (basicWord ++ " " ++ credential)) =
        some (basicWord ++ " " ++ credential) := by
      rw [Metadata.textOf?_eq_some_iff, Bytes.ofText_append, List.all_append, word, Bool.true_and,
        List.all_eq_true]
      exact ⟨encodes.isVisible, rfl⟩
    have header : headerText? m = some (basicWord ++ " " ++ credential) := by
      rw [headerText?, first, Option.bind_some, ← Bytes.ofText_append, readable]
    rw [demand_of_text header, demandOf_eq_signIn_iff]
    exact ⟨credential, rfl, signIn_eq_ok_iff.2 ⟨colonless, encodes⟩⟩

end BasicBearer

namespace Gate

section Courses

variable {w : Validator σ} {suffix : String} {entry : Entry} {method : Method} {m : Metadata} {s : σ}
  {d : Decision σ} {username password : String}

/-- A password is validated on a handshake that presents it, and on no other call. -/
theorem Course.signIn_of_validated (h : (basicBearer w suffix).Course entry method m s d)
    {answer : Except Status String} (heard : .validated username password answer ∈ d.trace.hearings) :
    (basicBearer w suffix).obtains entry method = true ∧
      BasicBearer.demand true m = .ok (.signIn username password) := by
  cases h with
  | waved | unreadable | unmet => cases heard
  | @accepted _ c | @refused _ c =>
    rw [Credential.hearings_checked] at heard
    cases c <;> cases List.mem_singleton.1 heard
  | barred _ obtains header | issued _ obtains header | unsendable _ obtains header =>
    cases List.mem_singleton.1 heard
    exact ⟨obtains, header⟩

end Courses

/-- A visit refused before anyone is asked about its caller, who is told to authenticate. -/
def RefusesUnheard (g : Gate σ) (v : Visit σ Req Resp In Out ρ) : Prop :=
  ∃ status, g.RefusedWith v status ∧ status.code = .unauthenticated ∧
    (g.attend v).trace.consultations = []

theorem hearings_of_refusesUnheard {g : Gate σ} {v : Visit σ Req Resp In Out ρ}
    (h : g.RefusesUnheard v) : (g.attend v).trace.hearings = [] := by
  obtain ⟨_, -, -, unconsulted⟩ := h
  rw [Trace.consultations, List.filter_eq_nil_iff] at unconsulted
  rw [Trace.hearings, List.filter_eq_nil_iff]
  intro e he
  have aside := unconsulted e he
  cases e <;> simp_all [Event.isConsultation, Event.isHearing]

/-- How a gate hears passwords on a visit: a handshake that presents one has it validated, once, and
nothing else is asked; no other visit has one validated; and a handshake that presents none is refused
before anyone is asked. -/
structure HearsSignIn (g : Gate σ) (w : Validator σ) (v : Visit σ Req Resp In Out ρ) : Prop where
  presented : ∀ username password value, g.obtains v.call.entry (g.methodOf v.call) = true →
    v.call.metadata.first? BasicBearer.headerName = some value →
    BasicBearer.SignsIn username password value →
    (g.attend v).trace.hearings =
      [.validated username password (w.validate username password v.found).1]
  validated : ∀ username password answer,
    .validated username password answer ∈ (g.attend v).trace →
    g.obtains v.call.entry (g.methodOf v.call) = true ∧
      ∃ value, v.call.metadata.first? BasicBearer.headerName = some value ∧
        BasicBearer.SignsIn username password value
  refused : g.obtains v.call.entry (g.methodOf v.call) = true →
    (∀ username password value, v.call.metadata.first? BasicBearer.headerName = some value →
      ¬ BasicBearer.SignsIn username password value) → g.RefusesUnheard v

/-- A stream whose headers do not fit is refused before anyone is asked. -/
theorem refusesUnheard_of_demand {g : Gate σ} {v : Visit σ Req Resp In Out ρ} {f : Failure}
    (scheme : g.scheme? = some .basicBearer) (stream : v.call.entry = .stream)
    (header : BasicBearer.demand (g.obtains v.call.entry (g.methodOf v.call)) v.call.metadata =
      .error f) : g.RefusesUnheard v := by
  have unfit : g.Unfit v.call.entry (g.methodOf v.call) v.call.metadata f :=
    .text scheme stream (BasicBearer.demand_eq_error_iff.1 header)
  obtain ⟨rejected, unconsulted⟩ := (g.judge_course v).of_unfit unfit
  refine ⟨f.status, refusedWith_iff.2 rejected, unfit.unauthenticated, ?_⟩
  rw [attend_refused rejected]
  exact unconsulted

/-- A credential is read as the one user name and password it encodes, and what a validator is asked
on a handshake is just what the handshake presents. -/
theorem attend_signIn (w : Validator σ) (suffix : String) :
    (∀ credential, (∃ pair, BasicBearer.signIn credential = .ok pair) ↔ ∃ text : String,
      ':' ∈ text.toList ∧ Base64.Encodes (Bytes.ofText text) (Bytes.ofText credential)) ∧
    (∀ credential other pair pair', BasicBearer.signIn credential = .ok pair →
      BasicBearer.signIn other = .ok pair' →
      (pair = pair' ↔ BasicBearer.unpadded credential = BasicBearer.unpadded other)) ∧
    ∀ v : Visit σ Req Resp In Out ρ, (basicBearer w suffix).HearsSignIn w v := by
  refine ⟨fun _ => BasicBearer.exists_signIn_iff,
    fun _ _ _ _ => BasicBearer.signIn_eq_iff_unpadded, ?_⟩
  intro v
  have course := (basicBearer w suffix).judge_course v
  refine ⟨?presented, ?validated, ?refused⟩
  case presented =>
    intro username password value obtains first signsIn
    rw [hearings_attend]
    exact course.hearings_of_signIn rfl obtains (BasicBearer.demand_eq_signIn_iff.2 ⟨value, first, signsIn⟩)
  case validated =>
    intro username password answer heard
    have hearing : .validated username password answer ∈
        ((basicBearer w suffix).judge v).trace.hearings := by
      rw [← hearings_attend]
      exact List.mem_filter.2 ⟨heard, rfl⟩
    obtain ⟨obtains, header⟩ := course.signIn_of_validated hearing
    exact ⟨obtains, BasicBearer.demand_eq_signIn_iff.1 header⟩
  case refused =>
    intro obtains unsigned
    cases header : BasicBearer.demand true v.call.metadata with
    | error f =>
      exact refusesUnheard_of_demand rfl (obtains_eq_true.1 obtains).1 (obtains.symm ▸ header)
    | ok demanded =>
      obtain ⟨-, username, password, rfl⟩ | ⟨impossible, -⟩ := BasicBearer.demand_ok header
      · obtain ⟨value, first, signsIn⟩ := BasicBearer.demand_eq_signIn_iff.1 header
        exact absurd signsIn (unsigned username password value first)
      · cases impossible

/-- A handshake whose credential is `encoded`. -/
def soloSignIn (encoded : String) : Visit Issued Unit Unit Unit Unit Unit :=
  ⟨.handshake none (.single BasicBearer.headerName (Bytes.ofText "Basic " ++ Bytes.ofText encoded)) []
    .reads, {}⟩

/-- A password that ends with a colon, with all of the padding, with some and with none. -/
theorem attend_signIn_padded :
    let asked : Trace := [.validated "u" "p:" (.error wrongPassword)]
    ((soloGate "t").attend (soloSignIn "dTpwOg==")).trace.hearings = asked ∧
      ((soloGate "t").attend (soloSignIn "dTpwOg=")).trace.hearings = asked ∧
      ((soloGate "t").attend (soloSignIn "dTpwOg")).trace.hearings = asked := by
  intro asked
  have hears (encoded : String)
      (octets : Base64.Encodes (Bytes.ofText "u:p:") (Bytes.ofText encoded)) :
      ((soloGate "t").attend (soloSignIn encoded)).trace.hearings = asked := by
    have obtains : (soloGate "t").obtains .stream ((soloGate "t").handshakeMethod none) = true :=
      obtains_eq_true.2 ⟨rfl, handshakeMethod_isHandshake _ none⟩
    have heard := (attend_signIn (soloValidator "t") defaultSuffix).2.2 (soloSignIn encoded)
    exact heard.presented "u" "p:" _ obtains rfl ⟨by decide, _, rfl, octets⟩
  refine ⟨hears _ ⟨2, ?_, ?_⟩, hears _ ⟨1, ?_, ?_⟩, hears _ ⟨0, ?_, ?_⟩⟩ <;> decide

end Gate
end CallGate
