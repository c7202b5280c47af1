import CallGate.Proofs.HeaderText
import CallGate.Proofs.Visits

/-! Tokens from the trailer of a handshake to the headers of later calls. A token comes back as it
was issued if it is an ASCII text. Any other token that can be sent is issued just the same, and is
of no use to its owner: a unary call presents the empty token in its place, a stream nothing at all. -/

namespace CallGate

open Streaming

variable {σ Req Resp In Out ρ : Type}

namespace BasicBearer

@[simp] theorem isAscii_presentation (token : String) :
    Text.isAscii (presentation token) = Text.isAscii token := by
  simp [Text.isAscii, presentation, bearerWord]

private theorem isPrefixOf?_append (front after : List Char) :
    front.isPrefixOf? (front ++ after) = some after := by
  induction front with
  | nil => rfl
  | cons c front ih =>
    show (if c == c then front.isPrefixOf? (front ++ after) else none) = some after
    rw [if_pos (beq_self_eq_true c)]
    exact ih

theorem presented?_presentation (token : String) : presented? (presentation token) = some token := by
  have split : (presentation token).toList = (presentation "").toList ++ token.toList := by
    simp [presentation]
  rw [presented?, split, isPrefixOf?_append, Option.map_some, String.ofList_toList]

/-- A value is cut at its first space. -/
theorem splitScheme_append {word : String} (unspaced : ' ' ∉ word.toList) (credential : String) :
    splitScheme (word ++ " " ++ credential) = (word, credential) := by
  have cut : Text.cut? ' ' (word ++ " " ++ credential) = some (word, credential) :=
    Text.cut?_append credential unspaced
  rw [splitScheme, cut, Option.getD_some]

/-- A value without a space is all scheme word. -/
theorem splitScheme_of_unspaced {value : String} (unspaced : ' ' ∉ value.toList) :
    splitScheme value = (value, "") := by
  rw [splitScheme, Text.cut?_eq_none unspaced, Option.getD_none]

theorem splitScheme_presentation (token : String) :
    splitScheme (presentation token) = (bearerWord, token) :=
  splitScheme_append (by decide) token

end BasicBearer

namespace Gate

/-- A visit that earned `token` by a password, and whose trailer has `value` for it. -/
structure Issues (g : Gate σ) (v : Visit σ Req Resp In Out ρ) (token : String) (value : Bytes) :
    Prop where
  earned : ∃ username password, .validated username password (.ok token) ∈ (g.attend v).trace
  trailer : ∃ t, (g.judge v).verdict = .pass (some t) ∧
    t.first? BasicBearer.headerName = some value

/-- A visit that presents `value`, and does not ask for a token. -/
structure Presents (g : Gate σ) (v : Visit σ Req Resp In Out ρ) (value : Bytes) : Prop where
  header : v.call.metadata.first? BasicBearer.headerName = some value
  presents : g.obtains v.call.entry (g.methodOf v.call) = false

/-- A visit on which the validator is asked about `token` once, in the state that the visit finds, and
nothing else. -/
def Asks (g : Gate σ) (v : Visit σ Req Resp In Out ρ) (token : String) : Prop :=
  ∃ w, g = basicBearer w g.suffix ∧
    (g.attend v).trace.hearings = [.checkedToken token (w.isValid token v.found).1]

theorem asks_of_credential {g : Gate σ} {v : Visit σ Req Resp In Out ρ} {token : String}
    (presents : g.obtains v.call.entry (g.methodOf v.call) = false)
    (credential : g.credential? v.call.entry v.call.metadata = some (.text token)) :
    g.Asks v token := by
  obtain ⟨answer, vouched, heard, -⟩ := (g.judge_course v).answered presents credential
  obtain ⟨w, gate, asked⟩ := vouch?_text vouched
  refine ⟨w, gate, ?_⟩
  rw [hearings_attend, heard, asked]
  rfl

/-- What a handshake issues is the token in a header, sent by a validator's gate. -/
theorem Issues.source {g : Gate σ} {v : Visit σ Req Resp In Out ρ} {token : String} {value : Bytes}
    (h : g.Issues v token value) :
    g.scheme? = some .basicBearer ∧
      Metadata.valueOf? (BasicBearer.presentation token) = some value ∧
      (g.judge v).verdict = .pass (some (.single BasicBearer.headerName value)) := by
  obtain ⟨username, password, earned⟩ := h.earned
  obtain ⟨t, pass, header⟩ := h.trailer
  have heard : .validated username password (.ok token) ∈ (g.judge v).trace.hearings := by
    rw [← g.hearings_attend]
    exact List.mem_filter.2 ⟨earned, rfl⟩
  have course := g.judge_course v
  generalize g.judge v = d at course pass heard
  cases course with
  | waved => cases pass
  | issued validator _ _ _ carried =>
    cases pass
    cases List.mem_singleton.1 heard
    obtain ⟨value', hv, rfl⟩ := Option.map_eq_some_iff.1 carried
    have same : value' = value := by simpa [Metadata.first?] using header
    rw [← same]
    exact ⟨scheme?_of_validator validator, hv, rfl⟩
  | unreadable | unmet | accepted | refused | barred | unsendable => cases pass

theorem credential?_of_issued {g : Gate σ} {entry : Entry} {m : Metadata} {token : String}
    {value : Bytes} (scheme : g.scheme? = some .basicBearer)
    (sent : Metadata.valueOf? (BasicBearer.presentation token) = some value)
    (header : m.first? BasicBearer.headerName = some value) (ascii : Text.isAscii token = true) :
    g.credential? entry m = some (.text token) := by
  have text := Metadata.textOf?_of_isAscii sent (by simpa using ascii)
  cases g with
  | openAccess | handshakeToken => cases scheme
  | basicBearer w suffix =>
    cases entry with
    | unary =>
      simp [credential?, BasicBearer.unaryToken, header, text, BasicBearer.presented?_presentation]
    | stream =>
      simp [credential?, BasicBearer.demand, header, text, BasicBearer.demandOf,
        BasicBearer.splitScheme_presentation]

/-- A visit that presents any other issued token is taken for one without a token. -/
theorem later_of_not_isAscii {g : Gate σ} {v : Visit σ Req Resp In Out ρ} {token : String}
    {value : Bytes} (scheme : g.scheme? = some .basicBearer)
    (sent : Metadata.valueOf? (BasicBearer.presentation token) = some value)
    (later : g.Presents v value) (ascii : Text.isAscii token = false) :
    match v.call.entry with
    | .unary => g.Asks v ""
    | .stream => (g.attend v).trace.hearings = [] ∧
        (g.attend v).outcome = v.call.refused (Failure.status .malformedCredentials) := by
  have text := Metadata.textOf?_of_not_isAscii sent (by simpa using ascii)
  have header := later.header
  have presents := later.presents
  have course := g.judge_course v
  cases g with
  | openAccess | handshakeToken => cases scheme
  | basicBearer w suffix =>
    split
    · next entry =>
      have empty : (basicBearer w suffix).credential? v.call.entry v.call.metadata =
          some (.text "") := by
        simp [entry, credential?, BasicBearer.unaryToken, header, text]
      exact asks_of_credential presents empty
    · next entry =>
      have demand : BasicBearer.demand false v.call.metadata = .error .malformedCredentials := by
        simp [BasicBearer.demand, header, text]
      have none : (basicBearer w suffix).credential? v.call.entry v.call.metadata = none := by
        rw [entry]
        exact credential?_of_unmet rfl demand
      refine ⟨by rw [hearings_attend, course.hearings_of_none presents none], ?_⟩
      have verdict := course.verdict_of_unmet rfl entry (presents ▸ demand)
      rw [attend_refused verdict]

/-- The client of a handshake is sent the token it earned, in a final status without error. -/
theorem Issues.sent {g : Gate σ} {v : Visit σ Req Resp In Out ρ} {token : String} {value : Bytes}
    (h : g.Issues v token value) {called : Option Method} {m : Metadata}
    {inbound : List (Except Status Handshake.Message)}
    (handshake : v.call = .handshake called m inbound .reads) :
    (g.attend v).outcome = .exchanged [.error
      { code := .ok, message := "", metadata := .single BasicBearer.headerName value }] := by
  obtain ⟨scheme, -, verdict⟩ := h.source
  have granted : (g.judge v).verdict.grant (.root v.call.metadata) = .ok (.root v.call.metadata) := by
    rw [verdict]
    rfl
  have none : g.authenticator? = none := by
    cases g with
    | openAccess | basicBearer => rfl
    | handshakeToken => cases scheme
  rw [(attend_granted granted).1, handshake, handled, verdict, none]
  rfl

/-- A token that a handshake issued is what the collaborator is asked about when any later call
presents it, if and only if it is an ASCII text. -/
theorem issued_token_asked_iff_isAscii (g : Gate σ) (calls : List (Call Req Resp In Out ρ)) (s : σ) :
    (∀ v ∈ g.visits calls s, ∀ token value, g.Issues v token value →
      ∀ called m inbound, v.call = .handshake called m inbound .reads →
        (g.attend v).outcome = .exchanged [.error
          { code := .ok, message := "", metadata := .single BasicBearer.headerName value }]) ∧
      (g.visits calls s).Pairwise fun earlier later =>
        ∀ token value, g.Issues earlier token value → g.Presents later value →
          (g.Asks later token ↔ Text.isAscii token = true) ∧
            (Text.isAscii token = false →
              match later.call.entry with
              | .unary => g.Asks later ""
              | .stream => (g.attend later).trace.hearings = [] ∧ (g.attend later).outcome =
                  later.call.refused (Failure.status .malformedCredentials)) := by
  constructor
  · intro v _ token value issues called m inbound handshake
    exact issues.sent handshake
  · apply List.pairwise_of_forall
    intro earlier later token value issues presents
    obtain ⟨scheme, sent, -⟩ := issues.source
    cases ascii : Text.isAscii token with
    | true =>
      have credential : g.credential? later.call.entry later.call.metadata = some (.text token) :=
        credential?_of_issued scheme sent presents.header ascii
      have asks : g.Asks later token := asks_of_credential presents.presents credential
      simp [asks]
    | false =>
      have other := later_of_not_isAscii scheme sent presents ascii
      refine ⟨?_, fun _ => other⟩
      simp only [Bool.false_eq_true, iff_false]
      rintro ⟨_, -, heard⟩
      have named : token ≠ "" := by
        rintro rfl
        cases ascii
      split at other
      · obtain ⟨_, -, empty⟩ := other
        rw [heard] at empty
        simp [named] at empty
      · rw [other.1] at heard
        cases heard

theorem issued_token_asked_solo :
    ∃ earlier later, [earlier, later] =
        (soloGate "t").visits [soloHandshake, soloUnary (Bytes.ofText "Bearer t")] {} ∧
      (soloGate "t").Issues earlier "t" (Bytes.ofText "Bearer t") ∧
      (soloGate "t").Presents later (Bytes.ofText "Bearer t") ∧ (soloGate "t").Asks later "t" := by
  have issued : (soloGate "t").Issues ⟨soloHandshake, {}⟩ "t" (Bytes.ofText "Bearer t") :=
    ⟨⟨"u", "p", List.Mem.head _⟩, _, rfl, rfl⟩
  have presented : (soloGate "t").Presents
      ⟨soloUnary (Bytes.ofText "Bearer t"), ((soloGate "t").serve soloHandshake {}).state⟩
      (Bytes.ofText "Bearer t") := ⟨rfl, rfl⟩
  have pairs := (issued_token_asked_iff_isAscii (soloGate "t")
    [soloHandshake, soloUnary (Bytes.ofText "Bearer t")] {}).2
  have asked := (List.pairwise_cons.1 pairs).1 _ List.mem_cons_self _ _ issued presented
  exact ⟨_, _, rfl, issued, presented, asked.1.2 (by decide)⟩

/-- A token that is no ASCII text is issued, and the empty token is checked in its place. -/
theorem issued_token_not_asked :
    ¬ ((soloGate "é").visits [soloHandshake, soloUnary (Bytes.ofText "Bearer é")] {}).Pairwise
      fun earlier later => ∀ token value, (soloGate "é").Issues earlier token value →
        (soloGate "é").Presents later value → (soloGate "é").Asks later token := by
  intro all
  have issued : (soloGate "é").Issues ⟨soloHandshake, {}⟩ "é" (Bytes.ofText "Bearer é") :=
    ⟨⟨"u", "p", List.Mem.head _⟩, _, rfl, rfl⟩
  have presented : (soloGate "é").Presents
      ⟨soloUnary (Bytes.ofText "Bearer é"), ((soloGate "é").serve soloHandshake {}).state⟩
      (Bytes.ofText "Bearer é") := ⟨rfl, rfl⟩
  obtain ⟨_, -, heard⟩ := (List.pairwise_cons.1 all).1 _ List.mem_cons_self _ _ issued presented
  have empty : (soloGate "é").Asks
      ⟨soloUnary (Bytes.ofText "Bearer é"), ((soloGate "é").serve soloHandshake {}).state⟩ "" :=
    ⟨soloValidator "é", rfl, rfl⟩
  obtain ⟨_, -, empty⟩ := empty
  rw [heard] at empty
  simp at empty

end Gate
end CallGate
