import CallGate.Proofs.Passwords

/-! Header values without a space. Such a value is a scheme word alone, and a stream that presents it is
refused unheard, whatever its method; but for the word of bearer tokens itself, outside handshakes,
which counts as the empty token and has the validator asked. -/

namespace CallGate

variable {σ Req Resp In Out ρ : Type}

namespace BasicBearer

/-- A value without a space makes no demand, unless it is the bearer word and no handshake. -/
theorem exists_demand_error_of_unspaced {handshake : Bool} {m : Metadata} {value : Bytes}
    (first : m.first? headerName = some value) (unspaced : 32 ∉ value)
    (other : ¬ (handshake = false ∧ value = Bytes.ofText bearerWord)) :
    ∃ f, demand handshake m = .error f := by
  cases readable : Metadata.textOf? value with
  | none => exact ⟨_, (Misfit.unreadable first readable).demand⟩
  | some text =>
    have header : headerText? m = some text := by
      rw [headerText?, first, Option.bind_some, readable]
    obtain ⟨-, rfl⟩ := Metadata.textOf?_eq_some_iff.1 readable
    have bare : ' ' ∉ text.toList := by
      intro spaced
      exact unspaced (List.mem_flatMap.2 ⟨' ', spaced, by decide⟩)
    by_cases word : text = schemeWord handshake
    · subst word
      cases handshake with
      | false => exact absurd ⟨rfl, rfl⟩ other
      | true =>
        -- The word fits, but it leaves no credential to decode.
        refine ⟨.malformedCredentials, ?_⟩
        rw [demand_of_text header]
        decide
    · have foreign : (splitScheme text).1 ≠ schemeWord handshake := by
        rw [splitScheme_of_unspaced bare]
        exact word
      exact ⟨_, (Misfit.foreign header foreign).demand⟩

/-- The bare bearer word presents the empty token. -/
theorem demand_of_bearerWord {m : Metadata}
    (first : m.first? headerName = some (Bytes.ofText bearerWord)) :
    demand false m = .ok (.present "") := by
  have readable : Metadata.textOf? (Bytes.ofText bearerWord) = some bearerWord := by decide
  have header : headerText? m = some bearerWord := by
    rw [headerText?, first, Option.bind_some, readable]
  rw [demand_of_text header]
  decide

end BasicBearer

namespace Gate

theorem asks_of_bearerWord {g : Gate σ} {v : Visit σ Req Resp In Out ρ}
    (scheme : g.scheme? = some .basicBearer) (stream : v.call.entry = .stream)
    (presents : g.obtains v.call.entry (g.methodOf v.call) = false)
    (first : v.call.metadata.first? BasicBearer.headerName =
      some (Bytes.ofText BasicBearer.bearerWord)) : g.Asks v "" := by
  have credential : g.credential? v.call.entry v.call.metadata = some (.text "") := by
    cases g with
    | openAccess | handshakeToken => cases scheme
    | basicBearer w suffix =>
      rw [stream]
      simp only [credential?, BasicBearer.demand_of_bearerWord first]
  exact asks_of_credential presents credential

/-- A stream whose first value has no space is refused unheard just if it is a handshake or that value
is not the bearer word; else the validator is asked about the empty token. -/
theorem unspaced_refused_iff {g : Gate σ} {v : Visit σ Req Resp In Out ρ} {value : Bytes}
    (scheme : g.scheme? = some .basicBearer) (stream : v.call.entry = .stream)
    (first : v.call.metadata.first? BasicBearer.headerName = some value) (unspaced : 32 ∉ value) :
    (g.RefusesUnheard v ↔ ¬ (g.obtains v.call.entry (g.methodOf v.call) = false ∧
      value = Bytes.ofText BasicBearer.bearerWord)) ∧
    (g.obtains v.call.entry (g.methodOf v.call) = false →
      value = Bytes.ofText BasicBearer.bearerWord → g.Asks v "") := by
  have asks (presents : g.obtains v.call.entry (g.methodOf v.call) = false)
      (word : value = Bytes.ofText BasicBearer.bearerWord) : g.Asks v "" := by
    subst word
    exact asks_of_bearerWord scheme stream presents first
  refine ⟨⟨?_, ?_⟩, asks⟩
  · rintro refuses ⟨presents, word⟩
    obtain ⟨_, -, heard⟩ := asks presents word
    rw [hearings_of_refusesUnheard refuses] at heard
    cases heard
  · intro other
    obtain ⟨f, header⟩ := BasicBearer.exists_demand_error_of_unspaced first unspaced other
    exact refusesUnheard_of_demand scheme stream header

/-- A token without the bearer word. -/
theorem unspaced_refused_solo :
    (soloGate "t").scheme? = some .basicBearer ∧ (soloStranger "t").call.entry = .stream ∧
      (soloStranger "t").call.metadata.first? BasicBearer.headerName = some (Bytes.ofText "t") ∧
      32 ∉ Bytes.ofText "t" ∧ (soloGate "t").RefusesUnheard (soloStranger "t") := by
  have scheme : (soloGate "t").scheme? = some .basicBearer := rfl
  have first : (soloStranger "t").call.metadata.first? BasicBearer.headerName =
      some (Bytes.ofText "t") := rfl
  have unspaced : 32 ∉ Bytes.ofText "t" := by decide
  refine ⟨scheme, rfl, first, unspaced, ?_⟩
  refine (unspaced_refused_iff scheme rfl first unspaced).1.2 ?_
  rintro ⟨-, word⟩
  exact absurd word (by decide)

/-- A validator that lets a guest in without a token. -/
def hospitable : Validator Issued :=
  Directory.validator { users := [], table := { tokens := [("", .ok "guest")] } }

/-- The bearer word alone lets a stream in where the empty token is known. -/
theorem bearerWord_entered :
    let g : Gate Issued := .basicBearer hospitable defaultSuffix
    let v := soloStranger "Bearer"
    v.call.entry = .stream ∧
      v.call.metadata.first? BasicBearer.headerName = some (Bytes.ofText "Bearer") ∧
      32 ∉ Bytes.ofText "Bearer" ∧
      (g.attend v).trace.hearings = [.checkedToken "" (.ok (namedIdentity "guest"))] ∧
      (g.attend v).trace.contexts ≠ [] ∧
      ¬ g.RefusesUnheard v := by
  intro g v
  have heard : (g.attend v).trace.hearings = [.checkedToken "" (.ok (namedIdentity "guest"))] := rfl
  refine ⟨rfl, rfl, by decide, heard, nofun, ?_⟩
  intro refuses
  rw [hearings_of_refusesUnheard refuses] at heard
  cases heard

end Gate
end CallGate
