import CallGate.Proofs.TokenReuse

/-! What the hook of a stream does to the stream itself. It leaves the context and the messages of both
directions alone, and sets a trailer only where a handshake earned a token: the name of the header that
presents tokens then has the new token for its one value, and other names keep theirs. -/

namespace CallGate

open Streaming

variable {σ In Out S : Type}

namespace BasicBearer

/-- The trailer that hands a token to the client. -/
def handing (token : String) : Metadata :=
  .single headerName (Bytes.ofText (presentation token))

theorem eq_handing_of_tokenTrailer? {token : String} {trailer : Metadata}
    (h : tokenTrailer? token = some trailer) : trailer = handing token := by
  obtain ⟨value, sent, rfl⟩ := Option.map_eq_some_iff.1 h
  rw [handing, (Metadata.valueOf?_eq_some_iff.1 sent).2]

end BasicBearer

/-- A stream whose trailers hold a token, and is as it was before in everything else. -/
structure Streaming.Duplex.Handed (token : String) (before after : Duplex In Out) : Prop where
  frame : after = { before with trailer := after.trailer }
  trailer : ∀ name, after.trailer.values name =
    if name = BasicBearer.headerName then [Bytes.ofText (BasicBearer.presentation token)]
    else before.trailer.values name

/-- A stream in memory on which a token was set as a trailer, and nothing else was done. -/
def Streaming.Recording.Handed (token : String) (before after : Recording In Out) : Prop :=
  after = { before with trailers := before.trailers ++ [BasicBearer.handing token] }

namespace Streaming

theorem Duplex.handed_setTrailer (d : Duplex In Out) (token : String) :
    d.Handed token (d.setTrailer (BasicBearer.handing token)) := by
  rw [d.setTrailer_eq]
  refine ⟨rfl, ?_⟩
  intro name
  have mentioned : (BasicBearer.handing token).mentions name = true ↔
      name = BasicBearer.headerName := by
    simp only [BasicBearer.handing, Metadata.mentions, Metadata.single, List.any_cons, List.any_nil,
      Bool.or_false, beq_iff_eq]
    exact eq_comm
  simp only [Metadata.values_replace, mentioned]
  split
  · next named =>
    rw [named]
    exact Metadata.values_single _ _
  · rfl

theorem Recording.handed_setTrailer (r : Recording In Out) (token : String) :
    r.Handed token (r.setTrailer (BasicBearer.handing token)) :=
  r.setTrailer_eq (BasicBearer.handing token)

end Streaming

namespace Gate

/-- A handshake whose password earned `token`. -/
structure Earns (g : Gate σ) (method : Method) (s : σ) (d : Decision σ) (token : String) : Prop where
  handshake : method.isHandshake g.suffix = true
  answer : ∃ w username password, g = basicBearer w g.suffix ∧
    w.validate username password s = (.ok token, d.state) ∧
    d.trace.hearings = [.validated username password (.ok token)]

/-- What a decision does to a stream. It is left as it was, unless a call that asks for bearer tokens
passes on its own context. -/
structure Alters (g : Gate σ) (method : Method) (s : σ) (d : Decision σ)
    (handed : String → S → S → Prop) (before after : S) : Prop where
  kept : g.scheme? ≠ some .basicBearer ∨ (∀ trailer, d.verdict ≠ .pass trailer) → after = before
  token : g.scheme? = some .basicBearer → ∀ trailer, d.verdict = .pass trailer →
    ∃ token, g.Earns method s d token ∧ handed token before after

/-- A call that passes on its own context either has earned a token, or is not asked for one. -/
theorem Course.earns_of_pass {g : Gate σ} {method : Method} {m : Metadata} {s : σ} {d : Decision σ}
    (h : g.Course .stream method m s d) {trailer : Option Metadata}
    (pass : d.verdict = .pass trailer) :
    (g.scheme? ≠ some .basicBearer ∧ trailer = none) ∨ (g.scheme? = some .basicBearer ∧
      ∃ token, trailer = some (BasicBearer.handing token) ∧ g.Earns method s d token) := by
  cases h with
  | waved free =>
    cases pass
    left
    rcases free with free | ⟨free, -⟩ <;> simp [free]
  | issued validator obtains _ answer carried =>
    cases pass
    right
    obtain rfl := BasicBearer.eq_handing_of_tokenTrailer? carried
    have handshake := (obtains_eq_true.1 obtains).2
    exact ⟨scheme?_of_validator validator, _, rfl, handshake, _, _, _, validator, answer, rfl⟩
  | unreadable | unmet | accepted | refused | barred | unsendable => cases pass

/-- What a hook does to a stream of any kind, from what setting a trailer does to it. -/
theorem hook_alters [StreamMetadata S] (g : Gate σ) (method : Method) (s : σ) (before : S)
    {handed : String → S → S → Prop} (set : ∀ token, handed token before
      (StreamMetadata.setTrailer before (BasicBearer.handing token))) :
    g.Alters method s (g.hook method before s).1 handed before (g.hook method before s).2 := by
  have course := g.hook_course method before s
  have after : (g.hook method before s).2 = (g.hook method before s).1.verdict.apply before := by
    rw [g.hook_eq]
  constructor
  · intro spared
    rw [after]
    apply Verdict.apply_of_unset
    intro trailer pass
    rcases course.earns_of_pass pass with ⟨-, none⟩ | ⟨scheme, -⟩
    · cases none
    · rcases spared with other | unpassed
      · exact other scheme
      · exact unpassed _ pass
  · intro scheme trailer pass
    rcases course.earns_of_pass pass with ⟨other, -⟩ | ⟨-, token, rfl, earns⟩
    · exact absurd scheme other
    · rw [after, pass]
      exact ⟨token, earns, set token⟩

/-- A hook changes its stream only where a handshake earned a token by a password, and there it sets
that token as a trailer, whatever was received, sent and set before. -/
theorem hook_frame (g : Gate σ) (method : Method) (s : σ) :
    (∀ d : Duplex In Out,
      g.Alters method s (g.hook method d s).1 Duplex.Handed d (g.hook method d s).2) ∧
    ∀ r : Recording In Out,
      g.Alters method s (g.hook method r s).1 Recording.Handed r (g.hook method r s).2 :=
  ⟨fun d => g.hook_alters method s d d.handed_setTrailer,
    fun r => g.hook_alters method s r r.handed_setTrailer⟩

/-- A handshake on a stream with trailers of its own, two of them under the name of the token's. -/
theorem hook_frame_solo :
    let m : Metadata := .single BasicBearer.headerName (Bytes.ofText "Basic dTpw")
    let d : Duplex Unit Unit := { Duplex.receive m [.ok ()] with
      trailer := ⟨[("authorization", [1]), ("x-a", [2]), ("authorization", [3])]⟩ }
    let after := ((soloGate "t").hook ⟨"/svc/Handshake"⟩ d {}).2
    after = { d with trailer := after.trailer } ∧
      after.trailer.values "authorization" = [Bytes.ofText "Bearer t"] ∧
      after.trailer.values "x-a" = [[2]] := by
  intro m d after
  have alters := (hook_frame (soloGate "t") ⟨"/svc/Handshake"⟩ {}).1 d
  obtain ⟨token, ⟨-, _, _, _, -, -, heard⟩, handed⟩ := alters.token rfl _ rfl
  have earned : ((soloGate "t").hook ⟨"/svc/Handshake"⟩ d {}).1.trace.hearings =
      [.validated "u" "p" (.ok "t")] := rfl
  cases earned.symm.trans heard
  exact ⟨handed.frame, handed.trailer _, handed.trailer _⟩

end Gate
end CallGate
