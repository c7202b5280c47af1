import CallGate.Proofs.Accounting
import CallGate.Proofs.OpenAccess
import CallGate.Proofs.Refusal
import CallGate.Proofs.TokenReuse

/-! Two ways in for one caller. Outside handshakes a unary call and a stream with the same headers
have the same credential checked and are decided alike, but for one thing: where a stream has no
bearer token it is refused unheard, and a unary call presents the empty token. -/

namespace CallGate

open Streaming

variable {σ In Out : Type}

namespace BasicBearer

private theorem eq_append_of_isPrefixOf? {front value after : List Char}
    (h : front.isPrefixOf? value = some after) : value = front ++ after := by
  induction front generalizing value with
  | nil => exact Option.some.inj h
  | cons c front ih =>
    cases value with
    | nil => cases h
    | cons d value =>
      have tail : (if c == d then front.isPrefixOf? value else none) = some after := h
      split at tail
      · next same =>
        rw [eq_of_beq same, List.cons_append, ← ih tail]
      · cases tail

theorem presented?_eq_some_iff {value token : String} :
    presented? value = some token ↔ value = presentation token := by
  constructor
  · intro h
    obtain ⟨after, split, rfl⟩ := Option.map_eq_some_iff.1 h
    apply String.toList_injective
    rw [eq_append_of_isPrefixOf? split]
    simp [presentation]
  · rintro rfl
    exact presented?_presentation token

/-- A value is cut at its first space; without one it is all scheme word. -/
theorem splitScheme_cases (value : String) :
    splitScheme value = (value, "") ∨ ∃ word credential,
      value = word ++ " " ++ credential ∧ splitScheme value = (word, credential) := by
  by_cases spaced : ' ' ∈ value.toList
  · obtain ⟨front, after, split, first⟩ := List.eq_append_cons_of_mem spaced
    have whole : value = String.ofList front ++ " " ++ String.ofList after := by
      apply String.toList_injective
      simpa using split
    refine .inr ⟨_, _, whole, ?_⟩
    rw [whole]
    exact splitScheme_append (by simpa using first) _
  · exact .inl (splitScheme_of_unspaced spaced)

/-- Cut at its first space, a value under the bearer word presents the token that it presents as a
whole; the bare word counts as the empty token either way. -/
theorem presented?_of_splitScheme {value token : String}
    (h : splitScheme value = (bearerWord, token)) : (presented? value).getD "" = token := by
  rcases splitScheme_cases value with bare | ⟨word, credential, whole, cut⟩
  · obtain ⟨rfl, rfl⟩ := Prod.mk.inj (bare.symm.trans h)
    decide
  · obtain ⟨rfl, rfl⟩ := Prod.mk.inj (cut.symm.trans h)
    rw [presented?_eq_some_iff.2 whole, Option.getD_some]

theorem unaryToken_of_text {m : Metadata} {text : String} (header : headerText? m = some text) :
    unaryToken m = (presented? text).getD "" := by
  have parsed : unaryToken m = ((headerText? m).bind presented?).getD "" := rfl
  rw [parsed, header, Option.bind_some]

theorem exists_text_of_demand {handshake : Bool} {m : Metadata} {d : Demand}
    (h : demand handshake m = .ok d) :
    ∃ text, headerText? m = some text ∧ demandOf handshake text = .ok d := by
  cases header : headerText? m with
  | some text => exact ⟨text, rfl, (demand_of_text header handshake).symm.trans h⟩
  | none =>
    unfold demand at h
    split at h
    · cases h
    · next value first =>
      have garbled : Metadata.textOf? value = none := by simpa [headerText?, first] using header
      rw [garbled] at h
      cases h

/-- The token that a stream presents is the one that a unary call presents. -/
theorem unaryToken_of_demand {m : Metadata} {token : String}
    (h : demand false m = .ok (.present token)) : unaryToken m = token := by
  obtain ⟨text, header, demanded⟩ := exists_text_of_demand h
  unfold demandOf at demanded
  dsimp only at demanded
  rw [if_neg Bool.false_ne_true] at demanded
  split at demanded
  · next word =>
    cases demanded
    rw [unaryToken_of_text header]
    exact presented?_of_splitScheme (Prod.ext word rfl)
  · cases demanded

/-- A token that a unary call presents is presented by a stream too, unless it is empty. -/
theorem demand_of_unaryToken {m : Metadata} (h : unaryToken m ≠ "") :
    demand false m = .ok (.present (unaryToken m)) := by
  cases header : headerText? m with
  | none =>
    have parsed : unaryToken m = ((headerText? m).bind presented?).getD "" := rfl
    exact absurd (by rw [parsed, header]; rfl) h
  | some text =>
    have parsed := unaryToken_of_text header
    cases presents : presented? text with
    | none => exact absurd (by rw [parsed, presents]; rfl) h
    | some token =>
      rw [presents, Option.getD_some] at parsed
      rw [demand_of_text header, parsed, presented?_eq_some_iff.1 presents, demandOf]
      simp only [splitScheme_presentation]
      rfl

end BasicBearer

/-- Two verdicts that let the same caller in, or nobody. -/
structure Verdict.Alike (u v : Verdict) : Prop where
  accepted : u.isAccepted = v.isAccepted
  identity : ∀ i, u = .identify i ↔ v = .identify i

/-- Two decisions for which the same was asked about the caller, and learned. -/
structure Decision.Alike (d e : Decision σ) : Prop where
  hearings : d.trace.hearings = e.trace.hearings
  state : d.state = e.state
  verdict : d.verdict.Alike e.verdict

theorem Verdict.Alike.of_reject {u v : Verdict} (hu : ∃ status, u = .reject status)
    (hv : ∃ status, v = .reject status) : u.Alike v := by
  obtain ⟨_, rfl⟩ := hu
  obtain ⟨_, rfl⟩ := hv
  exact ⟨rfl, fun i => iff_of_false nofun nofun⟩

namespace Gate

theorem credential?_unary_eq_stream {g : Gate σ} (scheme : g.scheme? = some .handshakeToken)
    (m : Metadata) : g.credential? .unary m = g.credential? .stream m := by
  cases g with
  | handshakeToken => rfl
  | openAccess | basicBearer => cases scheme

theorem credential?_unary_of_stream {g : Gate σ} (scheme : g.scheme? = some .basicBearer)
    {m : Metadata} {c : Credential} (h : g.credential? .stream m = some c) :
    g.credential? .unary m = some c := by
  cases g with
  | openAccess | handshakeToken => cases scheme
  | basicBearer v suffix =>
    simp only [credential?] at h ⊢
    split at h
    · next token demanded =>
      rw [BasicBearer.unaryToken_of_demand demanded, h]
    · cases h

theorem credential?_stream_of_unary {g : Gate σ} (scheme : g.scheme? = some .basicBearer)
    {m : Metadata} {token : String} (h : g.credential? .unary m = some (.text token))
    (nonempty : token ≠ "") : g.credential? .stream m = some (.text token) := by
  cases g with
  | openAccess | handshakeToken => cases scheme
  | basicBearer v suffix =>
    obtain rfl : BasicBearer.unaryToken m = token := Credential.text.inj (Option.some.inj h)
    simp only [credential?, BasicBearer.demand_of_unaryToken nonempty]

theorem exists_credential?_unary {g : Gate σ} (scheme : g.scheme? = some .basicBearer)
    (m : Metadata) : ∃ token, g.credential? .unary m = some (.text token) := by
  cases g with
  | openAccess | handshakeToken => cases scheme
  | basicBearer v suffix => exact ⟨_, rfl⟩

section Courses

variable {g : Gate σ} {entry : Entry} {method : Method} {m : Metadata} {s : σ} {d e : Decision σ}

/-- Without a credential nothing is learned, and the call is refused. -/
theorem Course.unanswered (h : g.Course entry method m s d)
    (presents : g.obtains entry method = false) {scheme : Scheme} (hs : g.scheme? = some scheme)
    (credential : g.credential? entry m = none) :
    d.state = s ∧ ∃ status, d.verdict = .reject status := by
  cases h with
  | waved free => simp [hs, presents] at free
  | unreadable | unmet => exact ⟨rfl, _, rfl⟩
  | accepted _ _ present | refused _ _ present => simp [credential] at present
  | barred _ obtains | issued _ obtains | unsendable _ obtains => simp [presents] at obtains

/-- Two calls that bring the same credential, or none, are decided alike. -/
theorem Course.alike (hu : g.Course .unary method m s d) (hv : g.Course .stream method m s e)
    (presents : g.obtains .stream method = false) {scheme : Scheme} (hs : g.scheme? = some scheme)
    (same : g.credential? .unary m = g.credential? .stream m) : d.Alike e := by
  have unary : g.obtains .unary method = false := rfl
  cases credential : g.credential? .stream m with
  | none =>
    rw [credential] at same
    obtain ⟨kept, refused⟩ := hu.unanswered unary hs same
    obtain ⟨kept', refused'⟩ := hv.unanswered presents hs credential
    constructor
    · rw [hu.hearings_of_none unary same, hv.hearings_of_none presents credential]
    · rw [kept, kept']
    · exact .of_reject refused refused'
  | some c =>
    rw [credential] at same
    obtain ⟨answer, vouched, heard, verdict⟩ := hu.answered unary same
    obtain ⟨answer', vouched', heard', verdict'⟩ := hv.answered presents credential
    obtain ⟨rfl, left⟩ := Prod.mk.inj (Option.some.inj (vouched.symm.trans vouched'))
    refine ⟨heard.trans heard'.symm, left, ?_⟩
    cases answer with
    | ok i =>
      rw [verdict, verdict']
      exact ⟨rfl, fun _ => Iff.rfl⟩
    | error status => exact .of_reject ⟨_, verdict⟩ ⟨_, verdict'⟩

end Courses

/-- How a unary call and a stream agree where bearer tokens are asked for. The unary call always
presents one, if only the empty one. -/
structure BearersAgree (g : Gate σ) (s : σ) (unary stream : Decision σ) : Prop where
  unary_asks : ∃ w token, g = basicBearer w g.suffix ∧
    unary.trace.hearings = [.checkedToken token (w.isValid token s).1]
  unary_of_stream : ∀ e ∈ stream.trace.hearings, unary.trace.hearings = [e]
  stream_of_unary : ∀ token answer, unary.trace.hearings = [.checkedToken token answer] →
    token ≠ "" → stream.trace.hearings = [.checkedToken token answer]
  verdict : g.RefusesEmpty s → unary.verdict.Alike stream.verdict

theorem Course.bearersAgree {g : Gate σ} {method : Method} {m : Metadata} {s : σ}
    {d e : Decision σ} (hu : g.Course .unary method m s d) (hv : g.Course .stream method m s e)
    (presents : g.obtains .stream method = false) (scheme : g.scheme? = some .basicBearer) :
    g.BearersAgree s d e := by
  obtain ⟨token, credential⟩ := exists_credential?_unary scheme m
  obtain ⟨answer, vouched, heard, -⟩ := hu.answered (Eq.refl false) credential
  obtain ⟨w, gate, asked⟩ := vouch?_text vouched
  have alike (present : g.credential? .stream m = some (.text token)) : d.Alike e :=
    hu.alike hv presents scheme (credential.trans present.symm)
  have present_of_some {c : Credential} (present : g.credential? .stream m = some c) :
      g.credential? .stream m = some (.text token) := by
    rw [present, ← credential?_unary_of_stream scheme present, credential]
  refine ⟨⟨w, token, gate, by rw [heard, asked]; rfl⟩, ?unary_of_stream, ?stream_of_unary, ?verdict⟩
  case unary_of_stream =>
    intro event asked
    cases present : g.credential? .stream m with
    | none =>
      rw [hv.hearings_of_none presents present] at asked
      cases asked
    | some c =>
      rw [← (alike (present_of_some present)).hearings, heard] at asked
      rw [heard, List.mem_singleton.1 asked]
  case stream_of_unary =>
    intro token' answer' asked nonempty
    cases heard.symm.trans asked
    rw [← (alike (credential?_stream_of_unary scheme credential nonempty)).hearings, asked]
  case verdict =>
    intro refuses
    cases present : g.credential? .stream m with
    | some c => exact (alike (present_of_some present)).verdict
    | none =>
      -- Only the empty token is presented by a unary call alone, and that one is refused.
      have empty : token = "" := by
        apply Decidable.byContradiction
        intro nonempty
        have present' := credential?_stream_of_unary scheme credential nonempty
        cases present.symm.trans present'
      subst empty
      obtain ⟨status, _, refused⟩ := refuses _ scheme
      exact .of_reject ⟨_, hu.verdict_of_refusal rfl credential refused⟩
        (hv.unanswered presents scheme present).2

/-- Outside handshakes a unary call and a stream with the same headers, that find the collaborator in
the same state, are decided alike. -/
theorem hook_agrees (g : Gate σ) {method : Method} (presents : method.isHandshake g.suffix = false)
    (d : Duplex In Out) (s : σ) :
    (g.scheme? = some .handshakeToken →
      (g.decideCall .unary method d.shown.metadata s).Alike (g.hook method d s).1) ∧
    (g.scheme? = some .basicBearer →
      g.BearersAgree s (g.decideCall .unary method d.shown.metadata s) (g.hook method d s).1) := by
  have unary := g.decideCall_course .unary method d.shown.metadata s
  have stream := g.hook_course method d s
  have asked : g.obtains .stream method = false := presents
  constructor
  · intro scheme
    exact unary.alike stream asked scheme (credential?_unary_eq_stream scheme _)
  · intro scheme
    exact unary.bearersAgree stream asked scheme

/-- A stream that presents `t`, which is let in because a unary call is. -/
theorem hook_agrees_solo :
    let m : Metadata := .single BasicBearer.headerName (Bytes.ofText "Bearer t")
    let s : Issued := { bearer := [("t", "u")] }
    let stream := ((soloGate "t").hook ⟨"/svc/Get"⟩ (.receive m [] : Duplex Unit Unit) s).1
    (Method.mk "/svc/Get").isHandshake (soloGate "t").suffix = false ∧
      (soloGate "t").RefusesEmpty s ∧
      stream.trace.hearings = [.checkedToken "t" (.ok (namedIdentity "u"))] ∧
      stream.verdict = .identify (namedIdentity "u") := by
  intro m s stream
  have presents : (Method.mk "/svc/Get").isHandshake (soloGate "t").suffix = false := by decide
  have refuses : (soloGate "t").RefusesEmpty s := by
    rintro _ ⟨⟩
    exact ⟨_, _, rfl⟩
  have agree := (hook_agrees (soloGate "t") presents (.receive m [] : Duplex Unit Unit) s).2 rfl
  have heard : ((soloGate "t").decideCall .unary ⟨"/svc/Get"⟩ m s).trace.hearings =
      [.checkedToken "t" (.ok (namedIdentity "u"))] := rfl
  have verdict : ((soloGate "t").decideCall .unary ⟨"/svc/Get"⟩ m s).verdict =
      .identify (namedIdentity "u") := rfl
  exact ⟨presents, refuses, agree.stream_of_unary _ _ heard (by decide),
    ((agree.verdict refuses).identity _).1 verdict⟩

end Gate
end CallGate
