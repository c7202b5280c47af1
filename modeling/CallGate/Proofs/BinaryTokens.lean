import CallGate.Proofs.Encodings
import CallGate.Proofs.Refusal

/-! Tokens in binary headers. Any octets at all can be a token, and the authenticator is asked about
just the token whose Base64 comes first in its header. A call without the header presents the empty
token; one whose first value is not Base64 is refused before the authenticator is asked. -/

namespace CallGate

open Streaming

variable {σ In Out : Type}

namespace HandshakeToken

theorem presentedToken_of_encodes {m : Metadata} {token value : Bytes}
    (header : m.first? headerName = some value) (encodes : Base64.Encodes token value) :
    presentedToken m = .ok token := by
  have decoded : Metadata.binaryOf value = .ok token := Base64.decode_eq_ok_iff.2 encodes
  simp only [presentedToken, header, decoded]

theorem presentedToken_of_absent {m : Metadata} (header : m.first? headerName = none) :
    presentedToken m = .ok [] := by
  simp only [presentedToken, header]

theorem exists_fault_of_garbled {value : Bytes} (garbled : ∀ token, ¬ Base64.Encodes token value) :
    ∃ cause, Metadata.binaryOf value = .error cause := by
  cases decoded : Metadata.binaryOf value with
  | error cause => exact ⟨cause, rfl⟩
  | ok token => exact absurd (Base64.decode_eq_ok_iff.1 decoded) (garbled token)

end HandshakeToken

namespace Gate

/-- How a decision about a call with the headers `m` treats its token: the authenticator is asked, once,
about the octets that the first value of the header encodes, and about the empty token without one. A
value that encodes nothing has the call refused, with nobody asked. -/
structure ReadsToken (a : Authenticator σ) (m : Metadata) (s : σ) (d : Decision σ) : Prop where
  encoded : ∀ token value, m.first? HandshakeToken.headerName = some value →
    Base64.Encodes token value →
    d.trace.consultations = [.checkedBinary token (a.isValid token s).1]
  absent : m.first? HandshakeToken.headerName = none →
    d.trace.consultations = [.checkedBinary [] (a.isValid [] s).1]
  garbled : ∀ value, m.first? HandshakeToken.headerName = some value →
    (∀ token, ¬ Base64.Encodes token value) →
    (∃ status, d.verdict = .reject status ∧ status.code = .unauthenticated) ∧
      d.trace.consultations = []

section Courses

variable {a : Authenticator σ} {suffix : String} {entry : Entry} {method : Method} {m : Metadata}
  {s : σ} {d : Decision σ}

/-- A call that presents a token has it checked, once, and the authenticator does nothing else. -/
theorem Course.consultations_of_token (h : (handshakeToken a suffix).Course entry method m s d)
    (presents : (handshakeToken a suffix).obtains entry method = false) {token : Bytes}
    (header : HandshakeToken.presentedToken m = .ok token) :
    d.trace.consultations = [.checkedBinary token (a.isValid token s).1] := by
  have credential : (handshakeToken a suffix).credential? entry m = some (.octets token) := by
    simp [credential?, header, Except.toOption]
  obtain ⟨_, -, ⟨i, s', vouched, rfl⟩ | ⟨status, s', vouched, rfl⟩⟩ :=
    h.of_credential presents credential
  · have answer : a.isValid token s = (.ok i, s') := Option.some.inj vouched
    rw [answer]
    rfl
  · have answer : a.isValid token s = (.error status, s') := Option.some.inj vouched
    rw [answer]
    rfl

theorem Course.readsToken (h : (handshakeToken a suffix).Course entry method m s d)
    (presents : (handshakeToken a suffix).obtains entry method = false) : ReadsToken a m s d := by
  refine ⟨?encoded, ?absent, ?garbled⟩
  case encoded =>
    intro token value header encodes
    exact h.consultations_of_token presents (HandshakeToken.presentedToken_of_encodes header encodes)
  case absent =>
    intro header
    exact h.consultations_of_token presents (HandshakeToken.presentedToken_of_absent header)
  case garbled =>
    intro value header garbled
    obtain ⟨cause, fault⟩ := HandshakeToken.exists_fault_of_garbled garbled
    have unfit : (handshakeToken a suffix).Unfit entry method m .badBinaryToken :=
      .octets rfl presents header fault
    obtain ⟨rejected, unconsulted⟩ := h.of_unfit unfit
    exact ⟨⟨_, rejected, unfit.unauthenticated⟩, unconsulted⟩

end Courses

/-- The tokens of unary calls, and those of streams other than handshakes, reach the authenticator
octet by octet. -/
theorem hook_readsToken (a : Authenticator σ) (suffix : String) (method : Method) (s : σ) :
    (∀ m, ReadsToken a m s ((handshakeToken a suffix).decideCall .unary method m s)) ∧
    (method.isHandshake suffix = false → ∀ d : Duplex In Out,
      ReadsToken a d.shown.metadata s ((handshakeToken a suffix).hook method d s).1) := by
  constructor
  · intro m
    exact ((handshakeToken a suffix).decideCall_course .unary method m s).readsToken rfl
  · intro presents d
    exact ((handshakeToken a suffix).hook_course method d s).readsToken presents

/-- A token of octets that are no text. Behind a value that is not Base64 the same token is not looked
at. -/
theorem hook_readsToken_ignorant :
    let g : Gate Unit := .handshakeToken ignorant defaultSuffix
    let stream (values : List Bytes) : Duplex Unit Unit :=
      .receive ⟨values.map fun value => (HandshakeToken.headerName, value)⟩ []
    (g.hook ⟨"/svc/Get"⟩ (stream [Bytes.ofText "AP8", Bytes.ofText "!"]) ()).1.trace.consultations =
        [.checkedBinary [0, 255] (ignorant.isValid [0, 255] ()).1] ∧
      (g.hook ⟨"/svc/Get"⟩ (stream [Bytes.ofText "!", Bytes.ofText "AP8"]) ()).1.trace.consultations =
        [] := by
  intro g stream
  have reads (values : List Bytes) :=
    (hook_readsToken ignorant defaultSuffix ⟨"/svc/Get"⟩ ()).2 (by decide) (stream values)
  constructor
  · exact (reads _).encoded [0, 255] _ rfl ⟨0, by decide, by decide⟩
  · refine ((reads _).garbled _ rfl ?_).2
    intro token encodes
    have read := Base64.decode_eq_ok_iff.2 encodes
    cases read

end Gate
end CallGate
