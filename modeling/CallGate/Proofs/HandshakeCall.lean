import CallGate.Proofs.Conversation
import CallGate.Proofs.FirstValue

/-! The handshake call. It is a handshake to its gate whatever name it was called by, so it is never
asked for the token that it is to issue: an authenticator is started at once, a validator is asked for
a token at most, and with open access the call ends without a word. What an authenticator and its peer
say to each other is all that the two bring, in order and to the end. -/

namespace CallGate

open Streaming

variable {σ Req Resp In Out ρ : Type}

namespace Gate

variable {g : Gate σ} {called : Option Method} {m : Metadata}
  {inbound : List (Except Status Handshake.Message)} {client : Client} {s : σ}

theorem handshakeMethod_of_isHandshake {method : Method}
    (fits : method.isHandshake g.suffix = true) : g.handshakeMethod (some method) = method := by
  simp [handshakeMethod, Option.filter, fits]

theorem obtains_handshakeMethod (g : Gate σ) (called : Option Method) :
    g.obtains .stream (g.handshakeMethod called) = true :=
  obtains_eq_true.2 ⟨rfl, g.handshakeMethod_isHandshake called⟩

/-- Only passwords are asked for at a handshake. -/
theorem decideCall_handshakeMethod (unasked : g.scheme? ≠ some .basicBearer) :
    g.decideCall .stream (g.handshakeMethod called) m s = ⟨.pass none, s, []⟩ := by
  cases g with
  | openAccess => rfl
  | handshakeToken a suffix =>
    exact (decideCall_course ..).of_exempt rfl (obtains_handshakeMethod _ called)
  | basicBearer => exact absurd rfl unasked

theorem exists_authenticator (scheme : g.scheme? = some .handshakeToken) :
    ∃ a, g.authenticator? = some a := by
  rw [← Option.ne_none_iff_exists', ne_eq, authenticator?_eq_none_iff]
  simp [scheme]

theorem unasked_of_driver {a : Authenticator σ} (driver : g.authenticator? = some a) :
    g.scheme? ≠ some .basicBearer := by
  cases g with
  | basicBearer => cases driver
  | openAccess | handshakeToken => simp [scheme?]

/-- Where no password is asked for the handler of a handshake starts at once. -/
theorem serveHandshake_unasked (unasked : g.scheme? ≠ some .basicBearer) :
    g.serveHandshake called m inbound s =
      ⟨.ok ⟨Handshake.handler g.authenticator? s, (Duplex.receive m inbound).box⟩, s,
        [.entered (.root m)]⟩ := by
  have decided : g.decideCall .stream (g.handshakeMethod called) m s = ⟨.pass none, s, []⟩ :=
    decideCall_handshakeMethod unasked
  have granted : (g.decideCall .stream (g.handshakeMethod called) m s).verdict.grant (.root m) =
      .ok (.root m) := by rw [decided]; rfl
  have asked : (g.hook (g.handshakeMethod called)
      (.receive m inbound : Duplex Handshake.Message Handshake.Message) s).1.state = s := by
    rw [hook_receive, decided]
  simp only [serveHandshake, asked, serveStreaming_granted granted, decided]
  rfl

/-- A handshake that nobody drives ends without a word, whatever its client does. -/
theorem playFor_undriven (m : Metadata) (inbound : List (Except Status Handshake.Message))
    (client : Client) (s : σ) :
    let f := (Accepted.mk (Handshake.handler (none : Option (Authenticator σ)) s)
      (Duplex.receive m inbound).box).playFor client
    f.received = [] ∧ f.report = (s, []) ∧ f.notices = [] := by
  intro f
  have stream : (Accepted.mk (Handshake.handler (none : Option (Authenticator σ)) s)
      (Duplex.receive m inbound).box).EndToEnd inbound := Accepted.endToEnd ⟨rfl, rfl, rfl⟩
  exact ⟨List.prefix_nil.1 (stream.playFor client), Handshake.report_unauthenticated s _ client,
    Accepted.notices_playFor_silent rfl client⟩

/-- Neither its headers nor anything else than payloads makes a difference to what comes of it. -/
theorem attend_unasked (unasked : g.scheme? ≠ some .basicBearer)
    {other : List (Except Status Handshake.Message)}
    (same : Handshake.payloads other = Handshake.payloads inbound) (m n : Metadata) :
    let handler := Handshake.handler g.authenticator? s
    let f := (Accepted.mk handler (Duplex.receive m inbound).box).playFor client
    g.attend (⟨.handshake called n other client, s⟩ : Visit σ Req Resp In Out ρ) =
      ⟨.exchanged f.received, f.report.1,
        .entered (.root n) :: (f.report.2 ++ f.notices.map .noted)⟩ := by
  let d : Duplex Handshake.Message Handshake.Message := (Duplex.receive m inbound).box
  let stream : ServerStream Handshake.Message := .boxed (.own (.root n) other)
  have alike : stream.Alike Handshake.payloadOf d.stream := Handshake.alike_of_payloads same
  obtain ⟨_, played⟩ :=
    Accepted.playFor_alike (Handshake.heeds_handler g.authenticator? s) alike client
  have brought : (Duplex.receive n other).box = { d with stream } := rfl
  simp only [attend, serve, serveHandshake_unasked unasked, brought, played]
  rfl

/-- What comes of a handshake call that is served to its end. Nothing stands between the caller and an
authenticator, which is started once and sees none of the headers. -/
structure AsHandshake (g : Gate σ) (inbound : List (Except Status Handshake.Message)) (client : Client)
    (x : Visit σ Req Resp In Out ρ) : Prop where
  /-- What happens is the authenticator's exchange with the peer, from the state that the call finds to
  the one that it leaves. The client reads of what is said what it stays for. -/
  driven : g.scheme? = some .handshakeToken → ∃ a responses left exchanged,
    ∃ notices : List Notice, g.authenticator? = some a ∧
      Handshake.Runs (a.authenticate x.found) inbound exchanged left ∧ exchanged.IsExchange ∧
      responses <+: (Handshake.converse (a.authenticate x.found) (Handshake.payloads inbound)).responses ∧
      (∀ notice ∈ notices, notice = .clientGone) ∧
      ∀ n, g.attend ⟨x.call.withHeaders n, x.found⟩ = ⟨.exchanged responses, left,
        .entered (.root n) :: .authenticating :: (exchanged ++ notices.map .noted)⟩
  /-- A client that reads to the end reads all that is said in the conversation. -/
  conversed : g.scheme? = some .handshakeToken → client = .reads → ∃ a, g.authenticator? = some a ∧
    let c := Handshake.converse (a.authenticate x.found) (Handshake.payloads inbound)
    ∀ n, g.attend ⟨x.call.withHeaders n, x.found⟩ =
      ⟨.exchanged c.responses, c.report, .entered (.root n) :: .authenticating :: c.events⟩
  traded : g.scheme? = some .basicBearer → (g.attend x).trace.consultations = [] ∨
    ∃ v username password, g = basicBearer v g.suffix ∧ (g.attend x).trace.consultations =
      [.validated username password (v.validate username password x.found).1]
  idle : g.scheme? = none → (g.attend x).trace.consultations = [] ∧
    (g.attend x).outcome = .exchanged []

/-- The method that a handshake call is taken to call, and how its stream goes in whatever turns its
handler and its client take. -/
structure Welcomes (g : Gate σ) (called : Option Method) (m : Metadata)
    (inbound : List (Except Status Handshake.Message)) (s : σ) : Prop where
  named : (g.handshakeMethod called).isHandshake g.suffix = true
  own : ∀ method, called = some method → method.isHandshake g.suffix = true →
    g.handshakeMethod called = method
  alike : g.scheme? = some .handshakeToken → ∀ n, ∃ a b,
    (g.serveHandshake called m inbound s).outcome = .ok a ∧
      (g.serveHandshake called n inbound s).outcome = .ok b ∧
      ∀ turns, (a.session.run turns).received = (b.session.run turns).received ∧
        (a.session.run turns).ended = (b.session.run turns).ended
  silent : g.scheme? = none → ∃ a, (g.serveHandshake called m inbound s).outcome = .ok a ∧
    a.EndToEnd inbound ∧ a.script = []

/-- A call that obtains tokens has a validator asked for one at most, and nobody else. -/
theorem Course.consultations_of_obtains {entry : Entry} {method : Method} {d : Decision σ}
    (h : g.Course entry method m s d) (obtains : g.obtains entry method = true) :
    d.trace.consultations = [] ∨ ∃ v username password, g = basicBearer v g.suffix ∧
      d.trace.consultations = [.validated username password (v.validate username password s).1] := by
  cases h with
  | waved | unreadable | unmet => exact .inl rfl
  | accepted _ presents | refused _ presents => simp [obtains] at presents
  | barred validator _ _ answer | issued validator _ _ answer | unsendable validator _ _ answer =>
    exact .inr ⟨_, _, _, validator, by rw [answer]; rfl⟩

theorem consultations_noted (notices : List Notice) :
    Trace.consultations (notices.map .noted) = [] := by
  rw [Trace.consultations, List.filter_eq_nil_iff]
  intro e he
  obtain ⟨n, -, rfl⟩ := List.mem_map.1 he
  exact Bool.false_ne_true

/-- Without an authenticator nobody is consulted once the call is decided. -/
theorem consultations_attend {x : Visit σ Req Resp In Out ρ} (undriven : g.authenticator? = none) :
    (g.attend x).trace.consultations = (g.judge x).trace.consultations := by
  cases granted : (g.judge x).verdict.grant (.root x.call.metadata) with
  | error status => rw [attend_refused (Verdict.grant_eq_error_iff.1 granted)]
  | ok c =>
    have after : (g.conduct (g.judge x) c x.call).trace.consultations = [] := by
      cases x.call with
      | unary => rfl
      | stream => exact consultations_noted _
      | handshake called m inbound client =>
        simp only [conduct, undriven, Handshake.report_unauthenticated, List.nil_append]
        exact consultations_noted _
    have silent (t : Trace) : Trace.consultations (.entered c :: t) = t.consultations := rfl
    rw [attend_conduct granted, Trace.consultations_append, silent, after, List.append_nil]

/-- A handshake that is driven is the run of the authenticator's exchange, and whatever the client does,
it reads the beginning of what is said. -/
theorem attend_driven {a : Authenticator σ} (driver : g.authenticator? = some a) (called : Option Method)
    (inbound : List (Except Status Handshake.Message)) (client : Client) (s : σ) :
    ∃ responses left exchanged, ∃ notices : List Notice,
      Handshake.Runs (a.authenticate s) inbound exchanged left ∧
      responses <+: (Handshake.converse (a.authenticate s) (Handshake.payloads inbound)).responses ∧
      (∀ notice ∈ notices, notice = .clientGone) ∧
      ∀ n, g.attend (⟨.handshake called n inbound client, s⟩ : Visit σ Req Resp In Out ρ) =
        ⟨.exchanged responses, left,
          .entered (.root n) :: .authenticating :: (exchanged ++ notices.map .noted)⟩ := by
  let d : Duplex Handshake.Message Handshake.Message := (Duplex.receive {} inbound).box
  let accepted := Accepted.mk (Handshake.handler (some a) s) d
  let f := accepted.playFor client
  have stream : accepted.EndToEnd inbound := Accepted.endToEnd ⟨rfl, rfl, rfl⟩
  have script : accepted.script =
      (Handshake.converse (a.authenticate s) (Handshake.payloads inbound)).responses :=
    Handshake.script_handlerOf _ _ _ rfl
  obtain ⟨exchanged, report, runs⟩ := Handshake.report_authenticated a s d client
  have report : f.report.2 = .authenticating :: exchanged := report
  refine ⟨f.received, f.report.1, exchanged, f.notices, runs, ?_, accepted.notices_playFor client, ?_⟩
  · rw [← script]
    exact stream.playFor client
  · intro n
    have served : g.attend (⟨.handshake called n inbound client, s⟩ : Visit σ Req Resp In Out ρ) =
        ⟨.exchanged f.received, f.report.1,
          .entered (.root n) :: (f.report.2 ++ f.notices.map .noted)⟩ := by
      rw [attend_unasked (unasked_of_driver driver) rfl {} n, driver]
    rw [report] at served
    exact served

/-- A handshake whose client reads to the end is the conversation of its authenticator with the peer. -/
theorem attend_conversed {a : Authenticator σ} (driver : g.authenticator? = some a)
    (called : Option Method) (n : Metadata) (inbound : List (Except Status Handshake.Message)) (s : σ) :
    let c := Handshake.converse (a.authenticate s) (Handshake.payloads inbound)
    g.attend (⟨.handshake called n inbound .reads, s⟩ : Visit σ Req Resp In Out ρ) =
      ⟨.exchanged c.responses, c.report, .entered (.root n) :: .authenticating :: c.events⟩ := by
  intro c
  let d : Duplex Handshake.Message Handshake.Message := (Duplex.receive n inbound).box
  let accepted := Accepted.mk (Handshake.handler (some a) s) d
  have clear : d.outbox.Clear := ⟨.initial, rfl, rfl⟩
  have stream : accepted.EndToEnd inbound := Accepted.endToEnd ⟨rfl, rfl, rfl⟩
  have read : accepted.playOut.received = c.responses :=
    stream.played.trans (Handshake.script_handlerOf _ _ _ rfl)
  have report : accepted.playOut.report = (c.report, [.authenticating] ++ c.events) :=
    Handshake.report_handlerOf _ _ clear []
  have quiet : accepted.playOut.notices = [] := Program.quiet_playOut _ clear []
  have served : g.attend (⟨.handshake called n inbound .reads, s⟩ : Visit σ Req Resp In Out ρ) =
      ⟨.exchanged accepted.playOut.received, accepted.playOut.report.1, .entered (.root n) ::
        (accepted.playOut.report.2 ++ accepted.playOut.notices.map .noted)⟩ := by
    rw [attend_unasked (unasked_of_driver driver) rfl n n, driver]
    rfl
  rw [served, read, report, quiet]
  simp

theorem attend_asHandshake (g : Gate σ) (called : Option Method) (m : Metadata)
    (inbound : List (Except Status Handshake.Message)) (client : Client) (s : σ) :
    g.AsHandshake inbound client
      (⟨.handshake called m inbound client, s⟩ : Visit σ Req Resp In Out ρ) := by
  refine ⟨?driven, ?conversed, ?traded, ?idle⟩
  case driven =>
    intro scheme
    obtain ⟨a, driver⟩ := exists_authenticator scheme
    obtain ⟨responses, left, exchanged, notices, runs, read, gone, served⟩ :=
      attend_driven driver called inbound client s
    exact ⟨a, responses, left, exchanged, notices, driver, runs, runs.isExchange, read, gone, served⟩
  case conversed =>
    rintro scheme rfl
    obtain ⟨a, driver⟩ := exists_authenticator scheme
    exact ⟨a, driver, fun n => attend_conversed driver called n inbound s⟩
  case traded =>
    intro scheme
    rw [consultations_attend (authenticator?_eq_none_iff.2 (by simp [scheme]))]
    exact (g.judge_course _).consultations_of_obtains (g.obtains_handshakeMethod called)
  case idle =>
    intro opened
    have undriven : g.authenticator? = none := authenticator?_eq_none_iff.2 (by simp [opened])
    obtain ⟨read, report, quiet⟩ := playFor_undriven m inbound client s
    rw [attend_unasked (by simp [opened]) rfl m m, undriven]
    refine ⟨?_, congrArg Reply.exchanged read⟩
    rw [report, quiet]
    rfl

/-- Two callers who bring the same payloads read the same, turn by turn. -/
theorem run_handshake_congr (scheme : g.scheme? = some .handshakeToken)
    {other : List (Except Status Handshake.Message)}
    (same : Handshake.payloads other = Handshake.payloads inbound) (n : Metadata) :
    ∃ a b, (g.serveHandshake called m inbound s).outcome = .ok a ∧
      (g.serveHandshake called n other s).outcome = .ok b ∧
      ∀ turns, (a.session.run turns).received = (b.session.run turns).received ∧
        (a.session.run turns).ended = (b.session.run turns).ended := by
  have unasked : g.scheme? ≠ some .basicBearer := by simp [scheme]
  obtain ⟨driver, driven⟩ := exists_authenticator scheme
  let a := Accepted.mk (Handshake.handler (some driver) s) (Duplex.receive m inbound).box
  let b := Accepted.mk (Handshake.handler (some driver) s) (Duplex.receive n other).box
  have alike : Session.Alike Handshake.payloadOf a.session b.session := by
    refine ⟨?_, .boxed (.own (.root n) other), Handshake.alike_of_payloads same, rfl⟩
    rintro _ ⟨⟩
    exact Handshake.heeds_handler (some driver) s
  refine ⟨a, b, ?_, ?_, ?_⟩
  · rw [serveHandshake_unasked unasked, driven]
  · rw [serveHandshake_unasked unasked, driven]
  · intro turns
    obtain ⟨_, _, _, run⟩ := alike.run turns
    rw [run]
    exact ⟨rfl, rfl⟩

theorem welcomes (g : Gate σ) (called : Option Method) (m : Metadata)
    (inbound : List (Except Status Handshake.Message)) (s : σ) : g.Welcomes called m inbound s := by
  refine ⟨g.handshakeMethod_isHandshake called, ?own, ?alike, ?silent⟩
  case own =>
    rintro method rfl fits
    exact handshakeMethod_of_isHandshake fits
  case alike =>
    intro scheme n
    exact run_handshake_congr scheme rfl n
  case silent =>
    intro opened
    have undriven : g.authenticator? = none := authenticator?_eq_none_iff.2 (by simp [opened])
    let a : Accepted Handshake.Message Handshake.Message (σ × Trace) :=
      ⟨Handshake.handler none s, (Duplex.receive m inbound).box⟩
    refine ⟨a, ?_, Accepted.endToEnd ⟨rfl, rfl, rfl⟩, rfl⟩
    rw [serveHandshake_unasked (by simp [opened]), undriven]

/-- A handshake call is always served as the handshake, whatever it was called by, whatever its
headers are and whatever the suffix of the gate. -/
theorem handshake_served (g : Gate σ) (called : Option Method) (m : Metadata)
    (inbound : List (Except Status Handshake.Message)) (client : Client) (s : σ) :
    g.Welcomes called m inbound s ∧
      g.AsHandshake inbound client
        (⟨.handshake called m inbound client, s⟩ : Visit σ Req Resp In Out ρ) :=
  ⟨g.welcomes called m inbound s, g.attend_asHandshake called m inbound client s⟩

/-- How the exchange `x` goes on the stream of a handshake call, in whatever turns its two sides take:
what is said in the conversation is what the client reads. -/
structure Carries (g : Gate σ) (x : Exchange σ) (called : Option Method) (m : Metadata)
    (inbound : List (Except Status Handshake.Message)) (s : σ) : Prop where
  heard : ∀ n answer, (Handshake.converse x (Handshake.payloads inbound)).heard[n]? = some answer →
    answer = Handshake.delivery (Handshake.payloads inbound) n
  read : ∃ a, (g.serveHandshake called m inbound s).outcome = .ok a ∧ a.EndToEnd inbound ∧
    a.script = (Handshake.converse x (Handshake.payloads inbound)).responses
  /-- A read whose failure is passed on is the last one. The response ends with the error that the peer
  sent in its place, or with the news that the peer had closed by then. -/
  failed : ∀ f, Handshake.GivesUp x (Handshake.payloads inbound) f →
    ∃ n, (Handshake.converse x (Handshake.payloads inbound)).heard.length = n + 1 ∧
      (Handshake.converse x (Handshake.payloads inbound)).responses.getLast? =
        some (.error f.status) ∧
      (inbound[n]? = some (.error f.status) ∨ inbound.length ≤ n ∧
        f.status = { code := .aborted, message := "handshake stream closed by peer" })
  unversioned : ∀ other, Handshake.payloads other = Handshake.payloads inbound → ∃ a b,
    (g.serveHandshake called m inbound s).outcome = .ok a ∧
      (g.serveHandshake called m other s).outcome = .ok b ∧
      ∀ turns, (a.session.run turns).received = (b.session.run turns).received ∧
        (a.session.run turns).ended = (b.session.run turns).ended

theorem carries (a : Authenticator σ) (suffix : String) (called : Option Method) (m : Metadata)
    (inbound : List (Except Status Handshake.Message)) (s : σ) :
    (handshakeToken a suffix).Carries (a.authenticate s) called m inbound s := by
  constructor
  · intro n answer heard
    exact Handshake.heard_converse _ _ n heard
  · refine ⟨⟨Handshake.handler (some a) s, (Duplex.receive m inbound).box⟩, ?_,
      Accepted.endToEnd ⟨rfl, rfl, rfl⟩, Handshake.script_handlerOf _ _ _ rfl⟩
    rw [serveHandshake_unasked (by simp [scheme?])]
    rfl
  · intro f givesUp
    obtain ⟨n, reads, passed⟩ := givesUp.status
    refine ⟨n, reads, ?_, passed⟩
    rw [Handshake.Conversation.responses, givesUp.converse.1, List.getLast?_concat]
  · intro other same
    exact run_handshake_congr rfl same m

end Gate
end CallGate
