import CallGate.Server

/-! What a handler can make of a call, whatever its client does. It receives what is inbound, and each of
its sends is accepted or finds that the client has left. What it does not look at makes no difference to
anyone. -/

namespace CallGate

namespace Streaming

variable {In Out ρ β : Type}

theorem Offer.outcome_cases (o : Offer) : o.outcome = .ok () ∨ o.outcome = .error clientLeft := by
  cases o with
  | accepted => exact .inl rfl
  | full | gone => exact .inr rfl

/-- The reports that a handler can end with while it receives what is inbound. Whether the client is
there for its sends is left open. -/
inductive Program.Ends : Program In Out ρ → List (Except Status In) → ρ → Prop
  | done {result : Except Status Unit} {report : ρ} {inbound : List (Except Status In)} :
      Ends (.done result report) inbound report
  | recv {next : Except Status (Option In) → Program In Out ρ} {report : ρ}
      {inbound : List (Except Status In)} (rest : Ends (next (hearing inbound 0)) inbound.tail report) :
      Ends (.recv next) inbound report
  | send {message : Out} {next : Except Status Unit → Program In Out ρ} {report : ρ}
      {inbound : List (Except Status In)} {outcome : Except Status Unit}
      (told : outcome = .ok () ∨ outcome = .error clientLeft)
      (rest : Ends (next outcome) inbound report) : Ends (.send message next) inbound report
  | setTrailer {trailer : Metadata} {next : Program In Out ρ} {report : ρ}
      {inbound : List (Except Status In)} (rest : Ends next inbound report) :
      Ends (.setTrailer trailer next) inbound report

/-- The reports that a handler can end with from where it stands. -/
def Task.Ends : Task In Out ρ → List (Except Status In) → ρ → Prop
  | .running p, inbound, report => p.Ends inbound report
  | .completing told, _, report | .over told, _, report => report = told

/-- A handler that tells apart what it receives only by a view of it. -/
inductive Program.Heeds (view : Except Status (Option In) → β) : Program In Out ρ → Prop
  | done {result : Except Status Unit} {report : ρ} : Heeds view (.done result report)
  | recv {next : Except Status (Option In) → Program In Out ρ}
      (blind : ∀ a b, view a = view b → next a = next b) (rest : ∀ a, Heeds view (next a)) :
      Heeds view (.recv next)
  | send {message : Out} {next : Except Status Unit → Program In Out ρ}
      (rest : ∀ a, Heeds view (next a)) : Heeds view (.send message next)
  | setTrailer {trailer : Metadata} {next : Program In Out ρ} (rest : Heeds view next) :
      Heeds view (.setTrailer trailer next)

/-- No handler tells apart what is the same. -/
theorem Program.heeds_id (p : Program In Out ρ) : p.Heeds id := by
  induction p with
  | done => exact .done
  | recv next ih => exact .recv (fun a b same => congrArg next same) ih
  | send message next ih => exact .send ih
  | setTrailer trailer next ih => exact .setTrailer ih

/-- Whether two streams bring the same as far as a view can tell. -/
def ServerStream.Alike (view : Except Status (Option In) → β) (stream other : ServerStream In) : Prop :=
  ∀ n, view (hearing stream.inbound n) = view (hearing other.inbound n)

theorem ServerStream.Alike.of_inbound {view : Except Status (Option In) → β}
    {stream other : ServerStream In} (same : stream.inbound = other.inbound) :
    stream.Alike view other := fun n => by rw [same]

theorem ServerStream.Alike.rest {view : Except Status (Option In) → β} {stream other : ServerStream In}
    (h : stream.Alike view other) : stream.rest.Alike view other.rest := by
  intro n
  rw [inbound_rest, inbound_rest, hearing_tail, hearing_tail]
  exact h (n + 1)

namespace Duplex

variable (d : Duplex In Out) (stream : ServerStream In)

theorem relieve_frame : ({ d with stream } : Duplex In Out).relieve =
    (d.relieve.1, { d.relieve.2 with stream }) := by
  unfold relieve
  rw [next_frame]
  split <;> rfl

theorem conclude_frame (result : Except Status Unit) :
    ({ d with stream } : Duplex In Out).conclude result =
      ((d.conclude result).1, (d.conclude result).2.1, { (d.conclude result).2.2 with stream }) := by
  have detached : ({ d with stream } : Duplex In Out).detach = { d.detach with stream } := rfl
  simp only [conclude, drain, detached, relieve_frame, finish_frame, nexts_frame]

theorem stream_relieve : d.relieve.2.stream = d.stream :=
  congrArg (·.2.stream) (d.relieve_frame d.stream)

theorem trailer_next : d.next.2.trailer = d.trailer := by
  cases queue : d.outbox.queue with
  | nil => rw [next_of_nil queue]
  | cons i rest => rw [next_of_cons queue]

end Duplex

section Played

/-- The report of a handler that is played to its end is one that it can end with. -/
theorem Program.ends_playOut (p : Program In Out ρ) (d : Duplex In Out) (received : List (Item Out)) :
    p.Ends d.inbound (p.playOut d received).report := by
  induction p generalizing d received with
  | done result report => exact .done
  | recv next ih =>
    simp only [playOut, Duplex.recv_eq]
    have rest := ih (hearing d.inbound 0) d.advance received
    rw [Duplex.inbound_advance] at rest
    exact .recv rest
  | send m next ih =>
    simp only [playOut, Duplex.send_eq]
    have rest := ih (d.relieve.2.outbox.offer (.ok m)).1.outcome
      { d.relieve.2 with outbox := (d.relieve.2.outbox.offer (.ok m)).2 } (received ++ d.relieve.1)
    have kept : d.relieve.2.inbound = d.inbound := congrArg ServerStream.inbound d.stream_relieve
    exact .send (Offer.outcome_cases _) (kept ▸ rest)
  | setTrailer t next ih =>
    simp only [playOut, Duplex.setTrailer_eq]
    exact .setTrailer (ih { d with trailer := d.trailer.replace t } received)

/-- How a call is played does not depend on what its handler does not heed. -/
theorem Program.playOut_alike {view : Except Status (Option In) → β} {p : Program In Out ρ}
    (heeds : p.Heeds view) {d : Duplex In Out} {stream : ServerStream In}
    (alike : stream.Alike view d.stream) (received : List (Item Out)) :
    ∃ call, p.playOut { d with stream } received = { p.playOut d received with call } := by
  induction heeds generalizing d stream received with
  | done =>
    simp only [playOut, Duplex.conclude_frame]
    exact ⟨_, rfl⟩
  | recv blind _ ih =>
    simp only [playOut, Duplex.recv_eq]
    rw [show hearing (Duplex.inbound { d with stream }) 0 = hearing stream.inbound 0 from rfl,
      blind _ (hearing d.inbound 0) (alike 0)]
    exact ih _ (d := d.advance) alike.rest received
  | send _ ih =>
    simp only [playOut, Duplex.relieve_frame, Duplex.send_eq]
    exact ih _ (d := { d.relieve.2 with outbox := _ }) (d.stream_relieve.symm ▸ alike) _
  | @setTrailer t _ _ ih =>
    simp only [playOut, Duplex.setTrailer_eq]
    exact ih (d := { d with trailer := d.trailer.replace t }) alike received

/-- The only thing a stream ever logs is that its client has left. -/
theorem Program.notices_playOut (p : Program In Out ρ) (d : Duplex In Out)
    (received : List (Item Out)) : ∀ n ∈ (p.playOut d received).notices, n = .clientGone := by
  induction p generalizing d received with
  | done result report =>
    -- Only the completion logs: the steps before it never do.
    simp only [Program.playOut, Duplex.conclude]
    intro n hn
    cases ho : (d.detach.relieve.2.finish result).1 <;> simp_all [Offer.notices]
  | recv next ih => exact ih _ _ _
  | send m next ih => exact ih _ _ _
  | setTrailer t next ih => exact ih _ _

end Played

namespace Session

variable {s s' : Session In Out ρ}

/-- In its turn the client reads or does nothing. -/
theorem call_step_client (s : Session In Out ρ) :
    (s.step .client).call = s.call ∨ (s.step .client).call = s.call.next.2 := by
  simp only [step, stepClient]
  split
  · match s.call.next with
    | (.item i, call) => exact .inr rfl
    | (.pending, call) | (.ended, call) => exact .inl rfl
  · exact .inl rfl

theorem stream_step_client (s : Session In Out ρ) :
    (s.step .client).call.stream = s.call.stream := by
  rcases s.call_step_client with kept | read
  · rw [kept]
  · rw [read, s.call.stream_next]

theorem trailer_step_client (s : Session In Out ρ) :
    (s.step .client).call.trailer = s.call.trailer := by
  rcases s.call_step_client with kept | read
  · rw [kept]
  · rw [read, s.call.trailer_next]

/-- The client's turn leaves the handler where it is, and nothing is logged. -/
theorem step_client (s : Session In Out ρ) :
    (s.step .client).task = s.task ∧ (s.step .client).notices = s.notices := by
  simp only [step, stepClient]
  split
  · rcases s.call.next with ⟨_ | _ | _, call⟩ <;> exact ⟨rfl, rfl⟩
  · exact ⟨rfl, rfl⟩

/-- What a handler can end with after a turn it could end with before. -/
theorem ends_step {report : ρ} (t : Turn) (h : (s.step t).task.Ends (s.step t).call.inbound report) :
    s.task.Ends s.call.inbound report := by
  cases t with
  | client =>
    rw [s.step_client.1, Duplex.inbound, s.stream_step_client] at h
    exact h
  | handler =>
    match task : s.task with
    | .running (.done result told) =>
      simp only [step, stepHandler, task] at h
      obtain rfl : report = told := by
        revert h
        cases (s.call.detach.finish result).1 <;> exact id
      exact Program.Ends.done
    | .running (.recv next) =>
      simp only [step, stepHandler, task, Duplex.recv_eq, Duplex.inbound_advance] at h
      exact Program.Ends.recv h
    | .running (.send m next) =>
      simp only [step, stepHandler, task, Duplex.send_eq] at h
      split at h
      · rw [task] at h
        exact h
      · exact Program.Ends.send (Offer.outcome_cases _) h
    | .running (.setTrailer trailer next) =>
      simp only [step, stepHandler, task, Duplex.setTrailer_eq] at h
      exact Program.Ends.setTrailer h
    | .completing told =>
      simp only [step, stepHandler, task] at h
      split at h
      · rw [task] at h
        exact h
      · exact h
    | .over told =>
      simp only [step, stepHandler, task] at h
      exact h

theorem ends_run {report : ρ} (turns : List Turn)
    (h : (s.run turns).task.Ends (s.run turns).call.inbound report) :
    s.task.Ends s.call.inbound report := by
  induction turns generalizing s with
  | nil => exact h
  | cons t turns ih => exact ends_step t (ih h)

theorem ends_desert (s : Session In Out ρ) : s.task.Ends s.call.inbound s.desert.report := by
  unfold desert
  match s.task with
  | .running p => exact p.ends_playOut s.call.hangUp s.received
  | .completing report | .over report => exact rfl

/-- Nothing was logged but that the client has left. -/
def Quiet (s : Session In Out ρ) : Prop := ∀ n ∈ s.notices, n = .clientGone

theorem Quiet.append (h : s.Quiet) {notices : List Notice}
    (more : ∀ n ∈ notices, n = .clientGone) : ∀ n ∈ s.notices ++ notices, n = .clientGone := by
  intro n mem
  rcases List.mem_append.1 mem with mem | mem
  · exact h n mem
  · exact more n mem

theorem Quiet.step (h : s.Quiet) (t : Turn) : (s.step t).Quiet := by
  have offered : ∀ o : Offer, ∀ n ∈ o.notices, n = .clientGone := by
    rintro (_ | _ | _) <;> simp [Offer.notices]
  cases t with
  | client =>
    unfold Quiet
    rw [s.step_client.2]
    exact h
  | handler =>
    simp only [Session.step, stepHandler]
    split
    · exact h.append (offered _)
    · exact h
    · split <;> exact h
    · exact h
    · split
      · exact h
      · next o call _ _ =>
        cases o with
        | none => exact h.append (by simp)
        | some o => exact h.append (offered o)
    · exact h

theorem Quiet.run (h : s.Quiet) (turns : List Turn) : (s.run turns).Quiet := by
  induction turns generalizing s with
  | nil => exact h
  | cons t turns ih => exact ih (h.step t)

theorem Quiet.desert (h : s.Quiet) : ∀ n ∈ s.desert.notices, n = .clientGone := by
  unfold Session.desert
  match s.task with
  | .running p => exact h.append (p.notices_playOut _ _)
  | .completing report =>
    refine h.append ?_
    rcases s.call.hangUp.resume with ⟨_ | _ | _ | _, call⟩ <;> simp [Offer.notices]
  | .over report => exact h

/-- Two sessions that are alike but for what the handler does not heed. -/
structure Alike (view : Except Status (Option In) → β) (s s' : Session In Out ρ) : Prop where
  heeds : ∀ p, s.task = .running p → p.Heeds view
  call : ∃ stream : ServerStream In, stream.Alike view s.call.stream ∧
    s' = { s with call := { s.call with stream } }

namespace Alike

variable {view : Except Status (Option In) → β}

theorem step_client (h : Alike view s s') : Alike view (s.step .client) (s'.step .client) := by
  obtain ⟨heeds, stream, alike, rfl⟩ := h
  refine ⟨s.step_client.1.symm ▸ heeds, stream, s.stream_step_client.symm ▸ alike, ?_⟩
  simp only [Session.step, Session.stepClient, Duplex.next_frame]
  split
  · rcases s.call.next with ⟨_ | _ | _, call⟩ <;> rfl
  · rfl

theorem step_handler (h : Alike view s s') : Alike view (s.step .handler) (s'.step .handler) := by
  obtain ⟨heeds, stream, alike, rfl⟩ := h
  obtain ⟨task, d, received, ended, notices⟩ := s
  match task with
  | .over report =>
    refine ⟨?_, stream, alike, rfl⟩
    rintro _ ⟨⟩
  | .completing report =>
    simp only [Session.step, Session.stepHandler, Duplex.resume]
    rcases d.outbox.resume with ⟨_ | _ | _ | _, outbox⟩
    all_goals
      refine ⟨?_, stream, alike, rfl⟩
      rintro _ ⟨⟩
  | .running p =>
    have heeds := heeds p rfl
    cases heeds with
    | @done result report =>
      have detached : ({ d with stream } : Duplex In Out).detach = { d.detach with stream } := rfl
      simp only [Session.step, Session.stepHandler, detached, Duplex.finish_frame]
      refine ⟨?_, stream, (d.detach.stream_finish result).symm ▸ alike, rfl⟩
      intro p running
      split at running <;> cases running
    | @recv next blind rest =>
      simp only [Session.step, Session.stepHandler, Duplex.recv_eq]
      rw [show hearing (Duplex.inbound { d with stream }) 0 = hearing stream.inbound 0 from rfl,
        blind _ (hearing d.inbound 0) (alike 0)]
      refine ⟨?_, stream.rest, alike.rest, rfl⟩
      rintro _ ⟨⟩
      exact rest _
    | @send m next rest =>
      obtain ⟨-, -, offered⟩ | ⟨-, -, offered⟩ | ⟨-, offered⟩ := d.outbox.offer_cases (.ok m)
      all_goals
        simp only [Session.step, Session.stepHandler, Duplex.send_eq, offered]
        refine ⟨?_, stream, alike, rfl⟩
        rintro _ ⟨⟩
      · exact rest _
      · exact .send rest
      · exact rest _
    | @setTrailer t next rest =>
      simp only [Session.step, Session.stepHandler, Duplex.setTrailer_eq]
      refine ⟨?_, stream, alike, rfl⟩
      rintro _ ⟨⟩
      exact rest

theorem run (h : Alike view s s') (turns : List Turn) : Alike view (s.run turns) (s'.run turns) := by
  induction turns generalizing s s' with
  | nil => exact h
  | cons t turns ih =>
    cases t with
    | client => exact ih h.step_client
    | handler => exact ih h.step_handler

theorem desert (h : Alike view s s') : ∃ call, s'.desert = { s.desert with call } := by
  obtain ⟨heeds, stream, alike, rfl⟩ := h
  obtain ⟨task, d, received, ended, notices⟩ := s
  match task with
  | .over report | .completing report => exact ⟨_, rfl⟩
  | .running p =>
    obtain ⟨call, played⟩ := p.playOut_alike (heeds p rfl) (d := d.hangUp) alike received
    have hung : Duplex.hangUp { d with stream } = { d.hangUp with stream } := rfl
    refine ⟨call, ?_⟩
    simp only [Session.desert, hung, played]

end Alike
end Session

namespace Accepted

/-- Whatever its client does, a handler ends with a report that it can end with. -/
theorem ends_playFor (a : Accepted In Out ρ) (client : Client) :
    a.program.Ends a.call.inbound (a.playFor client).report := by
  cases client with
  | reads => exact a.program.ends_playOut a.call []
  | leaves turns => exact Session.ends_run (s := a.session) turns (a.session.run turns).ends_desert

theorem notices_playFor (a : Accepted In Out ρ) (client : Client) :
    ∀ n ∈ (a.playFor client).notices, n = .clientGone := by
  cases client with
  | reads => exact a.program.notices_playOut _ _
  | leaves turns =>
    have quiet : a.session.Quiet := nofun
    exact (quiet.run turns).desert

/-- How a call goes does not depend on what its handler does not heed. -/
theorem playFor_alike {view : Except Status (Option In) → β} {p : Program In Out ρ}
    (heeds : p.Heeds view) {d : Duplex In Out} {stream : ServerStream In}
    (alike : stream.Alike view d.stream) (client : Client) :
    ∃ call, (Accepted.mk p { d with stream }).playFor client =
      { (Accepted.mk p d).playFor client with call } := by
  cases client with
  | reads => exact p.playOut_alike heeds alike []
  | leaves turns =>
    have sessions : Session.Alike view (Accepted.mk p d).session
        (Accepted.mk p { d with stream }).session :=
      ⟨by rintro _ ⟨⟩; exact heeds, stream, alike, rfl⟩
    exact (sessions.run turns).desert

end Accepted

section Silent

/-- A handler that has ended the call without a word, or is about to. -/
structure Session.Silent (s : Session In Out ρ) : Prop where
  task : (∃ result report, s.task = .running (.done result report) ∧
    terminal? s.call.trailer result = none) ∨ ∃ report, s.task = .over report
  notices : s.notices = []

theorem Duplex.trailer_relieve (d : Duplex In Out) : d.relieve.2.trailer = d.trailer := by
  unfold relieve
  split
  · exact d.trailer_next
  · rfl

theorem Duplex.conclude_silent {d : Duplex In Out} {result : Except Status Unit}
    (silent : terminal? d.trailer result = none) : (d.conclude result).2.1 = [] := by
  have silent : terminal? d.detach.relieve.2.trailer result = none := by
    rw [trailer_relieve]
    exact silent
  simp only [conclude, finish_of_silent silent]
  rfl

theorem Session.Silent.step {s : Session In Out ρ} (h : s.Silent) (t : Turn) : (s.step t).Silent := by
  cases t with
  | client =>
    obtain ⟨task, notices⟩ := s.step_client
    refine ⟨?_, notices.trans h.notices⟩
    rw [task, s.trailer_step_client]
    exact h.task
  | handler =>
    rcases h.task with ⟨result, report, task, silent⟩ | ⟨report, task⟩
    · have silent : terminal? s.call.detach.trailer result = none := silent
      simp only [Session.step, stepHandler, task, Duplex.finish_of_silent silent]
      exact ⟨.inr ⟨report, rfl⟩, by simp [h.notices, Offer.notices]⟩
    · simp only [Session.step, stepHandler, task]
      exact h

theorem Session.Silent.run {s : Session In Out ρ} (h : s.Silent) (turns : List Turn) :
    (s.run turns).Silent := by
  induction turns generalizing s with
  | nil => exact h
  | cons t turns ih => exact ih (h.step t)

/-- A handler that ends the call without a word is not told that its client has left. -/
theorem Accepted.notices_playFor_silent {result : Except Status Unit} {report : ρ} {d : Duplex In Out}
    (silent : terminal? d.trailer result = none) (client : Client) :
    ((Accepted.mk (.done result report) d).playFor client).notices = [] := by
  cases client with
  | reads => exact Duplex.conclude_silent silent
  | leaves turns =>
    have silent : (Accepted.mk (.done result report) d).session.Silent :=
      ⟨.inl ⟨result, report, rfl, silent⟩, rfl⟩
    obtain ⟨⟨result', report', task, quiet⟩ | ⟨report', task⟩, notices⟩ := silent.run turns
    · have quiet : terminal? ((Accepted.mk (.done result report) d).session.run turns).call.hangUp.trailer
          result' = none := quiet
      simp only [playFor, playDeserted, Session.desert, task, Program.playOut,
        Duplex.conclude_silent quiet, notices]
      rfl
    · simp only [playFor, playDeserted, Session.desert, task, notices]

end Silent

section Retold

variable {τ : Type} (f : ρ → τ)

/-- A handler that does the same and reports something else. -/
def Program.retold : Program In Out ρ → Program In Out τ
  | .done result report => .done result (f report)
  | .recv next => .recv fun a => (next a).retold
  | .send m next => .send m fun a => (next a).retold
  | .setTrailer t next => .setTrailer t next.retold

def Task.retold : Task In Out ρ → Task In Out τ
  | .running p => .running (p.retold f)
  | .completing report => .completing (f report)
  | .over report => .over (f report)

def Session.retold (s : Session In Out ρ) : Session In Out τ := { s with task := s.task.retold f }

def Finished.retold (e : Finished In Out ρ) : Finished In Out τ := { e with report := f e.report }

theorem Program.playOut_retold (p : Program In Out ρ) (d : Duplex In Out) (received : List (Item Out)) :
    (p.retold f).playOut d received = (p.playOut d received).retold f := by
  induction p generalizing d received with
  | done result report => rfl
  | recv next ih => exact ih _ _ _
  | send m next ih => exact ih _ _ _
  | setTrailer t next ih => exact ih _ _

theorem Session.step_retold (s : Session In Out ρ) (t : Turn) :
    (s.retold f).step t = (s.step t).retold f := by
  obtain ⟨task, d, received, ended, notices⟩ := s
  cases t with
  | client =>
    cases reading : d.outbox.reading with
    | true =>
      simp only [step, stepClient, retold, reading, ↓reduceIte]
      rcases d.next with ⟨_ | _ | _, call⟩ <;> rfl
    | false => simp [step, stepClient, retold, reading]
  | handler =>
    match task with
    | .running (.done result report) =>
      by_cases full : (d.detach.finish result).1 = .full
      all_goals simp [step, stepHandler, retold, Task.retold, Program.retold, full]
    | .running (.send m next) =>
      by_cases full : (d.send m).1 = .full
      all_goals simp [step, stepHandler, retold, Task.retold, Program.retold, full]
    | .completing report =>
      simp only [step, stepHandler, retold, Task.retold]
      rcases d.resume with ⟨_ | _ | _ | _, call⟩ <;> rfl
    | .running (.recv next) | .running (.setTrailer trailer next) | .over report => rfl

theorem Session.run_retold (s : Session In Out ρ) (turns : List Turn) :
    (s.retold f).run turns = (s.run turns).retold f := by
  induction turns generalizing s with
  | nil => rfl
  | cons t turns ih =>
    show ((s.retold f).step t).run turns = _
    rw [step_retold, ih]
    rfl

theorem Session.desert_retold (s : Session In Out ρ) : (s.retold f).desert = s.desert.retold f := by
  obtain ⟨task, d, received, ended, notices⟩ := s
  match task with
  | .running p =>
    simp only [desert, retold, Task.retold, p.playOut_retold]
    rfl
  | .completing report | .over report => rfl

/-- How a call goes does not depend on what its handler reports. -/
theorem Accepted.playFor_retold (p : Program In Out ρ) (d : Duplex In Out) (client : Client) :
    (Accepted.mk (p.retold f) d).playFor client = ((Accepted.mk p d).playFor client).retold f := by
  cases client with
  | reads => exact p.playOut_retold f d []
  | leaves turns =>
    show (((Accepted.mk p d).session.retold f).run turns).desert = _
    rw [Session.run_retold, Session.desert_retold]
    rfl

end Retold
end Streaming

namespace Handshake

open Streaming

variable {ρ : Type}

/-- What an exchange can have read and sent by its end, with the report it ends with. It reads the
payloads of what is inbound, in order; whether the client is there for its sends is left open. -/
inductive Runs : Exchange ρ → List (Except Status Message) → Trace → ρ → Prop
  | done {result : Except Status Unit} {report : ρ} {inbound : List (Except Status Message)} :
      Runs (.done result report) inbound [] report
  | read {next : Except Failure Bytes → Exchange ρ} {inbound : List (Except Status Message)}
      {events : Trace} {report : ρ}
      (rest : Runs (next (payloadOf (hearing inbound 0))) inbound.tail events report) :
      Runs (.read next) inbound (.read (payloadOf (hearing inbound 0)) :: events) report
  | send {payload : Bytes} {next : Except Failure Unit → Exchange ρ}
      {inbound : List (Except Status Message)} {outcome : Except Status Unit} {events : Trace}
      {report : ρ} (told : outcome = .ok () ∨ outcome = .error clientLeft)
      (rest : Runs (next (deliveryOf outcome)) inbound events report) :
      Runs (.send payload next) inbound (.sent payload (deliveryOf outcome) :: events) report

/-- A handler that exchanges ends with a report of what the exchange read and sent. -/
theorem runs_of_ends {x : Exchange ρ} {before : Trace} {inbound : List (Except Status Message)}
    {report : ρ × Trace} (h : (handlerOf x before).Ends inbound report) :
    ∃ exchanged, report.2 = before ++ exchanged ∧ Runs x inbound exchanged report.1 := by
  -- What happened before grows by one event a step.
  induction x generalizing before inbound with
  | done result told =>
    cases h
    exact ⟨[], (List.append_nil before).symm, .done⟩
  | read next ih =>
    cases h with
    | recv rest =>
      obtain ⟨exchanged, events, runs⟩ := ih _ rest
      exact ⟨_ :: exchanged, events.trans (List.append_assoc ..), .read runs⟩
  | send payload next ih =>
    cases h with
    | send told rest =>
      obtain ⟨exchanged, events, runs⟩ := ih _ rest
      exact ⟨_ :: exchanged, events.trans (List.append_assoc ..), .send told runs⟩

/-- Whatever its client does, a handshake is one run of the authenticator's exchange. -/
theorem report_authenticated {σ : Type} (a : Authenticator σ) (s : σ) (d : Duplex Message Message)
    (client : Client) :
    let report := ((Accepted.mk (handler (some a) s) d).playFor client).report
    ∃ exchanged, report.2 = .authenticating :: exchanged ∧
      Runs (a.authenticate s) d.inbound exchanged report.1 :=
  runs_of_ends ((Accepted.mk (handler (some a) s) d).ends_playFor client)

/-- Without an authenticator nothing is exchanged. -/
theorem report_unauthenticated {σ : Type} (s : σ) (d : Duplex Message Message) (client : Client) :
    ((Accepted.mk (handler none s) d).playFor client).report = (s, []) := by
  have ends := (Accepted.mk (handler none s) d).ends_playFor client
  generalize ((Accepted.mk (handler none s) d).playFor client).report = report at ends ⊢
  cases ends
  rfl

end Handshake
end CallGate
