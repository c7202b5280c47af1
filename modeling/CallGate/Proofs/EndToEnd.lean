import CallGate.Proofs.Interleaving
import CallGate.Proofs.Visits
import CallGate.Script

/-! A streaming call from end to end. Every turn that comes to anything brings the end nearer, and until
the client sees it one of the two has something to do; so if both keep taking turns the client reads all
of the script. -/

namespace CallGate.Streaming

variable {In Out ρ : Type}

/-- No fewer than the turns that a handler and what it sends still take, apart from those that come
to nothing. -/
def Program.rank : Program In Out ρ → List (Except Status In) → Nat
  | .done .., _ => 3
  | .recv next, inbound => (next (hearing inbound 0)).rank inbound.tail + 1
  | .send _ next, inbound => (next (.ok ())).rank inbound + 2
  | .setTrailer _ next, inbound => next.rank inbound + 1

def Task.rank : Task In Out ρ → List (Except Status In) → Nat
  | .running p, inbound => p.rank inbound
  | .completing _, _ => 2
  | .over _, _ => 0

/-- Each of the two takes a turn again and again. -/
def Fair (schedule : Nat → Turn) : Prop := ∀ t n, ∃ u ≥ n, schedule u = t

namespace Session

def rank (s : Session In Out ρ) : Nat :=
  s.task.rank s.call.inbound + s.call.outbox.queue.length + if s.ended then 0 else 1

variable {s : Session In Out ρ}

/-- A turn that comes to anything brings the end nearer. -/
theorem Sound.rank_step (h : s.Sound) (t : Turn) :
    (s.Stuck t ∧ s.step t = s) ∨ (s.step t).rank < s.rank := by
  have move := h.step_move t
  generalize s.deed? t = deed, s.step t = s' at move ⊢
  cases move with
  | stalled stuck => exact .inl ⟨stuck, rfl⟩
  | ended task empty =>
    by_cases ended : s.ended = true
    · exact .inl ⟨.through ended, by rw [← ended]⟩
    · refine .inr ?_
      simp [rank, ended]
  | heard task =>
    refine .inr ?_
    simp only [rank, task, Task.rank, Program.rank, Duplex.inbound_advance]
    simp only [Duplex.advance]
    omega
  | sent task | trailed task | closed task | told task | held task | resumed task =>
    refine .inr ?_
    simp only [rank, task, Task.rank, Program.rank, Duplex.inbound, Duplex.push, Duplex.closed,
      List.length_append, List.length_singleton]
    omega
  | read queue =>
    refine .inr ?_
    simp [rank, Duplex.inbound, queue, Outbox.take_of_cons queue]

/-- Until the client has seen the end, one of the two has something to do. -/
theorem Sound.exists_free (h : s.Sound) (listening : ¬ s.ended = true) : ∃ t, ¬ s.Stuck t := by
  by_cases empty : s.call.outbox.queue = []
  · by_cases busy : ∀ report, s.task ≠ .over report
    · refine ⟨.handler, fun stuck => ?_⟩
      have fits := h.task
      cases stuck with
      | crowded task full =>
        rw [task] at fits
        rw [h.outbox.used_of_clear fits.2, empty] at full
        simp [capacity] at full
      | unpromised task unpromised =>
        rw [task] at fits
        have full := h.outbox.blocked fits.2.2 unpromised h.reading
        simp [empty, capacity] at full
      | idle task => exact busy _ task
    · refine ⟨.client, fun stuck => ?_⟩
      cases stuck with
      | starved _ busy' => exact busy busy'
      | through ended => exact listening ended
  · refine ⟨.client, fun stuck => ?_⟩
    cases stuck with
    | starved empty' => exact empty empty'
    | through ended => exact listening ended

/-- What the first `n` turns of a schedule make of a session. -/
def upTo (s : Session In Out ρ) (schedule : Nat → Turn) (n : Nat) : Session In Out ρ :=
  s.run ((List.range n).map schedule)

theorem upTo_succ (s : Session In Out ρ) (schedule : Nat → Turn) (n : Nat) :
    s.upTo schedule (n + 1) = (s.upTo schedule n).step (schedule n) := by
  rw [upTo, List.range_succ, List.map_append, run_append]
  rfl

theorem Sound.upTo (h : s.Sound) (schedule : Nat → Turn) (n : Nat) : (s.upTo schedule n).Sound :=
  h.run _

/-- Later on in a schedule nothing has changed, or the end is nearer. -/
theorem Sound.upTo_or (h : s.Sound) (schedule : Nat → Turn) {n u : Nat} (later : n ≤ u) :
    s.upTo schedule u = s.upTo schedule n ∨ (s.upTo schedule u).rank < (s.upTo schedule n).rank := by
  induction later with
  | refl => exact .inl rfl
  | @step u later ih =>
    rw [upTo_succ]
    obtain ⟨-, same⟩ | nearer := (h.upTo schedule u).rank_step (schedule u)
    · rw [same]
      exact ih
    · obtain same | nearer' := ih
      · exact .inr (same ▸ nearer)
      · exact .inr (Nat.lt_trans nearer nearer')

/-- In a fair schedule the end comes nearer until the client has seen it. -/
theorem Sound.exists_nearer (h : s.Sound) {schedule : Nat → Turn} (fair : Fair schedule) (n : Nat)
    (listening : ¬ (s.upTo schedule n).ended = true) :
    ∃ u ≥ n, (s.upTo schedule u).rank < (s.upTo schedule n).rank := by
  obtain ⟨t, free⟩ := (h.upTo schedule n).exists_free listening
  obtain ⟨u, later, turn⟩ := fair t n
  obtain same | nearer := h.upTo_or schedule later
  · -- Nothing has changed by the time `t` has its turn, and in that turn it has something to do.
    obtain ⟨stuck, -⟩ | nearer := (h.upTo schedule u).rank_step (schedule u)
    · rw [same, turn] at stuck
      exact absurd stuck free
    · rw [← upTo_succ, same] at nearer
      exact ⟨u + 1, by omega, nearer⟩
  · exact ⟨u, later, nearer⟩

theorem Sound.exists_ended (h : s.Sound) {schedule : Nat → Turn} (fair : Fair schedule) (n : Nat) :
    ∃ u ≥ n, (s.upTo schedule u).ended = true := by
  induction rank : (s.upTo schedule n).rank using Nat.strongRecOn generalizing n with
  | ind k ih =>
    by_cases ended : (s.upTo schedule n).ended = true
    · exact ⟨n, Nat.le_refl n, ended⟩
    · obtain ⟨u, later, nearer⟩ := h.exists_nearer fair n ended
      rw [rank] at nearer
      obtain ⟨v, later', ended⟩ := ih _ nearer u rfl
      exact ⟨v, Nat.le_trans later later', ended⟩

end Session

/-- A buffer that is read from and that nothing waits for. -/
structure Outbox.Clear {α : Type} (b : Outbox α) : Prop where
  sound : b.Sound
  reading : b.reading = true
  clear : b.waiting = none

theorem Outbox.Clear.append {α : Type} {b : Outbox α} (h : b.Clear) (room : b.used < capacity) (a : α) :
    Outbox.Clear { b with queue := b.queue ++ [a] } :=
  ⟨h.sound.append h.reading room a, h.reading, h.clear⟩

theorem Outbox.Clear.take {α : Type} {b : Outbox α} (h : b.Clear) : b.take.2.Clear :=
  ⟨h.sound.take, by simp [h.reading], by simp [h.clear]⟩

namespace Duplex

variable {d : Duplex In Out}

/-- A client that reads if the buffer is full makes room in it. -/
theorem relieve_room (h : d.outbox.Clear) : ∃ b : Outbox (Item Out), b.Clear ∧ b.used < capacity ∧
    d.relieve.2 = { d with outbox := b } ∧ d.relieve.1 ++ b.queue = d.outbox.queue := by
  by_cases full : capacity ≤ d.outbox.used
  · have relieved : d.relieve = (d.next.1.item?.toList, d.next.2) := by
      simp [relieve, h.reading, full]
    have fits := h.sound.fits
    rw [h.sound.used_of_clear h.clear] at full fits
    cases queue : d.outbox.queue with
    | nil => simp [queue, capacity] at full
    | cons i rest =>
      have clear := h.take
      have used := clear.sound.used_of_clear clear.clear
      rw [relieved, next_of_cons queue]
      rw [Outbox.take_of_cons queue] at clear used ⊢
      refine ⟨_, clear, ?_, rfl, rfl⟩
      rw [used]
      simp only [queue, List.length_cons] at fits
      exact fits
  · refine ⟨d.outbox, h, by omega, ?_, ?_⟩
    all_goals simp [relieve, full]

/-- A client that reads on reads what the buffer holds. -/
theorem filterMap_drain (d : Duplex In Out) :
    d.drain.1.filterMap Reading.item? = d.outbox.queue := by
  unfold drain
  induction queue : d.outbox.queue generalizing d with
  | nil =>
    simp only [List.length_nil, nexts, next_of_nil queue]
    cases d.hasSender <;> rfl
  | cons i rest ih =>
    have left : d.outbox.take.2.queue = rest := by rw [Outbox.take_of_cons queue]
    have read := ih { d with outbox := d.outbox.take.2 } left
    rw [List.length_cons, nexts, next_of_cons queue]
    simp only [List.filterMap_cons, Reading.item?, read]

/-- A call that ends with room in its buffer leaves the status of its result there. -/
theorem finish_room (reading : d.outbox.reading = true) (room : d.outbox.used < capacity)
    (result : Except Status Unit) : (d.finish result).1 = .accepted ∧
      (d.finish result).2.outbox.queue =
        d.outbox.queue ++ ((terminal? d.trailer result).map .error).toList := by
  cases terminal : terminal? d.trailer result with
  | none =>
    rw [finish_of_silent terminal]
    exact ⟨rfl, (List.append_nil _).symm⟩
  | some status =>
    rw [finish_of_terminal terminal, Outbox.await, Outbox.offer_of_room reading room]
    exact ⟨rfl, rfl⟩

/-- A call that ends with nothing in its way ends with the status of its result. -/
theorem conclude_read (h : d.outbox.Clear) (result : Except Status Unit) :
    (d.conclude result).1 = d.outbox.queue ++ ((terminal? d.trailer result).map .error).toList := by
  have clear : d.detach.outbox.Clear := h
  obtain ⟨b, clear, room, relieved, all⟩ := relieve_room clear
  have all : d.detach.relieve.1 ++ b.queue = d.outbox.queue := all
  have finished : (d.detach.relieve.2.finish result).2.outbox.queue =
      b.queue ++ ((terminal? d.trailer result).map .error).toList := by
    rw [relieved]
    exact (finish_room (d := { d.detach with outbox := b }) clear.reading room result).2
  simp only [conclude, filterMap_drain, finished]
  rw [← List.append_assoc, all]

theorem conclude_quiet (h : d.outbox.Clear) (result : Except Status Unit) :
    (d.conclude result).2.1 = [] := by
  have clear : d.detach.outbox.Clear := h
  obtain ⟨b, clear, room, relieved, -⟩ := relieve_room clear
  have finished : (d.detach.relieve.2.finish result).1 = .accepted := by
    rw [relieved]
    exact (finish_room (d := { d.detach with outbox := b }) clear.reading room result).1
  simp only [conclude, finished, Offer.notices]

/-- A client that has left reads nothing more. -/
theorem relieve_deserted (left : d.outbox.reading = false) : d.relieve = ([], d) := by
  simp [relieve, left]

theorem conclude_deserted (left : d.outbox.reading = false) (lost : d.outbox.queue = [])
    (result : Except Status Unit) : (d.conclude result).1 = [] := by
  have left : d.detach.outbox.reading = false := left
  have finished : (d.detach.finish result).2.outbox = d.outbox := by
    cases terminal : terminal? d.detach.trailer result with
    | none => rw [finish_of_silent terminal]; rfl
    | some status =>
      rw [finish_of_terminal terminal, Outbox.await, Outbox.offer_of_closed left]
      rfl
  simp only [conclude, relieve_deserted left, filterMap_drain, finished, lost,
    List.append_nil]

end Duplex

/-- A program that is played out has its client read all of its script. -/
theorem Program.received_playOut (p : Program In Out ρ) {d : Duplex In Out} (h : d.outbox.Clear)
    (received : List (Item Out)) :
    (p.playOut d received).received = received ++ d.outbox.queue ++ p.script d := by
  induction p generalizing d received with
  | done result report =>
    simp only [playOut, Duplex.conclude_read h, script_done, List.append_assoc]
  | recv next ih =>
    simp only [playOut, Duplex.recv_eq, script_recv]
    exact ih _ (d := d.advance) h received
  | send m next ih =>
    obtain ⟨b, clear, room, relieved, all⟩ := Duplex.relieve_room h
    simp only [playOut, relieved, Duplex.send_eq, Outbox.offer_of_room clear.reading room,
      Offer.outcome]
    rw [ih _ (clear.append room _), script_send, ← all]
    simp
    rfl
  | setTrailer t next ih =>
    simp only [playOut, Duplex.setTrailer_eq, script_setTrailer]
    exact ih (d := { d with trailer := d.trailer.replace t }) h received

/-- A client that reads to the end is not found gone. -/
theorem Program.quiet_playOut (p : Program In Out ρ) {d : Duplex In Out} (h : d.outbox.Clear)
    (received : List (Item Out)) : (p.playOut d received).notices = [] := by
  induction p generalizing d received with
  | done result report => exact Duplex.conclude_quiet h result
  | recv next ih =>
    simp only [playOut, Duplex.recv_eq]
    exact ih _ (d := d.advance) h received
  | send m next ih =>
    obtain ⟨b, clear, room, relieved, -⟩ := Duplex.relieve_room h
    simp only [playOut, relieved, Duplex.send_eq, Outbox.offer_of_room clear.reading room]
    exact ih _ (clear.append room _) _
  | setTrailer t next ih =>
    simp only [playOut, Duplex.setTrailer_eq]
    exact ih (d := { d with trailer := d.trailer.replace t }) h received

theorem Program.received_playOut_deserted (p : Program In Out ρ) {d : Duplex In Out}
    (left : d.outbox.reading = false) (lost : d.outbox.queue = []) (received : List (Item Out)) :
    (p.playOut d received).received = received := by
  induction p generalizing d received with
  | done result report =>
    simp only [playOut, Duplex.conclude_deserted left lost, List.append_nil]
  | recv next ih =>
    simp only [playOut, Duplex.recv_eq]
    exact ih _ (d := d.advance) left lost received
  | send m next ih =>
    simp only [playOut, Duplex.relieve_deserted left, Duplex.send_eq, Outbox.offer_of_closed left,
      List.append_nil]
    exact ih _ left lost received
  | setTrailer t next ih =>
    simp only [playOut, Duplex.setTrailer_eq]
    exact ih (d := { d with trailer := d.trailer.replace t }) left lost received

theorem Session.received_desert (s : Session In Out ρ) : s.desert.received = s.received := by
  unfold desert
  match s.task with
  | .running p => exact p.received_playOut_deserted (d := s.call.hangUp) rfl rfl s.received
  | .completing report | .over report => rfl

/-- A call of which nothing was used yet. -/
structure Duplex.Fresh (d : Duplex In Out) (inbound : List (Except Status In)) : Prop where
  inbound : d.inbound = inbound
  attached : d.attached = true
  outbox : d.outbox = {}

namespace Accepted

/-- The messages that the handler of a call sends, and then the status that its result ends it
with. -/
def script (a : Accepted In Out ρ) : List (Item Out) := a.program.script a.call

/-- What a handler hears and what a client that keeps listening reads, whichever of them takes which
turn. -/
structure EndToEnd (a : Accepted In Out ρ) (inbound : List (Except Status In)) : Prop where
  heard : ∀ turns n answer, (a.session.answers turns)[n]? = some answer → answer = hearing inbound n
  read : ∀ turns, (a.session.run turns).received <+: a.session.produced turns
  produced : ∀ turns, a.session.produced turns <+: a.script
  whole : ∀ turns, (a.session.run turns).ended = true → (a.session.run turns).received = a.script
  ends : ∀ schedule, Fair schedule → ∃ n, (a.session.upTo schedule n).ended = true
  /-- A client that reads only when the buffer is full, and on to the end once the handler is
  through, is one such client. -/
  played : a.playOut.received = a.script
  /-- A client that leaves has read what it had read by then. -/
  left : ∀ turns, (a.playDeserted turns).received = (a.session.run turns).received

theorem endToEnd {a : Accepted In Out ρ} {inbound : List (Except Status In)}
    (fresh : a.call.Fresh inbound) : a.EndToEnd inbound := by
  obtain ⟨kept, attached, fresh⟩ := fresh
  have clear : a.call.outbox.Clear := by
    rw [fresh]
    exact ⟨.initial, rfl, rfl⟩
  have sound : a.session.Sound := ⟨clear.sound, clear.reading, ⟨attached, clear.clear⟩, nofun⟩
  have unread : a.session.carried = [] := by simp [Session.carried, session, fresh]
  have total : a.session.total = a.script := by
    rw [Session.total, unread]
    rfl
  constructor
  · intro turns n answer answered
    rw [← kept]
    exact sound.answers_run turns n answered
  · intro turns
    have carried := sound.carried_run turns
    rw [unread, List.nil_append, Session.carried, List.append_assoc] at carried
    exact ⟨_, carried⟩
  · intro turns
    exact ⟨_, sound.produced_run turns⟩
  · intro turns ended
    rw [← (sound.run turns).total_of_ended ended, sound.total_run, total]
  · intro schedule fair
    obtain ⟨n, -, ended⟩ := sound.exists_ended fair 0
    exact ⟨n, ended⟩
  · rw [playOut, Program.received_playOut _ clear, fresh]
    rfl
  · intro turns
    exact (a.session.run turns).received_desert

/-- Whatever its client does, it reads the beginning of what there is to be read. -/
theorem EndToEnd.playFor {a : Accepted In Out ρ} {inbound : List (Except Status In)}
    (h : a.EndToEnd inbound) (client : Client) : (a.playFor client).received <+: a.script := by
  cases client with
  | reads => exact h.played ▸ List.prefix_rfl
  | leaves turns =>
    rw [Accepted.playFor, h.left]
    exact (h.read turns).trans (h.produced turns)

end Accepted
end CallGate.Streaming

namespace CallGate

open Streaming

variable {σ In Out ρ : Type}

theorem Verdict.shown_opened {v : Verdict} {c : Context} {m : Metadata}
    {inbound : List (Except Status In)} (granted : v.grant (.root m) = .ok c) :
    (v.opened (.receive m inbound : Duplex In Out)).shown = c := by
  cases v with
  | pass trailer => cases trailer <;> cases granted <;> rfl
  | identify i => cases granted; rfl
  | reject status => cases granted

theorem Verdict.opened_fresh (v : Verdict) (m : Metadata) (inbound : List (Except Status In)) :
    (v.opened (.receive m inbound : Duplex In Out)).Fresh inbound := by
  match v with
  | .pass none | .pass (some _) | .identify _ | .reject _ => exact ⟨rfl, rfl, rfl⟩

/-- In a call that was let in, the handler hears all that is inbound and the client reads all that
the handler sends, in order and to the end, whatever turns the two take. -/
theorem Gate.serveStreaming_endToEnd (g : Gate σ) (method : Method) (m : Metadata)
    (inbound : List (Except Status In)) (handler : Context → Program In Out ρ) (s : σ)
    {a : Accepted In Out ρ}
    (accepted : (g.serveStreaming method m inbound handler s).outcome = .ok a) :
    a.program = handler a.call.shown ∧ a.EndToEnd inbound := by
  cases granted : (g.decideCall .stream method m s).verdict.grant (.root m) with
  | error status =>
    rw [serveStreaming_refused (Verdict.grant_eq_error_iff.1 granted)] at accepted
    cases accepted
  | ok c =>
    rw [serveStreaming_granted granted] at accepted
    cases accepted
    refine ⟨?_, Accepted.endToEnd (Verdict.opened_fresh _ m inbound)⟩
    rw [Verdict.shown_opened granted]

/-- A client that reads once while its handler takes thirty turns. -/
def sluggish (n : Nat) : Turn := if n % 31 = 30 then .client else .handler

theorem sluggish_fair : Fair sluggish := by
  intro t n
  cases t with
  | handler => exact ⟨31 * n, by omega, by simp [sluggish]⟩
  | client => exact ⟨31 * n + 30, by omega, by simp [sluggish]⟩

/-- A streaming call of the one user of a gate. -/
def soloStream : Served Issued (Except Status (Accepted String String Script.Notes)) :=
  (soloGate "t").serveStreaming ⟨"/svc/Chat"⟩
    (.single BasicBearer.headerName (Bytes.ofText "Bearer t")) [.error clientLeft, .ok "a"]
    (fun c => Script.program
      (List.replicate 3 (.recv true) ++ List.replicate 20 (.send "m" true) ++ [.fail clientLeft]) c [])
    { bearer := [("t", "u")] }

/-- The handler hears the error and the message that are inbound and then their end. All that it sends
is more than the buffer holds, and a client that is much slower reads it to the end. -/
theorem serveStreaming_endToEnd_solo :
    ∃ a, soloStream.outcome = .ok a ∧ a.call.stream.layers.length = 1 ∧
      a.session.answers (List.replicate 3 .handler) =
        [.error clientLeft, .ok (some "a"), .ok none] ∧
      ∃ n, (a.session.upTo sluggish n).ended = true ∧
        (a.session.upTo sluggish n).received = List.replicate 20 (.ok "m") ++ [.error clientLeft] := by
  refine ⟨_, rfl, rfl, rfl, ?_⟩
  have accepted : soloStream.outcome = _ := rfl
  obtain ⟨-, ends⟩ := Gate.serveStreaming_endToEnd (soloGate "t") _ _ _ _ _ accepted
  obtain ⟨n, ended⟩ := ends.ends sluggish sluggish_fair
  exact ⟨n, ended, ends.whole _ ended⟩

end CallGate
