import CallGate.Streaming.Session

/-! A handler and a client that take turns at a call. All that the handler sends is known before: it is
what the handler would send to a stream in memory, its script. A turn hands over a piece of the script
or leaves everything as it is, so whatever turns the two take, what the client has read, what is on its
way and what is yet to come make up the script. -/

namespace CallGate.Streaming

variable {In Out ρ : Type}

/-- A stream in memory that shows and holds what a call does. -/
def Duplex.recording (d : Duplex In Out) : Recording In Out := { stream := d.stream }

namespace Program

/-- What a recording gets to hear of a program adds to what was recorded before. -/
theorem runOn_recorded (p : Program In Out ρ) (r : Recording In Out) (sent : List Out)
    (trailers : List Metadata) :
    p.runOn { r with sent := sent ++ r.sent, trailers := trailers ++ r.trailers } =
      ((p.runOn r).1, { (p.runOn r).2 with
        sent := sent ++ (p.runOn r).2.sent, trailers := trailers ++ (p.runOn r).2.trailers }) := by
  induction p generalizing r with
  | done result report => rfl
  | recv next ih =>
    simp only [runOn, Recording.recv_eq]
    exact ih _ r.advance
  | send m next ih =>
    obtain ⟨⟨sendFailure, _, _⟩, stream⟩ := r
    cases sendFailure with
    | some s =>
      simp only [runOn, Recording.send_eq]
      exact ih (.error s) ⟨⟨some s, _, _⟩, stream⟩
    | none =>
      simp only [runOn, Recording.send_eq, List.append_assoc]
      exact ih (.ok ()) ⟨⟨none, _ ++ [m], _⟩, stream⟩
  | setTrailer t next ih =>
    obtain ⟨⟨sendFailure, _, trailers'⟩, stream⟩ := r
    simp only [runOn, Recording.setTrailer_eq, List.append_assoc]
    exact ih ⟨⟨sendFailure, _, trailers' ++ [t]⟩, stream⟩

/-- The messages that a program sends on a call that nobody else takes part in, and then the status
that its result ends the call with. -/
def script (p : Program In Out ρ) (d : Duplex In Out) : List (Item Out) :=
  let r := (p.runOn d.recording).2
  r.sent.map .ok ++
    ((terminal? (r.trailers.foldl .replace d.trailer) (p.runOn d.recording).1.1).map .error).toList

section Script

variable (d : Duplex In Out)

theorem script_done (result : Except Status Unit) (report : ρ) :
    (done result report).script d = ((terminal? d.trailer result).map .error).toList := rfl

theorem script_recv (next : Except Status (Option In) → Program In Out ρ) :
    (recv next).script d =
      (next (hearing d.inbound 0)).script d.advance := by
  simp only [script, runOn, Recording.recv_eq]
  rfl

theorem script_send (m : Out) (next : Except Status Unit → Program In Out ρ) :
    (send m next).script d = .ok m :: (next (.ok ())).script d := by
  have grown := (next (.ok ())).runOn_recorded d.recording [m] []
  have ran : (send m next).runOn d.recording = _ :=
    Eq.trans (by simp only [runOn, Recording.send_eq]; rfl) grown
  simp only [script, ran]
  rfl

theorem script_setTrailer (t : Metadata) (next : Program In Out ρ) :
    (setTrailer t next).script d = next.script { d with trailer := d.trailer.replace t } := by
  have grown := next.runOn_recorded d.recording [] [t]
  have ran : (setTrailer t next).runOn d.recording = _ :=
    Eq.trans (by simp only [runOn, Recording.setTrailer_eq]; rfl) grown
  simp only [script, ran]
  rfl

end Script
end Program

/-- What a handler has done with a call. -/
inductive Deed (In Out : Type) where
  | heard (answer : Except Status (Option In))
  | sent (message : Out)
  /-- The handler is through, and this is what it ends the call with. -/
  | closed (status : Option Status)

def Deed.answer? : Deed In Out → Option (Except Status (Option In))
  | .heard a => some a
  | _ => none

/-- What is in a deed for the client. -/
def Deed.item? : Deed In Out → Option (Item Out)
  | .heard _ => none
  | .sent m => some (.ok m)
  | .closed status => status.map .error

/-- Puts an item at the end of the buffer. -/
def Duplex.push (d : Duplex In Out) (i : Item Out) : Duplex In Out :=
  { d with outbox := { d.outbox with queue := d.outbox.queue ++ [i] } }

/-- The call once its handler has returned and the completion handle was used. -/
def Duplex.closed (d : Duplex In Out) : Duplex In Out :=
  { d with attached := false, completable := false, trailer := {} }

/-- How a call stands while its handler is in the middle of it, waits to end it, or is through. -/
def Task.Fits : Task In Out ρ → Duplex In Out → Prop
  | .running _, d => d.attached = true ∧ d.outbox.waiting = none
  | .completing _, d =>
      d.attached = false ∧ d.completable = false ∧ d.outbox.waiting.isSome = true
  | .over _, d => d.attached = false ∧ d.completable = false ∧ d.outbox.waiting = none

theorem Task.Fits.hasSender {task : Task In Out ρ} {d : Duplex In Out} (h : task.Fits d) :
    d.hasSender = true ↔ ∀ report, task ≠ .over report := by
  rw [Duplex.hasSender]
  match task with
  | .running p => simp [h.1]
  | .completing report => simp [h.2.2]
  | .over report => simp [h.1, h.2.1, h.2.2]

theorem Task.Fits.read {task : Task In Out ρ} {d : Duplex In Out} (h : task.Fits d) :
    task.Fits { d with outbox := d.outbox.take.2 } := by
  cases task
  all_goals simpa [Task.Fits] using h

/-- What a handler sends from where it stands. -/
def Task.script : Task In Out ρ → Duplex In Out → List (Item Out)
  | .running p, d => p.script d
  | _, _ => []

theorem Task.script_outbox (task : Task In Out ρ) (d : Duplex In Out) (b : Outbox (Item Out)) :
    task.script { d with outbox := b } = task.script d := by
  cases task
  all_goals rfl

namespace Session

/-- What the handler does in a turn, as far as the other side can tell. A send that finds the buffer
full is not done yet. -/
def deed? (s : Session In Out ρ) : Turn → Option (Deed In Out)
  | .client => none
  | .handler => match s.task with
    | .running (.recv _) => some (.heard s.call.recv.1)
    | .running (.send m _) => if (s.call.send m).1 = .accepted then some (.sent m) else none
    | .running (.done result _) => some (.closed (terminal? s.call.trailer result))
    | _ => none

/-- What the handler does in its turns, in order. -/
def deeds (s : Session In Out ρ) : List Turn → List (Deed In Out)
  | [] => []
  | t :: turns => (s.deed? t).toList ++ (s.step t).deeds turns

/-- A client that listens to a call which stands as its handler left it. -/
structure Sound (s : Session In Out ρ) : Prop where
  outbox : s.call.outbox.Sound
  reading : s.call.outbox.reading = true
  task : s.task.Fits s.call
  ended : s.ended = true → (∃ report, s.task = .over report) ∧ s.call.outbox.queue = []

/-- Why a turn can come to nothing. -/
inductive Stuck (s : Session In Out ρ) : Turn → Prop where
  | crowded {p : Program In Out ρ} (task : s.task = .running p)
      (full : capacity ≤ s.call.outbox.used) : Stuck s .handler
  | unpromised {report : ρ} (task : s.task = .completing report)
      (promised : s.call.outbox.promised = false) : Stuck s .handler
  | idle {report : ρ} (task : s.task = .over report) : Stuck s .handler
  | starved (empty : s.call.outbox.queue = []) (busy : ∀ report, s.task ≠ .over report) :
      Stuck s .client
  | through (ended : s.ended = true) : Stuck s .client

/-- All that a turn can do. -/
inductive Move (s : Session In Out ρ) : Turn → Option (Deed In Out) → Session In Out ρ → Prop where
  | stalled {t : Turn} (stuck : s.Stuck t) : Move s t none s
  | heard {next : Except Status (Option In) → Program In Out ρ}
      (task : s.task = .running (.recv next)) :
      Move s .handler (some (.heard (hearing s.call.inbound 0)))
        { s with call := s.call.advance, task := .running (next (hearing s.call.inbound 0)) }
  | sent {m : Out} {next : Except Status Unit → Program In Out ρ}
      (task : s.task = .running (.send m next)) (room : s.call.outbox.used < capacity) :
      Move s .handler (some (.sent m))
        { s with call := s.call.push (.ok m), task := .running (next (.ok ())) }
  | trailed {t : Metadata} {next : Program In Out ρ} (task : s.task = .running (.setTrailer t next)) :
      Move s .handler none
        { s with call := { s.call with trailer := s.call.trailer.replace t }, task := .running next }
  | closed {result : Except Status Unit} {report : ρ} (task : s.task = .running (.done result report))
      (silent : terminal? s.call.trailer result = none) :
      Move s .handler (some (.closed none)) { s with call := s.call.closed, task := .over report }
  | told {result : Except Status Unit} {report : ρ} {status : Status}
      (task : s.task = .running (.done result report))
      (terminal : terminal? s.call.trailer result = some status)
      (room : s.call.outbox.used < capacity) :
      Move s .handler (some (.closed (some status)))
        { s with call := s.call.closed.push (.error status), task := .over report }
  | held {result : Except Status Unit} {report : ρ} {status : Status}
      (task : s.task = .running (.done result report))
      (terminal : terminal? s.call.trailer result = some status)
      (full : capacity ≤ s.call.outbox.used) :
      Move s .handler (some (.closed (some status)))
        { s with
          call := { s.call.closed with
            outbox := { s.call.outbox with waiting := some (.error status) } },
          task := .completing report }
  | resumed {report : ρ} {i : Item Out} (task : s.task = .completing report)
      (waiting : s.call.outbox.waiting = some i) (promised : s.call.outbox.promised = true) :
      Move s .handler none
        { s with
          call := { s.call with
            outbox := { s.call.outbox with
              queue := s.call.outbox.queue ++ [i], waiting := none, promised := false } },
          task := .over report }
  | read {i : Item Out} {rest : List (Item Out)} (queue : s.call.outbox.queue = i :: rest) :
      Move s .client none
        { s with call := { s.call with outbox := s.call.outbox.take.2 },
                 received := s.received ++ [i] }
  | ended {report : ρ} (task : s.task = .over report) (empty : s.call.outbox.queue = []) :
      Move s .client none { s with ended := true }

variable {s : Session In Out ρ}

theorem step_done {result : Except Status Unit} {report : ρ}
    (task : s.task = .running (.done result report)) :
    s.step .handler = { s with
      call := (s.call.detach.finish result).2
      task := if (s.call.detach.finish result).1 = .full then .completing report else .over report
      notices := s.notices ++ (s.call.detach.finish result).1.notices } := by
  simp [step, stepHandler, task]

theorem Sound.move_done (h : s.Sound) {result : Except Status Unit} {report : ρ}
    (task : s.task = .running (.done result report)) :
    s.Move .handler (some (.closed (terminal? s.call.trailer result))) (s.step .handler) := by
  rw [step_done task]
  cases terminal : terminal? s.call.trailer result with
  | none =>
    have finished : s.call.detach.finish result = (.accepted, s.call.closed) :=
      Duplex.finish_of_silent terminal
    simp only [finished, Offer.notices, List.append_nil]
    exact .closed task terminal
  | some status =>
    have finished : s.call.detach.finish result = ((s.call.outbox.await (.error status)).1,
        { s.call.closed with outbox := (s.call.outbox.await (.error status)).2 }) :=
      Duplex.finish_of_terminal terminal
    rw [finished]
    obtain ⟨-, room, ho⟩ | ⟨-, full, ho⟩ | ⟨closed, -⟩ := s.call.outbox.await_cases (.error status)
    · simp only [ho, Offer.notices, List.append_nil]
      exact .told task terminal room
    · simp only [ho, Offer.notices, List.append_nil]
      exact .held task terminal full
    · simp [h.reading] at closed

theorem Sound.move_completing (h : s.Sound) {report : ρ} (task : s.task = .completing report) :
    s.Move .handler none (s.step .handler) := by
  have fits := h.task
  rw [task] at fits
  simp only [step, stepHandler, task, Duplex.resume]
  obtain ⟨clear, -⟩ | ⟨i, waiting, fates⟩ := s.call.outbox.resume_cases
  · simp [clear, Task.Fits] at fits
  · obtain ⟨-, promised, hr⟩ | ⟨-, promised, hr⟩ | ⟨closed, -⟩ := fates
    · simp only [hr, Option.map, Option.getD, Offer.notices, List.append_nil]
      exact .resumed task waiting promised
    · simp only [hr]
      exact .stalled (.unpromised task promised)
    · simp [h.reading] at closed

theorem Sound.move_client (h : s.Sound) : s.Move .client none (s.step .client) := by
  cases queue : s.call.outbox.queue with
  | cons i rest =>
    have read : s.step .client = { s with
        call := { s.call with outbox := s.call.outbox.take.2 }
        received := s.received ++ [i] } := by
      simp [step, stepClient, h.reading, Duplex.next_of_cons queue]
    rw [read]
    exact .read queue
  | nil =>
    have asked : s.step .client = if s.call.hasSender then s else { s with ended := true } := by
      simp only [step, stepClient, h.reading, Duplex.next_of_nil queue, if_true]
      cases s.call.hasSender <;> rfl
    rw [asked]
    by_cases sender : s.call.hasSender = true
    · rw [if_pos sender]
      exact .stalled (.starved queue (h.task.hasSender.1 sender))
    · rw [if_neg sender]
      rw [h.task.hasSender] at sender
      obtain ⟨report, task⟩ : ∃ report, s.task = .over report := by simpa using sender
      exact .ended task queue

theorem Sound.step_move (h : s.Sound) (t : Turn) : s.Move t (s.deed? t) (s.step t) := by
  cases t with
  | client => exact h.move_client
  | handler =>
    match task : s.task with
    | .running (.done result report) =>
      simp only [deed?, task]
      exact h.move_done task
    | .running (.recv next) =>
      simp only [deed?, step, stepHandler, task, Duplex.recv_eq]
      exact .heard task
    | .running (.send m next) =>
      obtain ⟨-, room, ho⟩ | ⟨-, full, ho⟩ | ⟨closed, -⟩ := s.call.outbox.offer_cases (.ok m)
      · simp only [deed?, step, stepHandler, task, Duplex.send_eq, ho]
        exact .sent task room
      · simp only [deed?, step, stepHandler, task, Duplex.send_eq, ho]
        exact .stalled (.crowded task full)
      · simp [h.reading] at closed
    | .running (.setTrailer t next) =>
      simp only [deed?, step, stepHandler, task, Duplex.setTrailer_eq]
      exact .trailed task
    | .completing report =>
      simp only [deed?, task]
      exact h.move_completing task
    | .over report =>
      simp only [deed?, step, stepHandler, task]
      exact .stalled (.idle task)

/-- What a handler at work leaves sound is a sound session; the client has not seen the end yet. -/
theorem Sound.advance (h : s.Sound) (busy : ∀ report, s.task ≠ .over report)
    {task : Task In Out ρ} {call : Duplex In Out} (outbox : call.outbox.Sound)
    (reading : call.outbox.reading = true) (fits : task.Fits call) :
    Sound { s with task, call } := by
  refine ⟨outbox, reading, fits, ?_⟩
  intro ended
  obtain ⟨⟨report, through⟩, -⟩ := h.ended ended
  exact absurd through (busy report)

theorem Sound.step (h : s.Sound) (t : Turn) : (s.step t).Sound := by
  have move := h.step_move t
  have fits := h.task
  generalize s.deed? t = deed, s.step t = s' at move
  cases move with
  | stalled => exact h
  | heard task | trailed task =>
    rw [task] at fits
    exact h.advance (by simp [task]) h.outbox h.reading fits
  | sent task room =>
    rw [task] at fits
    exact h.advance (by simp [task]) (h.outbox.append h.reading room _) h.reading fits
  | closed task silent =>
    rw [task] at fits
    exact h.advance (by simp [task]) h.outbox h.reading ⟨rfl, rfl, fits.2⟩
  | told task terminal room =>
    rw [task] at fits
    have sound := h.outbox.append h.reading room
    exact h.advance (by simp [task]) (sound _) h.reading ⟨rfl, rfl, fits.2⟩
  | held task terminal full =>
    exact h.advance (by simp [task]) (h.outbox.hold full _) h.reading ⟨rfl, rfl, rfl⟩
  | resumed task waiting promised =>
    rw [task] at fits
    have sound := h.outbox.fulfil h.reading promised
    exact h.advance (by simp [task]) (sound _) h.reading ⟨fits.1, fits.2.1, rfl⟩
  | read queue =>
    refine ⟨h.outbox.take, by simp [h.reading], fits.read, ?_⟩
    intro ended
    have empty := (h.ended ended).2
    simp [queue] at empty
  | ended task empty => exact ⟨h.outbox, h.reading, fits, fun _ => ⟨⟨_, task⟩, empty⟩⟩

/-- What the handler is yet to send. -/
def toCome (s : Session In Out ρ) : List (Item Out) := s.task.script s.call

/-- What the client has read and what is on its way to it. -/
def carried (s : Session In Out ρ) : List (Item Out) :=
  s.received ++ s.call.outbox.queue ++ s.call.outbox.waiting.toList

/-- All that the client has read or will read, as things stand. -/
def total (s : Session In Out ρ) : List (Item Out) := s.carried ++ s.toCome

/-- What the handler sends is the first of what it was yet to send. -/
theorem Sound.toCome_step (h : s.Sound) (t : Turn) :
    ((s.deed? t).bind Deed.item?).toList ++ (s.step t).toCome = s.toCome := by
  have move := h.step_move t
  generalize s.deed? t = deed, s.step t = s' at move ⊢
  cases move with
  | stalled | ended => rfl
  | read queue => exact s.task.script_outbox s.call _
  | heard task =>
    simp only [toCome, task, Task.script, Program.script_recv]
    rfl
  | sent task room =>
    simp only [toCome, task, Task.script, Program.script_send]
    rfl
  | trailed task =>
    simp only [toCome, task, Task.script, Program.script_setTrailer]
    rfl
  | closed task terminal | told task terminal | held task terminal =>
    simp only [toCome, task, Task.script, Program.script_done, terminal]
    rfl
  | resumed task => simp only [toCome, task, Task.script, Option.bind, Option.toList, List.append_nil]

/-- A turn loses, doubles and moves nothing on its way to the client. -/
theorem Sound.total_step (h : s.Sound) (t : Turn) : (s.step t).total = s.total := by
  have move := h.step_move t
  have toCome := h.toCome_step t
  have fits := h.task
  generalize s.deed? t = deed, s.step t = s' at move toCome ⊢
  rw [total, total, carried, carried, ← toCome]
  cases move with
  | stalled | heard | trailed | closed | ended =>
    simp [Deed.item?, Duplex.advance, Duplex.closed]
  | sent task | told task =>
    rw [task] at fits
    simp [Duplex.push, Duplex.closed, Deed.item?, fits.2]
  | held task =>
    rw [task] at fits
    simp [Deed.item?, fits.2]
  | resumed task waiting => simp [waiting]
  | read queue => simp [queue, Outbox.take_of_cons queue]

/-- A turn in which something is received takes what is inbound next. -/
theorem Sound.answer_step (h : s.Sound) (t : Turn) :
    ((s.deed? t).bind Deed.answer? = none ∧ (s.step t).call.inbound = s.call.inbound) ∨
      ((s.deed? t).bind Deed.answer? = some (hearing s.call.inbound 0) ∧
        (s.step t).call.inbound = s.call.inbound.tail) := by
  have move := h.step_move t
  generalize s.deed? t = deed, s.step t = s' at move ⊢
  cases move with
  | heard => exact .inr ⟨rfl, s.call.inbound_advance⟩
  | _ => exact .inl ⟨rfl, rfl⟩

section Run

variable (s)

/-- What the handler's receivings found, in order. -/
def answers (turns : List Turn) : List (Except Status (Option In)) :=
  (s.deeds turns).filterMap Deed.answer?

/-- What the handler has sent, in order. -/
def produced (turns : List Turn) : List (Item Out) := (s.deeds turns).filterMap Deed.item?

@[simp] theorem run_cons (t : Turn) (turns : List Turn) :
    s.run (t :: turns) = (s.step t).run turns := rfl

theorem run_append (turns later : List Turn) : s.run (turns ++ later) = (s.run turns).run later :=
  List.foldl_append

theorem filterMap_deeds_cons {α : Type} (f : Deed In Out → Option α) (t : Turn) (turns : List Turn) :
    (s.deeds (t :: turns)).filterMap f =
      ((s.deed? t).bind f).toList ++ ((s.step t).deeds turns).filterMap f := by
  rw [deeds, List.filterMap_append]
  congr 1
  cases s.deed? t with
  | none => rfl
  | some deed =>
    simp only [Option.toList, List.filterMap_cons, List.filterMap_nil, Option.bind]
    cases f deed <;> rfl

variable {s}

theorem Sound.run (h : s.Sound) (turns : List Turn) : (s.run turns).Sound := by
  induction turns generalizing s with
  | nil => exact h
  | cons t turns ih => exact ih (h.step t)

/-- A handler's receivings find what is inbound, one after another. -/
theorem Sound.answers_run (h : s.Sound) (turns : List Turn) (n : Nat)
    {a : Except Status (Option In)} (answered : (s.answers turns)[n]? = some a) :
    a = hearing s.call.inbound n := by
  induction turns generalizing s n with
  | nil => simp [answers, deeds] at answered
  | cons t turns ih =>
    rw [answers, filterMap_deeds_cons] at answered
    obtain ⟨silent, inbound⟩ | ⟨heard, inbound⟩ := h.answer_step t
    · rw [← inbound]
      exact ih (h.step t) n (by simpa [answers, silent] using answered)
    · rw [heard] at answered
      cases n with
      | zero => simpa using answered.symm
      | succ n =>
        rw [← hearing_tail, ← inbound]
        exact ih (h.step t) n answered

theorem Sound.produced_run (h : s.Sound) (turns : List Turn) :
    s.produced turns ++ (s.run turns).toCome = s.toCome := by
  induction turns generalizing s with
  | nil => rfl
  | cons t turns ih =>
    have rest := ih (h.step t)
    rw [produced] at rest ⊢
    rw [filterMap_deeds_cons, run_cons, List.append_assoc, rest, h.toCome_step]

theorem Sound.total_run (h : s.Sound) (turns : List Turn) : (s.run turns).total = s.total := by
  induction turns generalizing s with
  | nil => rfl
  | cons t turns ih => rw [run_cons, ih (h.step t), h.total_step]

/-- What the client has read and what is on its way to it is what the handler has sent, in order. -/
theorem Sound.carried_run (h : s.Sound) (turns : List Turn) :
    (s.run turns).carried = s.carried ++ s.produced turns := by
  have total := h.total_run turns
  rw [Session.total, Session.total, ← h.produced_run turns, ← List.append_assoc] at total
  exact List.append_cancel_right total

/-- A client that has seen the end has read all there is. -/
theorem Sound.total_of_ended (h : s.Sound) (ended : s.ended = true) : s.total = s.received := by
  obtain ⟨⟨report, task⟩, empty⟩ := h.ended ended
  have fits := h.task
  rw [task] at fits
  simp [total, carried, toCome, task, Task.script, empty, fits.2.2]

end Run
end Session

end CallGate.Streaming
