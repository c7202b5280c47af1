import CallGate.Streaming.Session

/-! What a response is made of. The log of a call, which is what was asked of its ends and what they
answered, tells which items were accepted and which the client has read; the buffer holds what lies
between the two, in order and within its bounds. -/

namespace CallGate.Streaming

variable {In Out : Type}

/-- Whether the answer says that a completion is through. -/
def Answer.completes : Answer In Out → Bool
  | .finished .full => false
  | .finished _ => true
  | _ => false

/-- The response of a call as its log tells it. -/
structure Response (Out : Type) where
  /-- The trailers set since the last completion took them. -/
  trailer : Metadata := {}
  /-- The status of a completion that waits for a slot. -/
  held : Option Status := none
  accepted : List (Item Out) := []
  delivered : List (Item Out) := []

namespace Response

/-- What becomes of the status of a completion, if it has one. -/
def settle (r : Response Out) (status : Option Status) : Offer → Response Out
  | .accepted => { r with held := none, accepted := r.accepted ++ (status.map .error).toList }
  | .full => { r with held := status }
  | .gone => { r with held := none }

/-- What one entry of the log adds. -/
def record (r : Response Out) : Op Out × Answer In Out → Response Out
  | (.send m, .sent .accepted) => { r with accepted := r.accepted ++ [.ok m] }
  | (.setTrailer t, .done) => { r with trailer := r.trailer.replace t }
  | (.finish result, .finished o) =>
      { r with trailer := {} }.settle (terminal? r.trailer result) o
  | (.resume, .finished o) => r.settle r.held o
  | (.next, .read (.item i)) => { r with delivered := r.delivered ++ [i] }
  | _ => r

end Response

namespace Duplex

/-- What operations leave of a call. -/
def after (d : Duplex In Out) (ops : List (Op Out)) : Duplex In Out := (d.run ops).2

/-- The operations, each with its answer. -/
def log (d : Duplex In Out) (ops : List (Op Out)) : List (Op Out × Answer In Out) :=
  ops.zip (d.run ops).1

/-- The response of a call after operations on it. -/
def response (d : Duplex In Out) (ops : List (Op Out)) : Response Out :=
  (d.log ops).foldl Response.record {}

@[simp] theorem after_nil (d : Duplex In Out) : d.after [] = d := rfl

@[simp] theorem after_cons (d : Duplex In Out) (op : Op Out) (ops : List (Op Out)) :
    d.after (op :: ops) = (d.step op).2.after ops := rfl

@[simp] theorem log_nil (d : Duplex In Out) : d.log [] = [] := rfl

@[simp] theorem log_cons (d : Duplex In Out) (op : Op Out) (ops : List (Op Out)) :
    d.log (op :: ops) = (op, (d.step op).1) :: (d.step op).2.log ops := rfl

theorem after_append (d : Duplex In Out) (ops later : List (Op Out)) :
    d.after (ops ++ later) = (d.after ops).after later := by
  induction ops generalizing d with
  | nil => rfl
  | cons op ops ih => exact ih _

theorem log_append (d : Duplex In Out) (ops later : List (Op Out)) :
    d.log (ops ++ later) = d.log ops ++ (d.after ops).log later := by
  induction ops generalizing d with
  | nil => rfl
  | cons op ops ih => simp [ih]

theorem response_append (d : Duplex In Out) (ops later : List (Op Out)) :
    d.response (ops ++ later) = ((d.after ops).log later).foldl Response.record (d.response ops) := by
  rw [response, log_append, List.foldl_append]
  rfl

section Steps

variable {d : Duplex In Out} {result : Except Status Unit}

theorem step_send (attached : d.attached = true) (m : Out) :
    d.step (.send m) = (.sent (d.outbox.offer (.ok m)).1,
      { d with outbox := (d.outbox.offer (.ok m)).2 }) := by
  simp [step, onStream, send_eq, attached]

theorem step_finish_silent (completable : d.completable = true)
    (silent : terminal? d.trailer result = none) :
    d.step (.finish result) =
      (.finished .accepted, { d with completable := false, trailer := {} }) := by
  simp [step, finish_of_silent silent, completable]

theorem step_finish {status : Status} (completable : d.completable = true)
    (terminal : terminal? d.trailer result = some status) :
    d.step (.finish result) = (.finished (d.outbox.await (.error status)).1,
      { d with completable := false, trailer := {},
               outbox := (d.outbox.await (.error status)).2 }) := by
  simp [step, finish_of_terminal terminal, completable]

end Steps

/-- All that an operation can do to a call, as far as its response goes. -/
inductive Effect (d : Duplex In Out) : Op Out → Answer In Out → Duplex In Out → Prop where
  | aside {op : Op Out} {a : Answer In Out} {d' : Duplex In Out}
      (unrecorded : ∀ r : Response Out, r.record (op, a) = r) (pending : a.completes = false)
      (attending : op ≠ .detach) (listening : op ≠ .hangUp)
      (attached : d'.attached = d.attached) (completable : d'.completable = d.completable)
      (trailer : d'.trailer = d.trailer) (outbox : d'.outbox = d.outbox) : Effect d op a d'
  | sent {m : Out} (attached : d.attached = true) (reading : d.outbox.reading = true)
      (room : d.outbox.used < capacity) :
      Effect d (.send m) (.sent .accepted)
        { d with outbox := { d.outbox with queue := d.outbox.queue ++ [.ok m] } }
  | trailed {t : Metadata} :
      Effect d (.setTrailer t) .done { d with trailer := d.trailer.replace t }
  | detached : Effect d .detach .done d.detach
  | read {i : Item Out} {rest : List (Item Out)} (reading : d.outbox.reading = true)
      (queue : d.outbox.queue = i :: rest) :
      Effect d .next (.read (.item i)) { d with outbox := d.outbox.take.2 }
  | hungUp : Effect d .hangUp .done d.hangUp
  | bare {result : Except Status Unit} (completable : d.completable = true)
      (silent : terminal? d.trailer result = none) :
      Effect d (.finish result) (.finished .accepted) { d with completable := false, trailer := {} }
  | finished {result : Except Status Unit} {status : Status} (completable : d.completable = true)
      (terminal : terminal? d.trailer result = some status) :
      Effect d (.finish result) (.finished (d.outbox.await (.error status)).1)
        { d with completable := false, trailer := {}, outbox := (d.outbox.await (.error status)).2 }
  | resumed {o : Offer} (settled : d.outbox.resume.1 = some o) :
      Effect d .resume (.finished o) { d with outbox := d.outbox.resume.2 }

namespace Effect

variable {d : Duplex In Out} {op : Op Out}

/-- An answer that neither changes the call nor tells of its response. -/
theorem idle {a : Answer In Out} (unrecorded : ∀ r : Response Out, r.record (op, a) = r)
    (pending : a.completes = false) (attending : op ≠ .detach) (listening : op ≠ .hangUp) :
    d.Effect op a d :=
  .aside unrecorded pending attending listening rfl rfl rfl rfl

theorem onStream {act : Answer In Out × Duplex In Out}
    (unrecorded : ∀ r : Response Out, r.record (op, (.noStream : Answer In Out)) = r)
    (attending : op ≠ .detach) (listening : op ≠ .hangUp)
    (done : d.attached = true → d.Effect op act.1 act.2) :
    d.Effect op (d.onStream act).1 (d.onStream act).2 := by
  unfold Duplex.onStream
  split
  · next attached => exact done attached
  · exact idle unrecorded rfl attending listening

end Effect

theorem step_effect (d : Duplex In Out) (op : Op Out) :
    d.Effect op (d.step op).1 (d.step op).2 := by
  cases op with
  | recv =>
    refine .onStream (fun _ => rfl) nofun nofun fun _ => ?_
    rw [recv_eq]
    exact .aside (fun _ => rfl) rfl nofun nofun rfl rfl rfl rfl
  | send m =>
    refine .onStream (fun _ => rfl) nofun nofun fun attached => ?_
    rw [send_eq]
    obtain ⟨reading, room, ho⟩ | ⟨-, -, ho⟩ | ⟨-, ho⟩ := d.outbox.offer_cases (.ok m)
    · rw [ho]
      exact .sent attached reading room
    · rw [ho]
      exact .idle (fun _ => rfl) rfl nofun nofun
    · rw [ho]
      exact .idle (fun _ => rfl) rfl nofun nofun
  | setTrailer t =>
    refine .onStream (fun _ => rfl) nofun nofun fun _ => ?_
    rw [setTrailer_eq]
    exact .trailed
  | box | wrap c =>
    refine .onStream (fun _ => rfl) nofun nofun fun _ => ?_
    exact .aside (fun _ => rfl) rfl nofun nofun rfl rfl rfl rfl
  | unwrap =>
    refine .onStream (fun _ => rfl) nofun nofun fun _ => ?_
    unfold unwrap?
    cases d.stream.unwrap?
    all_goals exact .aside (fun _ => rfl) rfl nofun nofun rfl rfl rfl rfl
  | detach => exact .detached
  | next =>
    by_cases reading : d.outbox.reading = true
    · cases queue : d.outbox.queue with
      | nil =>
        have quiet : d.step .next = (.read (if d.hasSender then .pending else .ended), d) := by
          simp [step, next_of_nil queue, reading]
        rw [quiet]
        exact .idle (fun _ => by cases d.hasSender <;> rfl) rfl (by simp) (by simp)
      | cons i rest =>
        have took : d.step .next = (.read (.item i), { d with outbox := d.outbox.take.2 }) := by
          simp [step, next_of_cons queue, reading]
        rw [took]
        exact .read reading queue
    · have gone : d.step .next = (.noReader, d) := by simp [step, reading]
      rw [gone]
      exact .idle (fun _ => rfl) rfl (by simp) (by simp)
  | hangUp => exact .hungUp
  | finish result =>
    by_cases completable : d.completable = true
    · cases terminal : terminal? d.trailer result with
      | none =>
        rw [step_finish_silent completable terminal]
        exact .bare completable terminal
      | some status =>
        rw [step_finish completable terminal]
        exact .finished completable terminal
    · have used : d.step (.finish result) = (.noCompletion, d) := by simp [step, completable]
      rw [used]
      exact .idle (fun _ => rfl) rfl (by simp) (by simp)
  | resume =>
    cases settled : d.outbox.resume.1 with
    | none =>
      have none_waits : d.outbox.resume = (none, d.outbox) := by
        obtain ⟨-, hr⟩ | ⟨_, -, ⟨-, -, hr⟩ | ⟨-, -, hr⟩ | ⟨-, hr⟩⟩ := d.outbox.resume_cases
        · exact hr
        all_goals simp [hr] at settled
      have idle : d.step .resume = (.notFinishing, d) := by simp [step, resume, none_waits]
      rw [idle]
      exact .idle (fun _ => rfl) rfl (by simp) (by simp)
    | some o =>
      have went_on : d.step .resume = (.finished o, { d with outbox := d.outbox.resume.2 }) := by
        simp [step, resume, settled]
      rw [went_on]
      exact .resumed settled

/-- The log of a call and the call itself agree. -/
structure Tracks (d : Duplex In Out) (r : Response Out) : Prop where
  trailer : d.trailer = r.trailer
  waiting : d.outbox.waiting = r.held.map .error
  unheld : d.completable = true → r.held = none
  outbox : d.outbox.Sound
  kept : d.outbox.reading = true → r.delivered ++ d.outbox.queue = r.accepted
  read : r.delivered <+: r.accepted

namespace Tracks

variable {d : Duplex In Out} {r : Response Out}

theorem receive (m : Metadata) (inbound : List (Except Status In)) :
    Tracks (.receive m inbound : Duplex In Out) {} :=
  ⟨rfl, rfl, fun _ => rfl, .initial, fun _ => rfl, List.prefix_rfl⟩

theorem waiting_eq_none (h : Tracks d r) (completable : d.completable = true) :
    d.outbox.waiting = none := by
  rw [h.waiting, h.unheld completable]
  rfl

theorem used_of_waiting (h : Tracks d r) {i : Item Out} (waiting : d.outbox.waiting = some i) :
    d.completable = false := by
  cases completable : d.completable with
  | false => rfl
  | true => simp [h.waiting_eq_none completable] at waiting

/-- An item that is added to the buffer is the next to be accepted. -/
theorem kept_append (h : Tracks d r) (i : Item Out) (reading : d.outbox.reading = true) :
    r.delivered ++ (d.outbox.queue ++ [i]) = r.accepted ++ [i] := by
  rw [← List.append_assoc, h.kept reading]

theorem step (h : Tracks d r) (op : Op Out) :
    Tracks (d.step op).2 (r.record (op, (d.step op).1)) := by
  have sound := outbox_step h.outbox op
  have effect := d.step_effect op
  generalize (d.step op).1 = a, (d.step op).2 = d' at sound effect ⊢
  cases effect with
  | aside unrecorded _ _ _ _ completable trailer outbox =>
    rw [unrecorded]
    refine ⟨trailer.trans h.trailer, ?_, ?_, sound, ?_, h.read⟩
    · rw [outbox, h.waiting]
    · rw [completable]
      exact h.unheld
    · rw [outbox]
      exact h.kept
  | sent attached reading room =>
    exact ⟨h.trailer, h.waiting, h.unheld, sound, fun _ => h.kept_append _ reading,
      h.read.trans (List.prefix_append ..)⟩
  | trailed =>
    refine ⟨?_, h.waiting, h.unheld, sound, h.kept, h.read⟩
    show d.trailer.replace _ = r.trailer.replace _
    rw [h.trailer]
  | detached => exact ⟨h.trailer, h.waiting, h.unheld, sound, h.kept, h.read⟩
  | @read i rest reading queue =>
    have kept := h.kept reading
    rw [queue] at kept
    rw [Outbox.take_of_cons queue] at sound ⊢
    have next : r.delivered ++ [i] ++ rest = r.accepted := by rw [← kept]; simp
    exact ⟨h.trailer, h.waiting, h.unheld, sound, fun _ => next, rest, next⟩
  | hungUp => exact ⟨h.trailer, h.waiting, h.unheld, sound, nofun, h.read⟩
  | @bare result completable silent =>
    rw [h.trailer] at silent
    have entry : r.record (.finish result, (.finished .accepted : Answer In Out)) =
        { r with trailer := {} } := by
      simp [Response.record, Response.settle, silent, h.unheld completable]
    rw [entry]
    exact ⟨rfl, h.waiting, nofun, sound, h.kept, h.read⟩
  | @finished result status completable terminal =>
    rw [h.trailer] at terminal
    simp only [Response.record, terminal]
    obtain ⟨reading, -, ho⟩ | ⟨reading, -, ho⟩ | ⟨reading, ho⟩ :=
      d.outbox.await_cases (.error status)
    · rw [ho] at sound ⊢
      exact ⟨rfl, h.waiting_eq_none completable, nofun, sound, fun _ => h.kept_append _ reading,
        h.read.trans (List.prefix_append ..)⟩
    · rw [ho] at sound ⊢
      exact ⟨rfl, rfl, nofun, sound, h.kept, h.read⟩
    · rw [ho] at sound ⊢
      exact ⟨rfl, h.waiting_eq_none completable, nofun, sound, h.kept, h.read⟩
  | @resumed o settled =>
    obtain ⟨i, waiting, fates⟩ := Outbox.resume_settled settled
    rw [h.waiting] at waiting
    obtain ⟨rfl, reading, hr⟩ | ⟨rfl, -, hr⟩ | ⟨rfl, -, hr⟩ := fates
    · have entry : r.record (.resume, (.finished .accepted : Answer In Out)) =
          { r with held := none, accepted := r.accepted ++ [i] } := by
        simp [Response.record, Response.settle, waiting]
      rw [hr] at sound ⊢
      rw [entry]
      exact ⟨h.trailer, rfl, fun _ => rfl, sound, fun _ => h.kept_append _ reading,
        h.read.trans (List.prefix_append ..)⟩
    · rw [hr]
      exact h
    · rw [hr] at sound ⊢
      exact ⟨h.trailer, rfl, fun _ => rfl, sound, h.kept, h.read⟩

theorem after (h : Tracks d r) (ops : List (Op Out)) :
    Tracks (d.after ops) ((d.log ops).foldl Response.record r) := by
  induction ops generalizing d r with
  | nil => exact h
  | cons op ops ih => exact ih (h.step op)

end Tracks

theorem tracks (m : Metadata) (inbound : List (Except Status In)) (ops : List (Op Out)) :
    Tracks ((receive m inbound).after ops) ((receive m inbound : Duplex In Out).response ops) :=
  (Tracks.receive m inbound).after ops

theorem attached_after (d : Duplex In Out) (ops : List (Op Out)) :
    (d.after ops).attached = true ↔ d.attached = true ∧ .detach ∉ ops := by
  induction ops generalizing d with
  | nil => simp
  | cons op ops ih =>
    have effect := d.step_effect op
    rw [after_cons, ih]
    generalize (d.step op).1 = a, (d.step op).2 = d' at effect ⊢
    cases effect with
    | aside _ _ attending _ attached => simp [attached, attending.symm]
    | detached => simp [detach]
    | _ => simp_all [hangUp]

theorem reading_after (d : Duplex In Out) (ops : List (Op Out)) :
    (d.after ops).outbox.reading = true ↔ d.outbox.reading = true ∧ .hangUp ∉ ops := by
  induction ops generalizing d with
  | nil => simp
  | cons op ops ih =>
    have effect := d.step_effect op
    rw [after_cons, ih]
    generalize (d.step op).1 = a, (d.step op).2 = d' at effect ⊢
    cases effect with
    | aside _ _ _ listening _ _ _ outbox => simp [outbox, listening.symm]
    | hungUp => simp [hangUp, Outbox.hangUp]
    | _ => simp_all [detach]

theorem step_send_full_iff {d : Duplex In Out} {m : Out} :
    (d.step (.send m)).1 = .sent .full ↔
      d.attached = true ∧ d.outbox.reading = true ∧ capacity ≤ d.outbox.used := by
  by_cases attached : d.attached = true
  · simp [step_send attached, attached, Outbox.offer_eq_full_iff]
  · simp [step, onStream, attached]

theorem step_send_gone {d : Duplex In Out} {m : Out} (gone : (d.step (.send m)).1 = .sent .gone) :
    d.attached = true ∧ d.outbox.reading = false := by
  by_cases attached : d.attached = true
  · rw [step_send attached] at gone
    exact ⟨attached, Outbox.offer_eq_gone_iff.1 (Answer.sent.inj gone)⟩
  · simp [step, onStream, attached] at gone

/-- The response of a call after operations on it: what lies between the items accepted and the items
read, how much that may be, and when a send has no part in it. -/
structure Conserved (d : Duplex In Out) (ops : List (Op Out)) : Prop where
  kept : .hangUp ∉ ops →
    (d.response ops).delivered ++ (d.after ops).outbox.queue = (d.response ops).accepted
  fits : (d.after ops).outbox.used ≤ capacity
  /-- A slot is kept free only for a status that waits. -/
  reserved : (d.after ops).outbox.promised = true → (d.response ops).held.isSome
  /-- A send that finds a listening client and a free slot takes the slot. -/
  placed : .detach ∉ ops → .hangUp ∉ ops → (d.after ops).outbox.used < capacity → ∀ m,
    (d.after ops).step (.send m) = (.sent .accepted, { d.after ops with outbox :=
      { (d.after ops).outbox with queue := (d.after ops).outbox.queue ++ [.ok m] } })
  pending : ∀ m, ((d.after ops).step (.send m)).1 = .sent .full ↔
    .detach ∉ ops ∧ .hangUp ∉ ops ∧ (d.after ops).outbox.used = capacity
  wasted : ∀ m, ((d.after ops).step (.send m)).1 = .sent .full →
    ((d.after ops).step (.send m)).2 = d.after ops
  cancelled : .hangUp ∈ ops → .detach ∉ ops → ∀ m,
    (d.after ops).step (.send m) = (.sent .gone, d.after ops) ∧
      Offer.gone.outcome = .error clientLeft ∧ clientLeft.code = .cancelled
  /-- No send is told that the client has left before it has. -/
  deserted : ∀ m, ((d.after ops).step (.send m)).1 = .sent .gone → .hangUp ∈ ops ∧ .detach ∉ ops

/-- Nothing is lost, doubled or moved on its way to the client, and the buffer holds no more than it
has slots for. -/
theorem receive_conserved (m : Metadata) (inbound : List (Except Status In)) (ops : List (Op Out)) :
    Conserved (receive m inbound) ops := by
  have tracks := tracks m inbound ops
  have attached : ((receive m inbound).after ops).attached = true ↔ .detach ∉ ops := by
    rw [attached_after]
    exact and_iff_right rfl
  have reading : ((receive m inbound).after ops).outbox.reading = true ↔ .hangUp ∉ ops := by
    rw [reading_after]
    exact and_iff_right rfl
  have fits := tracks.outbox.fits
  constructor
  · intro listening
    exact tracks.kept (reading.2 listening)
  · exact fits
  · intro promised
    have waits := tracks.outbox.promise promised
    rw [tracks.waiting] at waits
    simpa using waits
  · intro attending listening room message
    rw [step_send (attached.2 attending), Outbox.offer_of_room (reading.2 listening) room]
  · intro message
    rw [step_send_full_iff, attached, reading]
    have full : capacity ≤ ((receive m inbound).after ops).outbox.used ↔
        ((receive m inbound).after ops).outbox.used = capacity := by omega
    rw [full]
  · intro message blocked
    obtain ⟨attending, listening, full⟩ := step_send_full_iff.1 blocked
    rw [step_send attending, Outbox.offer_of_full listening full]
  · intro gone attending message
    have closed : ((receive m inbound).after ops).outbox.reading = false := by
      rw [← Bool.not_eq_true, reading]
      exact not_not_intro gone
    rw [step_send (attached.2 attending), Outbox.offer_of_closed closed]
    exact ⟨rfl, rfl, rfl⟩
  · intro message gone
    obtain ⟨attending, closed⟩ := step_send_gone gone
    refine ⟨Classical.not_not.1 fun listening => ?_, attached.1 attending⟩
    simp [reading.2 listening] at closed

end Duplex
end CallGate.Streaming
