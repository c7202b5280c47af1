import CallGate.Proofs.Delivery

/-! How a response ends. The client sees the end once the stream was given up, the completion is
through and all that was accepted has been read, and never before. What a completion sends is the last
the client reads if the stream was given up by then; a stream that is held can still send after it. -/

namespace CallGate.Streaming

variable {In Out : Type}

/-- The message of an entry in which the stream sent one. -/
def sentBy? : Op Out × Answer In Out → Option (Item Out)
  | (.send m, .sent .accepted) => some (.ok m)
  | _ => none

/-- A result that is no success, and trailers, make a status to end with. -/
theorem terminal?_eq_some {trailer : Metadata} {result : Except Status Unit}
    (telling : (∃ s, result = .error s) ∨ trailer.isEmpty = false) :
    ∃ status, terminal? trailer result = some status := by
  cases result with
  | error s => exact ⟨_, rfl⟩
  | ok =>
    have kept : trailer.isEmpty = false := by simpa using telling
    exact ⟨_, if_neg (by simp [kept])⟩

/-- The status that a completion has to send when it is used or goes on. -/
def Response.due (r : Response Out) : Op Out → Option Status
  | .finish result => terminal? r.trailer result
  | .resume => r.held
  | _ => none

namespace Duplex

/-- Whether the completion handle was used and its status, if it has one, waits no more. -/
def completed (d : Duplex In Out) : Bool := !d.completable && d.outbox.waiting.isNone

section Steps

variable {d : Duplex In Out} {r : Response Out}

theorem completed_eq_false (completable : d.completable = true) : d.completed = false := by
  simp [completed, completable]

/-- A completion is through from the answer on that says so. -/
theorem Tracks.completed_step (h : Tracks d r) (op : Op Out) :
    (d.step op).2.completed = true ↔ d.completed = true ∨ (d.step op).1.completes = true := by
  have effect := d.step_effect op
  generalize (d.step op).1 = a, (d.step op).2 = d' at effect ⊢
  cases effect with
  | aside _ pending _ _ _ completable _ outbox => simp [completed, completable, outbox, pending]
  | sent | trailed | detached | read | hungUp =>
    simp [completed, Answer.completes, detach, hangUp, Outbox.hangUp]
  | bare completable =>
    simp [completed, Answer.completes, completable, h.waiting_eq_none completable]
  | @finished result status completable terminal =>
    have free := h.waiting_eq_none completable
    rw [completed_eq_false completable]
    obtain ⟨-, -, ho⟩ | ⟨-, -, ho⟩ | ⟨-, ho⟩ := d.outbox.await_cases (.error status)
    all_goals simp [ho, completed, Answer.completes, free]
  | @resumed o settled =>
    obtain ⟨i, waiting, fates⟩ := Outbox.resume_settled settled
    have used := h.used_of_waiting waiting
    obtain ⟨rfl, -, hr⟩ | ⟨rfl, -, hr⟩ | ⟨rfl, -, hr⟩ := fates
    all_goals simp [hr, completed, Answer.completes, used, waiting]

theorem Tracks.completed_after (h : Tracks d r) (ops : List (Op Out)) :
    (d.after ops).completed = true ↔
      d.completed = true ∨ ∃ e ∈ d.log ops, e.2.completes = true := by
  induction ops generalizing d r with
  | nil => simp
  | cons op ops ih =>
    rw [after_cons, ih (h.step op), h.completed_step op]
    simp [or_assoc]

theorem completable_of_finished {result : Except Status Unit} {o : Offer}
    (ran : (d.step (.finish result)).1 = .finished o) : d.completable = true := by
  by_cases completable : d.completable = true
  · exact completable
  · simp [Duplex.step, completable] at ran

theorem step_next (reading : d.outbox.reading = true) :
    (d.step .next).1 = .read (match d.outbox.queue with
      | i :: _ => .item i
      | [] => if d.attached = false ∧ d.completed = true then .ended else .pending) := by
  cases queue : d.outbox.queue with
  | cons i rest => simp [step, next_of_cons queue, reading]
  | nil =>
    have senders : d.hasSender = (d.attached || !d.completed) := by
      cases hw : d.outbox.waiting <;> simp [hasSender, completed, hw]
    simp only [step, next_of_nil queue, reading, senders, if_true]
    cases d.attached <;> cases d.completed <;> rfl

theorem step_next_ended_iff (reading : d.outbox.reading = true) :
    (d.step .next).1 = .read .ended ↔
      d.attached = false ∧ d.completed = true ∧ d.outbox.queue = [] := by
  rw [step_next reading]
  cases d.outbox.queue with
  | nil => by_cases gone : d.attached = false ∧ d.completed = true <;> simp [gone]
  | cons i rest => simp

theorem step_next_pending_iff (reading : d.outbox.reading = true) :
    (d.step .next).1 = .read .pending ↔
      d.outbox.queue = [] ∧ ¬ (d.attached = false ∧ d.completed = true) := by
  rw [step_next reading]
  cases d.outbox.queue with
  | nil => by_cases gone : d.attached = false ∧ d.completed = true <;> simp [gone]
  | cons i rest => simp

/-- A status that is on its way to the client: it was accepted, or it waits for a slot, and no other
status can take its place. -/
structure Owes (d : Duplex In Out) (r : Response Out) (status : Status) : Prop where
  tracks : Tracks d r
  used : d.completable = false
  owed : .error status ∈ r.accepted ∨ r.held = some status

namespace Owes

variable {status : Status}

/-- A completion that finds the client listening owes it its status. -/
theorem of_finish (h : Tracks d r) (reading : d.outbox.reading = true)
    (completable : d.completable = true) {result : Except Status Unit}
    (terminal : terminal? r.trailer result = some status) :
    Owes (d.step (.finish result)).2
      (r.record (.finish result, (d.step (.finish result)).1)) status := by
  have tracks := h.step (.finish result)
  rw [step_finish completable (h.trailer ▸ terminal)] at tracks ⊢
  refine ⟨tracks, rfl, ?_⟩
  simp only [Response.record, terminal]
  obtain ⟨-, -, ho⟩ | ⟨-, -, ho⟩ | ⟨closed, -⟩ := d.outbox.await_cases (.error status)
  · rw [ho]
    exact .inl (List.mem_append_right _ (List.mem_singleton.2 rfl))
  · rw [ho]
    exact .inr rfl
  · simp [reading] at closed

theorem step (h : Owes d r status) (reading : d.outbox.reading = true) (op : Op Out) :
    Owes (d.step op).2 (r.record (op, (d.step op).1)) status := by
  have tracks := h.tracks.step op
  have effect := d.step_effect op
  generalize (d.step op).1 = a, (d.step op).2 = d' at tracks effect ⊢
  cases effect with
  | aside unrecorded _ _ _ _ completable =>
    rw [unrecorded] at tracks ⊢
    exact ⟨tracks, completable.trans h.used, h.owed⟩
  | sent => exact ⟨tracks, h.used, h.owed.imp_left (List.mem_append_left _)⟩
  | trailed | detached | read | hungUp => exact ⟨tracks, h.used, h.owed⟩
  | bare completable => simp [h.used] at completable
  | finished completable => simp [h.used] at completable
  | @resumed o settled =>
    refine ⟨tracks, h.used, ?_⟩
    cases o with
    | accepted =>
      show _ ∈ r.accepted ++ _ ∨ _
      rcases h.owed with owed | owed
      · exact .inl (List.mem_append_left _ owed)
      · exact .inl (List.mem_append_right _ (by simp [owed]))
    | full => exact h.owed
    | gone =>
      obtain ⟨i, -, fates⟩ := Outbox.resume_settled settled
      simp [reading] at fates

theorem after (h : Owes d r status) {ops : List (Op Out)} (reading : d.outbox.reading = true)
    (listening : .hangUp ∉ ops) :
    Owes (d.after ops) ((d.log ops).foldl Response.record r) status := by
  induction ops generalizing d r with
  | nil => exact h
  | cons op ops ih =>
    have still := (d.reading_after [op]).2 ⟨reading, by simp_all⟩
    exact ih (h.step reading op) still (by simp_all)

/-- What is owed to a client that sees the end has been read. -/
theorem delivered (h : Owes d r status) (reading : d.outbox.reading = true)
    (ended : (d.step .next).1 = .read .ended) : .error status ∈ r.delivered := by
  obtain ⟨-, through, empty⟩ := (step_next_ended_iff reading).1 ended
  have none_waits : d.outbox.waiting = none := by simp_all [completed]
  have all_read := h.tracks.kept reading
  rw [empty, List.append_nil] at all_read
  rw [all_read]
  rcases h.owed with owed | owed
  · exact owed
  · simp [h.tracks.waiting, owed] at none_waits

end Owes

end Steps

/-- What a client that still listens finds when it reads after operations on a call. -/
structure EndsInFull (d : Duplex In Out) (ops : List (Op Out)) : Prop where
  ended : ((d.after ops).step .next).1 = .read .ended ↔
    .detach ∈ ops ∧ (∃ e ∈ d.log ops, e.2.completes = true) ∧
      (d.response ops).delivered = (d.response ops).accepted
  pending : (d.after ops).outbox.queue = [] → (((d.after ops).step .next).1 = .read .pending ↔
    ¬ (.detach ∈ ops ∧ ∃ e ∈ d.log ops, e.2.completes = true))
  /-- The status of a completion is not kept from a client that sees the end. -/
  told : ∀ before result later, ops = before ++ .finish result :: later →
    (∃ o, ((d.after before).step (.finish result)).1 = .finished o) →
    (∃ s, result = .error s) ∨ (d.response before).trailer.isEmpty = false →
    ∃ status, terminal? (d.response before).trailer result = some status ∧
      (((d.after ops).step .next).1 = .read .ended → .error status ∈ (d.response ops).delivered)

theorem receive_through_iff (m : Metadata) (inbound : List (Except Status In)) (ops : List (Op Out)) :
    ((receive m inbound).after ops).completed = true ↔
      ∃ e ∈ (receive m inbound).log ops, e.2.completes = true := by
  rw [(Tracks.receive m inbound).completed_after ops]
  simp [completed, receive]

theorem receive_given_up_iff (m : Metadata) (inbound : List (Except Status In)) (ops : List (Op Out)) :
    ((receive m inbound).after ops).attached = false ↔ .detach ∈ ops := by
  rw [← Bool.not_eq_true, attached_after]
  simp [receive]

theorem receive_ended_iff (m : Metadata) (inbound : List (Except Status In)) {ops : List (Op Out)}
    (listening : .hangUp ∉ ops) :
    (((receive m inbound).after ops).step .next).1 = .read .ended ↔
      .detach ∈ ops ∧ (∃ e ∈ (receive m inbound).log ops, e.2.completes = true) ∧
        ((receive m inbound).response ops).delivered =
          ((receive m inbound).response ops).accepted := by
  have reading : ((receive m inbound).after ops).outbox.reading = true :=
    (reading_after _ ops).2 ⟨rfl, listening⟩
  have all_read : ((receive m inbound).after ops).outbox.queue = [] ↔
      ((receive m inbound).response ops).delivered = ((receive m inbound).response ops).accepted := by
    rw [← (tracks m inbound ops).kept reading]
    simp
  rw [step_next_ended_iff reading, receive_given_up_iff, receive_through_iff, all_read]

/-- The client sees the end exactly when the stream was given up, its completion is through, and
nothing is left to read; so it has read the status that the call ended with, if there was one. -/
theorem receive_endsInFull (m : Metadata) (inbound : List (Except Status In)) (ops : List (Op Out))
    (listening : .hangUp ∉ ops) : EndsInFull (receive m inbound) ops := by
  have reading : ((receive m inbound).after ops).outbox.reading = true :=
    (reading_after _ ops).2 ⟨rfl, listening⟩
  constructor
  · exact receive_ended_iff m inbound listening
  · intro empty
    rw [step_next_pending_iff reading, receive_given_up_iff, receive_through_iff]
    exact and_iff_right empty
  · rintro before result later rfl ⟨o, ran⟩ telling
    obtain ⟨status, terminal⟩ := terminal?_eq_some telling
    refine ⟨status, terminal, ?_⟩
    have unread : .hangUp ∉ before ∧ .hangUp ∉ later := by simp_all
    have heard : ((receive m inbound).after before).outbox.reading = true :=
      (reading_after _ before).2 ⟨rfl, unread.1⟩
    have owes := Owes.of_finish (tracks m inbound before) heard
      (completable_of_finished ran) terminal
    have heard' := ((receive m inbound).after before).reading_after [.finish result]
    have owes_still := owes.after (heard'.2 ⟨heard, by simp⟩) unread.2
    rw [after_append] at reading ⊢
    rw [response_append]
    exact owes_still.delivered reading

/-- A call whose buffer is full when it fails. -/
def crowdedCall : List (Op String) :=
  List.replicate 16 (.send "m") ++ .finish (.error clientLeft) ::
    ([.detach, .next, .resume] ++ List.replicate 16 .next)

/-- A failure that finds the buffer full waits for the client to read, and is read in its turn. -/
theorem receive_endsInFull_crowded :
    (((receive {} [] : Duplex Unit String).after (List.replicate 16 (.send "m"))).step
        (.finish (.error clientLeft))).1 = .finished .full ∧
      .error clientLeft ∈ ((receive {} [] : Duplex Unit String).response crowdedCall).delivered := by
  have listening : .hangUp ∉ crowdedCall := by simp [crowdedCall]
  have ends := receive_endsInFull {} ([] : List (Except Status Unit)) crowdedCall listening
  obtain ⟨status, terminal, told⟩ := ends.told _ _ _ rfl ⟨.full, rfl⟩ (.inl ⟨_, rfl⟩)
  have same : some clientLeft = some status := terminal
  have ended : (((receive {} [] : Duplex Unit String).after crowdedCall).step .next).1 =
      .read .ended := rfl
  rw [Option.some.inj same]
  exact ⟨rfl, told ended⟩

theorem sentBy?_eq_none {e : Op Out × Answer In Out} (unrecorded : ∀ r : Response Out, r.record e = r) :
    sentBy? e = none := by
  unfold sentBy?
  split
  · have same := congrArg Response.accepted (unrecorded {})
    simp [Response.record] at same
  · rfl

section Steps

variable {d : Duplex In Out} {r : Response Out}

/-- Once a completion is through nothing but a message of the stream is accepted. -/
theorem accepted_record (through : d.completed = true) (r : Response Out) (op : Op Out) :
    (r.record (op, (d.step op).1)).accepted =
      r.accepted ++ (sentBy? (op, (d.step op).1)).toList := by
  have effect := d.step_effect op
  generalize (d.step op).1 = a, (d.step op).2 = d' at effect ⊢
  cases effect with
  | aside unrecorded => simp [unrecorded, sentBy?_eq_none unrecorded]
  | sent => rfl
  | trailed | detached | read | hungUp => simp [Response.record, sentBy?]
  | bare completable => simp [completed_eq_false completable] at through
  | finished completable => simp [completed_eq_false completable] at through
  | resumed settled =>
    have none_waits : d.outbox.waiting = none := by simp_all [completed]
    simp [Outbox.resume, none_waits] at settled

theorem Tracks.accepted_foldl (h : Tracks d r) (through : d.completed = true) (ops : List (Op Out)) :
    ((d.log ops).foldl Response.record r).accepted =
      r.accepted ++ (d.log ops).filterMap sentBy? := by
  induction ops generalizing d r with
  | nil => simp
  | cons op ops ih =>
    rw [log_cons, List.foldl_cons, ih (h.step op) ((h.completed_step op).2 (.inl through)),
      accepted_record through, List.append_assoc, List.filterMap_cons]
    cases sentBy? (op, (d.step op).1) <;> rfl

/-- A completion that is through has sent what it had to send. -/
theorem Tracks.accepted_of_completes (h : Tracks d r) (reading : d.outbox.reading = true) {op : Op Out}
    (through : (d.step op).1.completes = true) :
    (r.record (op, (d.step op).1)).accepted = r.accepted ++ ((r.due op).map .error).toList := by
  have effect := d.step_effect op
  generalize (d.step op).1 = a, (d.step op).2 = d' at through effect ⊢
  cases effect with
  | aside _ pending => simp [pending] at through
  | sent | trailed | detached | read | hungUp => simp [Answer.completes] at through
  | bare completable silent =>
    rw [h.trailer] at silent
    simp [Response.record, Response.settle, Response.due, silent]
  | @finished result status completable terminal =>
    rw [h.trailer] at terminal
    obtain ⟨-, -, ho⟩ | ⟨-, -, ho⟩ | ⟨closed, -⟩ := d.outbox.await_cases (.error status)
    · simp [Response.record, Response.settle, Response.due, terminal, ho]
    · simp [ho, Answer.completes] at through
    · simp [reading] at closed
  | @resumed o settled =>
    obtain ⟨i, -, ⟨rfl, -⟩ | ⟨rfl, -⟩ | ⟨-, closed, -⟩⟩ := Outbox.resume_settled settled
    · rfl
    · simp [Answer.completes] at through
    · simp [reading] at closed

/-- Without a stream, or without a client, no message is sent. -/
theorem filterMap_sentBy? (mute : ¬ (d.attached = true ∧ d.outbox.reading = true)) (ops : List (Op Out)) :
    (d.log ops).filterMap sentBy? = [] := by
  induction ops generalizing d with
  | nil => rfl
  | cons op ops ih =>
    have still : ¬ ((d.step op).2.attached = true ∧ (d.step op).2.outbox.reading = true) := by
      have attached := d.attached_after [op]
      have reading := d.reading_after [op]
      simp only [after_cons, after_nil] at attached reading
      rw [attached, reading]
      exact fun h => mute ⟨h.1.1, h.2.1⟩
    have silent : sentBy? (op, (d.step op).1) = none := by
      have effect := d.step_effect op
      generalize (d.step op).1 = a, (d.step op).2 = d' at effect ⊢
      cases effect with
      | aside unrecorded => exact sentBy?_eq_none unrecorded
      | sent attached reading => exact absurd ⟨attached, reading⟩ mute
      | _ => rfl
    rw [log_cons, List.filterMap_cons, silent]
    exact ih still

/-- A client that reads on empties the buffer. -/
theorem exists_drained (reading : d.outbox.reading = true) :
    ∃ n, (d.after (List.replicate n .next)).outbox.queue = [] := by
  induction queue : d.outbox.queue generalizing d with
  | nil => exact ⟨0, queue⟩
  | cons i rest ih =>
    have left : (d.step .next).2.outbox.queue = rest := by
      simp [step, next_of_cons queue, Outbox.take_of_cons queue, reading]
    have still := (d.reading_after [.next]).2 ⟨reading, by simp⟩
    obtain ⟨n, drained⟩ := ih still left
    exact ⟨n + 1, drained⟩

/-- No slot is kept free once a completion is through. -/
theorem Tracks.used_of_completed (h : Tracks d r) (through : d.completed = true) :
    d.outbox.used = d.outbox.queue.length := by
  apply h.outbox.used_of_clear
  simp_all [completed]

/-- A stream that is still held can send after the completion, and a client that reads on finds its
message there. -/
theorem Tracks.exists_late_message [Nonempty Out] (h : Tracks d r) (attached : d.attached = true)
    (reading : d.outbox.reading = true) (through : d.completed = true) :
    ∃ later, ¬ ((d.log later).foldl Response.record r).delivered <+: r.accepted := by
  obtain ⟨message⟩ := ‹Nonempty Out›
  obtain ⟨n, empty⟩ := exists_drained reading
  -- The buffer is emptied twice: first to make room for the message, then to read it.
  let emptied := d.after (List.replicate n .next)
  have attached' : emptied.attached = true := (d.attached_after _).2 ⟨attached, by simp⟩
  have reading' : emptied.outbox.reading = true := (d.reading_after _).2 ⟨reading, by simp⟩
  have through' : emptied.completed = true := (h.completed_after _).2 (.inl through)
  have room : emptied.outbox.used < capacity := by
    rw [(h.after _).used_of_completed through', empty]
    exact Nat.zero_lt_succ 15
  have sent := step_send attached' message
  rw [Outbox.offer_of_room reading' room] at sent
  have reading'' : (emptied.step (.send message)).2.outbox.reading = true := by
    rw [sent]
    exact reading'
  obtain ⟨k, empty'⟩ := exists_drained reading''
  let later : List (Op Out) := List.replicate n .next ++ .send message :: List.replicate k .next
  refine ⟨later, ?_⟩
  have tracks := h.after later
  have all_read : (d.after later).outbox.queue = [] := by
    rw [after_append]
    exact empty'
  have late : .ok message ∈ (d.log later).filterMap sentBy? := by
    rw [List.mem_filterMap]
    refine ⟨(.send message, .sent .accepted), ?_, rfl⟩
    rw [log_append, log_cons, sent]
    exact List.mem_append_right _ List.mem_cons_self
  have delivered := tracks.kept ((d.reading_after _).2 ⟨reading, by simp [later]⟩)
  rw [all_read, List.append_nil, h.accepted_foldl through] at delivered
  intro short
  have length := short.length_le
  rw [delivered, List.length_append] at length
  have := List.length_pos_of_mem late
  omega

end Steps

/-- What a completion that is through with `op` means for the rest of a call. -/
structure Sealed (d : Duplex In Out) (ops : List (Op Out)) (op : Op Out) : Prop where
  sent : .hangUp ∉ ops → (d.response (ops ++ [op])).accepted =
    (d.response ops).accepted ++ (((d.response ops).due op).map .error).toList
  added : ∀ later, (d.response (ops ++ [op] ++ later)).accepted =
    (d.response (ops ++ [op])).accepted ++ ((d.after (ops ++ [op])).log later).filterMap sentBy?
  last : (∀ later, (d.response (ops ++ [op] ++ later)).delivered <+:
    (d.response (ops ++ [op])).accepted) ↔ .detach ∈ ops ∨ .hangUp ∈ ops
  ended : .detach ∈ ops → ∀ later, .hangUp ∉ ops ++ [op] ++ later →
    (d.response (ops ++ [op] ++ later)).delivered = (d.response (ops ++ [op])).accepted →
      ((d.after (ops ++ [op] ++ later)).step .next).1 = .read .ended

/-- What a completion sends is the last that the client reads exactly if the stream was given up by
then, or the client has left; a stream that is still held can add to it. -/
theorem sealed_of_completes [Nonempty Out] (m : Metadata) (inbound : List (Except Status In))
    (ops : List (Op Out)) (op : Op Out)
    (through : (((receive m inbound).after ops).step op).1.completes = true) :
    Sealed (receive m inbound) ops op := by
  let d : Duplex In Out := receive m inbound
  have before := tracks m inbound ops
  have tracks := tracks m inbound (ops ++ [op])
  have completed : (d.after (ops ++ [op])).completed = true := by
    rw [after_append]
    exact (before.completed_step op).2 (.inr through)
  have attending : op ≠ .detach := by
    rintro rfl
    cases through
  have listening : op ≠ .hangUp := by
    rintro rfl
    cases through
  have attached : (d.after (ops ++ [op])).attached = true ↔ .detach ∉ ops := by
    rw [attached_after]
    simp [d, receive, attending.symm]
  have reading : (d.after (ops ++ [op])).outbox.reading = true ↔ .hangUp ∉ ops := by
    rw [reading_after]
    simp [d, receive, listening.symm]
  have added : ∀ later, (d.response (ops ++ [op] ++ later)).accepted =
      (d.response (ops ++ [op])).accepted ++
        ((d.after (ops ++ [op])).log later).filterMap sentBy? := by
    intro later
    rw [response_append, tracks.accepted_foldl completed]
  have silent : .detach ∈ ops ∨ .hangUp ∈ ops → ∀ later,
      (d.response (ops ++ [op] ++ later)).accepted = (d.response (ops ++ [op])).accepted := by
    intro mute later
    rw [added, filterMap_sentBy?, List.append_nil]
    rw [attached, reading]
    exact fun h => mute.elim h.1 h.2
  constructor
  · intro heard
    have sent := before.accepted_of_completes ((reading_after _ ops).2 ⟨rfl, heard⟩) through
    rw [response_append]
    exact sent
  · exact added
  · constructor
    · intro last
      by_cases mute : .detach ∈ ops ∨ .hangUp ∈ ops
      · exact mute
      · rw [not_or] at mute
        obtain ⟨later, late⟩ :=
          tracks.exists_late_message (attached.2 mute.1) (reading.2 mute.2) completed
        rw [← response_append] at late
        exact absurd (last later) late
    · intro mute later
      rw [← silent mute later]
      exact (Duplex.tracks m inbound (ops ++ [op] ++ later)).read
  · intro given_up later heard all_read
    rw [receive_ended_iff m inbound heard, silent (.inl given_up)]
    have entry : (op, ((d.after ops).step op).1) ∈ d.log (ops ++ [op] ++ later) := by
      rw [log_append, log_append]
      exact List.mem_append_left _ (List.mem_append_right _ List.mem_cons_self)
    exact ⟨by simp [given_up], ⟨_, entry, through⟩, all_read⟩

/-- After a message, the stream given up and a failure, the client reads both and nothing else. -/
theorem sealed_of_completes_failed :
    let ops : List (Op String) := [.send "a", .detach]
    let failure : Op String := .finish (.error clientLeft)
    let d : Duplex Unit String := receive {} []
    (((d.after ops).step failure).1.completes = true) ∧
      ∀ later, (d.response (ops ++ [failure] ++ later)).delivered <+: [.ok "a", .error clientLeft] := by
  intro ops failure d
  have final : Sealed d ops failure := sealed_of_completes {} [] ops failure rfl
  refine ⟨rfl, ?_⟩
  exact final.last.2 (.inl (List.mem_cons_of_mem _ List.mem_cons_self))

/-- A stream that is still held sends after the status that ended the call, and the client reads it. -/
theorem late_message_after_failure :
    let failure : Op String := .finish (.error clientLeft)
    let d : Duplex Unit String := receive {} []
    ((d.step failure).1.completes = true) ∧
      ¬ ∀ later, (d.response ([failure] ++ later)).delivered <+: (d.response [failure]).accepted := by
  intro failure d
  refine ⟨rfl, ?_⟩
  intro last
  have short := last [.send "late", .next, .next]
  have length : 2 ≤ 1 := short.length_le
  omega

end Duplex
end CallGate.Streaming
