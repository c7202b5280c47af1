/-! The bounded buffer between a call and the reader of its responses. One item may wait for a slot;
a slot that the reader frees is promised to it before anyone else can take it. -/

namespace CallGate.Streaming

/-- How many items the buffer holds. -/
def capacity : Nat := 16

structure Outbox (α : Type) where
  queue : List α := []
  waiting : Option α := none
  /-- Whether a slot is promised to the waiting item. -/
  promised : Bool := false
  /-- Whether there still is a reader. -/
  reading : Bool := true

/-- What becomes of an item that is offered. -/
inductive Offer where
  | accepted
  | full
  | gone
  deriving DecidableEq, Repr

namespace Outbox

variable {α : Type}

/-- The slots that are filled or promised. -/
def used (b : Outbox α) : Nat := b.queue.length + if b.promised then 1 else 0

/-- Puts an item at the end of the buffer, if there is a reader and a free slot. -/
def offer (b : Outbox α) (a : α) : Offer × Outbox α :=
  if b.reading then
    if b.used < capacity then (.accepted, { b with queue := b.queue ++ [a] }) else (.full, b)
  else (.gone, b)

/-- Offers an item and has it wait if the buffer is full. -/
def await (b : Outbox α) (a : α) : Offer × Outbox α :=
  match b.offer a with
  | (.full, b) => (.full, { b with waiting := some a })
  | settled => settled

/-- Has the waiting item take the slot promised to it; none if nothing waits. -/
def resume (b : Outbox α) : Option Offer × Outbox α :=
  match b.waiting with
  | none => (none, b)
  | some a =>
      if b.reading then
        if b.promised then
          (some .accepted, { b with queue := b.queue ++ [a], waiting := none, promised := false })
        else (some .full, b)
      else (some .gone, { b with waiting := none, promised := false })

/-- The reader takes the oldest item. -/
def take (b : Outbox α) : Option α × Outbox α :=
  match b.queue with
  | [] => (none, b)
  | a :: rest => (some a, { b with queue := rest, promised := b.promised || b.waiting.isSome })

/-- The reader leaves; what it did not take is lost. -/
def hangUp (b : Outbox α) : Outbox α := { b with queue := [], reading := false }

theorem take_of_cons {b : Outbox α} {a : α} {rest : List α} (queue : b.queue = a :: rest) :
    b.take = (some a, { b with queue := rest, promised := b.promised || b.waiting.isSome }) := by
  rw [take, queue]

theorem offer_of_room {b : Outbox α} (reading : b.reading = true) (room : b.used < capacity) (a : α) :
    b.offer a = (.accepted, { b with queue := b.queue ++ [a] }) := by
  rw [offer, if_pos reading, if_pos room]

theorem offer_of_full {b : Outbox α} (reading : b.reading = true) (full : capacity ≤ b.used) (a : α) :
    b.offer a = (.full, b) := by
  rw [offer, if_pos reading, if_neg (by omega)]

theorem offer_of_closed {b : Outbox α} (closed : b.reading = false) (a : α) :
    b.offer a = (.gone, b) := by
  rw [offer, closed]
  rfl

/-- All that can come of an offer. -/
theorem offer_cases (b : Outbox α) (a : α) :
    (b.reading = true ∧ b.used < capacity ∧
      b.offer a = (.accepted, { b with queue := b.queue ++ [a] })) ∨
    (b.reading = true ∧ capacity ≤ b.used ∧ b.offer a = (.full, b)) ∨
    (b.reading = false ∧ b.offer a = (.gone, b)) := by
  by_cases reading : b.reading = true
  · by_cases room : b.used < capacity
    · exact .inl ⟨reading, room, offer_of_room reading room a⟩
    · have full : capacity ≤ b.used := by omega
      exact .inr (.inl ⟨reading, full, offer_of_full reading full a⟩)
  · have closed : b.reading = false := by simpa using reading
    exact .inr (.inr ⟨closed, offer_of_closed closed a⟩)

/-- All that can come of an offer that waits if the buffer is full. -/
theorem await_cases (b : Outbox α) (a : α) :
    (b.reading = true ∧ b.used < capacity ∧
      b.await a = (.accepted, { b with queue := b.queue ++ [a] })) ∨
    (b.reading = true ∧ capacity ≤ b.used ∧ b.await a = (.full, { b with waiting := some a })) ∨
    (b.reading = false ∧ b.await a = (.gone, b)) := by
  unfold await
  obtain ⟨hr, hu, ho⟩ | ⟨hr, hu, ho⟩ | ⟨hr, ho⟩ := b.offer_cases a
  · exact .inl ⟨hr, hu, by rw [ho]⟩
  · exact .inr (.inl ⟨hr, hu, by rw [ho]⟩)
  · exact .inr (.inr ⟨hr, by rw [ho]⟩)

/-- All that can come of having the waiting item go on. -/
theorem resume_cases (b : Outbox α) :
    (b.waiting = none ∧ b.resume = (none, b)) ∨
    ∃ a, b.waiting = some a ∧
      ((b.reading = true ∧ b.promised = true ∧ b.resume = (some .accepted,
          { b with queue := b.queue ++ [a], waiting := none, promised := false })) ∨
        (b.reading = true ∧ b.promised = false ∧ b.resume = (some .full, b)) ∨
        (b.reading = false ∧
          b.resume = (some .gone, { b with waiting := none, promised := false }))) := by
  unfold resume
  cases hw : b.waiting with
  | none => exact .inl ⟨rfl, rfl⟩
  | some a =>
    refine .inr ⟨a, rfl, ?_⟩
    by_cases hr : b.reading = true
    · by_cases hp : b.promised = true
      · exact .inl ⟨hr, hp, by simp [hr, hp]⟩
      · exact .inr (.inl ⟨hr, by simpa using hp, by simp [hr, hp]⟩)
    · exact .inr (.inr ⟨by simpa using hr, by simp [hr]⟩)

/-- What becomes of an item that waits, once it is known what it was answered. -/
theorem resume_settled {b : Outbox α} {o : Offer} (settled : b.resume.1 = some o) :
    ∃ a, b.waiting = some a ∧
      ((o = .accepted ∧ b.reading = true ∧ b.resume.2 =
          { b with queue := b.queue ++ [a], waiting := none, promised := false }) ∨
        (o = .full ∧ b.reading = true ∧ b.resume.2 = b) ∨
        (o = .gone ∧ b.reading = false ∧
          b.resume.2 = { b with waiting := none, promised := false })) := by
  obtain ⟨-, hr⟩ | ⟨a, waiting, fates⟩ := b.resume_cases
  · simp [hr] at settled
  · refine ⟨a, waiting, ?_⟩
    obtain ⟨reading, -, hr⟩ | ⟨reading, -, hr⟩ | ⟨closed, hr⟩ := fates
    all_goals
      rw [hr] at settled ⊢
      cases settled
    · exact .inl ⟨rfl, reading, rfl⟩
    · exact .inr (.inl ⟨rfl, reading, rfl⟩)
    · exact .inr (.inr ⟨rfl, closed, rfl⟩)

@[simp] theorem reading_take (b : Outbox α) : b.take.2.reading = b.reading := by
  unfold take
  split <;> rfl

@[simp] theorem waiting_take (b : Outbox α) : b.take.2.waiting = b.waiting := by
  unfold take
  split <;> rfl

@[simp] theorem reading_await (b : Outbox α) (a : α) : (b.await a).2.reading = b.reading := by
  obtain ⟨-, -, h⟩ | ⟨-, -, h⟩ | ⟨-, h⟩ := b.await_cases a <;> rw [h]

@[simp] theorem reading_resume (b : Outbox α) : b.resume.2.reading = b.reading := by
  obtain ⟨-, h⟩ | ⟨a, -, ⟨-, -, h⟩ | ⟨-, -, h⟩ | ⟨-, h⟩⟩ := b.resume_cases <;> rw [h]

/-- No more than all slots are in use, only an item that waits is promised one, and an item that
waits without a promise finds all of them filled. -/
structure Sound (b : Outbox α) : Prop where
  fits : b.used ≤ capacity
  promise : b.promised = true → b.waiting.isSome
  blocked : b.waiting.isSome → b.promised = false → b.reading = true → b.queue.length = capacity
  deserted : b.reading = false → b.queue = []

theorem Sound.initial : Sound ({} : Outbox α) :=
  ⟨Nat.zero_le _, by simp, by simp, by simp⟩

theorem offer_eq_full_iff {b : Outbox α} {a : α} :
    (b.offer a).1 = .full ↔ b.reading = true ∧ capacity ≤ b.used := by
  unfold offer
  split
  · next hr => split <;> simp [hr] <;> omega
  · next hr => simp [hr]

theorem offer_eq_gone_iff {b : Outbox α} {a : α} : (b.offer a).1 = .gone ↔ b.reading = false := by
  unfold offer
  split
  · next hr => split <;> simp [hr]
  · next hr => simpa using hr

/-- An item that finds a free slot is added to the buffer. -/
theorem Sound.append {b : Outbox α} (h : b.Sound) (reading : b.reading = true)
    (room : b.used < capacity) (a : α) : Sound { b with queue := b.queue ++ [a] } := by
  refine ⟨?_, h.promise, ?_, ?_⟩
  · simp only [used, List.length_append, List.length_singleton] at room ⊢
    omega
  · intro waits unpromised _
    have full := h.blocked waits unpromised reading
    simp only [used, full] at room
    omega
  · intro closed
    simp [reading] at closed

/-- An item that finds all slots in use waits. -/
theorem Sound.hold {b : Outbox α} (h : b.Sound) (full : capacity ≤ b.used) (a : α) :
    Sound { b with waiting := some a } := by
  refine ⟨h.fits, fun _ => rfl, ?_, h.deserted⟩
  intro _ unpromised _
  have unpromised : b.promised = false := unpromised
  have used : b.used = b.queue.length := by simp [used, unpromised]
  have fits := h.fits
  show b.queue.length = capacity
  omega

/-- The item that waits takes the slot that was promised to it. -/
theorem Sound.fulfil {b : Outbox α} (h : b.Sound) (reading : b.reading = true)
    (promised : b.promised = true) (a : α) :
    Sound { b with queue := b.queue ++ [a], waiting := none, promised := false } := by
  refine ⟨?_, nofun, nofun, ?_⟩
  · have fits := h.fits
    simp only [used, promised, if_true] at fits
    simpa [used] using fits
  · intro closed
    simp [reading] at closed

theorem Sound.offer {b : Outbox α} (h : b.Sound) (a : α) : (b.offer a).2.Sound := by
  obtain ⟨reading, room, ho⟩ | ⟨-, -, ho⟩ | ⟨-, ho⟩ := b.offer_cases a
  · rw [ho]
    exact h.append reading room a
  all_goals
    rw [ho]
    exact h

theorem Sound.await {b : Outbox α} (h : b.Sound) (a : α) : (b.await a).2.Sound := by
  obtain ⟨reading, room, ho⟩ | ⟨-, full, ho⟩ | ⟨-, ho⟩ := b.await_cases a
  · rw [ho]
    exact h.append reading room a
  · rw [ho]
    exact h.hold full a
  · rw [ho]
    exact h

theorem Sound.resume {b : Outbox α} (h : b.Sound) : b.resume.2.Sound := by
  obtain ⟨-, hr⟩ | ⟨a, -, ⟨reading, promised, hr⟩ | ⟨-, -, hr⟩ | ⟨-, hr⟩⟩ := b.resume_cases
  · rw [hr]
    exact h
  · rw [hr]
    exact h.fulfil reading promised a
  · rw [hr]
    exact h
  · rw [hr]
    exact ⟨Nat.le_trans (Nat.le_add_right ..) h.fits, nofun, nofun, h.deserted⟩

theorem Sound.take {b : Outbox α} (h : b.Sound) : b.take.2.Sound := by
  cases queue : b.queue with
  | nil =>
    have empty : b.take = (none, b) := by rw [Outbox.take, queue]
    rw [empty]
    exact h
  | cons a rest =>
    rw [take_of_cons queue]
    refine ⟨?_, ?_, ?_, ?_⟩
    · have fits : b.queue.length ≤ capacity := Nat.le_trans (Nat.le_add_right ..) h.fits
      simp only [queue, List.length_cons] at fits
      simp only [used]
      split <;> omega
    · intro promised
      rcases Bool.or_eq_true_iff.1 promised with promised | waits
      · exact h.promise promised
      · exact waits
    · intro waits unpromised _
      have waits : b.waiting.isSome = true := waits
      simp [waits] at unpromised
    · intro closed
      have empty := h.deserted closed
      simp [queue] at empty

/-- While nothing waits no slot is kept free. -/
theorem Sound.used_of_clear {b : Outbox α} (h : b.Sound) (clear : b.waiting = none) :
    b.used = b.queue.length := by
  have unpromised : b.promised ≠ true := by
    intro promised
    have waits := h.promise promised
    simp [clear] at waits
  simp [used, unpromised]

theorem Sound.hangUp {b : Outbox α} (h : b.Sound) : b.hangUp.Sound := by
  refine ⟨?_, h.promise, by simp [Outbox.hangUp], by simp [Outbox.hangUp]⟩
  simp only [Outbox.hangUp, used, List.length_nil]
  by_cases hp : b.promised = true <;> simp [hp, capacity]

end Outbox
end CallGate.Streaming
