import CallGate.Proofs.Delivery

/-! The status that a call ends with. It is made of the handler's result and of the trailers set before
the completion was used, where each name has the values of the last trailers that mention it. Whatever
happens later, the client is told this status once or not at all, and no other. -/

namespace CallGate

namespace Metadata

/-- The values of a name in the last of several trailers that mentions it. -/
def lastValues (trailers : List Metadata) (name : String) : List Bytes :=
  ((trailers.reverse.find? fun t => t.mentions name).map fun t => t.values name).getD []

theorem isEmpty_iff (m : Metadata) : m.isEmpty = true ↔ ∀ name, m.values name = [] := by
  simp only [isEmpty, List.isEmpty_iff, values_eq_nil_iff, mentions, List.any_eq_false]
  constructor
  · intro empty name e he
    simp [empty] at he
  · intro none
    apply List.eq_nil_iff_forall_not_mem.2
    intro e he
    simpa using none e.1 e he

/-- Trailers that replace each other leave every name with the values it was given last. -/
theorem values_foldl_replace (trailers : List Metadata) (m : Metadata) (name : String) :
    (trailers.foldl replace m).values name =
      ((trailers.reverse.find? fun t => t.mentions name).map fun t => t.values name).getD
        (m.values name) := by
  induction trailers generalizing m with
  | nil => rfl
  | cons t trailers ih =>
    rw [List.foldl_cons, ih, values_replace, List.reverse_cons, List.find?_append]
    cases trailers.reverse.find? fun t => t.mentions name with
    | some later => rfl
    | none => cases mentioned : t.mentions name <;> simp [mentioned]

end Metadata

namespace Streaming

variable {In Out : Type}

/-- The trailers that a log says were set, in order. -/
def trailersIn (log : List (Op Out × Answer In Out)) : List Metadata := log.filterMap fun
  | (.setTrailer t, .done) => some t
  | _ => none

/-- The statuses among the items of a response. -/
def statuses (items : List (Item Out)) : List Status := items.filterMap fun
  | .error status => some status
  | .ok _ => none

@[simp] theorem statuses_append (items more : List (Item Out)) :
    statuses (items ++ more) = statuses items ++ statuses more := List.filterMap_append

@[simp] theorem statuses_singleton (status : Status) :
    statuses [(.error status : Item Out)] = [status] := rfl

@[simp] theorem statuses_map_error (status : Option Status) :
    statuses ((status.map .error).toList : List (Item Out)) = status.toList := by
  cases status <;> rfl

/-- How a call ends that set the values `set` under each name: with no status if it succeeded and set
none, and else with one that carries the values after its own. -/
inductive Closing (set : String → List Bytes) : Except Status Unit → Option Status → Prop
  | silent (unset : ∀ name, set name = []) : Closing set (.ok ()) none
  | trailed {trailer : Metadata} (isSet : ∃ name, set name ≠ [])
      (carried : ∀ name, trailer.values name = set name) :
      Closing set (.ok ()) (some { code := .ok, message := "", details := [], metadata := trailer })
  | failed {cause : Status} {trailer : Metadata}
      (carried : ∀ name, trailer.values name = cause.metadata.values name ++ set name) :
      Closing set (.error cause) (some
        { code := cause.code, message := cause.message, details := cause.details,
          metadata := trailer })

theorem closing_terminal? (trailer : Metadata) (result : Except Status Unit) :
    Closing trailer.values result (terminal? trailer result) := by
  rcases result with cause | ⟨⟩
  · exact .failed fun name => Metadata.values_merge _ _ name
  · show Closing _ _ (if trailer.isEmpty then none else some _)
    split
    · next empty => exact .silent ((Metadata.isEmpty_iff trailer).1 empty)
    · next kept =>
      rw [Metadata.isEmpty_iff] at kept
      exact .trailed (by simpa using kept) fun _ => rfl

/-- The statuses of a response that were accepted, or wait to be. -/
def Response.told (r : Response Out) : List Status := statuses r.accepted ++ r.held.toList

/-- Only trailers that are set change the trailers of a call before its completion is used. -/
theorem Response.trailer_record {op : Op Out} (unused : ∀ result, op ≠ .finish result)
    (a : Answer In Out) (r : Response Out) :
    (r.record (op, a)).trailer = (trailersIn [(op, a)]).foldl .replace r.trailer := by
  cases op with
  | finish result => exact absurd rfl (unused result)
  | send m =>
    cases a with
    | sent o => cases o <;> rfl
    | _ => rfl
  | setTrailer t => cases a <;> rfl
  | next =>
    cases a with
    | read i => cases i <;> rfl
    | _ => rfl
  | resume =>
    cases a with
    | finished o => cases o <;> rfl
    | _ => rfl
  | _ => rfl

namespace Duplex

section Steps

variable {d : Duplex In Out} {r : Response Out} {op : Op Out}

theorem completable_step (unused : ∀ result, op ≠ .finish result) :
    (d.step op).2.completable = d.completable := by
  have effect := d.step_effect op
  generalize (d.step op).1 = a, (d.step op).2 = d' at effect ⊢
  cases effect with
  | aside _ _ _ _ _ completable => exact completable
  | bare | finished => exact absurd rfl (unused _)
  | _ => rfl

theorem used_step (used : d.completable = false) (op : Op Out) :
    (d.step op).2.completable = false := by
  have effect := d.step_effect op
  generalize (d.step op).1 = a, (d.step op).2 = d' at effect ⊢
  cases effect with
  | aside _ _ _ _ _ completable => rw [completable, used]
  | bare | finished => rfl
  | _ => exact used

/-- A step that is no completion adds no status to those a call has; a status that waits is lost if
the client has left. -/
theorem told_step (r : Response Out)
    (spent : d.completable = false ∨ ∀ result, op ≠ .finish result) :
    (r.record (op, (d.step op).1)).told <+: r.told ∧
      (d.outbox.reading = true → (r.record (op, (d.step op).1)).told = r.told) := by
  have effect := d.step_effect op
  generalize (d.step op).1 = a, (d.step op).2 = d' at effect ⊢
  cases effect with
  | aside unrecorded => simp [unrecorded]
  | sent => simp [Response.record, Response.told, statuses]
  | trailed | detached | read | hungUp => simp [Response.record, Response.told]
  | bare completable | finished completable =>
    rcases spent with used | unused
    · simp [used] at completable
    · exact absurd rfl (unused _)
  | @resumed o settled =>
    obtain ⟨i, waiting, fates⟩ := Outbox.resume_settled settled
    obtain ⟨rfl, -⟩ | ⟨rfl, -⟩ | ⟨rfl, closed, -⟩ := fates
    · simp [Response.record, Response.settle, Response.told]
    · simp [Response.record, Response.settle, Response.told]
    · simp [Response.record, Response.settle, Response.told, closed]

/-- A completion adds its status to those a call has, if it has one, and loses it only if the client
has left. -/
theorem Tracks.told_finish (h : Tracks d r) (completable : d.completable = true)
    (result : Except Status Unit) :
    (r.record (.finish result, (d.step (.finish result)).1)).told <+:
        r.told ++ (terminal? d.trailer result).toList ∧
      (d.outbox.reading = true → (r.record (.finish result, (d.step (.finish result)).1)).told =
        r.told ++ (terminal? d.trailer result).toList) := by
  have held := h.unheld completable
  cases terminal : terminal? d.trailer result with
  | none =>
    rw [step_finish_silent completable terminal]
    rw [h.trailer] at terminal
    simp [Response.record, Response.settle, Response.told, terminal, held]
  | some status =>
    rw [step_finish completable terminal]
    rw [h.trailer] at terminal
    obtain ⟨-, -, ho⟩ | ⟨-, -, ho⟩ | ⟨closed, ho⟩ := d.outbox.await_cases (.error status)
    · simp [Response.record, Response.settle, Response.told, terminal, held, ho]
    · simp [Response.record, Response.settle, Response.told, terminal, held, ho]
    · simp [Response.record, Response.settle, Response.told, held, ho, closed]

end Steps

section Runs

variable {d : Duplex In Out} {r : Response Out} {ops : List (Op Out)}

theorem completable_after (unused : ∀ result, .finish result ∉ ops) :
    (d.after ops).completable = d.completable := by
  induction ops generalizing d with
  | nil => rfl
  | cons op ops ih =>
    simp only [List.mem_cons, not_or] at unused
    rw [after_cons, ih fun result => (unused result).2]
    exact completable_step fun result same => (unused result).1 same.symm

theorem trailer_response (unused : ∀ result, .finish result ∉ ops) :
    ((d.log ops).foldl Response.record r).trailer =
      (trailersIn (d.log ops)).foldl .replace r.trailer := by
  induction ops generalizing d r with
  | nil => rfl
  | cons op ops ih =>
    simp only [List.mem_cons, not_or] at unused
    have first := r.trailer_record (fun result same => (unused result).1 same.symm) (d.step op).1
    have split : trailersIn (d.log (op :: ops)) =
        trailersIn [(op, (d.step op).1)] ++ trailersIn ((d.step op).2.log ops) :=
      List.filterMap_append (l := [(op, (d.step op).1)])
    rw [log_cons, List.foldl_cons, ih fun result => (unused result).2, first, ← log_cons, split,
      List.foldl_append]

/-- Before its completion is used, and after that, a call has no more statuses than it has had; and it
keeps those as long as the client listens. -/
theorem told_after (spent : d.completable = false ∨ ∀ result, .finish result ∉ ops) :
    ((d.log ops).foldl Response.record r).told <+: r.told ∧
      (d.outbox.reading = true → .hangUp ∉ ops →
        ((d.log ops).foldl Response.record r).told = r.told) := by
  induction ops generalizing d r with
  | nil => exact ⟨List.prefix_rfl, fun _ _ => rfl⟩
  | cons op ops ih =>
    have now : d.completable = false ∨ ∀ result, op ≠ .finish result :=
      spent.imp_right fun unused result same => unused result (by simp [same])
    have later : (d.step op).2.completable = false ∨ ∀ result, .finish result ∉ ops := by
      rcases spent with used | unused
      · exact .inl (used_step used op)
      · exact .inr fun result used => unused result (List.mem_cons_of_mem _ used)
    obtain ⟨short, kept⟩ := told_step r now
    obtain ⟨short', kept'⟩ := ih (r := r.record (op, (d.step op).1)) later
    refine ⟨short'.trans short, ?_⟩
    intro reading listening
    have heard : (d.step op).2.outbox.reading = true :=
      (d.reading_after [op]).2 ⟨reading, fun gone => listening (by simp_all)⟩
    rw [log_cons, List.foldl_cons, kept' heard fun gone => listening (List.mem_cons_of_mem _ gone),
      kept reading]

end Runs

/-- What becomes of the status that a call ends with: while the client listens it has read it, or will,
or it waits for a slot; and the client reads no other. -/
structure ToldOnce (d : Duplex In Out) (ops : List (Op Out)) (closing : Option Status) : Prop where
  once : .hangUp ∉ ops → statuses (d.response ops).delivered ++
    statuses (d.after ops).outbox.queue ++ statuses (d.after ops).outbox.waiting.toList =
      closing.toList
  only : statuses (d.response ops).delivered <+: closing.toList

theorem Tracks.toldOnce {d : Duplex In Out} {ops : List (Op Out)} {closing : Option Status}
    (h : Tracks (d.after ops) (d.response ops))
    (reading : (d.after ops).outbox.reading = true ↔ .hangUp ∉ ops)
    (short : (d.response ops).told <+: closing.toList)
    (kept : .hangUp ∉ ops → (d.response ops).told = closing.toList) : ToldOnce d ops closing := by
  constructor
  · intro listening
    rw [← statuses_append, h.kept (reading.2 listening), h.waiting, statuses_map_error]
    exact kept listening
  · have read : statuses (d.response ops).delivered <+: statuses (d.response ops).accepted :=
      h.read.filterMap _
    exact (read.trans (List.prefix_append _ _)).trans short

/-- A call ends with the status that its result and the trailers set by then make up: the client is
told it once, and nothing that is done after the completion was used changes it. -/
theorem receive_closing (m : Metadata) (inbound : List (Except Status In)) (ops : List (Op Out))
    (result : Except Status Unit) (unused : ∀ result, .finish result ∉ ops) :
    ∃ closing : Option Status,
      Closing (Metadata.lastValues (trailersIn ((receive m inbound : Duplex In Out).log ops)))
        result closing ∧
      ∀ later, ToldOnce (receive m inbound : Duplex In Out) (ops ++ .finish result :: later)
        closing := by
  let d : Duplex In Out := receive m inbound
  have tracks : Tracks (d.after ops) (d.response ops) := Duplex.tracks m inbound ops
  have completable : (d.after ops).completable = true := completable_after unused
  have trailer : (d.after ops).trailer = (trailersIn (d.log ops)).foldl .replace {} :=
    tracks.trailer.trans (trailer_response unused)
  have none_told : (d.response ops).told = [] := by
    have told := (told_after (d := d) (r := {}) (.inr unused)).1
    exact List.prefix_nil.1 told
  refine ⟨terminal? (d.after ops).trailer result, ?_, ?_⟩
  · have values : (d.after ops).trailer.values = Metadata.lastValues (trailersIn (d.log ops)) := by
      funext name
      rw [trailer, Metadata.values_foldl_replace]
      rfl
    have closing := closing_terminal? (d.after ops).trailer result
    rwa [values] at closing
  · intro later
    have used : ((d.after ops).step (.finish result)).2.completable = false := by
      cases terminal : terminal? (d.after ops).trailer result with
      | none => rw [step_finish_silent completable terminal]
      | some status => rw [step_finish completable terminal]
    obtain ⟨short, kept⟩ := tracks.told_finish completable result
    obtain ⟨short', kept'⟩ := @told_after In Out _
      ((d.response ops).record (.finish result, ((d.after ops).step (.finish result)).1)) later
      (.inl used)
    have reading := d.reading_after (ops ++ .finish result :: later)
    apply Tracks.toldOnce
    · exact Duplex.tracks m inbound _
    · rw [reading]
      exact and_iff_right rfl
    · rw [response_append]
      rw [none_told] at short
      exact short'.trans short
    · intro listening
      simp only [List.mem_append, List.mem_cons, not_or] at listening
      obtain ⟨first, -, rest⟩ := listening
      have heard : (d.after ops).outbox.reading = true := (d.reading_after ops).2 ⟨rfl, first⟩
      have still : ((d.after ops).step (.finish result)).2.outbox.reading = true :=
        ((d.after ops).reading_after [.finish result]).2 ⟨heard, by simp⟩
      rw [response_append, log_cons, List.foldl_cons, kept' still rest, kept heard, none_told]
      rfl

/-- A trailer that is set twice, and messages that fill the buffer. -/
def trailedStart : List (Op String) :=
  [.setTrailer (.single "x-a" [1]), .wrap (.root {}),
    .setTrailer ⟨[("x-a", [2]), ("x-a", [3])]⟩] ++ List.replicate 16 (.send "m")

/-- A trailer that is set while the status waits, and a client that reads all there is. -/
def trailedRest : List (Op String) :=
  [.setTrailer (.single "x-a" [4]), .next, .resume] ++ List.replicate 16 .next

/-- A failure with a trailer of its own, told after it has waited for a slot. -/
theorem receive_closing_trailed :
    let failure : Status := { code := .notFound, message := "", metadata := .single "x-a" [0] }
    let call : List (Op String) := trailedStart ++ .finish (.error failure) :: trailedRest
    (∀ result, .finish result ∉ trailedStart) ∧
      ∃ status : Status, status.code = .notFound ∧
        status.metadata.values "x-a" = [[0], [2], [3]] ∧
        statuses ((receive {} [] : Duplex Unit String).response call).delivered = [status] := by
  intro failure call
  have unused : ∀ result, .finish result ∉ trailedStart := by simp [trailedStart]
  obtain ⟨closing, made, told⟩ :=
    receive_closing {} ([] : List (Except Status Unit)) trailedStart (.error failure) unused
  cases made with
  | @failed _ trailer carried =>
    have values : failure.metadata.values "x-a" ++ Metadata.lastValues
        (trailersIn ((receive {} [] : Duplex Unit String).log trailedStart)) "x-a" =
          [[0], [2], [3]] := by decide
    refine ⟨unused, { failure with metadata := trailer }, rfl, (carried "x-a").trans values, ?_⟩
    have once := (told trailedRest).once (by simp [trailedStart, trailedRest])
    have empty : ((receive {} [] : Duplex Unit String).after call).outbox.queue = [] := rfl
    have free : ((receive {} [] : Duplex Unit String).after call).outbox.waiting = none := rfl
    rw [empty, free] at once
    simpa [statuses] using once

end Duplex
end Streaming
end CallGate
