import CallGate.Proofs.Delivery

/-! Wrappers around a stream. Whatever is asked of a wrapper or a box is passed on, through as many
others as there are, to the stream that the call came in with; so putting them on and taking them off
can be left out of a run, and all that is left is answered as before. The contexts that a stream shows
are those of the wrappers around it, and taking a wrapper off leaves what was there before it was put
on. -/

namespace CallGate.Streaming

variable {In Out : Type}

/-- Whether an operation puts something around the stream or takes it off. -/
def Op.isLayering : Op Out → Bool
  | .box | .wrap _ | .unwrap => true
  | _ => false

/-- What an operation that is passed on leaves of a stream. -/
def Op.pass : Op Out → ServerStream In → ServerStream In
  | .recv, s => s.rest
  | _, s => s

/-- The stream that the call came in with, out of its boxes and wrappers. -/
def ServerStream.bare (s : ServerStream In) : ServerStream In := .own s.root s.inbound

section Pass

variable (op : Op Out) (s : ServerStream In)

theorem Op.pass_bare : op.pass s.bare = (op.pass s).bare := by
  cases op with
  | recv => simp [pass, ServerStream.bare, ServerStream.rest]
  | _ => rfl

theorem Op.layers_pass : (op.pass s).layers = s.layers := by
  cases op with
  | recv => exact s.layers_rest
  | _ => rfl

theorem Op.root_pass : (op.pass s).root = s.root := by
  cases op with
  | recv => exact s.root_rest
  | _ => rfl

end Pass

/-- What is done to a call besides wrapping its stream. -/
def unwrapped (ops : List (Op Out)) : List (Op Out) := ops.filter fun op => !op.isLayering

/-- What one entry of a log makes of the wrappers around the stream, the outermost first. -/
def relayer (layers : List Context) : Op Out × Answer In Out → List Context
  | (.wrap c, .done) => c :: layers
  | (.unwrap, .done) => layers.tail
  | _ => layers

/-- The contexts of the wrappers that a log leaves around the stream, the outermost first. -/
def wrappers (log : List (Op Out × Answer In Out)) : List Context := log.foldl relayer []

/-- Operations on a stream that is kept, which take off the wrappers that they put on and no
others. -/
inductive Matched : List (Op Out) → Prop
  | nil : Matched []
  | plain {op : Op Out} (unlayered : op.isLayering = false) (attending : op ≠ .detach) : Matched [op]
  | boxed : Matched [.box]
  | append {ops later : List (Op Out)} (first : Matched ops) (second : Matched later) :
      Matched (ops ++ later)
  | nest {ops : List (Op Out)} (c : Context) (inside : Matched ops) :
      Matched (.wrap c :: (ops ++ [.unwrap]))

theorem Matched.attending {ops : List (Op Out)} (h : Matched ops) : .detach ∉ ops := by
  induction h with
  | nil | boxed => simp
  | plain _ attending => simpa using attending.symm
  | append _ _ ih ih' => simp [ih, ih']
  | nest c _ ih => simp [ih]

namespace Duplex

/-- The call with its stream out of its wrappers. -/
def bare (d : Duplex In Out) : Duplex In Out := { d with stream := d.stream.bare }

section Steps

variable {d : Duplex In Out} {op : Op Out}

/-- An operation that does not wrap goes alike on all streams that bring the same, however they are
wrapped, and leaves the wrapping alone. -/
theorem step_frame (plain : op.isLayering = false) (d : Duplex In Out) {stream : ServerStream In}
    (same : stream.inbound = d.inbound) : ({ d with stream } : Duplex In Out).step op =
      ((d.step op).1, { (d.step op).2 with
        stream := if d.attached then op.pass stream else stream }) := by
  cases op with
  | box | wrap | unwrap => cases plain
  | recv =>
    simp only [step, onStream, recv_eq]
    rw [show Duplex.inbound { d with stream } = d.inbound from same]
    split <;> rfl
  | send m =>
    simp only [step, onStream, send_eq]
    split <;> rfl
  | setTrailer t =>
    simp only [step, onStream, setTrailer_eq]
    split <;> rfl
  | detach | hangUp => simp [step, detach, hangUp, Op.pass]
  | next =>
    simp only [step, next_frame, Op.pass, ite_self]
    split <;> rfl
  | finish result =>
    simp only [step, finish_frame, Op.pass, ite_self]
    split <;> rfl
  | resume =>
    simp only [step, resume, Op.pass, ite_self]
    cases d.outbox.resume.1 <;> rfl

theorem stream_step (plain : op.isLayering = false) (d : Duplex In Out) :
    (d.step op).2.stream = if d.attached then op.pass d.stream else d.stream := by
  have same : d.stream.inbound = d.inbound := rfl
  exact congrArg (·.2.stream) (step_frame plain d same)

theorem step_bare (plain : op.isLayering = false) (d : Duplex In Out) :
    d.bare.step op = ((d.step op).1, (d.step op).2.bare) := by
  have same : d.stream.bare.inbound = d.inbound := rfl
  have bared := step_frame plain d same
  have stream : (d.step op).2.stream.bare =
      if d.attached then op.pass d.stream.bare else d.stream.bare := by
    rw [stream_step plain]
    split
    · exact (op.pass_bare d.stream).symm
    · rfl
  rw [← stream] at bared
  exact bared

/-- Wrapping changes what is around the stream and nothing else. -/
theorem bare_step (layering : op.isLayering = true) (d : Duplex In Out) :
    (d.step op).2.bare = d.bare := by
  cases op with
  | box | wrap c =>
    simp only [step, onStream]
    split <;> rfl
  | unwrap =>
    simp only [step, onStream, unwrap?]
    split
    · cases found : d.stream.unwrap? with
      | none => rfl
      | some inner =>
        obtain ⟨inbound, root, -⟩ := ServerStream.of_unwrap? found
        have same : inner.bare = d.stream.bare := by
          rw [ServerStream.bare, ServerStream.bare, inbound, root]
        exact congrArg (fun stream => { d with stream }) same
    · rfl
  | _ => cases layering

theorem layers_step_relayer (d : Duplex In Out) (op : Op Out) :
    (d.step op).2.stream.layers = relayer d.stream.layers (op, (d.step op).1) := by
  cases layering : op.isLayering with
  | false =>
    have plain : relayer d.stream.layers (op, (d.step op).1) = d.stream.layers := by
      cases op with
      | wrap | unwrap => cases layering
      | _ => rfl
    rw [plain, stream_step layering]
    split
    · exact op.layers_pass d.stream
    · rfl
  | true =>
    cases op with
    | box | wrap c =>
      simp only [step, onStream]
      split <;> rfl
    | unwrap =>
      simp only [step, onStream, unwrap?]
      split
      · cases found : d.stream.unwrap? with
        | none => rfl
        | some inner =>
          obtain ⟨-, -, c, layers⟩ := ServerStream.of_unwrap? found
          rw [layers]
          rfl
      · rfl
    | _ => cases layering

theorem root_step (d : Duplex In Out) (op : Op Out) : (d.step op).2.stream.root = d.stream.root := by
  cases layering : op.isLayering with
  | true =>
    show (d.step op).2.bare.stream.root = d.bare.stream.root
    rw [bare_step layering]
  | false =>
    rw [stream_step layering]
    split
    · exact op.root_pass d.stream
    · rfl

end Steps

section Runs

theorem log_unwrapped (d : Duplex In Out) (ops : List (Op Out)) :
    (d.log ops).filter (fun e => !e.1.isLayering) = d.bare.log (unwrapped ops) := by
  induction ops generalizing d with
  | nil => rfl
  | cons op ops ih =>
    unfold unwrapped at ih ⊢
    rw [log_cons, List.filter_cons, List.filter_cons]
    cases layering : op.isLayering with
    | true =>
      rw [← bare_step layering d]
      exact ih _
    | false =>
      simp only [Bool.not_false, if_true, log_cons, step_bare layering, ih]

theorem bare_after (d : Duplex In Out) (ops : List (Op Out)) :
    (d.after ops).bare = d.bare.after (unwrapped ops) := by
  induction ops generalizing d with
  | nil => rfl
  | cons op ops ih =>
    unfold unwrapped at ih ⊢
    rw [after_cons, ih, List.filter_cons]
    cases layering : op.isLayering with
    | true => rw [bare_step layering]; rfl
    | false => simp only [Bool.not_false, if_true, after_cons, step_bare layering]

theorem nexts_bare (n : Nat) (d : Duplex In Out) :
    nexts n d.bare = ((nexts n d).1, (nexts n d).2.bare) := by
  have stream : (nexts n d).2.stream = d.stream := congrArg (·.2.stream) (d.nexts_frame d.stream n)
  unfold bare
  rw [stream]
  exact d.nexts_frame d.stream.bare n

theorem layers_after (d : Duplex In Out) (ops : List (Op Out)) :
    (d.after ops).stream.layers = (d.log ops).foldl relayer d.stream.layers := by
  induction ops generalizing d with
  | nil => rfl
  | cons op ops ih => rw [after_cons, ih, log_cons, List.foldl_cons, layers_step_relayer]

theorem root_after (d : Duplex In Out) (ops : List (Op Out)) :
    (d.after ops).stream.root = d.stream.root := by
  induction ops generalizing d with
  | nil => rfl
  | cons op ops ih => rw [after_cons, ih, root_step]

/-- What is matched leaves the wrappers around a stream as they were. -/
theorem layers_after_matched {ops : List (Op Out)} (matched : Matched ops) (d : Duplex In Out) :
    (d.after ops).stream.layers = d.stream.layers := by
  induction matched generalizing d with
  | nil => rfl
  | @plain op unlayered =>
    rw [after_cons, after_nil, layers_step_relayer]
    cases op with
    | wrap | unwrap => cases unlayered
    | _ => rfl
  | boxed => rw [after_cons, after_nil, layers_step_relayer]; rfl
  | append _ _ ih ih' => rw [after_append, ih', ih]
  | @nest ops c inside ih =>
    rw [after_cons, after_append]
    by_cases attached : d.attached = true
    · -- The wrapper is on the stream, and still the outermost one when it is taken off.
      have on : (d.step (.wrap c)).2 = d.wrap c := by simp [step, onStream, attached]
      have kept : ((d.wrap c).after ops).attached = true :=
        (attached_after _ ops).2 ⟨attached, inside.attending⟩
      have layers : ((d.wrap c).after ops).stream.layers = c :: d.stream.layers := ih _
      obtain ⟨inner, found⟩ : ∃ inner, ((d.wrap c).after ops).stream.unwrap? = some inner := by
        rw [← Option.ne_none_iff_exists', Ne, ServerStream.unwrap?_eq_none_iff, layers]
        exact List.cons_ne_nil c _
      rw [on, after_cons, after_nil, layers_step_relayer, layers]
      simp [step, onStream, kept, unwrap?, found, relayer]
    · have off : (d.step (.wrap c)).2 = d := by simp [step, onStream, attached]
      have gone : ¬ (d.after ops).attached = true := by
        rw [attached_after]
        exact fun h => attached h.1
      have idle : ((d.after ops).step .unwrap).2 = d.after ops := by simp [step, onStream, gone]
      rw [off, after_cons, after_nil, idle, ih]

end Runs

/-- What is shown under the outermost wrapper is what the next one shows. -/
theorem inner?_eq (d : Duplex In Out) : d.inner? = match d.stream.layers with
    | [] => none
    | _ :: layers => some (layers.headD d.stream.root) := by
  unfold inner?
  cases found : d.stream.unwrap? with
  | none =>
    rw [ServerStream.unwrap?_eq_none_iff.1 found]
    rfl
  | some inner =>
    obtain ⟨-, root, c, layers⟩ := ServerStream.of_unwrap? found
    rw [layers]
    show some inner.context = some (inner.layers.headD d.stream.root)
    rw [inner.context_eq, root]

/-- What a stream shows depends on its wrappers and its own context only. -/
theorem shown_congr {d e : Duplex In Out} (layers : d.stream.layers = e.stream.layers)
    (root : d.stream.root = e.stream.root) : d.shown = e.shown ∧ d.inner? = e.inner? := by
  rw [shown, shown, ServerStream.context_eq, ServerStream.context_eq, inner?_eq, inner?_eq, layers,
    root]
  exact ⟨rfl, rfl⟩

/-- A run of a call beside the run in which its stream is never wrapped, and the contexts that the
stream shows on the way. -/
structure Transparent (d : Duplex In Out) (ops : List (Op Out)) : Prop where
  answered : (d.log ops).filter (fun e => !e.1.isLayering) = d.log (unwrapped ops)
  drained : (d.after ops).drain.1 = (d.after (unwrapped ops)).drain.1
  shown : (d.after ops).shown = (wrappers (d.log ops)).headD d.stream.root
  inner : (d.after ops).inner? = match wrappers (d.log ops) with
    | [] => none
    | _ :: layers => some (layers.headD d.stream.root)
  /-- A wrapper that is still on shows its own context, and under it what was shown before. -/
  covered : .detach ∉ ops → ∀ before c between, ops = before ++ .wrap c :: between →
    Matched between → (d.after ops).shown = c ∧ (d.after ops).inner? = some (d.after before).shown
  restored : ∀ before c between, ops = before ++ .wrap c :: (between ++ [.unwrap]) →
    Matched between → (d.after ops).shown = (d.after before).shown ∧
      (d.after ops).inner? = (d.after before).inner?

/-- Wrappers are put on and taken off without a trace in any answer, and change only the contexts
that the stream shows. -/
theorem receive_transparent (m : Metadata) (inbound : List (Except Status In)) (ops : List (Op Out)) :
    Transparent (receive m inbound) ops := by
  have root : ∀ ops, ((receive m inbound : Duplex In Out).after ops).stream.root = .root m :=
    (receive m inbound).root_after
  have layers : ((receive m inbound : Duplex In Out).after ops).stream.layers =
      wrappers ((receive m inbound).log ops) := (receive m inbound).layers_after ops
  constructor
  · exact log_unwrapped _ ops
  · have bare : ((receive m inbound : Duplex In Out).after ops).bare =
        (receive m inbound).after (unwrapped ops) := bare_after _ ops
    rw [← bare]
    unfold drain
    rw [nexts_bare]
    rfl
  · rw [shown, ServerStream.context_eq, layers, root]
    rfl
  · rw [inner?_eq, layers, root]
    rfl
  · rintro attending before c between rfl matched
    have kept : ((receive m inbound : Duplex In Out).after before).attached = true :=
      (attached_after _ before).2 ⟨rfl, fun given_up => attending (by simp [given_up])⟩
    have on : (((receive m inbound : Duplex In Out).after before).step (.wrap c)).2 =
        ((receive m inbound).after before).wrap c := by
      simp [step, onStream, kept]
    have same : ((receive m inbound).after (before ++ .wrap c :: between)).stream.layers =
        (((receive m inbound : Duplex In Out).after before).wrap c).stream.layers := by
      rw [after_append, after_cons, on, layers_after_matched matched]
    exact shown_congr same ((root _).trans (root before).symm)
  · rintro before c between rfl matched
    have same :
        ((receive m inbound).after (before ++ .wrap c :: (between ++ [.unwrap]))).stream.layers =
          ((receive m inbound : Duplex In Out).after before).stream.layers := by
      rw [after_append, layers_after_matched (matched.nest c)]
    exact shown_congr same ((root _).trans (root _).symm)

end Duplex
end CallGate.Streaming
