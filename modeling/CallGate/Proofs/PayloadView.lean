import CallGate.Proofs.Conversation

/-! The connection of an authenticator. Whatever reads and sends it is used for, and in whatever order,
the reads give the payloads of the peer one after another and the sends are passed on one after another:
neither takes notice of the other. The exchange of an authenticator is such a use. -/

namespace CallGate.Handshake

open Streaming

/-- One use of a connection. -/
inductive Access where
  | read
  | send (payload : Bytes)
  deriving DecidableEq, Repr

namespace Access

def isRead : Access → Bool
  | read => true
  | send _ => false

def payload? : Access → Option Bytes
  | read => none
  | send payload => some payload

end Access

/-- What comes of one read or send, and the stream after it. -/
def access (r : Recording Message Message) : Access → Event × Recording Message Message
  | .read =>
      let (answer, r) := read r
      (.read answer, r)
  | .send payload =>
      let (answer, r) := send r payload
      (.sent payload answer, r)

/-- What comes of reads and sends one after another. -/
def accessAll (r : Recording Message Message) : List Access → Trace × Recording Message Message
  | [] => ([], r)
  | a :: rest =>
      let (e, r) := access r a
      let (t, r) := accessAll r rest
      (e :: t, r)

/-- How many reads there are. -/
def reads (uses : List Access) : Nat := uses.countP Access.isRead

/-- What is to be sent, in order. -/
def outgoing (uses : List Access) : List Bytes := uses.filterMap Access.payload?

/-- What a send was answered. -/
def told? : Event → Option (Bytes × Except Failure Unit)
  | .sent payload answer => some (payload, answer)
  | _ => none

/-- Which use of a connection an event comes of. -/
def use? : Event → Option Access
  | .read _ => some .read
  | .sent payload _ => some (.send payload)
  | _ => none

/-- What every send to a stream is answered. -/
def sendAnswer (r : Recording Message Message) : Except Failure Unit :=
  match r.sendFailure with
  | none => .ok ()
  | some status => .error (.transport status)

/-- What a stream records of payloads that are sent to it: all of them, without a version, or none. -/
def recorded (r : Recording Message Message) (payloads : List Bytes) : List Message :=
  match r.sendFailure with
  | none => payloads.map fun payload => { version := 0, payload }
  | some _ => []

/-- How a stream in memory is read and written through a connection. -/
structure Faithful (r : Recording Message Message) (uses : List Access) : Prop where
  /-- Every use is answered in its turn. -/
  answered : (accessAll r uses).1.map use? = uses.map some
  /-- The reads give what is in their places, and after that, that the peer has closed. -/
  heard : (accessAll r uses).1.filterMap heard? =
    (List.range (reads uses)).map (delivery (payloads r.inbound))
  /-- The sends are passed on one after another, and all answered alike. -/
  told : (accessAll r uses).1.filterMap told? =
    (outgoing uses).map fun payload => (payload, sendAnswer r)
  /-- Nothing but sends is recorded. -/
  left : let after := (accessAll r uses).2
    after = { r with stream := after.stream, sent := r.sent ++ recorded r (outgoing uses) }
  /-- Each read takes one away from what is inbound, and leaves the wrapping of the stream alone. -/
  consumed : let after := (accessAll r uses).2.stream
    after.inbound = r.inbound.drop (reads uses) ∧ after.layers = r.stream.layers ∧
      after.root = r.stream.root
  /-- Without the sends the reads are the same. -/
  readsAlone : let alone := accessAll r (uses.filter Access.isRead)
    alone.1.filterMap heard? = (accessAll r uses).1.filterMap heard? ∧
      alone.2.inbound = (accessAll r uses).2.inbound
  /-- Without the reads the sends are the same. -/
  sendsAlone : let alone := accessAll r (uses.filter fun a => !a.isRead)
    alone.1.filterMap told? = (accessAll r uses).1.filterMap told? ∧
      alone.2.sent = (accessAll r uses).2.sent
  /-- The status of a read that fails is the one in its place, or that of a peer who has closed. -/
  status : ∀ n f, delivery (payloads r.inbound) n = .error f →
    r.inbound[n]? = some (.error f.status) ∨ r.inbound.length ≤ n ∧
      f.status = { code := .aborted, message := "handshake stream closed by peer" }
  /-- The status of a send that fails is the one that sends fail with. -/
  refused : ∀ f, sendAnswer r = .error f → r.sendFailure = some f.status

section Uses

variable (r : Recording Message Message) (payload : Bytes) (uses : List Access)

@[simp] theorem reads_read : reads (.read :: uses) = reads uses + 1 := List.countP_cons_of_pos rfl

@[simp] theorem reads_send : reads (.send payload :: uses) = reads uses :=
  List.countP_cons_of_neg nofun

@[simp] theorem recorded_nil : recorded r [] = [] := by
  unfold recorded
  cases r.sendFailure <;> rfl

theorem recorded_cons (payloads : List Bytes) :
    recorded r (payload :: payloads) = recorded r [payload] ++ recorded r payloads := by
  unfold recorded
  cases r.sendFailure <;> rfl

theorem access_read : access r .read =
    (.read (delivery (payloads r.inbound) 0), r.advance) := by
  simp only [access, read, Recording.recv_eq, payloadOf_hearing]

theorem access_send : access r (.send payload) =
    (.sent payload (sendAnswer r), { r with sent := r.sent ++ recorded r [payload] }) := by
  obtain ⟨⟨sendFailure, _, _⟩, stream⟩ := r
  cases sendFailure with
  | none =>
    simp only [access, send, Recording.send_eq]
    rfl
  | some status => simp [access, send, Recording.send_eq, sendAnswer, recorded, deliveryOf]

theorem answered_accessAll : (accessAll r uses).1.map use? = uses.map some := by
  induction uses generalizing r with
  | nil => rfl
  | cons a uses ih =>
    cases a with
    | read => exact congrArg (some Access.read :: ·) (ih _)
    | send payload => exact congrArg (some (Access.send payload) :: ·) (ih _)

/-- However many sends are between them, the reads give what is inbound one after another. -/
theorem heard_accessAll : (accessAll r uses).1.filterMap heard? =
    (List.range (reads uses)).map (delivery (payloads r.inbound)) := by
  induction uses generalizing r with
  | nil => rfl
  | cons a uses ih =>
    cases a with
    | read =>
      -- The reads to come are those of the rest of what is inbound, one place further on each.
      have rest : (List.range (reads uses)).map (delivery (payloads r.inbound.tail)) =
          (List.range (reads uses)).map (delivery (payloads r.inbound) ∘ Nat.succ) := by
        refine List.map_congr_left ?_
        intro n _
        rw [payloads_tail, delivery_tail]
        rfl
      simp only [accessAll, access_read, List.filterMap_cons, heard?, ih, Recording.inbound_advance,
        rest, reads_read]
      rw [List.range_succ_eq_map, List.map_cons, List.map_map]
    | send payload =>
      simp only [accessAll, access_send, List.filterMap_cons, heard?, ih, reads_send]
      rfl

theorem told_accessAll : (accessAll r uses).1.filterMap told? =
    (outgoing uses).map fun payload => (payload, sendAnswer r) := by
  induction uses generalizing r with
  | nil => rfl
  | cons a uses ih =>
    cases a with
    | read =>
      simp only [accessAll, access_read, List.filterMap_cons, told?, ih]
      rfl
    | send payload =>
      simp only [accessAll, access_send, List.filterMap_cons, told?, ih]
      rfl

/-- The sends add to the end of what is recorded. -/
theorem accessAll_left : let after := (accessAll r uses).2
    after = { r with stream := after.stream, sent := r.sent ++ recorded r (outgoing uses) } := by
  induction uses generalizing r with
  | nil => simp [accessAll, outgoing]
  | cons a uses ih =>
    cases a with
    | read =>
      simp only [accessAll, access_read]
      exact ih r.advance
    | send payload =>
      have grown : recorded r (outgoing (.send payload :: uses)) =
          recorded r [payload] ++ recorded r (outgoing uses) := recorded_cons r payload _
      simp only [accessAll, access_send, grown, ← List.append_assoc]
      exact ih { r with sent := r.sent ++ recorded r [payload] }

/-- The reads take away from the front of what is inbound. -/
theorem accessAll_consumed : let after := (accessAll r uses).2.stream
    after.inbound = r.inbound.drop (reads uses) ∧ after.layers = r.stream.layers ∧
      after.root = r.stream.root := by
  induction uses generalizing r with
  | nil => exact ⟨rfl, rfl, rfl⟩
  | cons a uses ih =>
    cases a with
    | read =>
      obtain ⟨inbound, layers, root⟩ := ih r.advance
      simp only [accessAll, access_read, reads_read]
      refine ⟨?_, layers.trans r.stream.layers_rest, root.trans r.stream.root_rest⟩
      rw [inbound, Recording.inbound_advance, List.drop_tail]
    | send payload =>
      simp only [accessAll, access_send, reads_send]
      exact ih { r with sent := r.sent ++ recorded r [payload] }

end Uses

section Alone

variable (uses : List Access)

theorem reads_filter_isRead : reads (uses.filter Access.isRead) = reads uses := by
  simp only [reads, List.countP_filter, Bool.and_self]

theorem outgoing_filter_isRead :
    outgoing (uses.filter fun a => !a.isRead) = outgoing uses := by
  rw [outgoing, outgoing, List.filterMap_filter]
  congr 1
  funext a
  cases a <;> rfl

end Alone

/-- An exchange uses a stream in memory only through the connection. -/
theorem runOn_handlerOf {ρ : Type} (x : Exchange ρ) (before : Trace)
    (r : Recording Message Message) : ∃ uses,
      ((handlerOf x before).runOn r).1.2.2 = before ++ (accessAll r uses).1 ∧
        ((handlerOf x before).runOn r).2 = (accessAll r uses).2 := by
  induction x generalizing before r with
  | done result report => exact ⟨[], (List.append_nil before).symm, rfl⟩
  | read next ih =>
    obtain ⟨uses, trace, left⟩ :=
      ih (payloadOf r.recv.1) (before ++ [.read (payloadOf r.recv.1)]) r.recv.2
    exact ⟨.read :: uses, trace.trans (List.append_assoc ..), left⟩
  | send payload next ih =>
    obtain ⟨uses, trace, left⟩ := ih (deliveryOf (r.send (response payload)).1)
      (before ++ [.sent payload (deliveryOf (r.send (response payload)).1)])
      (r.send (response payload)).2
    exact ⟨.send payload :: uses, trace.trans (List.append_assoc ..), left⟩

/-- The connection shows the payloads of a stream and nothing else, for every use of it and so for
every exchange, and the failures it reports turn back into the statuses they were made from. -/
theorem connection_faithful (r : Recording Message Message) :
    (∀ uses, Faithful r uses) ∧
      (∀ {ρ : Type} (x : Exchange ρ) (before : Trace), ∃ uses,
        ((handlerOf x before).runOn r).1.2.2 = before ++ (accessAll r uses).1 ∧
          ((handlerOf x before).runOn r).2 = (accessAll r uses).2) ∧
      (∀ status, (Failure.transport status).status = status) ∧
      Failure.peerClosed.status =
        { code := .aborted, message := "handshake stream closed by peer" } := by
  refine ⟨?_, fun x before => runOn_handlerOf x before r, fun _ => rfl, rfl⟩
  intro uses
  exact {
    answered := answered_accessAll r uses
    heard := heard_accessAll r uses
    told := told_accessAll r uses
    left := accessAll_left r uses
    consumed := accessAll_consumed r uses
    readsAlone := by
      have inbound (uses : List Access) :
          (accessAll r uses).2.inbound = r.inbound.drop (reads uses) := (accessAll_consumed r uses).1
      simp only [heard_accessAll, inbound, reads_filter_isRead, and_self]
    sendsAlone := by
      have sent (uses : List Access) :
          (accessAll r uses).2.sent = r.sent ++ recorded r (outgoing uses) :=
        congrArg (·.sent) (accessAll_left r uses)
      simp only [told_accessAll, sent, outgoing_filter_isRead, and_self]
    status := fun _ _ failed => status_of_delivery failed
    refused := by
      intro f refused
      unfold sendAnswer at refused
      split at refused
      · cases refused
      · next same => cases refused; exact same }

/-- A read that fails is not the end, and a send between two reads changes neither. -/
example :
    let late : Status := { code := .cancelled, message := "late" }
    let r : Recording Message Message :=
      { stream := .own (.root {}) [.error late, .ok { version := 7, payload := [1] }] }
    (accessAll r [.read, .send [2], .read, .read]).1.filterMap heard? =
      [.error (.transport late), .ok [1], .error .peerClosed] := by rfl

end CallGate.Handshake
