import CallGate.Proofs.EndToEnd

/-! What an authenticator and its peer say to each other. An exchange is run against the payloads that
the peer brings, one after another, and what it sends and how it ends is what the peer reads. Nothing
else that the peer brings is looked at. -/

namespace CallGate

open Streaming

namespace Handshake

variable {ρ : Type}

/-- What the messages and errors of a peer bring. -/
def payloads (inbound : List (Except Status Message)) : List (Except Status Bytes) :=
  inbound.map fun a => a.map Message.payload

/-- What the `n`-th read gives: the payload in that place, the error in that place, or that the peer has
closed. -/
def delivery (brought : List (Except Status Bytes)) (n : Nat) : Except Failure Bytes :=
  match brought[n]? with
  | some (.ok payload) => .ok payload
  | some (.error status) => .error (.transport status)
  | none => .error .peerClosed

theorem delivery_tail (brought : List (Except Status Bytes)) (n : Nat) :
    delivery brought.tail n = delivery brought (n + 1) := by
  rw [delivery, delivery, List.getElem?_tail]

theorem payloadOf_hearing (inbound : List (Except Status Message)) (n : Nat) :
    payloadOf (hearing inbound n) = delivery (payloads inbound) n := by
  simp only [hearing, delivery, payloads, List.getElem?_map]
  rcases inbound[n]? with _ | _ | _ <;> rfl

theorem payloads_tail (inbound : List (Except Status Message)) :
    payloads inbound.tail = (payloads inbound).tail := by
  cases inbound <;> rfl

/-- An exchange that has come to its end. -/
structure Conversation (ρ : Type) where
  /-- The reads and sends, in order. -/
  events : Trace := []
  result : Except Status Unit
  report : ρ

def heard? : Event → Option (Except Failure Bytes)
  | .read answer => some answer
  | _ => none

def said? : Event → Option Bytes
  | .sent payload _ => some payload
  | _ => none

namespace Conversation

variable (c : Conversation ρ)

def after (e : Event) : Conversation ρ := { c with events := e :: c.events }

/-- What the authenticator was answered, in order. -/
def heard : List (Except Failure Bytes) := c.events.filterMap heard?

/-- What the authenticator sent, in order. -/
def said : List Bytes := c.events.filterMap said?

/-- What the peer reads: all that was sent, and then the status of a failure. -/
def responses : List (Item Message) :=
  c.said.map (fun payload => .ok (response payload)) ++ match c.result with
    | .ok () => []
    | .error status => [.error status]

end Conversation

/-- An exchange with a peer who takes all that it is sent. -/
def converse : Exchange ρ → List (Except Status Bytes) → Conversation ρ
  | .done result report, _ => { result, report }
  | .read next, brought =>
      (converse (next (delivery brought 0)) brought.tail).after (.read (delivery brought 0))
  | .send payload next, brought => (converse (next (.ok ())) brought).after (.sent payload (.ok ()))

/-- The reads of an exchange give what was brought, one after another. -/
theorem heard_converse (x : Exchange ρ) (brought : List (Except Status Bytes)) (n : Nat)
    {answer : Except Failure Bytes} (heard : (converse x brought).heard[n]? = some answer) :
    answer = delivery brought n := by
  induction x generalizing brought n with
  | done result report => cases heard
  | read next ih =>
    cases n with
    | zero => exact (Option.some.inj heard).symm
    | succ n =>
      rw [← delivery_tail]
      exact ih _ _ n heard
  | send payload next ih => exact ih _ _ n heard

theorem terminal?_untrailed (result : Except Status Unit) :
    ((terminal? {} result).map .error).toList = match result with
      | .ok () => ([] : List (Item Message))
      | .error status => [.error status] := by
  cases result with
  | ok => rfl
  | error status => simp [terminal?, Metadata.merge]

/-- The handler of an exchange sends what is said in the conversation. -/
theorem script_handlerOf (x : Exchange ρ) (before : Trace) (d : Duplex Message Message)
    (untrailed : d.trailer = {}) :
    (handlerOf x before).script d = (converse x (payloads d.inbound)).responses := by
  induction x generalizing before d with
  | done result report =>
    rw [handlerOf, Program.script_done, untrailed, terminal?_untrailed]
    rfl
  | read next ih =>
    rw [handlerOf, Program.script_recv, ih _ _ d.advance untrailed,
      payloadOf_hearing, Duplex.inbound_advance, payloads_tail]
    rfl
  | send payload next ih =>
    rw [handlerOf, Program.script_send, ih _ _ d untrailed]
    rfl

/-- What the handler of an exchange reports is the conversation, after what happened before. -/
theorem report_handlerOf (x : Exchange ρ) (before : Trace) {d : Duplex Message Message}
    (h : d.outbox.Clear) (received : List (Item Message)) :
    ((handlerOf x before).playOut d received).report =
      ((converse x (payloads d.inbound)).report,
        before ++ (converse x (payloads d.inbound)).events) := by
  induction x generalizing before d received with
  | done result report =>
    show (report, before) = (report, before ++ [])
    rw [List.append_nil]
  | read next ih =>
    simp only [handlerOf, Program.playOut, Duplex.recv_eq]
    rw [ih _ _ (d := d.advance) h, payloadOf_hearing, Duplex.inbound_advance, payloads_tail,
      List.append_assoc]
    rfl
  | send payload next ih =>
    obtain ⟨b, clear, room, relieved, -⟩ := Duplex.relieve_room h
    simp only [handlerOf, Program.playOut, relieved, Duplex.send_eq,
      Outbox.offer_of_room clear.reading room, Offer.outcome]
    rw [ih _ _ (clear.append room _), List.append_assoc]
    rfl

/-- An exchange that ends with a failed read, and with the status of that failure. -/
inductive GivesUp : Exchange ρ → List (Except Status Bytes) → Failure → Prop
  | here {next : Except Failure Bytes → Exchange ρ} {brought : List (Except Status Bytes)}
      {f : Failure} {report : ρ} (failed : delivery brought 0 = .error f)
      (propagated : next (.error f) = .done (.error f.status) report) :
      GivesUp (.read next) brought f
  | read {next : Except Failure Bytes → Exchange ρ} {brought : List (Except Status Bytes)}
      {f : Failure} (later : GivesUp (next (delivery brought 0)) brought.tail f) :
      GivesUp (.read next) brought f
  | send {payload : Bytes} {next : Except Failure Unit → Exchange ρ}
      {brought : List (Except Status Bytes)} {f : Failure}
      (later : GivesUp (next (.ok ())) brought f) : GivesUp (.send payload next) brought f

theorem GivesUp.converse {x : Exchange ρ} {brought : List (Except Status Bytes)} {f : Failure}
    (h : GivesUp x brought f) : (converse x brought).result = .error f.status ∧
      (converse x brought).heard.getLast? = some (.error f) := by
  induction h with
  | here failed propagated =>
    simp only [Handshake.converse, failed, propagated]
    exact ⟨rfl, rfl⟩
  | @read next brought f later ih =>
    have heard : (Handshake.converse (.read next) brought).heard = delivery brought 0 ::
        (Handshake.converse (next (delivery brought 0)) brought.tail).heard := rfl
    rw [heard, List.getLast?_cons, ih.2]
    exact ⟨ih.1, rfl⟩
  | send later ih => exact ih

/-- A read fails with an error that was brought, or at the end of what was. -/
theorem delivery_eq_error_iff {brought : List (Except Status Bytes)} {n : Nat} {f : Failure} :
    delivery brought n = .error f ↔
      (∃ status, brought[n]? = some (.error status) ∧ f = .transport status) ∨
        (brought.length ≤ n ∧ f = .peerClosed) := by
  rw [delivery, ← List.getElem?_eq_none_iff]
  rcases brought[n]? with _ | _ | _ <;> simp [eq_comm]

/-- The status of a read that fails is the one that the peer sent in its place, or tells that the peer
had closed by then. -/
theorem status_of_delivery {inbound : List (Except Status Message)} {n : Nat} {f : Failure}
    (failed : delivery (payloads inbound) n = .error f) :
    inbound[n]? = some (.error f.status) ∨ inbound.length ≤ n ∧
      f.status = { code := .aborted, message := "handshake stream closed by peer" } := by
  obtain ⟨status, there, rfl⟩ | ⟨past, rfl⟩ := delivery_eq_error_iff.1 failed
  · left
    rw [payloads, List.getElem?_map, Option.map_eq_some_iff] at there
    obtain ⟨a, there, same⟩ := there
    cases a with
    | ok m => cases same
    | error status' =>
      cases same
      exact there
  · right
    rw [payloads, List.length_map] at past
    exact ⟨past, rfl⟩

/-- The last read of an exchange that gives up gave the error in its place, or came after all that was
brought. -/
theorem GivesUp.status {x : Exchange ρ} {inbound : List (Except Status Message)} {f : Failure}
    (h : GivesUp x (payloads inbound) f) :
    ∃ n, (Handshake.converse x (payloads inbound)).heard.length = n + 1 ∧
      (inbound[n]? = some (.error f.status) ∨ inbound.length ≤ n ∧
        f.status = { code := .aborted, message := "handshake stream closed by peer" }) := by
  obtain ⟨before, heard⟩ := List.getLast?_eq_some_iff.1 h.converse.2
  refine ⟨before.length, by rw [heard, List.length_append]; rfl, ?_⟩
  have read : (Handshake.converse x (payloads inbound)).heard[before.length]? = some (.error f) := by
    rw [heard, List.getElem?_concat_length]
  exact status_of_delivery (heard_converse x _ _ read).symm

/-- An exchange looks at nothing but the payloads. -/
theorem heeds_handlerOf (x : Exchange ρ) (before : Trace) : (handlerOf x before).Heeds payloadOf := by
  induction x generalizing before with
  | done result report => exact .done
  | read next ih => exact .recv (fun a b same => by rw [same]) fun a => ih _ _
  | send payload next ih => exact .send fun a => ih _ _

theorem heeds_handler {σ : Type} (a : Option (Authenticator σ)) (s : σ) :
    (handler a s).Heeds payloadOf := by
  cases a with
  | none => exact .done
  | some a => exact heeds_handlerOf (a.authenticate s) [.authenticating]

/-- Streams that bring the same payloads are alike to an exchange. -/
theorem alike_of_payloads {stream other : ServerStream Message}
    (same : payloads stream.inbound = payloads other.inbound) : stream.Alike payloadOf other := by
  intro n
  rw [payloadOf_hearing, payloadOf_hearing, same]

end Handshake
end CallGate
