import CallGate.Context
import CallGate.Failure

/-! What happens during calls, in order: questions to a collaborator with its answers, the exchange
of a handshake, the entry of a handler, and what is logged and counted. -/

namespace CallGate

inductive Event where
  | validated (username password : String) (answer : Except Status String)
  | checkedToken (token : String) (answer : Except Status Identity)
  | checkedBinary (token : Bytes) (answer : Except Status Identity)
  | authenticating
  | read (answer : Except Failure Bytes)
  | sent (payload : Bytes) (answer : Except Failure Unit)
  | entered (context : Context)
  | noted (notice : Notice)
  | counted (attempt : Attempt)

abbrev Trace := List Event

def Event.notice? : Event → Option Notice
  | .noted n => some n
  | _ => none

def Event.attempt? : Event → Option Attempt
  | .counted a => some a
  | _ => none

def Event.context? : Event → Option Context
  | .entered c => some c
  | _ => none

/-- Whether a collaborator takes part in the event. -/
def Event.isConsultation : Event → Bool
  | .entered _ | .noted _ | .counted _ => false
  | _ => true

namespace Trace

/-- What was logged. -/
def notices (t : Trace) : List Notice := t.filterMap Event.notice?

/-- What was counted. -/
def attempts (t : Trace) : List Attempt := t.filterMap Event.attempt?

/-- The contexts that handlers were entered with. -/
def contexts (t : Trace) : List Context := t.filterMap Event.context?

/-- What collaborators were asked and what they did. -/
def consultations (t : Trace) : Trace := t.filter Event.isConsultation

@[simp] theorem notices_append (s t : Trace) : notices (s ++ t) = s.notices ++ t.notices :=
  List.filterMap_append

@[simp] theorem attempts_append (s t : Trace) : attempts (s ++ t) = s.attempts ++ t.attempts :=
  List.filterMap_append

@[simp] theorem contexts_append (s t : Trace) : contexts (s ++ t) = s.contexts ++ t.contexts :=
  List.filterMap_append

@[simp] theorem consultations_append (s t : Trace) :
    consultations (s ++ t) = s.consultations ++ t.consultations := List.filter_append ..

end Trace
end CallGate
