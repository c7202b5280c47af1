import CallGate.Directory
import CallGate.Streaming.Program

/-! Handlers and authenticators written down as lists of instructions. -/

namespace CallGate.Script

open Streaming

/-- One instruction of an authenticator, which remembers the last payload it read. -/
inductive Instruction where
  | read
  /-- Goes on with the payload before if nothing can be read. -/
  | tryRead
  | expect (payload : Bytes) (otherwise : Status)
  | send (payload : Bytes)
  /-- Sends the last payload back. -/
  | echo
  /-- Issues the last payload as the token of a name. -/
  | issue (name : String)
  | fail (status : Status)

/-- What instructions do. A failed read or send ends them with the status of the failure. -/
def exchange : List Instruction → (last : Bytes) → Issued → Exchange Issued
  | [], _, s => .done (.ok ()) s
  | .read :: rest, _, s => .read fun
      | .ok payload => exchange rest payload s
      | .error f => .done (.error f.status) s
  | .tryRead :: rest, last, s => .read fun
      | .ok payload => exchange rest payload s
      | .error _ => exchange rest last s
  | .expect payload otherwise :: rest, _, s => .read fun
      | .ok read => if read = payload then exchange rest read s else .done (.error otherwise) s
      | .error f => .done (.error f.status) s
  | .send payload :: rest, last, s => .send payload fun
      | .ok () => exchange rest last s
      | .error f => .done (.error f.status) s
  | .echo :: rest, last, s => .send last fun
      | .ok () => exchange rest last s
      | .error f => .done (.error f.status) s
  | .issue name :: rest, last, s => exchange rest last { s with binary := (last, name) :: s.binary }
  | .fail status :: _, _, s => .done (.error status) s

/-- The authenticator that follows instructions and knows the tokens of a table. -/
def authenticator (instructions : List Instruction) (table : TokenTable Bytes) :
    Authenticator Issued where
  authenticate s := exchange instructions [] s
  isValid token s := (table.resolve s.binary token, s)

/-- One action of a handler. Where `lasting` is off, a failure ends the handler with its status. -/
inductive Action where
  | context
  | recv (lasting : Bool)
  | send (message : String) (lasting : Bool)
  /-- Sends back up to `limit` messages, as they come. -/
  | echo (limit : Nat)
  | setTrailer (trailer : Metadata)
  | fail (status : Status)

/-- What a handler notes down. -/
inductive Note where
  | context (c : Context)
  | received (message : Option String)
  | receiveFailed (status : Status)
  | sent
  | sendFailed (status : Status)

abbrev Notes := List Note

def echoing (limit : Nat) (notes : Notes) (rest : Program String String Notes) :
    Program String String Notes :=
  match limit with
  | 0 => rest
  | limit + 1 => .recv fun
      | .ok (some message) => .send message fun
          | .ok () => echoing limit notes rest
          | .error status => .done (.error status) notes
      | .ok none => rest
      | .error status => .done (.error status) notes

/-- The program of a list of actions, in a context, after some notes. -/
def program : List Action → Context → Notes → Program String String Notes
  | [], _, notes => .done (.ok ()) notes
  | .context :: rest, c, notes => program rest c (notes ++ [.context c])
  | .recv lasting :: rest, c, notes => .recv fun
      | .ok message => program rest c (notes ++ [.received message])
      | .error status =>
          let notes := notes ++ [.receiveFailed status]
          if lasting then program rest c notes else .done (.error status) notes
  | .send message lasting :: rest, c, notes => .send message fun
      | .ok () => program rest c (notes ++ [.sent])
      | .error status =>
          let notes := notes ++ [.sendFailed status]
          if lasting then program rest c notes else .done (.error status) notes
  | .echo limit :: rest, c, notes => echoing limit notes (program rest c notes)
  | .setTrailer trailer :: rest, c, notes => .setTrailer trailer (program rest c notes)
  | .fail status :: _, _, notes => .done (.error status) notes

end CallGate.Script
