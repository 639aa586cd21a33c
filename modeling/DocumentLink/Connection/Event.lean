import DocumentLink.Connection.Identity
import DocumentLink.Error
import DocumentLink.Json.Value

/-!
# Events

What a listener learns about the commands on the connections it watches: that a
command was started, and later that it succeeded or failed. The two events of a
command share a request number, which counts up over all connections.

The journal also keeps what the mechanisms of authentication were asked, which
no listener sees, and a trace of all that is done for commands: numbers being
taken, listeners being told, and commands being handed to transports. A command is
told about and handed over in two places that know nothing of each other, so only
one trace of both can say which came first.

## Main definitions

* `Event`: One thing a listener is told.
* `MechanismCall`: One thing a mechanism is asked.
* `Occurrence`: One thing that is done for a command.
* `Journal`: Everything told, asked and done so far, and the next request number.
-/

namespace DocumentLink

/-- One thing a listener is told. The documents are as the listener may see
    them. -/
inductive Event where
  | started (request : Nat) (connection : ConnectionId) (database name : String)
      (command : Document)
  | succeeded (request : Nat) (connection : ConnectionId) (name : String) (reply : Document)
  | failed (request : Nat) (connection : ConnectionId) (name : String) (error : Error)

/-- What a connection tells its commands to: a listener that keeps what it is
    told, or one that does not. -/
inductive Listener where
  | recording
  | silent
  deriving DecidableEq, Repr

/-- One thing a mechanism is asked. Provers are told apart by their numbers. -/
inductive MechanismCall where
  | create (mechanism : Mechanism) (credential : Credential)
  | initial (prover : Nat)
  | challenge (prover : Nat) (data : Bytes)
  | success (prover : Nat) (data : Bytes)
  deriving DecidableEq, Repr

/-- How a call is written. -/
def MechanismCall.text : MechanismCall → String
  | .create mechanism credential => s!"create {mechanism.name} for {credential.text}"
  | .initial prover => s!"#{prover} initial"
  | .challenge prover data => s!"#{prover} challenge {data.hex}"
  | .success prover data => s!"#{prover} success {data.hex}"

/-- One thing that is done for a command. -/
inductive Occurrence where
  /-- A request number is taken. -/
  | numbered (request : Nat)
  /-- A listener is told, whether it keeps what it is told or not. -/
  | told (listener : Listener) (event : Event)
  /-- The command is handed to the transport of a connection. -/
  | handed (connection : ConnectionId) (command : Document)

/-- What has been told, asked and done so far, and the next request number. -/
structure Journal where
  nextRequest : Nat := 1
  events : List Event := []
  calls : List MechanismCall := []
  /-- What has been done for commands, in the order in which it was done. -/
  trace : List Occurrence := []

namespace Journal

instance : Inhabited Journal := ⟨{}⟩

/-- Tell a listener something. Only one that records keeps it. -/
def tell (j : Journal) (listener : Listener) (event : Event) : Journal :=
  let j := { j with trace := j.trace ++ [.told listener event] }
  match listener with
  | .recording => { j with events := j.events ++ [event] }
  | .silent => j

/-- Take a request number. -/
def takeRequest (j : Journal) : Nat × Journal :=
  (j.nextRequest,
    { j with nextRequest := j.nextRequest + 1, trace := j.trace ++ [.numbered j.nextRequest] })

/-- Hand a command to the transport of a connection. -/
def hand (j : Journal) (connection : ConnectionId) (command : Document) : Journal :=
  { j with trace := j.trace ++ [.handed connection command] }

/-- Only a listener that records keeps what it is told. -/
theorem events_tell (journal : Journal) (listener : Listener) (event : Event) :
    (journal.tell listener event).events =
      journal.events ++ (if listener = .recording then [event] else []) := by
  cases listener with
  | recording => rfl
  | silent => exact (List.append_nil _).symm

theorem nextRequest_tell (journal : Journal) (listener : Listener) (event : Event) :
    (journal.tell listener event).nextRequest = journal.nextRequest := by
  cases listener <;> rfl

theorem calls_tell (journal : Journal) (listener : Listener) (event : Event) :
    (journal.tell listener event).calls = journal.calls := by
  cases listener <;> rfl

theorem trace_tell (journal : Journal) (listener : Listener) (event : Event) :
    (journal.tell listener event).trace = journal.trace ++ [.told listener event] := by
  cases listener <;> rfl

/-- Note what a mechanism was asked, if that is observed. -/
def note (j : Journal) (observed : Bool) (call : MechanismCall) : Journal :=
  if observed then { j with calls := j.calls ++ [call] } else j

end Journal

end DocumentLink
