import DocumentLink.Command.Prepared
import DocumentLink.Command.Secrecy
import DocumentLink.Connection.Description
import DocumentLink.Connection.Event
import DocumentLink.Connection.Transport

/-!
# Connections

A connection is a transport with what has been learned about the server at its
other end, and a stage of its life. It is opened once: it leaves the first stage
when an opening begins, and ends up ready or failed. An opening that finds it in
any other stage is refused and changes nothing.

What an opening has learned is put into three places one after the other, the
stage last, so that a connection that is seen to be ready has its descriptions.

Every command on a connection is told to its listener, if there is one, before
it is sent and after it is answered. What is told is the answer of the
transport; whether a reply reports success is decided later.

## Main definitions

* `Stage`: The stages of a connection's life.
* `Connection`: A transport, its descriptions, its stage and its listener.
* `Connection.begin`: Enter the opening, or be refused.
* `Connection.settlements`: What is stored at the end of an opening, in order.
* `Line`: A connection together with the journal.
* `Line.number`, `Line.tellStarted`: Give a command a number, and tell that it was started.
* `Line.announce`: The one after the other.
* `Line.report`: Tell how it ended.

## Theorems

* `Connection.begin_of_ne`: A connection is opened at most once.
* `Connection.settle_ok`, `Connection.settle_error`: What an opening leaves behind.
-/

namespace DocumentLink

/-- The stages of a connection's life. -/
inductive Stage where
  | uninitialized
  | initializing
  | ready
  | failed
  deriving DecidableEq, Repr

/-- The name of a stage. -/
def Stage.name : Stage → String
  | uninitialized => "Uninitialized"
  | initializing => "Initializing"
  | ready => "Ready"
  | failed => "Failed"

/-- A transport, what is known about its other end, a stage and a listener. -/
structure Connection where
  transport : Transport
  listener : Option Listener
  description : ConnectionDescription
  serverDescription : Option ServerDescription := none
  stage : Stage := .uninitialized

namespace Connection

/-- A connection that nothing has been sent over. -/
def make (transport : Transport) (id : ConnectionId) (listener : Option Listener) :
    Connection where
  transport := transport
  listener := listener
  description := .fresh id

/-- The address of the server. -/
def address (c : Connection) : Address :=
  c.transport.address

/-- The error for an opening of a connection that has been opened before. -/
def notOpenable (c : Connection) : Error :=
  .general s!"Cannot initialize {c.description.id.text}: connection is {c.stage.name}"

/-- Enter the opening, or be refused. -/
def begin (c : Connection) : Except Error Connection :=
  if c.stage = .uninitialized then .ok { c with stage := .initializing }
  else .error c.notOpenable

/-- A connection that has left the first stage is never opened again. -/
theorem begin_of_ne {c : Connection} (h : c.stage ≠ .uninitialized) :
    c.begin = .error c.notOpenable := by
  rw [begin, if_neg h]

/-- What is stored at the end of an opening, in order: what has been learned and
    then the stage. -/
def settlements (result : Except Error Opened) : List (Connection → Connection) :=
  match result with
  | .ok opened =>
    [fun c => { c with description := opened.connection },
      fun c => { c with serverDescription := some opened.server },
      fun c => { c with stage := .ready }]
  | .error _ => [fun c => { c with stage := .failed }]

/-- Store the end of an opening. -/
def settle (c : Connection) (result : Except Error Opened) : Connection :=
  (settlements result).foldl (fun c store => store c) c

/-- An opening that succeeds leaves what it has learned. -/
theorem settle_ok (c : Connection) (opened : Opened) :
    c.settle (.ok opened) =
      { c with
        description := opened.connection
        serverDescription := some opened.server
        stage := .ready } :=
  rfl

/-- An opening that fails leaves both descriptions as they were. -/
theorem settle_error (c : Connection) (e : Error) :
    c.settle (.error e) = { c with stage := .failed } :=
  rfl

end Connection

/-- What has to be remembered between the two events of a command. -/
structure Ticket where
  listener : Listener
  request : Nat
  name : String
  sensitive : Bool
  deriving DecidableEq, Repr

/-- A connection together with the journal. -/
structure Line where
  connection : Connection
  journal : Journal

namespace Line

/-- Take a number for a command, if there is a listener to be told about it. -/
def number (line : Line) (command : Document) : Option Ticket × Line :=
  match line.connection.listener with
  | none => (none, line)
  | some listener =>
    let (request, journal) := line.journal.takeRequest
    (some ⟨listener, request, command.name?.getD "", Command.isSensitive command⟩,
      { line with journal := journal })

/-- Tell the listener that the command with a ticket is about to be sent. -/
def tellStarted (line : Line) (ticket : Option Ticket) (command : Document) : Line :=
  match ticket with
  | none => line
  | some ticket =>
    let event := Event.started ticket.request line.connection.description.id
      ((command.string? Command.databaseKey).getD "") ticket.name
      (Command.redact command ticket.sensitive)
    { line with journal := line.journal.tell ticket.listener event }

/-- Announce a command that is about to be sent. It is given a number first and told
    about then. -/
def announce (line : Line) (command : Document) : Option Ticket × Line :=
  let (ticket, line) := line.number command
  (ticket, line.tellStarted ticket command)

/-- Tell the listener how a command ended. -/
def report (line : Line) (ticket : Option Ticket) (answer : Answer) : Line :=
  match ticket with
  | none => line
  | some ticket =>
    let id := line.connection.description.id
    let event := match answer with
      | .ok reply =>
        Event.succeeded ticket.request id ticket.name (Command.redact reply ticket.sensitive)
      | .error e => Event.failed ticket.request id ticket.name e.copy
    { line with journal := line.journal.tell ticket.listener event }

/-- Send a command over the transport. -/
def send (line : Line) (command : Document) : Line where
  connection := { line.connection with transport := line.connection.transport.send command }
  journal := line.journal.hand line.connection.description.id command

/-- Take the next answer of the transport. -/
def take (line : Line) : Answer × Line :=
  let (answer, transport) := line.connection.transport.take
  (answer, { line with connection.transport := transport })

end Line

end DocumentLink
