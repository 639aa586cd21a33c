import DocumentLink.Opening.Mode

/-!
# Sessions of Connections

Several connections and several setups, used in turn. A setup is kept together
with what it remembers between openings, so that opening a second connection
with it shows whether anything of the first one stayed behind.

Openings may overlap. Two openings of one connection are begun one after the
other and then gone on with in the same order; an opening may also be dropped
while it waits for a reply.

## Main definitions

* `Seat`: A setup in use.
* `Session`: Connections, seats and one journal.
* `Session.Step`: What can be done.
* `Session.Answer`: What comes of it.
* `Session.step`: Do it.
-/

namespace DocumentLink

/-- A setup in use. -/
structure Seat where
  setup : Setup
  speculation : Speculation := {}
  /-- How many provers its provider has made. -/
  created : Nat := 0

/-- Connections, seats and one journal. -/
structure Session where
  connections : List Connection
  seats : List Seat
  journal : Journal := {}

namespace Session

/-- The connections of a session, numbered in the order they are made. -/
def connect (links : List (Transport × ClusterId × Option Listener)) : List Connection :=
  links.zipIdx.map fun ((transport, cluster, listener), index) =>
    .make transport
      { server := ⟨cluster, transport.address⟩, localValue := index + 1 } listener

/-- What can be done in a session. Connections and seats are given by place. -/
inductive Step where
  /-- Open a connection. -/
  | openOne (connection seat : Nat) (mode : Mode)
  /-- Open a connection twice at the same time. -/
  | openTwice (connection first second : Nat)
  /-- Open a connection and drop the opening when it waits for the reply to its
      last allowed command. -/
  | openAndDrop (connection seat commands : Nat)
  /-- Send a command as it is. -/
  | exchange (connection : Nat) (command : Document) (mode : Mode)
  /-- Send a prepared command and check the reply. -/
  | execute (connection : Nat) (command : Document) (database : String)
      (api : Option ServerApi) (mode : Mode)
  /-- Look at what is known. -/
  | describe (connection : Nat)
  /-- Make a handshake without sending it. A connection named beside it is only
      looked at. -/
  | handshake (seat : Nat) (beside : Option Nat)
  /-- Look at the answer kept for a step sent on speculation, and at a connection
      named beside it. -/
  | response (seat : Nat) (beside : Option Nat)

/-- What comes of a step. -/
inductive Answer where
  /-- The results of openings; an opening that was dropped has none. -/
  | openings (results : List (Option (Except Error Opened)))
  | reply (answer : DocumentLink.Answer)
  | known (connection : Connection)
  | response (document : Option Document)
  /-- The seat sends nothing on speculation. -/
  | notSpeculative
  /-- There is no such connection or seat. -/
  | missing

/-- The desk for a connection and a seat. -/
def desk (s : Session) (connection : Connection) (seat : Seat) : Desk where
  line := ⟨connection, s.journal⟩
  speculation := seat.speculation
  created := seat.created

/-- A seat after work at a desk. -/
def Seat.after (seat : Seat) (desk : Desk) : Seat :=
  { seat with speculation := desk.speculation, created := desk.created }

/-- Work at the desk for a connection and a seat. -/
def work {α : Type} (s : Session) (connection seat : Nat) (f : Setup → Desk → α × Desk) :
    Option (α × Session) := do
  let found ← s.connections[connection]?
  let sitting ← s.seats[seat]?
  let (value, desk) := f sitting.setup (s.desk found sitting)
  return (value, {
    connections := s.connections.set connection desk.line.connection
    seats := s.seats.set seat (Seat.after sitting desk)
    journal := desk.line.journal })

/-- Work on a line, without a seat. -/
def talk {α : Type} (s : Session) (connection : Nat) (f : Line → α × Line) :
    Option (α × Session) := do
  let found ← s.connections[connection]?
  let (value, line) := f ⟨found, s.journal⟩
  return (value,
    { s with connections := s.connections.set connection line.connection, journal := line.journal })

/-- Open a connection and drop the opening when it waits for the reply to one of
    its commands, counted from one. With none allowed nothing happens. -/
def openAndDrop (commands : Nat) (setup : Setup) (desk : Desk) :
    Option (Except Error Opened) × Desk :=
  match commands with
  | 0 => (none, desk)
  | n + 1 =>
    let (progress, desk) := Suspending.openConnection setup desk
    let (progress, desk) := Suspending.continueTimes setup n progress desk
    (progress.result?, desk)

/-- Open a connection twice at the same time: both are begun, and then both are
    gone on with until their ends. -/
def openTwice (s : Session) (connection first second : Nat) :
    Option (List (Option (Except Error Opened)) × Session) := do
  let (one, s) ← s.work connection first Suspending.openConnection
  let (two, s) ← s.work connection second Suspending.openConnection
  let (one, s) ← s.work connection first fun setup => Suspending.finishOpening setup one
  let (two, s) ← s.work connection second fun setup => Suspending.finishOpening setup two
  return ([one.result?, two.result?], s)

/-- A connection to nowhere, for making a handshake that is not sent. -/
def nowhere : Connection :=
  .make (.scripted .localhost [])
    { server := ⟨ClusterId.draw 0 none, .localhost⟩, localValue := 0 } none

/-- Make a handshake at a seat without sending it. -/
def makeHandshake (s : Session) (seat : Nat) : Option (DocumentLink.Answer × Session) := do
  let sitting ← s.seats[seat]?
  let (result, desk) := sitting.setup.handshake.runAt (s.desk nowhere sitting)
  return (result,
    { s with seats := s.seats.set seat (Seat.after sitting desk), journal := desk.line.journal })

/-- The answer kept at a seat for a step sent on speculation. -/
def keptResponse (seat : Seat) : Answer :=
  if seat.setup.authenticator.speculative?.isSome then .response seat.speculation.response
  else .notSpeculative

/-- Do a step, if its connection and seats are there. -/
def step? (s : Session) : Step → Option (Answer × Session)
  | .openOne connection seat mode =>
    (s.work connection seat mode.openConnection).map fun (result, s) => (.openings [result], s)
  | .openTwice connection first second =>
    (s.openTwice connection first second).map fun (results, s) => (.openings results, s)
  | .openAndDrop connection seat commands =>
    (s.work connection seat (openAndDrop commands)).map fun (result, s) => (.openings [result], s)
  | .exchange connection command mode =>
    (s.talk connection fun line => mode.exchange line command).map
      fun (answer, s) => (.reply answer, s)
  | .execute connection command database api mode =>
    (s.talk connection fun line => mode.execute line database command api).map
      fun (answer, s) => (.reply answer, s)
  | .describe connection => (s.connections[connection]?).map fun found => (.known found, s)
  | .handshake seat _ => (s.makeHandshake seat).map fun (result, s) => (.reply result, s)
  | .response seat _ => (s.seats[seat]?).map fun sitting => (keptResponse sitting, s)

/-- The connection that a step is about, or that is named beside it. -/
def Step.connection? : Step → Option Nat
  | .openOne connection .. | .openTwice connection .. | .openAndDrop connection .. =>
    some connection
  | .exchange connection .. | .execute connection .. | .describe connection => some connection
  | .handshake _ beside | .response _ beside => beside

/-- What a step has done. -/
structure Outcome where
  answer : Answer
  /-- The stage of the connection that goes with the step. -/
  stage : Option Stage
  /-- The commands sent over that connection. -/
  sent : List Document
  events : List Event
  calls : List MechanismCall

/-- The commands a connection has sent. -/
def sentOver (s : Session) (connection : Option Nat) : List Document :=
  ((connection.bind fun place => s.connections[place]?).map fun c => c.transport.sent).getD []

/-- Do a step, and say what it has done. -/
def step (s : Session) (step : Step) : Outcome × Session :=
  let (answer, after) := (s.step? step).getD (.missing, s)
  let connection := step.connection?
  ({
    answer := answer
    stage := (connection.bind fun place => after.connections[place]?).map Connection.stage
    sent := (after.sentOver connection).drop (s.sentOver connection).length
    events := after.journal.events.drop s.journal.events.length
    calls := after.journal.calls.drop s.journal.calls.length }, after)

/-- Do steps one after the other. -/
def steps (s : Session) : List Step → List Outcome
  | [] => []
  | first :: rest =>
    let (outcome, s) := s.step first
    outcome :: s.steps rest

end Session

end DocumentLink
