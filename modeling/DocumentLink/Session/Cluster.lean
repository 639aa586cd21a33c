import DocumentLink.Cluster
import DocumentLink.Cluster.Access

/-!
# Sessions of a Cluster

A cluster from its creation to its end: its servers come and go while time goes
by, and connections are opened to them and used. Dropping the cluster stops its
watch; connections that have been opened stay.

## Main definitions

* `ClusterSession`: A cluster, its connections, the clock and the name service.
* `ClusterSession.Step`: What can be done.
* `ClusterSession.Answer`: What comes of it.
* `ClusterSession.step`: Do it, and make the polls that are due.
-/

namespace DocumentLink

/-- A command that was sent: over a transport of which factory, to which server. -/
structure SentCommand where
  factory : Purpose
  address : Address
  command : Document

/-- A connection that has been opened, and the factory its transport is from. -/
structure OpenedConnection where
  factory : Purpose
  connection : Connection

/-- A cluster, its connections, the clock and the name service. -/
structure ClusterSession where
  /-- The cluster, until it is dropped. -/
  cluster : Option Cluster
  context : Context
  options : ClusterOptions
  access : Access
  connections : List OpenedConnection := []
  resolver : Resolver
  shuffles : Watch.Shuffles
  runtime : Bool
  /-- The milliseconds that have passed. -/
  now : Nat := 0

namespace ClusterSession

/-- What can be done. Servers and connections are given by place. -/
inductive Step where
  | servers
  | server (address : Address)
  | openConnection (server : Nat) (purpose : Purpose) (mode : Mode)
  | exchange (connection : Nat) (command : Document) (mode : Mode)
  /-- Look why the servers could not be found. -/
  | failure
  | closeWatch
  | startWatch
  | advance (milliseconds : Nat)
  | drop

/-- What comes of a step. -/
inductive Answer where
  | nothing
  | server (server : Server) (options : ClusterOptions)
  | opened (stage : Stage) (result : Opened)
  | refused (error : Error)
  | suspended
  | reply (answer : DocumentLink.Answer)
  | failure (error : Option Error)
  | closed
  | started (result : Except Error Unit)
  | advanced
  | dropped
  | noServer
  | noConnection
  /-- The cluster discovers nothing. -/
  | notApplicable
  /-- There is no cluster any more. -/
  | gone

/-- The factory that transports for a purpose come from. -/
def factoryFor (s : ClusterSession) (purpose : Purpose) : Purpose :=
  if s.access.heartbeat.isNone then .application else purpose

/-- Commands sent over a transport. -/
def sentOver (factory : Purpose) (transport : Transport) (commands : List Document) :
    List SentCommand :=
  commands.map fun command => ⟨factory, transport.address, command⟩

/-- Open a connection to a server. -/
def openTo (s : ClusterSession) (server : Server) (purpose : Purpose) (mode : Mode) :
    Answer × List SentCommand × ClusterSession :=
  let factory := s.factoryFor purpose
  let (attempt, access) := s.access.openConnection s.context purpose mode server.id
  let sent := (attempt.connection.map fun c =>
    sentOver factory c.transport c.transport.sent).getD []
  let s := { s with access := access }
  match attempt.connection, attempt.result with
  | some connection, some (.ok opened) =>
    (.opened connection.stage opened, sent,
      { s with connections := s.connections ++ [⟨factory, connection⟩] })
  | _, some (.error e) => (.refused e, sent, s)
  | _, _ => (.suspended, sent, s)

/-- Send a command over an opened connection. -/
def exchangeOver (s : ClusterSession) (place : Nat) (command : Document) (mode : Mode) :
    Answer × List SentCommand × ClusterSession :=
  match s.connections[place]? with
  | none => (.noConnection, [], s)
  | some opened =>
    let before := opened.connection.transport.sent.length
    let (answer, line) := mode.exchange ⟨opened.connection, s.access.journal⟩ command
    let connection := line.connection
    (.reply answer,
      sentOver opened.factory connection.transport (connection.transport.sent.drop before),
      { s with
        connections := s.connections.set place ⟨opened.factory, connection⟩
        access := { s.access with journal := line.journal } })

/-- Do a step on the watch of a cluster. -/
def onWatch (s : ClusterSession) (cluster : Cluster) (set : ServerSet) (watch : Watch) :
    Step → Answer × ClusterSession
  | .closeWatch =>
    (.closed,
      { s with cluster := some { cluster with topology := .discovered set watch.close } })
  | .startWatch =>
    match watch.start s.runtime s.now with
    | .error e => (.started (.error e), s)
    | .ok started =>
      (.started (.ok ()),
        { s with cluster := some { cluster with topology := .discovered set started } })
  | _ => (.failure set.failure?, s)

/-- Do a step on a cluster. -/
def onCluster (s : ClusterSession) (cluster : Cluster) :
    Step → Answer × List SentCommand × ClusterSession
  | .servers => (.nothing, [], s)
  | .server address =>
    (((cluster.server? address).map fun server => Answer.server server s.options).getD .nothing,
      [], s)
  | .openConnection place purpose mode =>
    match cluster.servers[place]? with
    | none => (.noServer, [], s)
    | some server => s.openTo server purpose mode
  | step =>
    match cluster.topology with
    | .discovered set watch =>
      let (answer, s) := s.onWatch cluster set watch step
      (answer, [], s)
    | _ => (.notApplicable, [], s)

/-- Do a step. -/
def answer (s : ClusterSession) (step : Step) : Answer × List SentCommand × ClusterSession :=
  match step with
  | .advance milliseconds => (.advanced, [], { s with now := s.now + milliseconds })
  | .drop => (.dropped, [], { s with cluster := none })
  | .exchange place command mode => s.exchangeOver place command mode
  | step =>
    match s.cluster with
    | none => (.gone, [], s)
    | some cluster => s.onCluster cluster step

/-- Make the polls that are due, and let the cluster take in what they report. -/
def poll (s : ClusterSession) : ClusterSession :=
  match s.cluster with
  | some ⟨id, settings, .discovered set watch⟩ =>
    let (reports, watch, resolver) := watch.advance s.shuffles s.now s.resolver
    { s with
      cluster := some ⟨id, settings, .discovered (Cluster.take set reports) watch⟩
      resolver := resolver }
  | _ => s

/-- The servers there are, as they are shown. -/
def shownServers (s : ClusterSession) : Option Discovery.Shown :=
  s.cluster.map fun cluster =>
    let addresses := cluster.servers.map Server.address
    match cluster.topology with
    | .discovered _ watch =>
      Discovery.shown watch.plan.maxHosts s.resolver.lastHosts addresses
    | _ => .all addresses

/-- What a step has done. -/
structure Outcome where
  answer : Answer
  servers : Option Discovery.Shown
  queries : List String
  sent : List SentCommand
  events : List Event
  calls : List MechanismCall

/-- What has been done between two states. -/
def outcome (before after : ClusterSession) (answer : Answer) (sent : List SentCommand) :
    Outcome where
  answer := answer
  servers := after.shownServers
  queries := after.resolver.queries.drop before.resolver.queries.length
  sent := sent
  events := after.access.journal.events.drop before.access.journal.events.length
  calls := after.access.journal.calls.drop before.access.journal.calls.length

/-- Do a step, and make the polls that are due. -/
def step (s : ClusterSession) (step : Step) : Outcome × ClusterSession :=
  let (answer, sent, after) := s.answer step
  let after := after.poll
  (outcome s after answer sent, after)

/-- Do steps one after the other. -/
def run (s : ClusterSession) : List Step → List Outcome
  | [] => []
  | first :: rest =>
    let (outcome, s) := s.step first
    outcome :: s.run rest

/-- The outcomes of steps, the first of the creation alone. -/
def steps (s : ClusterSession) (steps : List Step) : List Outcome :=
  let created := s.poll
  outcome s created .nothing [] :: created.run steps

end ClusterSession

end DocumentLink
