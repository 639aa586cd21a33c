import DocumentLink.Cluster.Context
import DocumentLink.Opening.Mode

/-!
# Access to Servers

Opening connections to the servers of a cluster.

Transports come from two factories, one for applications and one for monitoring,
which may be the same. A connection exists only once there is a transport for
it: a factory that fails uses up no local value.

Every connection is opened with an authenticator of its own, since one may keep
something between the handshake and the authentication. The provider is shared.

## Main definitions

* `TransportFactory`: The transports that can still be had.
* `Access`: The factories and everything else that openings share.
* `Access.connect`: A connection that nothing has been sent over.
* `Access.openConnection`: Open a connection to a server.
-/

namespace DocumentLink

/-- The transports that can still be had: the answers each will give, or why it
    cannot be made. -/
structure TransportFactory where
  scripts : List (Except Error (List Answer))

/-- The next transport, to an address. -/
def TransportFactory.create (factory : TransportFactory) (address : Address) :
    Except Error Transport × TransportFactory :=
  match factory.scripts with
  | [] => (.error (.general s!"Cannot connect to {address.text}"), factory)
  | script :: rest => (script.map (Transport.scripted address), ⟨rest⟩)

/-- What the openings of a cluster's connections share. -/
structure Access where
  application : TransportFactory
  /-- The factory for monitoring, if it is another one. -/
  heartbeat : Option TransportFactory := none
  journal : Journal := {}
  /-- How many provers have been made. -/
  created : Nat := 0
  /-- The local value of the next connection. -/
  nextLocalValue : Nat := 1

namespace Access

/-- Have a transport made for a purpose. -/
def createTransport (access : Access) (purpose : Purpose) (address : Address) :
    Except Error Transport × Access :=
  match purpose, access.heartbeat with
  | .monitoring, some factory =>
    let (transport, factory) := factory.create address
    (transport, { access with heartbeat := some factory })
  | _, _ =>
    let (transport, factory) := access.application.create address
    (transport, { access with application := factory })

/-- A connection that nothing has been sent over. -/
def connect (access : Access) (context : Context) (purpose : Purpose) (server : ServerId) :
    Except Error Connection × Access :=
  let (transport, access) := access.createTransport purpose server.address
  match transport with
  | .error e => (.error e, access)
  | .ok transport =>
    (.ok (.make transport { server := server, localValue := access.nextLocalValue }
        (context.listenerFor purpose)),
      { access with nextLocalValue := access.nextLocalValue + 1 })

/-- The desk at which a connection is opened. -/
def desk (access : Access) (connection : Connection) : Desk where
  line := ⟨connection, access.journal⟩
  created := access.created

/-- What is shared after work at a desk. -/
def after (access : Access) (desk : Desk) : Access :=
  { access with journal := desk.line.journal, created := desk.created }

/-- What came of an attempt to open a connection. -/
structure Attempt where
  /-- The connection, if there was a transport for it. -/
  connection : Option Connection
  result : Option (Except Error Opened)

/-- Open a connection to a server. -/
def openConnection (access : Access) (context : Context) (purpose : Purpose) (mode : Mode)
    (server : ServerId) : Attempt × Access :=
  match access.connect context purpose server with
  | (.error e, access) => (⟨none, some (.error e)⟩, access)
  | (.ok connection, access) =>
    let (result, desk) :=
      mode.openConnection (context.setup purpose) (access.desk connection)
    (⟨some desk.line.connection, result⟩, access.after desk)

end Access

end DocumentLink
