import DocumentLink.Command.Handshake
import DocumentLink.Command.StatusProbe
import DocumentLink.Connection.Identity
import DocumentLink.Connection.ServerType

/-!
# Descriptions

What a client knows about a connection and about the server behind it. Both are
read off the reply to the handshake and are never changed; what is learned later
makes a new description.

A limit that the reply does not name has a usual value. A wire version that is
not exactly a 32-bit number counts as zero.

## Main definitions

* `ConnectionDescription`: What is known about a connection.
* `ConnectionDescription.fresh`: Before anything has been learned.
* `ConnectionDescription.ofReply`: After the handshake.
* `ServerDescription`: What is known about a server.
* `ServerDescription.ofReply`: After the handshake.
* `Opened`: Both, as the result of opening a connection.
-/

namespace DocumentLink

/-- The size a document may have unless the server says otherwise. -/
def usualDocumentSize : Int := 0x1000000

/-- The size a message may have unless the server says otherwise. -/
def usualMessageSize : Int := 0x2000000

/-- The writes a batch may have unless the server says otherwise. -/
def usualBatchCount : Int := 512

/-- A wire version that a reply names. -/
def wireVersion (reply : Document) (key : String) : Int :=
  (reply.int32? key).getD 0

/-- The largest document that a reply allows. -/
def documentSize (reply : Document) : Int :=
  (reply.integer? "maxBsonObjectSize").getD usualDocumentSize

/-- What is known about a connection. -/
structure ConnectionDescription where
  id : ConnectionId
  serverType : ServerType
  minWireVersion : Int
  maxWireVersion : Int
  maxDocumentSize : Int
  maxMessageSize : Int
  maxBatchCount : Int
  /-- The compressors the server accepts, in its order. -/
  compressors : List String
  /-- The mechanisms of the user that was asked about, if one was. -/
  mechanisms : Option (List String)
  deriving DecidableEq, Repr

namespace ConnectionDescription

/-- The description before anything has been learned. -/
def fresh (id : ConnectionId) : ConnectionDescription where
  id := id
  serverType := .unknown
  minWireVersion := 0
  maxWireVersion := 0
  maxDocumentSize := usualDocumentSize
  maxMessageSize := usualMessageSize
  maxBatchCount := usualBatchCount
  compressors := []
  mechanisms := none

/-- The identity after a reply, which may name the server value. -/
def identify (id : ConnectionId) (reply : Document) : ConnectionId :=
  (StatusProbe.serverValue? reply).elim id id.withServerValue

/-- The description that the reply to a handshake gives. -/
def ofReply (id : ConnectionId) (reply : Document) : ConnectionDescription where
  id := identify id reply
  serverType := .ofReply reply
  minWireVersion := wireVersion reply "minWireVersion"
  maxWireVersion := wireVersion reply "maxWireVersion"
  maxDocumentSize := documentSize reply
  maxMessageSize := (reply.integer? "maxMessageSizeBytes").getD usualMessageSize
  maxBatchCount := (reply.integer? "maxWriteBatchSize").getD usualBatchCount
  compressors := reply.strings Handshake.compressionKey
  mechanisms :=
    if reply.contains Handshake.mechanismsKey then some (reply.strings Handshake.mechanismsKey)
    else none

/-- The description with the server value filled in. -/
def withServerValue (d : ConnectionDescription) (serverValue : Int) : ConnectionDescription :=
  { d with id := d.id.withServerValue serverValue }

end ConnectionDescription

/-- What is known about a server, as of one handshake. -/
structure ServerDescription where
  address : Address
  serverType : ServerType
  ok : Bool
  minWireVersion : Int
  maxWireVersion : Int
  /-- How long the handshake took, in microseconds. -/
  roundTripTime : Nat
  setName : Option String
  hosts : List String
  passives : List String
  arbiters : List String
  primary : Option String
  me : Option String
  sessionTimeout : Option Int
  maxDocumentSize : Int
  deriving DecidableEq, Repr

namespace ServerDescription

/-- The description that the reply to a handshake gives. -/
def ofReply (address : Address) (reply : Document) (roundTripTime : Nat) :
    ServerDescription where
  address := address
  serverType := .ofReply reply
  ok := reply.isOk
  minWireVersion := wireVersion reply "minWireVersion"
  maxWireVersion := wireVersion reply "maxWireVersion"
  roundTripTime := roundTripTime
  setName := reply.string? "setName"
  hosts := reply.strings "hosts"
  passives := reply.strings "passives"
  arbiters := reply.strings "arbiters"
  primary := reply.string? "primary"
  me := reply.string? "me"
  sessionTimeout := reply.integer? "logicalSessionTimeoutMinutes"
  maxDocumentSize := documentSize reply

/-- The description with another time, to compare across measurements. -/
def withRoundTripTime (d : ServerDescription) (roundTripTime : Nat) : ServerDescription :=
  { d with roundTripTime := roundTripTime }

end ServerDescription

/-- The result of opening a connection. -/
structure Opened where
  connection : ConnectionDescription
  server : ServerDescription
  deriving DecidableEq, Repr

/-- The result with the server value of the connection filled in. -/
def Opened.withServerValue (o : Opened) (serverValue : Int) : Opened :=
  { o with connection := o.connection.withServerValue serverValue }

end DocumentLink
