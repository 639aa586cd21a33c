import DocumentLink.Document.Fields

/-!
# Server Types

What a server is, as its reply to the handshake shows.

The reply has no field for it. A server that was not asked successfully is
unknown; one that is about to join a replica set says so; a member of a set
names the set and shows its role by flags, of which the first in a fixed order
counts; a router says a magic word; and what is left stands alone.

## Main definitions

* `ServerType`: The roles of servers.
* `ServerType.ofReply`: The role that a reply shows.
* `ServerType.inReplicaSet`: Whether the server belongs to a replica set.
-/

namespace DocumentLink

/-- The roles of servers. -/
inductive ServerType where
  | standalone
  | primary
  | secondary
  | arbiter
  | otherMember
  | ghost
  | router
  | unknown
  deriving DecidableEq, Repr

namespace ServerType

/-- The name of a role. -/
def name : ServerType → String
  | standalone => "Standalone"
  | primary => "ReplicaSetPrimary"
  | secondary => "ReplicaSetSecondary"
  | arbiter => "ReplicaSetArbiter"
  | otherMember => "ReplicaSetOther"
  | ghost => "ReplicaSetGhost"
  | router => "ShardRouter"
  | unknown => "Unknown"

/-- The role of a member of a set. -/
def ofMemberReply (reply : Document) : ServerType :=
  if reply.flag "hidden" then otherMember
  else if reply.flag "isWritablePrimary" || reply.flag "ismaster" then primary
  else if reply.flag "secondary" then secondary
  else if reply.flag "arbiterOnly" then arbiter
  else otherMember

/-- The role that a reply shows. -/
def ofReply (reply : Document) : ServerType :=
  if !reply.isOk then unknown
  else if reply.flag "isreplicaset" then ghost
  else if (reply.string? "setName").isSome then ofMemberReply reply
  else if reply.string? "msg" = some "isdbgrid" then router
  else standalone

/-- Whether the server belongs to a replica set. -/
def inReplicaSet : ServerType → Bool
  | primary | secondary | arbiter | otherMember | ghost => true
  | standalone | router | unknown => false

end ServerType

end DocumentLink
