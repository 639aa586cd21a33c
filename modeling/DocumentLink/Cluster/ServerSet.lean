import DocumentLink.Connection.Identity
import DocumentLink.Error

/-!
# Server Sets

The servers of a cluster as they come and go.

An update names all hosts there are. A server whose address is still named stays
the very same server, so that what hangs on it survives; a server for a new
address is made; the others are let go. A server is told from another of the
same address by its number, which says how many had been made with it.

A set also keeps why the hosts of a cluster could not be found, until they are.

## Main definitions

* `Server`: A server of a cluster, and its number.
* `ServerSet`: The servers there are.
* `ServerSet.ofHosts`: The set with which a cluster begins.
* `ServerSet.update`: Replace the hosts.
* `ServerSet.server?`: The server at an address.
* `ServerSet.resolve`, `ServerSet.fail`: What discovery reports.
-/

namespace DocumentLink

/-- A server of a cluster. -/
structure Server where
  /-- How many servers had been made, this one included. -/
  number : Nat
  id : ServerId
  deriving DecidableEq, Repr

/-- The address of a server. -/
def Server.address (s : Server) : Address :=
  s.id.address

/-- The servers there are. -/
structure ServerSet where
  cluster : ClusterId
  servers : List Server := []
  /-- How many servers have been made. -/
  created : Nat := 0
  /-- Why the hosts could not be found. -/
  failure : Option Error := none
  deriving DecidableEq, Repr

namespace ServerSet

/-- The server at an address, among others. -/
def find? (servers : List Server) (address : Address) : Option Server :=
  servers.find? fun s => s.address = address

/-- The server at an address. -/
def server? (set : ServerSet) (address : Address) : Option Server :=
  find? set.servers address

/-- Keep a server of the set, or make one, and put it behind others. The number
    says how many have been made. -/
def place (set : ServerSet) (placed : List Server × Nat) (address : Address) :
    List Server × Nat :=
  match set.server? address with
  | some server => (placed.1 ++ [server], placed.2)
  | none => (placed.1 ++ [⟨placed.2 + 1, ⟨set.cluster, address⟩⟩], placed.2 + 1)

/-- Replace the hosts. A host named twice counts once, at its first place. -/
def update (set : ServerSet) (hosts : List Address) : ServerSet :=
  let (servers, created) := (Address.distinct hosts).foldl set.place ([], set.created)
  { set with servers := servers, created := created }

/-- The set with which a cluster begins. -/
def ofHosts (cluster : ClusterId) (hosts : List Address) : ServerSet :=
  update { cluster := cluster } hosts

/-- Discovery has found hosts. -/
def resolve (set : ServerSet) (hosts : List Address) : ServerSet :=
  { set with failure := none }.update hosts

/-- Discovery has failed before it found any hosts. -/
def fail (set : ServerSet) (e : Error) : ServerSet :=
  { set with failure := some e }

/-- Why the hosts could not be found, to hand out. -/
def failure? (set : ServerSet) : Option Error :=
  set.failure.map Error.copy

end ServerSet

end DocumentLink
