import DocumentLink.Cluster.Context
import DocumentLink.Cluster.Discovery
import DocumentLink.Cluster.ServerSet

/-!
# Clusters

A cluster in one of three shapes. In single mode it is the one configured
server, whatever else is set. In multiple mode it is a set of servers: the
configured ones, or those that discovery finds if a discovery host is set; such
a cluster begins without servers and its watch polls from the start. There is no
shape for a load balancer.

A cluster is made only after everything has been checked, so a refusal has made
no server and asked no name service.

## Main definitions

* `Topology`: The shapes of a cluster.
* `Cluster`: An identity, the settings and a shape.
* `Cluster.create`: The cluster that options describe.
* `Cluster.servers`, `Cluster.server?`: The servers there are.
* `Cluster.take`: Take in what discovery reports.
-/

namespace DocumentLink

/-- The shapes of a cluster. -/
inductive Topology where
  | single (server : Server)
  | seeds (set : ServerSet)
  | discovered (set : ServerSet) (watch : Watch)

/-- The name of a shape. -/
def Topology.name : Topology → String
  | single _ => "Single"
  | seeds _ => "Multi"
  | discovered .. => "DnsMulti"

/-- An identity, the settings and a shape. -/
structure Cluster where
  id : ClusterId
  settings : ClusterSettings
  topology : Topology

namespace Cluster

/-- The error for a mode that no shape has. -/
def unsupportedMode (mode : ConnectionMode) : Error :=
  .configuration s!"Unsupported cluster connection mode: {mode.name}"

/-- The watch of a cluster whose servers are to be discovered. -/
def watchFor (settings : ClusterSettings) (srvHost : String) (monitoring : ServerSettings) :
    Watch where
  plan := {
    srvHost := srvHost
    serviceName := settings.srvServiceName
    maxHosts := settings.srvMaxHosts
    monitoring := monitoring }

/-- The shape that settings ask for. -/
def selectTopology (id : ClusterId) (settings : ClusterSettings) (monitoring : ServerSettings)
    (runtime : Bool) (now : Nat) : Except Error Topology :=
  match settings.mode, settings.srvHost with
  | .single, _ => .ok (.single ⟨1, ⟨id, settings.hosts.head?.getD .localhost⟩⟩)
  | .multiple, none => .ok (.seeds (.ofHosts id settings.hosts))
  | .multiple, some srvHost =>
    ((watchFor settings srvHost monitoring).start runtime now).map
      (.discovered (.ofHosts id []))
  | mode, _ => .error (unsupportedMode mode)

/-- The cluster that options describe, and what its connections are opened with.
    The number is the one drawn for its identity. -/
def create (options : ClusterOptions) (number : Nat) (runtime : Bool) (now : Nat) :
    Except Error (Cluster × Context) := do
  let id := ClusterId.draw number options.settings.description
  let client ← ClientMetadata.document options.application options.driver
  let topology ← selectTopology id options.settings options.servers runtime now
  return (⟨id, options.settings, topology⟩, .ofOptions options client)

/-- The servers there are. -/
def servers (cluster : Cluster) : List Server :=
  match cluster.topology with
  | .single server => [server]
  | .seeds set | .discovered set _ => set.servers

/-- The server at an address. -/
def server? (cluster : Cluster) (address : Address) : Option Server :=
  match cluster.topology with
  | .single server => if server.address = address then some server else none
  | .seeds set | .discovered set _ => set.server? address

/-- Take in one report of discovery. -/
def takeReport (set : ServerSet) : Discovery.Report → ServerSet
  | .hosts selected _ => set.resolve selected
  | .failure e => set.fail e

/-- Take in what discovery reports. -/
def take (set : ServerSet) (reports : List Discovery.Report) : ServerSet :=
  reports.foldl takeReport set

end Cluster

end DocumentLink
