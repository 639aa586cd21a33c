import DocumentLink.Error

/-!
# Cluster Settings

What a cluster is told about itself before it is made.

The settings of the cluster are collected one by one, in any order, and checked
at the end. Without hosts the local one is meant. The mode is inferred if it was
not set: a single host without discovery is connected to directly, everything
else is a cluster of several. The check refuses what contradicts itself, so that
a direct connection always has exactly one host.

The settings of monitoring and of pools have no sensible meaning outside their
bounds, so their types admit nothing else.

## Main definitions

* `ConnectionMode`: How the hosts are treated.
* `Setting`: One setting of a cluster.
* `ClusterSettings`: Settings that have been checked.
* `ClusterSettings.build`: Collect settings and check them.
* `ServerSettings`: How often servers are looked at.
* `PoolSettings`: How many connections are kept.
-/

namespace DocumentLink

/-- How the hosts of a cluster are treated. -/
inductive ConnectionMode where
  /-- Connect directly to one server. -/
  | single
  /-- Treat the servers as a cluster. -/
  | multiple
  /-- Connect through a load balancer. -/
  | loadBalanced
  deriving DecidableEq, Repr

/-- The name of a mode. -/
def ConnectionMode.name : ConnectionMode → String
  | single => "Single"
  | multiple => "Multiple"
  | loadBalanced => "LoadBalanced"

/-- The mode with a name. -/
def ConnectionMode.ofName? (name : String) : Option ConnectionMode :=
  [single, multiple, loadBalanced].find? fun mode => mode.name = name

/-- One setting of a cluster. -/
inductive Setting where
  /-- Add a host. -/
  | host (address : Address)
  /-- Replace all hosts. -/
  | hosts (addresses : List Address)
  | mode (mode : ConnectionMode)
  | srvHost (host : String)
  | srvServiceName (name : String)
  | srvMaxHosts (count : Nat)
  | replicaSet (name : String)
  | description (text : String)
  deriving DecidableEq, Repr

/-- The service looked up if no other is named. -/
def defaultSrvServiceName : String := "mongodb"

/-- Settings that have been checked. -/
structure ClusterSettings where
  hosts : List Address := [.localhost]
  mode : ConnectionMode := .single
  /-- The host whose records list the servers. -/
  srvHost : Option String := none
  srvServiceName : String := defaultSrvServiceName
  /-- How many of the listed servers are used; zero for all of them. -/
  srvMaxHosts : Nat := 0
  replicaSet : Option String := none
  description : Option String := none
  deriving DecidableEq, Repr

namespace ClusterSettings

/-- Settings collected so far. -/
structure Draft where
  hosts : List Address := []
  mode : Option ConnectionMode := none
  srvHost : Option String := none
  srvServiceName : Option String := none
  srvMaxHosts : Nat := 0
  replicaSet : Option String := none
  description : Option String := none
  deriving DecidableEq, Repr

/-- Collect one more setting. -/
def Draft.add (draft : Draft) : Setting → Draft
  | .host address => { draft with hosts := draft.hosts ++ [address] }
  | .hosts addresses => { draft with hosts := addresses }
  | .mode mode => { draft with mode := some mode }
  | .srvHost host => { draft with srvHost := some host }
  | .srvServiceName name => { draft with srvServiceName := some name }
  | .srvMaxHosts count => { draft with srvMaxHosts := count }
  | .replicaSet name => { draft with replicaSet := some name }
  | .description text => { draft with description := some text }

/-- The hosts, the local one if there are none. -/
def Draft.effectiveHosts (draft : Draft) : List Address :=
  if draft.hosts.isEmpty then [.localhost] else draft.hosts

/-- The mode, inferred if it was not set. -/
def Draft.effectiveMode (draft : Draft) : ConnectionMode :=
  draft.mode.getD
    (if draft.effectiveHosts.length = 1 && draft.srvHost.isNone then .single else .multiple)

/-- The error for a discovery host with a port. -/
def portInSrvHost (host : String) : Error :=
  .configuration s!"An SRV host must not contain a port: {host}"

/-- The error for several hosts where one is wanted. -/
def tooManyHosts (mode : ConnectionMode) : Error :=
  .configuration s!"Multiple hosts cannot be specified when using {mode.name} connection mode"

/-- The discovery host, if it has a port. -/
def Draft.srvHostWithPort (draft : Draft) : Option String :=
  draft.srvHost.filter fun host => host.contains ':'

/-- Check what has been collected. -/
def Draft.check (draft : Draft) : Except Error ClusterSettings :=
  match draft.srvHostWithPort with
  | some host => .error (portInSrvHost host)
  | none =>
    if draft.effectiveMode = .single && 1 < draft.effectiveHosts.length then
      .error (tooManyHosts draft.effectiveMode)
    else
      .ok {
        hosts := draft.effectiveHosts
        mode := draft.effectiveMode
        srvHost := draft.srvHost
        srvServiceName := draft.srvServiceName.getD defaultSrvServiceName
        srvMaxHosts := draft.srvMaxHosts
        replicaSet := draft.replicaSet
        description := draft.description }

/-- Collect settings in their order. -/
def collect (settings : List Setting) : Draft :=
  settings.foldl Draft.add {}

/-- Collect settings and check them. -/
def build (settings : List Setting) : Except Error ClusterSettings :=
  (collect settings).check

end ClusterSettings

/-- How often servers are looked at, in milliseconds. The shortest pause is not
    zero, and the usual one is no shorter. -/
structure ServerSettings where
  heartbeat : Nat := 10000
  minHeartbeat : Nat := 500
  minHeartbeat_pos : 0 < minHeartbeat := by decide
  minHeartbeat_le : minHeartbeat ≤ heartbeat := by decide
  deriving DecidableEq, Repr

/-- The settings of monitoring with given pauses, if they are in bounds. -/
def ServerSettings.make? (heartbeat minHeartbeat : Nat) : Option ServerSettings :=
  if h : 0 < minHeartbeat ∧ minHeartbeat ≤ heartbeat then
    some ⟨heartbeat, minHeartbeat, h.1, h.2⟩
  else none

/-- How many connections are kept, and how long one waits for them, in
    milliseconds. A pool has room for at least one connection. -/
structure PoolSettings where
  maxSize : Nat := 100
  minSize : Nat := 0
  maxWait : Nat := 120000
  maxIdle : Option Nat := none
  maxSize_pos : 0 < maxSize := by decide
  minSize_le : minSize ≤ maxSize := by decide
  deriving DecidableEq, Repr

/-- The settings of a pool, if they are in bounds. -/
def PoolSettings.make? (maxSize minSize maxWait : Nat) (maxIdle : Option Nat) :
    Option PoolSettings :=
  if h : 0 < maxSize ∧ minSize ≤ maxSize then
    some ⟨maxSize, minSize, maxWait, maxIdle, h.1, h.2⟩
  else none

end DocumentLink
