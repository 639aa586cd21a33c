import DocumentLink.ClientMetadata
import DocumentLink.Cluster.Settings
import DocumentLink.Opening.Setup

/-!
# Contexts

What all connections of a cluster are opened with.

There are two uses of a connection. An application's connection authenticates and
reports to the listener. A monitoring connection only shakes hands: it has no
credential and no listener, and is otherwise the same.

## Main definitions

* `ClusterOptions`: Everything a cluster is made from.
* `Context`: What its connections are opened with.
* `Purpose`: What a connection is for.
* `Context.setup`, `Context.listenerFor`: By purpose.
-/

namespace DocumentLink

/-- Everything a cluster is made from. -/
structure ClusterOptions where
  settings : ClusterSettings := {}
  servers : ServerSettings := {}
  pools : PoolSettings := {}
  credential : Option CredentialConfig := none
  listener : Option Listener := none
  application : Option String := none
  driver : DriverInformation := {}
  compressors : List Compressor := []
  api : Option ServerApi := none

/-- What the connections of a cluster are opened with. -/
structure Context where
  credential : Option CredentialConfig
  listener : Option Listener
  client : Option Document
  compressors : List Compressor
  api : Option ServerApi

/-- What a connection is for. -/
inductive Purpose where
  | application
  | monitoring
  deriving DecidableEq, Repr

namespace Context

/-- The context of a cluster's options and its metadata. -/
def ofOptions (options : ClusterOptions) (client : Option Document) : Context where
  credential := options.credential
  listener := options.listener
  client := client
  compressors := options.compressors
  api := options.api

/-- How connections for a purpose authenticate. -/
def authenticator (context : Context) : Purpose → Authenticator
  | .application => .ofCredential context.credential context.api
  | .monitoring => .none

/-- What connections for a purpose are opened with. -/
def setup (context : Context) (purpose : Purpose) : Setup where
  authenticator := context.authenticator purpose
  client := context.client
  compressors := context.compressors
  api := context.api

/-- Who listens to connections for a purpose. -/
def listenerFor (context : Context) : Purpose → Option Listener
  | .application => context.listener
  | .monitoring => none

end Context

end DocumentLink
