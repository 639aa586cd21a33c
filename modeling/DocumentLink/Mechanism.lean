/-!
# Authentication Mechanisms

The ways in which a client proves to a server who it is.

## Main definitions

* `Mechanism`: The mechanisms a server may offer.
* `Mechanism.name`: The name used in commands and replies.
* `Mechanism.ofName?`: The mechanism with a name.
* `Mechanism.isExternal`: Whether users live outside of any database.
* `Mechanism.isSpeculative`: Whether the first step may ride on the handshake.
-/

namespace DocumentLink

/-- The mechanisms a server may offer. -/
inductive Mechanism where
  | scramSha1
  | scramSha256
  | plain
  | gssapi
  | certificate
  deriving DecidableEq, Repr

namespace Mechanism

/-- The name used in commands and replies. -/
def name : Mechanism → String
  | scramSha1 => "SCRAM-SHA-1"
  | scramSha256 => "SCRAM-SHA-256"
  | plain => "PLAIN"
  | gssapi => "GSSAPI"
  | certificate => "MONGODB-X509"

/-- The name shown when a credential is inspected. -/
def label : Mechanism → String
  | scramSha1 => "ScramSha1"
  | scramSha256 => "ScramSha256"
  | plain => "Plain"
  | gssapi => "Gssapi"
  | certificate => "MongoX509"

/-- All mechanisms. -/
def all : List Mechanism :=
  [scramSha1, scramSha256, plain, gssapi, certificate]

/-- The mechanism with a name. -/
def ofName? (name : String) : Option Mechanism :=
  all.find? fun mechanism => mechanism.name = name

/-- Whether users live outside of any database. -/
def isExternal : Mechanism → Bool
  | gssapi | certificate => true
  | _ => false

/-- Whether the first step may be sent together with the handshake. -/
def isSpeculative : Mechanism → Bool
  | scramSha1 | scramSha256 => true
  | _ => false

end Mechanism

end DocumentLink
