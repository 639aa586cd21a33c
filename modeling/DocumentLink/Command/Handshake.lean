import DocumentLink.Compressor
import DocumentLink.Document.Fields

/-!
# Handshakes

The first command on a connection. It asks what the server is and can do, and
carries along what has to be settled in the same round trip: who the client is,
the compressors it can use, the question for a user's mechanisms, and the first
step of an authentication that is sent on speculation.

Only the question itself is always there. It has two names: every server knows
the old one, and the new one is used when an interface is declared.

## Main definitions

* `Handshake`: What a handshake carries.
* `Handshake.command`: The command.
* `Handshake.isName`: Whether a command name is that of a handshake.
* `Handshake.speculativeReply?`: The answer to a step sent on speculation.
-/

namespace DocumentLink

/-- What a handshake carries. -/
structure Handshake where
  /-- Whether the new name is used. -/
  hello : Bool
  client : Option Document := none
  compressors : List Compressor := []
  /-- The user whose mechanisms are asked for, as `source.user`. -/
  mechanismsOf : Option String := none
  speculative : Option Document := none

namespace Handshake

/-- The old name of the command, which every server knows. -/
def legacyName : String := "isMaster"

/-- The new name of the command. -/
def helloName : String := "hello"

/-- The key of a step sent on speculation, and of the answer to it. -/
def speculativeKey : String := "speculativeAuthenticate"

/-- The key of the compressors a client can use, or a server accepts. -/
def compressionKey : String := "compression"

/-- The key of the question for mechanisms, and of the answer to it. -/
def mechanismsKey : String := "saslSupportedMechs"

/-- A letter of the basic alphabet in lower case; other characters unchanged. -/
def foldCase (s : String) : List Char :=
  s.toList.map Char.toLower

/-- Whether a command name is that of a handshake. The new name is known in one
    spelling only, the old one in any letter case. -/
def isName (name : String) : Bool :=
  name = helloName || foldCase name = foldCase legacyName

/-- Ask for the mechanisms of a user. -/
def askMechanisms (h : Handshake) (source user : String) : Handshake :=
  { h with mechanismsOf := some s!"{source}.{user}" }

/-- The name of the command. -/
def name (h : Handshake) : String :=
  if h.hello then helloName else legacyName

/-- The compressors as a value, if there are any. -/
def compression (h : Handshake) : Option Json.Value :=
  if h.compressors.isEmpty then none else some (.ofTexts (h.compressors.map Compressor.name))

/-- The command. -/
def command (h : Handshake) : Document :=
  Document.command h.name
    |>.insertSome "helloOk" (if h.hello then some (.bool true) else none)
    |>.insertSome "client" (h.client.map .ofDocument)
    |>.insertSome compressionKey h.compression
    |>.insertSome mechanismsKey (h.mechanismsOf.map .string)
    |>.insertSome speculativeKey (h.speculative.map .ofDocument)

/-- The answer to a step sent on speculation, if the server gave one. -/
def speculativeReply? (reply : Document) : Option Document :=
  reply.document? speculativeKey

end Handshake

end DocumentLink
