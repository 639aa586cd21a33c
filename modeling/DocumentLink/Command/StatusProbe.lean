import DocumentLink.Document.Fields

/-!
# Status Probe

The number a server gives to a connection. New servers report it in the reply to
the handshake; the others are asked for it with a command of its own, whose
reply has it under the same key.

## Main definitions

* `StatusProbe.command`: The question.
* `StatusProbe.serverValue?`: The number in either reply.
-/

namespace DocumentLink

namespace StatusProbe

/-- The question for the status of a connection. -/
def command : Document :=
  Document.command "getlasterror"

/-- The number the server gave to the connection. -/
def serverValue? (reply : Document) : Option Int :=
  reply.integer? "connectionId"

end StatusProbe

end DocumentLink
