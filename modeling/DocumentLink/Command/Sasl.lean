import DocumentLink.Document.Fields

/-!
# Conversation Commands

The two commands of a conversation that authenticates a user, and the reply that
both have.

`saslStart` opens a conversation. Each reply names it, says whether it is done
and carries data for the client; `saslContinue` answers with data for the
server, under the name it was given. What the name is made of is up to the
server, so it is kept as any value.

## Main definitions

* `Sasl.start`: Open a conversation.
* `Sasl.advance`: The next step of a conversation.
* `Sasl.Reply`: What a reply says.
* `Sasl.Reply.read`: The reply a document holds, or the error.
-/

namespace DocumentLink

namespace Sasl

/-- The key of the name of a conversation. -/
def conversationKey : String := "conversationId"

/-- The key of the data. -/
def payloadKey : String := "payload"

/-- Asks the server to spare the exchange that would carry nothing. -/
def options : Json.Value :=
  .object [("skipEmptyExchange", .bool true)]

/-- Open a conversation. The database is named when the command does not go there
    by itself, that is inside a handshake. -/
def start (mechanism : Mechanism) (payload : Bytes) (database : Option String) : Document :=
  Document.command "saslStart"
    |>.insert "mechanism" (.string mechanism.name)
    |>.insert payloadKey (.ofBytes payload)
    |>.insertSome "options" (if mechanism.isSpeculative then some options else none)
    |>.insertSome "db" (database.map .string)

/-- The next step of a conversation. -/
def advance (conversation : Json.Value) (payload : Bytes) : Document :=
  Document.command "saslContinue"
    |>.insert conversationKey conversation
    |>.insert payloadKey (.ofBytes payload)

/-- What a reply says. -/
structure Reply where
  conversation : Json.Value
  done : Bool
  payload : Bytes

/-- The error for a reply that names no conversation. -/
def noConversation : Error :=
  .protocol "SASL reply is missing 'conversationId'"

/-- The reply a document holds, or the error. -/
def Reply.read (reply : Document) : Except Error Reply :=
  match reply.get? conversationKey with
  | none => .error noConversation
  | some conversation =>
    (reply.bytes payloadKey).map fun payload => ⟨conversation, reply.flag "done", payload⟩

end Sasl

end DocumentLink
