import DocumentLink.Blocking.Opening
import DocumentLink.Suspending.Opening

/-!
# Modes

The two ways of waiting for replies, side by side, each run to its end. A client
that suspends is gone on with at once, as if nothing else were to be done.

## Main definitions

* `Mode`: Blocking or suspending.
* `Mode.exchange`: Send a command and have its answer.
* `Mode.execute`: The same with a prepared command and a checked reply.
* `Mode.openConnection`: Open a connection.
* `Mode.authenticate`: Authenticate one.
* `Mode.converse`: Run a conversation.
-/

namespace DocumentLink

/-- How a client waits for replies. -/
inductive Mode where
  | blocking
  | suspending
  deriving DecidableEq, Repr

namespace Mode

/-- Send a command and have its answer. -/
def exchange (mode : Mode) (line : Line) (command : Document) : Answer × Line :=
  match mode with
  | blocking => Blocking.exchange line command
  | suspending =>
    let (ticket, line) := Suspending.begin line command
    Suspending.complete line ticket

/-- Send a prepared command and have a reply that reports success. -/
def execute (mode : Mode) (line : Line) (database : String) (command : Document)
    (api : Option ServerApi) : Answer × Line :=
  match mode with
  | blocking => Blocking.execute line database command api
  | suspending =>
    let (ticket, line) := Suspending.begin line (Command.prepare command database api)
    let (answer, line) := Suspending.complete line ticket
    (answer.bind fun reply => reply.checked line.connection.address, line)

/-- Open a connection. There is a result once the opening has come to its end. -/
def openConnection (mode : Mode) (setup : Setup) (desk : Desk) :
    Option (Except Error Opened) × Desk :=
  match mode with
  | blocking =>
    let (result, desk) := Blocking.openConnection setup desk
    (some result, desk)
  | suspending =>
    let (progress, desk) := Suspending.openFully setup desk
    (progress.result?, desk)

/-- Authenticate a connection. -/
def authenticate (mode : Mode) (authenticator : Authenticator)
    (description : ConnectionDescription) (desk : Desk) : Option (Except Error Unit) × Desk :=
  match mode with
  | blocking =>
    let (result, desk) := (Blocking.authenticate authenticator description).runAt desk
    (some result, desk)
  | suspending =>
    let (progress, desk) := Suspending.authenticateFully authenticator description desk
    (progress.result?, desk)

/-- Run a conversation, from a reply that is there already or from the start. -/
def converse (mode : Mode) (login : Login) (running : Prover.Running)
    (resumed : Option Document) (desk : Desk) : Option (Except Error Unit) × Desk :=
  match mode with
  | blocking =>
    let act := match resumed with
      | some reply => Blocking.resume login running reply
      | none => Blocking.login login running
    let (result, desk) := act.runAt desk
    (some result, desk)
  | suspending =>
    let start := match resumed with
      | some reply => Suspending.pickUp login running reply
      | none => Suspending.login login running
    let (progress, desk) := start.run desk
    let (progress, desk) := Suspending.converseFully progress desk
    (progress.result?, desk)

end Mode

end DocumentLink
