import DocumentLink.Blocking.Authentication
import DocumentLink.Opening.Setup

/-!
# Blocking Opening

Opening a connection while blocking on every reply: the handshake, the
authentication if there is to be one, and the status probe if the server has not
told its number. Whatever fails before the probe ends the opening; the probe
itself cannot.

## Main definitions

* `Blocking.greet`: The handshake.
* `Blocking.authorize`: The authentication, or none.
* `Blocking.probe`: The status probe.
* `Blocking.acquaint`: Both, one after the other.
* `Blocking.establish`: Everything between entering and leaving the opening.
* `Blocking.openConnection`: Open a connection that has not been opened before.
-/

namespace DocumentLink

namespace Blocking

/-- Exchange the handshake and take in what it teaches. -/
def greet (setup : Setup) : Act Opened := do
  let document ← setup.handshake
  let reply ← (command Command.adminDatabase document setup.api).mapError setup.handshakeFailure
  setup.learn reply

/-- Ask for the server's number if it is not known. -/
def probe (setup : Setup) (opened : Opened) : Act Opened := do
  if opened.needsProbe then
    let result ← (command Command.adminDatabase StatusProbe.command setup.api).tried
    return opened.applyProbe result
  else return opened

/-- Authenticate, unless that is to be passed over. -/
def authorize (setup : Setup) (opened : Opened) : Act Unit :=
  if setup.authenticates opened then authenticate setup.authenticator opened.connection
  else return ()

/-- Everything between the handshake and leaving the opening. -/
def acquaint (setup : Setup) (opened : Opened) : Act Opened := do
  authorize setup opened
  probe setup opened

/-- Everything between entering and leaving the opening. -/
def establish (setup : Setup) : Act Opened := do
  let opened ← greet setup
  acquaint setup opened

/-- Open a connection that has not been opened before. -/
def openConnection (setup : Setup) (desk : Desk) : Except Error Opened × Desk :=
  match desk.begin with
  | .error e => (.error e, desk)
  | .ok desk =>
    let (result, desk) := (establish setup).runAt desk
    (result, desk.settle result)

end Blocking

end DocumentLink
