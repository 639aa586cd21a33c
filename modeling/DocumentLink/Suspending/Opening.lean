import DocumentLink.Opening.Setup
import DocumentLink.Suspending.Authentication

/-!
# Suspending Opening

Opening a connection without blocking. An opening is suspended once for the
handshake, once for every command of the authentication and once for the status
probe, and remembers what it has learned in between.

An opening that is dropped while it is suspended leaves its connection as it is,
in the middle of an opening that nobody will end.

## Main definitions

* `Suspending.Waiting`: Where an opening is suspended.
* `Suspending.openConnection`: Begin to open a connection.
* `Suspending.continueOpening`: Go on when the reply is there.
* `Suspending.continueTimes`: Go on a number of times.
* `Suspending.openFully`: Open and go on until the end.

## Theorems

* `Suspending.run_greet`: What beginning an opening comes to.
* `Suspending.run_continueOpening_handshake`,
  `Suspending.run_continueOpening_authentication`: What going on with it comes to.
-/

namespace DocumentLink

namespace Suspending

/-- Where an opening is suspended. -/
inductive Waiting where
  | handshake (ticket : Option Ticket)
  | authentication (opened : Opened) (waiting : Authenticating)
  | probe (opened : Opened) (ticket : Option Ticket)

/-- Leave the opening. -/
def conclude (result : Except Error Opened) : StateM Desk (Progress Waiting Opened) := do
  modify fun desk => desk.settle result
  return .finished result

/-- Ask for the server's number if it is not known. -/
def probe (setup : Setup) (opened : Opened) : StateM Desk (Progress Waiting Opened) := do
  if opened.needsProbe then
    let ticket ← send Command.adminDatabase StatusProbe.command setup.api
    return .suspended (.probe opened ticket)
  else conclude (.ok opened)

/-- Go on after the authentication, unless it is still suspended. -/
def afterAuthentication (setup : Setup) (opened : Opened) :
    Progress Authenticating Unit → StateM Desk (Progress Waiting Opened)
  | .suspended waiting => return .suspended (.authentication opened waiting)
  | .finished (.error e) => conclude (.error e)
  | .finished (.ok ()) => probe setup opened

/-- Go on after the handshake. -/
def afterHandshake (setup : Setup) (reply : Document) :
    StateM Desk (Progress Waiting Opened) := do
  let opened ← setup.learn reply
  if setup.authenticates opened then
    afterAuthentication setup opened (← authenticate setup.authenticator opened.connection)
  else probe setup opened

/-- Enter the opening and send the handshake. -/
def greet (setup : Setup) : StateM Desk (Progress Waiting Opened) := do
  match ← setup.handshake.attempt with
  | .error e => conclude (.error e)
  | .ok document =>
    let ticket ← send Command.adminDatabase document setup.api
    return .suspended (.handshake ticket)

/-- The handshake is sent once it has been made. -/
theorem run_greet (setup : Setup) (desk : Desk) :
    (greet setup).run desk =
      (match (setup.handshake.runAt desk).1 with
        | .error e => conclude (.error e)
        | .ok document => do
          let ticket ← send Command.adminDatabase document setup.api
          return .suspended (.handshake ticket) : StateM Desk _).run
        (setup.handshake.runAt desk).2 :=
  rfl

/-- Begin to open a connection that has not been opened before. -/
def openConnection (setup : Setup) (desk : Desk) : Progress Waiting Opened × Desk :=
  match desk.begin with
  | .error e => (.finished (.error e), desk)
  | .ok desk => (greet setup).run desk

/-- Go on with an opening when the reply is there. -/
def continueOpening (setup : Setup) (waiting : Waiting) :
    StateM Desk (Progress Waiting Opened) :=
  match waiting with
  | .handshake ticket => do
    match ← (receive ticket).attempt with
    | .error e => conclude (.error (setup.handshakeFailure e))
    | .ok reply => afterHandshake setup reply
  | .authentication opened waiting => do
    afterAuthentication setup opened (← continueAuthentication waiting)
  | .probe opened ticket => do
    let result ← (receive ticket).attempt
    conclude (.ok (opened.applyProbe result))

/-- An opening goes on from the answer to its handshake. -/
theorem run_continueOpening_handshake (setup : Setup) (ticket : Option Ticket) (desk : Desk) :
    (continueOpening setup (.handshake ticket)).run desk =
      (match ((receive ticket).runAt desk).1 with
        | .error e => conclude (.error (setup.handshakeFailure e))
        | .ok reply => afterHandshake setup reply : StateM Desk _).run
        ((receive ticket).runAt desk).2 :=
  rfl

/-- It goes on from where going on with its authentication has led. -/
theorem run_continueOpening_authentication (setup : Setup) (opened : Opened)
    (waiting : Authenticating) (desk : Desk) :
    (continueOpening setup (.authentication opened waiting)).run desk =
      (afterAuthentication setup opened ((continueAuthentication waiting).run desk).1).run
        ((continueAuthentication waiting).run desk).2 :=
  rfl

/-- Go on a number of times, or until the end. -/
def continueTimes (setup : Setup) (n : Nat) (progress : Progress Waiting Opened) (desk : Desk) :
    Progress Waiting Opened × Desk :=
  goOn (continueOpening setup) n progress desk

/-- Go on until the end. -/
def finishOpening (setup : Setup) (progress : Progress Waiting Opened) (desk : Desk) :
    Progress Waiting Opened × Desk :=
  goOnFully (continueOpening setup) progress desk

/-- Open a connection and go on until the end. -/
def openFully (setup : Setup) (desk : Desk) : Progress Waiting Opened × Desk :=
  let (progress, desk) := openConnection setup desk
  finishOpening setup progress desk

end Suspending

end DocumentLink
