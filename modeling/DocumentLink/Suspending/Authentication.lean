import DocumentLink.Authentication.Authenticator
import DocumentLink.Command.Certificate
import DocumentLink.Suspending.Exchange

/-!
# Suspending Authentication

Authenticating a connection without blocking. Each function runs until a command
has been sent or the end has come.

A conversation is suspended after each of its commands with the prover in hand;
when the reply is there it either ends or answers and is suspended again. There
is no loop, and so nothing to bound.

A conversation that goes on from a reply which is there already may find the
reply unreadable before anything is sent. That failure names the credential as
every other failure of a conversation does.

## Main definitions

* `Suspending.Talk`: A conversation that waits for a reply.
* `Suspending.converse`: Take in a reply.
* `Suspending.login`: Begin a conversation.
* `Suspending.pickUp`: Begin from a reply that is there already.
* `Suspending.loginWith`: Begin with having a prover made.
* `Suspending.authenticate`: Begin in whichever way.
* `Suspending.continueAuthentication`: Go on when the reply is there.
* `Suspending.converseFully`, `Suspending.authenticateFully`: Go on until the end.

## Theorems

* `Suspending.run_login`, `Suspending.run_loginWith`, `Suspending.run_pickUp_of_error`,
  `Suspending.run_pickUp_of_ok`, `Suspending.run_speculated`: What beginning comes to.
* `Suspending.run_converse_of_not_done`, `Suspending.run_continueTalk`: What going on
  comes to.
-/

namespace DocumentLink

namespace Suspending

/-- A conversation that waits for a reply. -/
structure Talk where
  login : Login
  running : Prover.Running
  ticket : Option Ticket

/-- Send a command of a conversation. -/
def say (login : Login) (running : Prover.Running) (document : Document) :
    StateM Desk (Progress Talk Unit) := do
  let ticket ← send login.credential.source document login.api
  return .suspended ⟨login, running, ticket⟩

/-- Take in a reply: end the conversation, or answer. -/
def converse (login : Login) (running : Prover.Running) (reply : Sasl.Reply) :
    StateM Desk (Progress Talk Unit) := do
  if reply.done then
    return .finished (← (login.finish running reply).attempt)
  else
    match ← (login.nextCommand running reply).attempt with
    | .error e => return .finished (.error e)
    | .ok (document, running) => say login running document

/-- Begin a conversation. -/
def login (login : Login) (running : Prover.Running) : StateM Desk (Progress Talk Unit) := do
  match ← (login.firstCommand running).attempt with
  | .error e => return .finished (.error (login.wrap e))
  | .ok document => say login running document

/-- Go on with a conversation when the reply is there. -/
def continueTalk (talk : Talk) : StateM Desk (Progress Talk Unit) := do
  match ← (receive talk.ticket).attempt with
  | .error e => return .finished (.error (talk.login.wrap e))
  | .ok document =>
    match Sasl.Reply.read document with
    | .error e => return .finished (.error (talk.login.wrap e))
    | .ok reply => return (← converse talk.login talk.running reply).mapError talk.login.wrap

/-- A reply that is not the last one is answered. -/
theorem run_converse_of_not_done {login : Login} {running : Prover.Running} {reply : Sasl.Reply}
    (h : reply.done = false) (desk : Desk) :
    (converse login running reply).run desk =
      (match ((login.nextCommand running reply).runAt desk).1 with
        | .error e => return .finished (.error e)
        | .ok (document, running) => say login running document : StateM Desk _).run
        ((login.nextCommand running reply).runAt desk).2 := by
  simp only [converse, h]
  rfl

/-- A conversation begins with what the prover has to say. -/
theorem run_login (login : Login) (running : Prover.Running) (desk : Desk) :
    (Suspending.login login running).run desk =
      (match ((login.firstCommand running).runAt desk).1 with
        | .error e => return .finished (.error (login.wrap e))
        | .ok document => say login running document : StateM Desk _).run
        ((login.firstCommand running).runAt desk).2 :=
  rfl

/-- A conversation goes on from what was received. -/
theorem run_continueTalk (talk : Talk) (desk : Desk) :
    (continueTalk talk).run desk =
      (match ((receive talk.ticket).runAt desk).1 with
        | .error e => return .finished (.error (talk.login.wrap e))
        | .ok document =>
          match Sasl.Reply.read document with
          | .error e => return .finished (.error (talk.login.wrap e))
          | .ok reply =>
            return (← converse talk.login talk.running reply).mapError talk.login.wrap :
        StateM Desk _).run ((receive talk.ticket).runAt desk).2 :=
  rfl

/-- Begin from a reply that is there already. -/
def pickUp (login : Login) (running : Prover.Running) (document : Document) :
    StateM Desk (Progress Talk Unit) := do
  match (Sasl.Reply.read document).mapError login.wrap with
  | .error e => return .finished (.error e)
  | .ok reply => return (← converse login running reply).mapError login.wrap

theorem run_pickUp_of_error {login : Login} {running : Prover.Running} {document : Document}
    {e : Error} (h : Sasl.Reply.read document = .error e) (desk : Desk) :
    (pickUp login running document).run desk = (.finished (.error (login.wrap e)), desk) := by
  rw [pickUp, h]
  rfl

/-- A reply that is there already is taken in. -/
theorem run_pickUp_of_ok {login : Login} {running : Prover.Running} {document : Document}
    {reply : Sasl.Reply} (h : Sasl.Reply.read document = .ok reply) (desk : Desk) :
    (pickUp login running document).run desk =
      (((converse login running reply).run desk).1.mapError login.wrap,
        ((converse login running reply).run desk).2) := by
  rw [pickUp, h]
  rfl

/-- Go on with a conversation until the end. -/
def converseFully (progress : Progress Talk Unit) (desk : Desk) : Progress Talk Unit × Desk :=
  goOnFully continueTalk progress desk

/-- An authentication that waits for a reply. -/
inductive Authenticating where
  | conversation (talk : Talk)
  | certificate (credential : Credential) (ticket : Option Ticket)

/-- Have a prover made and begin a conversation with it. -/
def loginWith (login : Login) (make : Act Prover.Running) :
    StateM Desk (Progress Authenticating Unit) := do
  match ← make.attempt with
  | .error e => return .finished (.error e)
  | .ok running => return (← Suspending.login login running).mapWaiting .conversation

/-- A conversation begins once its prover has been made. -/
theorem run_loginWith (login : Login) (make : Act Prover.Running) (desk : Desk) :
    (loginWith login make).run desk =
      (match (make.runAt desk).1 with
        | .error e => return .finished (.error e)
        | .ok running => return (← Suspending.login login running).mapWaiting .conversation :
        StateM Desk (Progress Authenticating Unit)).run (make.runAt desk).2 :=
  rfl

/-- Begin with the mechanism that the server's answer decides on. -/
def negotiate (login : Login) (description : ConnectionDescription) :
    StateM Desk (Progress Authenticating Unit) :=
  loginWith login (login.createProver description.negotiated)

/-- Begin by client certificate. -/
def certificate (credential : Credential) (api : Option ServerApi) :
    StateM Desk (Progress Authenticating Unit) := do
  let ticket ← send Credential.externalSource (Command.certificate credential.userName) api
  return .suspended (.certificate credential ticket)

/-- Begin with the fixed mechanism, from the answer to the step sent on
    speculation if there is one. -/
def speculated (login : Login) : StateM Desk (Progress Authenticating Unit) := do
  match ← Desk.takeResumable with
  | some (running, response) =>
    return (← pickUp login running response).mapWaiting .conversation
  | none => loginWith login login.createFixedProver

/-- What was kept of a speculation decides how to begin. -/
theorem run_speculated (login : Login) (desk : Desk) :
    (speculated login).run desk =
      (match desk.speculation.takeResumable.1 with
        | some (running, response) =>
          return (← pickUp login running response).mapWaiting .conversation
        | none => loginWith login login.createFixedProver :
        StateM Desk (Progress Authenticating Unit)).run
        { desk with speculation := desk.speculation.takeResumable.2 } :=
  rfl

/-- Begin in whichever way. -/
def authenticate (authenticator : Authenticator) (description : ConnectionDescription) :
    StateM Desk (Progress Authenticating Unit) :=
  match authenticator with
  | .none => return .finished (.ok ())
  | .negotiating login => negotiate login description
  | .certificate credential api => certificate credential api
  | .speculative login => speculated login

/-- Go on with an authentication when the reply is there. -/
def continueAuthentication (waiting : Authenticating) :
    StateM Desk (Progress Authenticating Unit) :=
  match waiting with
  | .conversation talk => return (← continueTalk talk).mapWaiting .conversation
  | .certificate credential ticket => do
    let reply ← (receive ticket).attempt
    return .finished ((reply.map fun _ => ()).mapError (.authenticating credential))

/-- Authenticate and go on until the end. -/
def authenticateFully (authenticator : Authenticator) (description : ConnectionDescription)
    (desk : Desk) : Progress Authenticating Unit × Desk :=
  let (progress, desk) := (authenticate authenticator description).run desk
  goOnFully continueAuthentication progress desk

end Suspending

end DocumentLink
