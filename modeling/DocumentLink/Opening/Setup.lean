import DocumentLink.Authentication.Authenticator

/-!
# Setups

What connections are opened with, and the decisions an opening makes: what the
handshake says, what its reply teaches, whether to authenticate, and whether the
server has to be asked for its number. None of them sends anything; that is left
to the blocking and the suspending way of opening, which share them all.

Making the handshake has one effect, a prover for the step sent on speculation;
and taking in the reply has one, keeping the server's answer to that step.

## Main definitions

* `Setup`: What connections are opened with.
* `Setup.handshake`: The handshake command.
* `Setup.handshakeFailure`: How the failure of a handshake is reported.
* `Opened.ofReply`: What the reply to the handshake teaches.
* `Setup.learn`: The same, with the answer to a speculation kept.
* `Setup.authenticates`: Whether the connection is to be authenticated.
* `Opened.applyProbe`: What the status probe adds.
* `Desk.begin`, `Desk.settle`: Enter and leave the opening.

## Theorems

* `Setup.runAt_handshake_of_none`, `Setup.runAt_handshake_of_some`: What making the
  handshake comes to.
* `Setup.run_learn`: What learning from the reply comes to.
-/

namespace DocumentLink

/-- What connections are opened with. -/
structure Setup where
  authenticator : Authenticator := .none
  client : Option Document := none
  compressors : List Compressor := []
  api : Option ServerApi := none

/-- What the reply to a handshake on a connection teaches. -/
def Opened.ofReply (connection : Connection) (reply : Document) : Opened where
  connection := .ofReply connection.description.id reply
  server := .ofReply connection.address reply connection.transport.latency

namespace Setup

/-- The user whose mechanisms are to be asked for. -/
def askedUser (setup : Setup) : Option (String × String) :=
  if setup.authenticator.negotiates then
    setup.authenticator.credential?.bind fun credential =>
      credential.userName.map fun user => (credential.source, user)
  else none

/-- What every handshake carries, whether or not it speculates. -/
def baseHandshake (setup : Setup) : Handshake :=
  let handshake : Handshake :=
    { hello := setup.api.isSome, client := setup.client, compressors := setup.compressors }
  match setup.askedUser with
  | some (source, user) => handshake.askMechanisms source user
  | none => handshake

/-- The handshake command. -/
def handshake (setup : Setup) : Act Document := do
  match setup.authenticator.speculative? with
  | none => return setup.baseHandshake.command
  | some login =>
    let step ← login.speculate
    return { setup.baseHandshake with speculative := step }.command

/-- How the failure of a handshake is reported. If the handshake asked for the
    mechanisms of a user who does not exist, the authentication has failed. -/
def handshakeFailure (setup : Setup) (e : Error) : Error :=
  if setup.authenticator.negotiates && e.code? = some Error.userNotFound then
    match setup.authenticator.credential? with
    | some credential => .authentication credential e
    | none => e
  else e

/-- What the reply to the handshake teaches. The answer to a step sent on
    speculation is kept. -/
def learn (setup : Setup) (reply : Document) : StateM Desk Opened := do
  let desk ← get
  if setup.authenticator.speculative?.isSome then
    set { desk with
      speculation := desk.speculation.respond (Handshake.speculativeReply? reply) }
  return .ofReply desk.line.connection reply

theorem runAt_handshake_of_none {setup : Setup} (h : setup.authenticator.speculative? = none)
    (desk : Desk) :
    setup.handshake.runAt desk = (.ok setup.baseHandshake.command, desk) := by
  simp only [handshake, h]
  rfl

/-- A handshake that may speculate carries what came of trying to. -/
theorem runAt_handshake_of_some {setup : Setup} {login : Login}
    (h : setup.authenticator.speculative? = some login) (desk : Desk) :
    setup.handshake.runAt desk =
      ((login.speculate.runAt desk).1.map fun step =>
          { setup.baseHandshake with speculative := step : Handshake }.command,
        (login.speculate.runAt desk).2) := by
  simp only [handshake, h, Act.runAt_bind]
  cases login.speculate.runAt desk with
  | mk step asked => cases step <;> rfl

theorem run_learn (setup : Setup) (reply : Document) (desk : Desk) :
    (setup.learn reply).run desk =
      (.ofReply desk.line.connection reply,
        if setup.authenticator.speculative?.isSome then
          { desk with speculation := desk.speculation.respond (Handshake.speculativeReply? reply) }
        else desk) := by
  simp only [learn]
  cases setup.authenticator.speculative?.isSome <;> rfl

/-- Whether the connection is to be authenticated. Arbiters hold no users. -/
def authenticates (setup : Setup) (opened : Opened) : Bool :=
  !setup.authenticator.isNone && opened.connection.serverType ≠ .arbiter

end Setup

namespace Opened

/-- Whether the server has to be asked for its number. -/
def needsProbe (opened : Opened) : Bool :=
  opened.connection.id.serverValue.isNone

/-- What the status probe adds: the server's number, if the probe succeeded and
    told it. A probe that failed takes nothing away. -/
def applyProbe (opened : Opened) (result : Answer) : Opened :=
  match result with
  | .error _ => opened
  | .ok reply => (StatusProbe.serverValue? reply).elim opened opened.withServerValue

end Opened

namespace Desk

/-- Enter the opening of the connection, or be refused. -/
def begin (desk : Desk) : Except Error Desk :=
  desk.line.connection.begin.map fun connection => { desk with line.connection := connection }

/-- Store the end of the opening. -/
def settle (desk : Desk) (result : Except Error Opened) : Desk :=
  { desk with line.connection := desk.line.connection.settle result }

end Desk

end DocumentLink
