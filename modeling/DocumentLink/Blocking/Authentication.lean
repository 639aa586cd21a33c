import DocumentLink.Authentication.Authenticator
import DocumentLink.Blocking.Exchange
import DocumentLink.Command.Certificate

/-!
# Blocking Authentication

Authenticating a connection while blocking on every reply.

The conversation answers challenges until a reply says that it is done. How many
there will be is up to the server, and the loop has no bound of its own; but
every round uses up an answer of the transport, and `answersLeft` counts down.

Every failure in a conversation names the credential, unless it is a failure of
the transport or names one already.

## Main definitions

* `Blocking.converse`: Answer challenges until the conversation is done.
* `Blocking.login`: Run a whole conversation.
* `Blocking.resume`: Go on from a reply that is there already.
* `Blocking.authenticate`: Authenticate in whichever way.

## Theorems

* `Blocking.converse_of_done`, `Blocking.converse_of_not_done`: One round of a
  conversation.
* `Blocking.runAt_speculated`: What going on from a speculation comes to.
-/

namespace DocumentLink

namespace Blocking

theorem answersLeft_nextCommand (login : Login) (running : Prover.Running) (reply : Sasl.Reply)
    (desk : Desk) :
    ((login.nextCommand running reply).runAt desk).2.answersLeft = desk.answersLeft := by
  rw [Login.runAt_nextCommand]
  rfl

-- The equations are named for the proof that the loop ends.
set_option linter.unusedVariables false in
/-- Answer challenges until the conversation is done, and then accept the end. -/
def converse (login : Login) (running : Prover.Running) (reply : Sasl.Reply) (desk : Desk) :
    Except Error Unit × Desk :=
  if reply.done then (login.finish running reply).runAt desk
  else
    match hnext : (login.nextCommand running reply).runAt desk with
    | (.error e, desk) => (.error e, desk)
    | (.ok (document, running), asked) =>
      match hanswer : (command login.credential.source document login.api).runAt asked with
      | (.error e, desk) => (.error e, desk)
      | (.ok document, answered) =>
        match Sasl.Reply.read document with
        | .error e => (.error e, answered)
        | .ok reply => converse login running reply answered
termination_by desk.answersLeft
decreasing_by
  have hasked := congrArg (fun done => done.2.answersLeft) hnext
  rw [answersLeft_nextCommand] at hasked
  have hanswered := answersLeft_command_lt (congrArg Prod.fst hanswer)
  rw [hanswer] at hanswered
  simp only at hasked hanswered
  omega

/-- A reply that says it is done ends the conversation. -/
theorem converse_of_done {login : Login} {running : Prover.Running} {reply : Sasl.Reply}
    (h : reply.done = true) : converse login running reply = login.finish running reply := by
  funext desk
  rw [converse, if_pos h]
  rfl

/-- Any other reply is answered, and the conversation goes on from the reply to
    that. -/
theorem converse_of_not_done {login : Login} {running : Prover.Running} {reply : Sasl.Reply}
    (h : reply.done = false) :
    converse login running reply = (do
      let (document, running) ← login.nextCommand running reply
      let document ← command login.credential.source document login.api
      let reply ← Act.ofResult (Sasl.Reply.read document)
      converse login running reply : Act Unit) := by
  funext desk
  show _ = Act.runAt _ desk
  rw [converse, if_neg (by rw [h]; exact Bool.false_ne_true), Act.runAt_bind]
  split
  · rename_i hnext
    rw [hnext]
  · rename_i hnext
    rw [hnext]
    simp only [Act.runAt_bind]
    split
    · rename_i hanswer
      rw [hanswer]
    · rename_i hanswer
      rw [hanswer]
      simp only [Act.runAt_ofResult]
      split
      · rename_i hread
        rw [hread]
      · rename_i hread
        rw [hread]
        rfl

/-- Open a conversation and run it to its end. -/
def run (login : Login) (running : Prover.Running) : Act Unit := do
  let document ← login.firstCommand running
  let document ← command login.credential.source document login.api
  let reply ← Act.ofResult (Sasl.Reply.read document)
  converse login running reply

/-- Run a whole conversation. -/
def login (login : Login) (running : Prover.Running) : Act Unit :=
  (run login running).mapError login.wrap

/-- Go on from a reply that is there already. -/
def resume (login : Login) (running : Prover.Running) (document : Document) : Act Unit :=
  Act.mapError login.wrap do
    let reply ← Act.ofResult (Sasl.Reply.read document)
    converse login running reply

/-- Authenticate with the mechanism that the server's answer decides on. -/
def negotiate (login : Login) (description : ConnectionDescription) : Act Unit := do
  let running ← login.createProver description.negotiated
  Blocking.login login running

/-- Authenticate by client certificate. -/
def certificate (credential : Credential) (api : Option ServerApi) : Act Unit :=
  Act.mapError (.authenticating credential) do
    let _ ← command Credential.externalSource (Command.certificate credential.userName) api

/-- Authenticate with the fixed mechanism, going on from the answer to the step
    sent on speculation if there is one. -/
def speculated (login : Login) : Act Unit := do
  match ← Desk.takeResumable with
  | some (running, response) => resume login running response
  | none =>
    let running ← login.createFixedProver
    Blocking.login login running

/-- What was kept of a speculation decides how to begin. -/
theorem runAt_speculated (login : Login) (desk : Desk) :
    (speculated login).runAt desk =
      (match desk.speculation.takeResumable.1 with
        | some (running, response) => resume login running response
        | none => do
          let running ← login.createFixedProver
          Blocking.login login running : Act Unit).runAt
        { desk with speculation := desk.speculation.takeResumable.2 } :=
  rfl

/-- Authenticate in whichever way. -/
def authenticate (authenticator : Authenticator) (description : ConnectionDescription) :
    Act Unit :=
  match authenticator with
  | .none => pure ()
  | .negotiating login => negotiate login description
  | .certificate credential api => certificate credential api
  | .speculative login => speculated login

end Blocking

end DocumentLink
