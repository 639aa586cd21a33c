import DocumentLink.Command.Sasl
import DocumentLink.Opening.Desk

/-!
# Logins

The decisions of a conversation that authenticates a user: which prover to use,
what to send first, what to send next, and how to end. They are the same whether
the client waits for a reply by blocking or not, so no command is sent here.

## Main definitions

* `Login`: A credential with the provider for it.
* `Login.createProver`: Have a prover made.
* `Login.firstCommand`: The command that opens the conversation.
* `Login.nextCommand`: The command that answers a reply.
* `Login.finish`: Accept the last reply.
* `ConnectionDescription.negotiated`: The mechanism to use when none is fixed.

## Theorems

* `Login.runAt_createProver`, `Login.runAt_firstCommand`, `Login.runAt_nextCommand`,
  `Login.runAt_finish`: What each decision comes to, and all that it does at the
  desk.
-/

namespace DocumentLink

/-- A credential with the provider for it. -/
structure Login where
  credential : Credential
  provider : Provider
  api : Option ServerApi := none

/-- The mechanism to use when none is fixed: the strongest one the server has
    listed for the user, and the weaker one if it listed nothing. -/
def ConnectionDescription.negotiated (d : ConnectionDescription) : Mechanism :=
  if (d.mechanisms.getD []).contains Mechanism.scramSha256.name then .scramSha256 else .scramSha1

namespace Login

/-- The failed authentication for a mechanism the provider does not know. -/
def unsupported (login : Login) (mechanism : Mechanism) : Error :=
  .authentication login.credential (.configuration s!"Unsupported mechanism: {mechanism.name}")

/-- The failed authentication for a credential without a mechanism. -/
def mechanismMissing (login : Login) : Error :=
  .authentication login.credential
    (.configuration "Speculative authentication requires a mechanism")

/-- Note what a prover was asked. -/
def note (login : Login) (call : MechanismCall) : Act Unit :=
  Act.note login.provider.observed call

/-- Have a prover made for a mechanism. -/
def createProver (login : Login) (mechanism : Mechanism) : Act Prover.Running := do
  login.note (.create mechanism login.credential)
  let desk ← get
  match login.provider.create desk.created mechanism login.credential with
  | none => throw (login.unsupported mechanism)
  | some prover =>
    set { desk with created := desk.created + 1 }
    return { number := desk.created + 1, prover := prover }

/-- Have a prover made for the mechanism of the credential. -/
def createFixedProver (login : Login) : Act Prover.Running :=
  match login.credential.mechanism with
  | none => throw login.mechanismMissing
  | some mechanism => login.createProver mechanism

/-- What the prover sends first. -/
def initialData (login : Login) (running : Prover.Running) : Act Bytes := do
  login.note (.initial running.number)
  Act.ofResult running.prover.initial

/-- The command that opens the conversation. -/
def firstCommand (login : Login) (running : Prover.Running) : Act Document := do
  let data ← login.initialData running
  return Sasl.start running.prover.mechanism data none

/-- The command that answers a reply, and the prover after it. -/
def nextCommand (login : Login) (running : Prover.Running) (reply : Sasl.Reply) :
    Act (Document × Prover.Running) := do
  login.note (.challenge running.number reply.payload)
  let running := running.challenged reply.payload
  let data ← Act.ofResult (running.prover.answer running.challenges)
  return (Sasl.advance reply.conversation data, running)

/-- Accept the last reply. -/
def finish (login : Login) (running : Prover.Running) (reply : Sasl.Reply) : Act Unit := do
  login.note (.success running.number reply.payload)
  Act.ofResult (running.prover.accept running.challenges reply.payload)

/-- How a failure in the conversation becomes a failed authentication. -/
def wrap (login : Login) : Error → Error :=
  Error.authenticating login.credential

/-- Making a prover notes the call, and counts the prover if there is one. -/
theorem runAt_createProver (login : Login) (mechanism : Mechanism) (desk : Desk) :
    (login.createProver mechanism).runAt desk =
      match login.provider.create desk.created mechanism login.credential with
      | none => (.error (login.unsupported mechanism),
        desk.note login.provider.observed (.create mechanism login.credential))
      | some prover => (.ok { number := desk.created + 1, prover := prover },
        { desk.note login.provider.observed (.create mechanism login.credential) with
          created := desk.created + 1 }) := by
  simp only [createProver, note, Act.runAt_bind, Act.runAt_note]
  show (match login.provider.create desk.created mechanism login.credential with
        | none => _
        | some prover => _ : Act Prover.Running).runAt
        (desk.note login.provider.observed (.create mechanism login.credential)) = _
  cases login.provider.create desk.created mechanism login.credential <;> rfl

theorem runAt_initialData (login : Login) (running : Prover.Running) (desk : Desk) :
    (login.initialData running).runAt desk =
      (running.prover.initial,
        desk.note login.provider.observed (.initial running.number)) := by
  simp only [initialData, note, Act.runAt_bind, Act.runAt_note, Act.runAt_ofResult]

/-- Opening a conversation asks the prover what to send first, and does no more. -/
theorem runAt_firstCommand (login : Login) (running : Prover.Running) (desk : Desk) :
    (login.firstCommand running).runAt desk =
      (running.prover.initial.map fun data => Sasl.start running.prover.mechanism data none,
        desk.note login.provider.observed (.initial running.number)) := by
  simp only [firstCommand, Act.runAt_bind, runAt_initialData]
  cases running.prover.initial <;> rfl

/-- Answering a reply gives the prover one more challenge, and does no more. -/
theorem runAt_nextCommand (login : Login) (running : Prover.Running) (reply : Sasl.Reply)
    (desk : Desk) :
    (login.nextCommand running reply).runAt desk =
      ((running.prover.answer (running.challenges ++ [reply.payload])).map fun data =>
          (Sasl.advance reply.conversation data, running.challenged reply.payload),
        desk.note login.provider.observed (.challenge running.number reply.payload)) := by
  simp only [nextCommand, note, Act.runAt_bind, Act.runAt_note, Act.runAt_ofResult]
  cases hanswer : running.prover.answer (running.challenges ++ [reply.payload]) <;>
    simp only [Prover.Running.challenged, hanswer] <;> rfl

/-- Ending asks the prover whether it accepts, and does no more. -/
theorem runAt_finish (login : Login) (running : Prover.Running) (reply : Sasl.Reply)
    (desk : Desk) :
    (login.finish running reply).runAt desk =
      (running.prover.accept running.challenges reply.payload,
        desk.note login.provider.observed (.success running.number reply.payload)) := by
  simp only [finish, note, Act.runAt_bind, Act.runAt_note, Act.runAt_ofResult]

end Login

end DocumentLink
