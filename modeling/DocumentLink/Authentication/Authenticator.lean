import DocumentLink.Authentication.Login

/-!
# Authenticators

The ways to authenticate a connection, and what can be said about each before
anything is sent.

A credential decides the way. Without a mechanism the server is asked for the
user's mechanisms; a certificate needs one command; any other mechanism is run
by a conversation, whose first step may be sent on speculation inside the
handshake. If the server answers it there, the conversation goes on from that
answer with the very prover that made the step.

## Main definitions

* `Authenticator`: The ways to authenticate.
* `Authenticator.ofCredential`: The way that a credential decides on.
* `Authenticator.speculate`: The step to send on speculation.
* `Speculation.takeResumable`: The prover and the answer to go on with.
-/

namespace DocumentLink

/-- A credential together with the provider of its provers. -/
structure CredentialConfig where
  credential : Credential
  provider : Provider

/-- The ways to authenticate a connection. -/
inductive Authenticator where
  /-- Not at all. -/
  | none
  /-- By a conversation whose mechanism the server's answer decides. -/
  | negotiating (login : Login)
  /-- By a client certificate. -/
  | certificate (credential : Credential) (api : Option ServerApi)
  /-- By a conversation that may begin inside the handshake. -/
  | speculative (login : Login)

namespace Authenticator

/-- The way that a credential decides on. -/
def ofCredential (config : Option CredentialConfig) (api : Option ServerApi) : Authenticator :=
  match config with
  | .none => none
  | some config =>
    match config.credential.mechanism with
    | .none => negotiating ⟨config.credential, config.provider, api⟩
    | some .certificate => certificate config.credential api
    | some _ => speculative ⟨config.credential, config.provider, api⟩

/-- Whether connections are left unauthenticated. -/
def isNone : Authenticator → Bool
  | none => true
  | _ => false

/-- Whether the handshake asks for the user's mechanisms. -/
def negotiates : Authenticator → Bool
  | negotiating _ => true
  | _ => false

/-- The login whose first step may be sent on speculation. -/
def speculative? : Authenticator → Option Login
  | speculative login => some login
  | _ => .none

/-- The credential in use. -/
def credential? : Authenticator → Option Credential
  | none => .none
  | negotiating login | speculative login => some login.credential
  | certificate credential _ => some credential

end Authenticator

namespace Login

/-- Whether the first step may be sent on speculation. -/
def maySpeculate (login : Login) : Bool :=
  (login.credential.mechanism.map Mechanism.isSpeculative).getD false

/-- The step to send inside a handshake, if it may be sent there. The prover that
    makes it is kept for the answer; a failure leaves the one kept before. -/
def speculate (login : Login) : Act (Option Document) := do
  if !login.maySpeculate then return none
  let running ← login.createFixedProver
  let data ← (login.initialData running).mapError (.authentication login.credential)
  modify fun desk => { desk with speculation.pending := some running }
  return some (Sasl.start running.prover.mechanism data (some login.credential.source))

theorem runAt_speculate_of_not {login : Login} (h : login.maySpeculate = false) (desk : Desk) :
    login.speculate.runAt desk = (.ok none, desk) := by
  simp only [speculate, h]
  rfl

/-- Speculating makes a prover, asks it what to send first, and keeps it. -/
theorem runAt_speculate {login : Login} (h : login.maySpeculate = true) (desk : Desk) :
    login.speculate.runAt desk =
      match login.createFixedProver.runAt desk with
      | (.error e, made) => (.error e, made)
      | (.ok running, made) =>
        let asked := made.note login.provider.observed (.initial running.number)
        match running.prover.initial with
        | .error e => (.error (.authentication login.credential e), asked)
        | .ok data =>
          (.ok (some (Sasl.start running.prover.mechanism data (some login.credential.source))),
            { asked with speculation.pending := some running }) := by
  simp only [speculate, h]
  show (login.createFixedProver >>= _).runAt desk = _
  rw [Act.runAt_bind]
  cases login.createFixedProver.runAt desk with
  | mk prover made =>
      cases prover with
      | error e => rfl
      | ok running =>
          simp only [Act.runAt_bind, Act.runAt_mapError, runAt_initialData]
          cases running.prover.initial <;> rfl

end Login

namespace Speculation

/-- Keep the server's answer, or that there was none. -/
def respond (s : Speculation) (response : Option Document) : Speculation :=
  { s with response := response }

/-- The prover and the answer to go on with, if there are both. Neither can be
    had again. -/
def takeResumable (s : Speculation) : Option (Prover.Running × Document) × Speculation :=
  let both := match s.pending, s.response with
    | some running, some response => some (running, response)
    | _, _ => none
  (both, { pending := none, response := none })

end Speculation

/-- The prover and the answer to go on with, taken from the desk. -/
def Desk.takeResumable : StateM Desk (Option (Prover.Running × Document)) :=
  modifyGet fun desk =>
    let (both, speculation) := desk.speculation.takeResumable
    (both, { desk with speculation := speculation })

end DocumentLink
