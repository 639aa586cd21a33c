import DocumentLink.Opening.Mode

/-!
# Sessions of Authentication

One authenticator used step by step at a desk of its own, without a handshake
around it.

## Main definitions

* `AuthenticationSession`: An authenticator and its desk.
* `AuthenticationSession.Step`: What can be done.
* `AuthenticationSession.Answer`: What comes of it.
* `AuthenticationSession.step`: Do it.
-/

namespace DocumentLink

/-- An authenticator and its desk. -/
structure AuthenticationSession where
  authenticator : Authenticator
  description : ConnectionDescription
  desk : Desk

namespace AuthenticationSession

/-- What can be done. -/
inductive Step where
  /-- Look at the authenticator. -/
  | info
  /-- Make the step to send on speculation. -/
  | speculate
  /-- Keep the server's answer to it. -/
  | respond (response : Option Document)
  /-- Look at the answer. -/
  | response
  | authenticate (mode : Mode)

/-- What comes of a step. -/
inductive Answer where
  | info (authenticator : Authenticator)
  | speculated (result : Except Error (Option Document))
  | kept
  | response (document : Option Document)
  | authenticated (result : Option (Except Error Unit))
  /-- The authenticator sends nothing on speculation. -/
  | notSpeculative

/-- Do a step that is about speculation. -/
def speculativeStep (s : AuthenticationSession) (login : Login) : Step → Answer × Desk
  | .speculate =>
    let (result, desk) := login.speculate.runAt s.desk
    (.speculated result, desk)
  | .respond response =>
    (.kept, { s.desk with speculation := s.desk.speculation.respond response })
  | _ => (.response s.desk.speculation.response, s.desk)

/-- Do a step. -/
def answer (s : AuthenticationSession) : Step → Answer × Desk
  | .info => (.info s.authenticator, s.desk)
  | .authenticate mode =>
    let (result, desk) := mode.authenticate s.authenticator s.description s.desk
    (.authenticated result, desk)
  | step =>
    match s.authenticator.speculative? with
    | none => (.notSpeculative, s.desk)
    | some login => s.speculativeStep login step

/-- What a step has done. -/
structure Outcome where
  answer : Answer
  sent : List Document
  calls : List MechanismCall

/-- What has been sent and asked between two desks. -/
def outcome (before after : Desk) (answer : Answer) : Outcome where
  answer := answer
  sent := after.line.connection.transport.sent.drop before.line.connection.transport.sent.length
  calls := after.line.journal.calls.drop before.line.journal.calls.length

/-- Do steps one after the other. -/
def steps (s : AuthenticationSession) : List Step → List Outcome
  | [] => []
  | first :: rest =>
    let (answer, desk) := s.answer first
    outcome s.desk desk answer :: steps { s with desk := desk } rest

end AuthenticationSession

end DocumentLink
