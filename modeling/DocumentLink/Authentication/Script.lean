import DocumentLink.Authentication.Prover

/-!
# Scripted Provers

Provers that say what they have been told to say, for rehearsing a conversation
without the arithmetic of a real mechanism.

## Main definitions

* `Script`: What to say at each step.
* `Script.prover`: The prover that follows a script.
* `Script.provider`: The provider whose provers all follow one script.
-/

namespace DocumentLink

/-- What to say at each step. -/
structure Script where
  /-- The mechanisms that are known; all of them if none are listed. -/
  mechanisms : Option (List String) := none
  /-- The mechanism to report, if not the one asked for. -/
  report : Option Mechanism := none
  first : Except Error Bytes
  /-- The answers to the challenges, in order. -/
  answers : List (Except Error Bytes)
  /-- What to make of success. -/
  acceptance : Except Error Unit := .ok ()

namespace Script

/-- The error for a challenge after the last answer. -/
def exhausted : Error :=
  .general "No scripted response left"

/-- The prover that follows a script. -/
def prover (script : Script) (mechanism : Mechanism) : Prover where
  mechanism := script.report.getD mechanism
  initial := script.first
  answer challenges := (script.answers[challenges.length - 1]?).getD (.error exhausted)
  accept _ _ := script.acceptance

/-- Whether a script knows a mechanism. -/
def knows (script : Script) (mechanism : Mechanism) : Bool :=
  script.mechanisms.elim true fun names => names.contains mechanism.name

/-- The provider whose provers all follow one script. -/
def provider (script : Script) : Provider where
  create _ mechanism _ := if script.knows mechanism then some (script.prover mechanism) else none
  observed := true

end Script

end DocumentLink
