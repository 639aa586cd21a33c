import DocumentLink.Error

/-!
# Provers

The client's side of an authentication mechanism.

A prover is asked three things: what to send first, what to answer to a
challenge, and whether it accepts the data that came with success. It may keep a
state of its own between these, and all that state can depend on is what it has
been asked. So an answer is given as a function of the challenges so far, and
no state has to be named.

A provider makes provers. It may know some mechanisms only, and it may make a
different prover each time; what it makes is a function of how many it has made
before.

## Main definitions

* `Prover`: What one run of a mechanism does on the client's side.
* `Prover.Running`: A prover in use, with the challenges it has been given.
* `Provider`: What makes provers.
* `Provider.plain`: The provider that knows the plain mechanism only.
-/

namespace DocumentLink

/-- What one run of a mechanism does on the client's side. -/
structure Prover where
  /-- The mechanism it says it runs. -/
  mechanism : Mechanism
  /-- What to send first. -/
  initial : Except Error Bytes
  /-- What to answer to the last of the challenges so far. -/
  answer : List Bytes → Except Error Bytes
  /-- Whether to accept the data that came with success, given the challenges. -/
  accept : List Bytes → Bytes → Except Error Unit

/-- A prover in use. -/
structure Prover.Running where
  /-- Which of the provers of its provider this is. -/
  number : Nat
  prover : Prover
  /-- The challenges it has been given, the last one last. -/
  challenges : List Bytes := []

/-- The prover with one more challenge. -/
def Prover.Running.challenged (running : Prover.Running) (challenge : Bytes) : Prover.Running :=
  { running with challenges := running.challenges ++ [challenge] }

/-- What makes provers. -/
structure Provider where
  /-- The prover for a mechanism and a credential, if the mechanism is known;
      the number says how many provers have been made before. -/
  create : Nat → Mechanism → Credential → Option Prover
  /-- Whether what its provers are asked is noted in the journal. -/
  observed : Bool := false

/-- The error for a challenge where there should be none. -/
def Prover.unexpectedChallenge : Error :=
  .general "Server challenge is not supported for PlainAuthenticator!"

/-- The plain mechanism: the user and the password in one message, each after a
    zero byte. -/
def Prover.plain (user password : String) : Prover where
  mechanism := .plain
  initial := .ok (0 :: Bytes.ofText user ++ 0 :: Bytes.ofText password)
  answer _ := .error unexpectedChallenge
  accept _ _ := .ok ()

/-- The plain mechanism for a credential. -/
def Prover.plainOf (credential : Credential) : Prover :=
  .plain (credential.userName.getD "") (credential.password.getD "")

/-- The provider that knows the plain mechanism only. -/
def Provider.plain : Provider where
  create _ mechanism credential :=
    if mechanism = .plain then some (.plainOf credential) else none

end DocumentLink
