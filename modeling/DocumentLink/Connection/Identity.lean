import DocumentLink.Address

/-!
# Identities

What tells clusters, servers and connections apart.

A cluster is given a number of 128 bits, drawn anew for every cluster, so that
what one client reports is never taken for another's. A server is an address
within a cluster. A connection is a server with a number the client counts up;
the server may have a number of its own for the connection, which is learned
only later. The client counts with 64 bits and a sign; here the number has no
bound, so what is said of it is said of the first `2 ^ 63 - 1` connections.

## Main definitions

* `ClusterId`: A cluster, with the text it goes by among people.
* `ClusterId.draw`: The identity made from a number.
* `ServerId`: A server within a cluster.
* `ConnectionId`: A connection, by the numbers of both sides.
* `ConnectionId.text`: The written form.
-/

namespace DocumentLink

/-- A cluster. -/
structure ClusterId where
  value : String
  description : Option String
  deriving DecidableEq, Repr

namespace ClusterId

/-- The digits of base sixteen of a number, the lowest last. -/
def digits : Nat → Nat → List Char
  | 0, _ => []
  | count + 1, n => digits count (n / 16) ++ [Nat.digitChar (n % 16)]

/-- The digits in the value of a cluster. -/
def digitCount : Nat := 32

/-- The identity made from a number drawn at random. -/
def draw (number : Nat) (description : Option String) : ClusterId :=
  ⟨String.ofList (digits digitCount number), description⟩

/-- Whether the value has the right number of digits, in lower case. -/
def wellFormed (id : ClusterId) : Bool :=
  id.value.length = digitCount &&
    id.value.toList.all fun c => c.isDigit || ('a' ≤ c && c ≤ 'f')

/-- The written form, given how the value is written. -/
def textWith (id : ClusterId) (value : String) : String :=
  match id.description with
  | some description => s!"{value} ({description})"
  | none => value

/-- The written form. -/
def text (id : ClusterId) : String :=
  id.textWith id.value

end ClusterId

/-- A server within a cluster. -/
structure ServerId where
  cluster : ClusterId
  address : Address
  deriving DecidableEq, Repr

/-- A connection. The client gives the local value when it makes the connection;
    the server value is learned later, if the server has one. -/
structure ConnectionId where
  server : ServerId
  localValue : Nat
  serverValue : Option Int := none
  deriving DecidableEq, Repr

namespace ConnectionId

/-- The identity with the server value filled in. -/
def withServerValue (id : ConnectionId) (serverValue : Int) : ConnectionId :=
  { id with serverValue := some serverValue }

/-- The written form. -/
def text (id : ConnectionId) : String :=
  let base := s!"connection {id.localValue} to {id.server.address.text}"
  match id.serverValue with
  | some n => s!"{base} (server id {n})"
  | none => base

end ConnectionId

end DocumentLink
