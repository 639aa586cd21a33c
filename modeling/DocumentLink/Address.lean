import DocumentLink.Text.Case

/-!
# Server Addresses

A server is known by its host and its port. The host is not resolved; it is only
put into lower case, because two spellings of one name have to be one server.

An address is written as `host:port`. A host with colons of its own, as an IPv6
address has, goes into brackets, and reading follows the same rule from the
other side: a text that starts with a bracket ends its host at the first closing
one, and any other text may hold one colon at most.

The port is a decimal number of 16 bits. A plus sign in front and leading zeros
are allowed. Without a port the default one is meant.

## Main definitions

* `Address`: A host and a port.
* `Address.make`: The address with a host put into lower case.
* `Address.text`: The written form.
* `Address.parse?`: The address a text stands for.
* `Address.literal`: The same, any other text being a host.
* `Address.ordered`: Addresses sorted by host and port, each once.
-/

namespace DocumentLink

/-- A host and a port. -/
structure Address where
  host : String
  port : UInt16
  deriving DecidableEq, Repr

namespace Address

/-- The port of a server that names none. -/
def defaultPort : UInt16 := 27017

/-- The address with a host put into lower case. -/
def make (host : String) (port : UInt16) : Address :=
  ⟨Text.lowerCase host, port⟩

/-- The server meant when none is named. -/
def localhost : Address :=
  ⟨"localhost", defaultPort⟩

instance : Inhabited Address := ⟨localhost⟩

/-- The written form. -/
def text (a : Address) : String :=
  if a.host.contains ':' then s!"[{a.host}]:{a.port.toNat}" else s!"{a.host}:{a.port.toNat}"

/-- Split at the first place of a character, which is left out. -/
def splitAt? (mark : Char) : List Char → Option (List Char × List Char)
  | [] => none
  | c :: rest =>
    if c = mark then some ([], rest)
    else (splitAt? mark rest).map fun (before, after) => (c :: before, after)

/-- The number that digits stand for, if there are digits only. -/
def number? (digits : List Char) : Option Nat :=
  if digits.isEmpty || !digits.all Char.isDigit then none
  else some (digits.foldl (fun n c => 10 * n + (c.toNat - '0'.toNat)) 0)

/-- The port a text stands for. -/
def port? (cs : List Char) : Option UInt16 :=
  let digits := match cs with
    | '+' :: rest => rest
    | cs => cs
  match number? digits with
  | some n => if n < UInt16.size then some (UInt16.ofNat n) else none
  | none => none

/-- What may follow a host in brackets: nothing, or a colon and a port. -/
def portAfterBracket? : List Char → Option UInt16
  | [] => some defaultPort
  | ':' :: port => port? port
  | _ => none

/-- The host and the port that characters stand for. -/
def parseChars? : List Char → Option (List Char × UInt16)
  | [] => none
  | '[' :: rest => do
    let (host, rest) ← splitAt? ']' rest
    let port ← portAfterBracket? rest
    return (host, port)
  | cs =>
    match splitAt? ':' cs with
    | none => some (cs, defaultPort)
    | some (host, port) =>
      if host.isEmpty || port.contains ':' then none
      else (port? port).map fun port => (host, port)

/-- The address a text stands for. -/
def parse? (s : String) : Option Address :=
  (parseChars? s.toList).map fun (host, port) => make (String.ofList host) port

/-- The address a text stands for; a text that stands for none is a host. -/
def literal (s : String) : Address :=
  (parse? s).getD (make s defaultPort)

/-- The order of addresses: by host, code point by code point, and then by port. -/
def le (a b : Address) : Bool :=
  if a.host = b.host then a.port ≤ b.port else a.host < b.host

/-- Leave out each address that equals the one before it. -/
def dropRepeats : List Address → List Address
  | [] => []
  | [a] => [a]
  | a :: b :: rest => if a = b then dropRepeats (b :: rest) else a :: dropRepeats (b :: rest)

/-- Addresses in order, each once. -/
def ordered (addresses : List Address) : List Address :=
  dropRepeats (addresses.mergeSort le)

/-- Addresses in their order, each at its first place only. -/
def distinct (addresses : List Address) : List Address :=
  addresses.foldl (fun kept a => if a ∈ kept then kept else kept ++ [a]) []

end Address

end DocumentLink
