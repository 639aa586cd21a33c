import DocumentLink.Address
import DocumentLink.Credential
import DocumentLink.Text.Base64

/-!
# Errors

What can go wrong between a client and a server.

An error belongs to one of six kinds, and callers decide by the kind: a failure
of the transport may be tried again, a refusal by the server may not. A failed
authentication keeps the credential and the failure behind it, which may be
another failed authentication, so errors form chains.

A stream that breaks says so in one of four ways. It may give the kind of failure
and nothing else; it may give the number that the system has for the failure, with
the system's text for that; it may give a text which is part of the program; or it
may carry an error of somebody else, with whatever is behind that. A copy of the
failure keeps the kind and the text of an error that is carried, and has an empty
text in place of any other. Listeners and the resolution error of a cluster hand out
copies.

## Main definitions

* `Error`: The failures, with what each carries.
* `StreamReport`: How the failure of a stream is described.
* `Refusal`: A credential that was refused, with the text for it.
* `Error.Level`, `Error.Link`: What is seen of one error in a chain.
* `Error.kind`: The kind callers decide by.
* `Error.code?`: The code of a refusal by the server.
* `Error.message`: The text shown.
* `Error.cause?`: The text of the failure behind it.
* `Error.links`: The chain of an error, as it is seen.
* `Error.copy`: A copy to hand out.
* `Error.authenticating`: How a failure becomes a failed authentication.
-/

namespace DocumentLink

/-- What broke in a stream. -/
inductive StreamFailure where
  | notFound
  | permissionDenied
  | connectionRefused
  | connectionReset
  | hostUnreachable
  | networkUnreachable
  | connectionAborted
  | notConnected
  | addressInUse
  | addressNotAvailable
  | networkDown
  | brokenPipe
  | alreadyExists
  | wouldBlock
  | notADirectory
  | isADirectory
  | directoryNotEmpty
  | readOnlyFilesystem
  | filesystemLoop
  | staleNetworkFileHandle
  | invalidInput
  | invalidData
  | timedOut
  | writeZero
  | storageFull
  | notSeekable
  | quotaExceeded
  | fileTooLarge
  | resourceBusy
  | executableFileBusy
  | deadlock
  | crossesDevices
  | tooManyLinks
  | invalidFilename
  | argumentListTooLong
  | interrupted
  | unsupported
  | unexpectedEnd
  | outOfMemory
  | inProgress
  | other
  | uncategorized
  deriving DecidableEq, Repr

/-- The text of a stream failure that has none of its own. -/
def StreamFailure.text : StreamFailure → String
  | notFound => "entity not found"
  | permissionDenied => "permission denied"
  | connectionRefused => "connection refused"
  | connectionReset => "connection reset"
  | hostUnreachable => "host unreachable"
  | networkUnreachable => "network unreachable"
  | connectionAborted => "connection aborted"
  | notConnected => "not connected"
  | addressInUse => "address in use"
  | addressNotAvailable => "address not available"
  | networkDown => "network down"
  | brokenPipe => "broken pipe"
  | alreadyExists => "entity already exists"
  | wouldBlock => "operation would block"
  | notADirectory => "not a directory"
  | isADirectory => "is a directory"
  | directoryNotEmpty => "directory not empty"
  | readOnlyFilesystem => "read-only filesystem or storage medium"
  | filesystemLoop => "filesystem loop or indirection limit (e.g. symlink loop)"
  | staleNetworkFileHandle => "stale network file handle"
  | invalidInput => "invalid input parameter"
  | invalidData => "invalid data"
  | timedOut => "timed out"
  | writeZero => "write zero"
  | storageFull => "no storage space"
  | notSeekable => "seek on unseekable file"
  | quotaExceeded => "quota exceeded"
  | fileTooLarge => "file too large"
  | resourceBusy => "resource busy"
  | executableFileBusy => "executable file busy"
  | deadlock => "deadlock"
  | crossesDevices => "cross-device link or rename"
  | tooManyLinks => "too many links"
  | invalidFilename => "invalid filename"
  | argumentListTooLong => "argument list too long"
  | interrupted => "operation interrupted"
  | unsupported => "unsupported"
  | unexpectedEnd => "unexpected end of file"
  | outOfMemory => "out of memory"
  | inProgress => "in progress"
  | other => "other error"
  | uncategorized => "uncategorized error"

/-- The kinds callers decide by. -/
inductive ErrorKind where
  | transport
  | protocol
  | server
  | authentication
  | configuration
  | general
  deriving DecidableEq, Repr

/-- What is seen of one error in a chain. One that is not of this library has only a
    text. -/
structure Error.Level where
  kind : Option ErrorKind
  code : Option Int
  text : String
  deriving DecidableEq, Repr

/-- What is seen of it by those who take it apart: also the credential of a failed
    authentication, and what broke for the error of a stream. -/
structure Error.Link where
  level : Error.Level
  credential : Option Credential := none
  failure : Option StreamFailure := none
  deriving DecidableEq, Repr

/-- How the failure of a stream is described. -/
inductive StreamReport where
  /-- By its kind and nothing else. -/
  | bare
  /-- By the number that the system has for it, with the system's text. -/
  | system (number : Int) (text : String)
  /-- By a text that is part of the program. -/
  | fixed (text : String)
  /-- By an error of somebody else: its text, and what is seen behind it. -/
  | carried (text : String) (behind : List Error.Link)
  deriving DecidableEq, Repr

namespace StreamReport

/-- A report that is a text, or nothing. -/
def ofText : Option String → StreamReport
  | none => bare
  | some text => carried text []

/-- The text shown for a failure. -/
def text (report : StreamReport) (failure : StreamFailure) : String :=
  match report with
  | bare => failure.text
  | system number text => s!"{text} (os error {number})"
  | fixed text | carried text _ => text

/-- The text of the error that is carried, if there is one. -/
def carried? : StreamReport → Option String
  | carried text _ => some text
  | bare | system .. | fixed _ => none

/-- What is seen behind the error of the stream. -/
def behind : StreamReport → List Error.Link
  | carried _ behind => behind
  | bare | system .. | fixed _ => []

/-- The report in a copy: the text of the error that is carried, and else an empty one. -/
def copy (report : StreamReport) : StreamReport :=
  carried (report.carried?.getD "") []

end StreamReport

/-- A credential that was refused or could not be used, with the text for it. -/
structure Refusal extends Credential where
  message : String
  deriving DecidableEq, Repr

/-- The refusal of a credential, with the text that this library has for it. -/
def Credential.refusal (c : Credential) : Refusal :=
  { c with message := "Exception authenticating " ++ c.text }

instance : Coe Credential Refusal :=
  ⟨Credential.refusal⟩

/-- The failures, with what each carries. -/
inductive Error where
  /-- A stream broke. -/
  | broken (failure : StreamFailure) (report : StreamReport)
  /-- Nothing came in time. -/
  | timeout (text : String)
  /-- A reply cannot be understood. -/
  | protocol (text : String)
  /-- A binary payload is not well written. -/
  | base64 (fault : Base64.Fault)
  /-- The server refused a command. -/
  | command (code : Int) (codeName message : String) (address : Address)
  /-- The credential was refused or could not be used. -/
  | authentication (refusal : Refusal) (source : Error)
  /-- The client is set up in a way that is not supported. -/
  | configuration (text : String)
  /-- Anything else. -/
  | general (text : String)
  deriving DecidableEq, Repr

/-- The name of a kind. -/
def ErrorKind.name : ErrorKind → String
  | transport => "Transport"
  | protocol => "Protocol"
  | server => "Server"
  | authentication => "Authentication"
  | configuration => "Configuration"
  | general => "General"

namespace Error

/-- A stream broke, with a text for it or without. -/
def stream (failure : StreamFailure) (text : Option String) : Error :=
  broken failure (.ofText text)

/-- The kind callers decide by. -/
def kind : Error → ErrorKind
  | broken .. | timeout .. => .transport
  | protocol .. | base64 .. => .protocol
  | command .. => .server
  | authentication .. => .authentication
  | configuration .. => .configuration
  | general .. => .general

/-- Whether the transport failed. -/
def isTransport (e : Error) : Bool :=
  e.kind = .transport

/-- The code of a refusal by the server. -/
def code? : Error → Option Int
  | command code .. => some code
  | _ => none

/-- The text shown. -/
def message : Error → String
  | broken failure report => "IO error: " ++ report.text failure
  | timeout text => "Timeout: " ++ text
  | protocol text => "Protocol error: " ++ text
  | base64 fault => "Base64 decode error: " ++ fault.message
  | command code codeName message address =>
    s!"Command failed on {address.text} with error {code} ({codeName}): {message}"
  | authentication refusal _ => refusal.message
  | configuration text => "Configuration error: " ++ text
  | general text => "General error: " ++ text

/-- The text of the failure behind the error, if there is one. -/
def cause? : Error → Option String
  | broken failure report => some (report.text failure)
  | base64 fault => some fault.message
  | authentication _ source => some source.message
  | _ => none

/-- What is seen of the error by itself. -/
def level (e : Error) : Level :=
  ⟨some e.kind, e.code?, e.message⟩

/-- The chain of an error, as it is seen from itself to the last failure behind it. The
    error of a stream and that of a decoder are not of this library. -/
def links : Error → List Link
  | authentication refusal source =>
    { level := (authentication refusal source).level
      credential := some refusal.toCredential } :: source.links
  | broken failure report =>
    { level := (broken failure report).level } ::
      { level := ⟨none, none, report.text failure⟩, failure := some failure } :: report.behind
  | base64 fault => [{ level := (base64 fault).level }, { level := ⟨none, none, fault.message⟩ }]
  | e => [{ level := e.level }]

/-- A copy to hand out. Everything is kept but for the report of a broken stream. -/
def copy : Error → Error
  | broken failure report => broken failure report.copy
  | authentication refusal source => authentication refusal source.copy
  | e => e

/-- The failure of an authentication with the credential. A failure of the
    transport stays as it is, so that it can be told apart, and so does one that
    is a failed authentication already. -/
def authenticating (credential : Credential) (e : Error) : Error :=
  match e.kind with
  | .transport | .authentication => e
  | _ => authentication credential e

/-- The code a server gives when the user of a handshake does not exist. -/
def userNotFound : Int := 11

end Error

end DocumentLink
