import DocumentLink.Error
import DocumentLink.Json.Printer

/-!
# Client Metadata

The document by which a client introduces itself: the application, the driver
with whatever is built on top of it, and the machine.

A server takes no more than 512 bytes of it, counted on the compact text. A
document that is too large loses its platform, then all of the machine but its
type. What names the application and the driver is never cut, so there may be no
document that fits. An application name over 128 bytes is refused outright.

## Main definitions

* `DriverInformation`: Names, versions and platforms of libraries on top.
* `Machine`: What a client runs on.
* `ClientMetadata.full`: The document with everything.
* `ClientMetadata.reductions`: The documents to try, largest first.
* `ClientMetadata.document`: The first that fits, or the refusal.
-/

namespace DocumentLink

/-- What libraries on top of the driver add to its name, version and platform. -/
structure DriverInformation where
  names : List String := []
  versions : List String := []
  platforms : List String := []
  deriving DecidableEq, Repr

/-- What a client runs on, as it is told at its making: the operating system and the
    architecture. -/
structure Machine where
  system : String := "linux"
  architecture : String := "x86_64"
  deriving DecidableEq, Repr

/-- The type of a machine, which is that of its operating system. -/
def Machine.type (machine : Machine) : String :=
  match machine.system with
  | "linux" => "Linux"
  | "macos" => "Darwin"
  | "windows" => "Windows"
  | _ => "Unknown"

namespace ClientMetadata

/-- The name of the driver. -/
def driverName : String := "docdb-rust"

/-- The version of the driver. -/
def driverVersion : String := "0.1.0"

/-- What the driver runs on, apart from the machine. -/
def platform : String := "Rust"

/-- The bytes an application name may have. -/
def nameLimit : Nat := 128

/-- The bytes a document may have. -/
def sizeLimit : Nat := 512

/-- A text with others appended to it. -/
def joined (base : String) (extra : List String) : Json.Value :=
  .string ("|".intercalate (base :: extra))

/-- A document with texts only, as a value. -/
def texts (fields : List (String × String)) : Json.Value :=
  .object (fields.map fun (key, text) => (key, .string text))

/-- The machine, all of it. -/
def wholeMachine (machine : Machine) : Json.Value :=
  texts [("type", machine.type), ("name", machine.system), ("architecture", machine.architecture)]

/-- The machine, its type only. -/
def machineType (machine : Machine) : Json.Value :=
  texts [("type", machine.type)]

/-- The document with everything. -/
def full (application : Option String) (driver : DriverInformation) (machine : Machine) :
    Document :=
  Document.empty
    |>.insertSome "application" (application.map fun name => texts [("name", name)])
    |>.insert "driver" (.object
      [("name", joined driverName driver.names), ("version", joined driverVersion driver.versions)])
    |>.insert "os" (wholeMachine machine)
    |>.insert "platform" (joined platform driver.platforms)

/-- The documents to try: everything, no platform, and of the machine only the
    type. -/
def reductions (application : Option String) (driver : DriverInformation) (machine : Machine) :
    List Document :=
  let everything := full application driver machine
  let noPlatform := everything.remove "platform"
  [everything, noPlatform, noPlatform.insert "os" (machineType machine)]

/-- The error for an application name that is too long. -/
def nameTooLong (name : String) : Error :=
  .configuration s!"Application name exceeds {nameLimit} bytes: {name}"

/-- The first document that fits, or none; an application name that is too long
    is refused. -/
def document (application : Option String) (driver : DriverInformation)
    (machine : Machine := {}) : Except Error (Option Document) :=
  match application.filter fun name => nameLimit < name.utf8ByteSize with
  | some name => .error (nameTooLong name)
  | none => .ok ((reductions application driver machine).find? fun d => d.size ≤ sizeLimit)

end ClientMetadata

end DocumentLink
