import DocumentLink.Mechanism
import DocumentLink.Text.Quoted

/-!
# Credentials

Who a client claims to be. A credential names the database that knows the user,
may fix the mechanism, and carries the password for mechanisms that need one.

Both written forms leave the password out: `text` never looks at it and
`inspected` shows only whether there is one.

## Main definitions

* `Credential`: A user, where it is known and how it is proved.
* `Credential.certificate`: The credential of a client certificate.
* `Credential.withProperty`: Set a property of the mechanism.
* `Credential.text`: The short form used in messages.
* `Credential.inspected`: The long form with all fields.
-/

namespace DocumentLink

/-- A user, where it is known and how it is proved. Without a mechanism the
    server is asked which ones the user has. -/
structure Credential where
  mechanism : Option Mechanism
  userName : Option String
  source : String
  password : Option String
  /-- Properties of the mechanism, in the order of their keys. -/
  properties : List (String × String)
  deriving DecidableEq, Repr

namespace Credential

/-- The source of users that live outside of any database. -/
def externalSource : String := "$external"

/-- A credential whose mechanism is to be negotiated. -/
def make (source : String) (userName password : Option String) : Credential :=
  ⟨none, userName, source, password, []⟩

/-- The credential with a fixed mechanism. -/
def withMechanism (c : Credential) (mechanism : Mechanism) : Credential :=
  { c with mechanism := some mechanism }

/-- The credential of a client certificate. The user may be left to the server,
    which can read it off the certificate. -/
def certificate (userName : Option String) : Credential :=
  (make externalSource userName none).withMechanism .certificate

/-- Put a property among others in the order of their keys, in the place of one
    with the same key. -/
def putProperty (key value : String) : List (String × String) → List (String × String)
  | [] => [(key, value)]
  | (k, v) :: rest =>
    if k = key then (key, value) :: rest
    else if key < k then (key, value) :: (k, v) :: rest
    else (k, v) :: putProperty key value rest

/-- Set a property of the mechanism. -/
def withProperty (c : Credential) (key value : String) : Credential :=
  { c with properties := putProperty key value c.properties }

/-- A property of the mechanism. -/
def property? (c : Credential) (key : String) : Option String :=
  c.properties.lookup key

/-- The short form used in messages. -/
def text (c : Credential) : String :=
  let mechanism := (c.mechanism.map Mechanism.name).getD "negotiated"
  "Credential\x7bmechanism=" ++ mechanism ++ ", userName='" ++ c.userName.getD "" ++
    "', source='" ++ c.source ++ "'\x7d"

/-- A value that may be missing, as the long form shows it. -/
def inspectedOption (shown : Option String) : String :=
  match shown with
  | some s => "Some(" ++ s ++ ")"
  | none => "None"

/-- Properties, as the long form shows them. -/
def inspectedProperties (properties : List (String × String)) : String :=
  let pairs := properties.map fun (key, value) => Text.quoted key ++ ": " ++ Text.quoted value
  "\x7b" ++ ", ".intercalate pairs ++ "\x7d"

/-- The long form with all fields. Of the password it shows only whether there
    is one. -/
def inspected (c : Credential) : String :=
  "Credential \x7b mechanism: " ++ inspectedOption (c.mechanism.map Mechanism.label) ++
    ", user_name: " ++ inspectedOption (c.userName.map Text.quoted) ++
    ", source: " ++ Text.quoted c.source ++
    ", password: " ++ inspectedOption (c.password.map fun _ => Text.quoted "<hidden>") ++
    ", mechanism_properties: " ++ inspectedProperties c.properties ++ " \x7d"

end Credential

end DocumentLink
