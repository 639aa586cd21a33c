import DocumentLink.Command.Handshake

/-!
# Secrecy of Commands

Which commands may carry secrets. Listeners see neither these commands nor the
replies to them, only that there were some.

The verdict looks at the name of the command. For a handshake it looks further:
a handshake is harmless unless a step of an authentication rides on it.

## Main definitions

* `Command.sensitiveNames`: The names of commands that may carry secrets.
* `Command.isSensitive`: Whether a command may carry secrets.
* `Command.redact`: What a listener sees in place of a document.
-/

namespace DocumentLink

namespace Command

/-- The names of commands that may carry secrets. -/
def sensitiveNames : List String :=
  ["authenticate", "saslStart", "saslContinue", "getnonce", "createUser", "updateUser",
    "copydbgetnonce", "copydbsaslstart", "copydb"]

/-- Whether a command may carry secrets. -/
def isSensitive (command : Document) : Bool :=
  match command.name? with
  | none => false
  | some name =>
    if Handshake.isName name then command.contains Handshake.speculativeKey
    else sensitiveNames.any fun sensitive =>
      Handshake.foldCase sensitive = Handshake.foldCase name

/-- What a listener sees in place of a document. -/
def redact (document : Document) (sensitive : Bool) : Document :=
  if sensitive then .empty else document

end Command

end DocumentLink
