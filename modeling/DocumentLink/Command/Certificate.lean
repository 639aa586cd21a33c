import DocumentLink.Json.Value
import DocumentLink.Mechanism

/-!
# Certificate Command

The one command of an authentication by client certificate. The certificate
itself has been shown by the transport.

## Main definitions

* `Command.certificate`: The command, with the user if one is claimed.
-/

namespace DocumentLink

/-- The command that authenticates by client certificate. -/
def Command.certificate (userName : Option String) : Document :=
  Document.command "authenticate"
    |>.insert "mechanism" (.string Mechanism.certificate.name)
    |>.insertSome "user" (userName.map .string)

end DocumentLink
