import DocumentLink.Json.Value

/-!
# Server API

A client may declare which version of the server's interface it was written for.
The declaration goes with every command, the handshake included, and only what
has been declared is sent.

## Main definitions

* `ServerApi`: A declaration.
* `ServerApi.fields`: The fields it adds to a command.
* `ServerApi.appendTo`: Put them into a command.
-/

namespace DocumentLink

/-- The versions there are. -/
inductive ServerApiVersion where
  | one
  deriving DecidableEq, Repr

/-- The text of a version. -/
def ServerApiVersion.text : ServerApiVersion → String
  | one => "1"

/-- A declaration of the interface a client uses. -/
structure ServerApi where
  version : ServerApiVersion
  strict : Option Bool := none
  deprecationErrors : Option Bool := none
  deriving DecidableEq, Repr

namespace ServerApi

/-- The fields a declaration adds to a command. -/
def fields (api : ServerApi) : List (String × Json.Value) :=
  [("apiVersion", .string api.version.text)] ++
    (api.strict.map fun b => ("apiStrict", Json.Value.bool b)).toList ++
    (api.deprecationErrors.map fun b => ("apiDeprecationErrors", Json.Value.bool b)).toList

/-- Put the fields of a declaration into a command. -/
def appendTo (api : ServerApi) (command : Document) : Document :=
  api.fields.foldl (fun d field => d.insert field.1 field.2) command

end ServerApi

end DocumentLink
