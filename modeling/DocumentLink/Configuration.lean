import DocumentLink.Compressor
import DocumentLink.Error

/-!
# Configured Names

Names that come from outside, such as a connection string, and the errors for
those that stand for nothing.

## Main definitions

* `Address.read`: The address a text stands for.
* `Mechanism.read`: The mechanism with a name.
* `Compressor.read`: The compressor with a name.
-/

namespace DocumentLink

/-- The error for a text that stands for no address. -/
def Address.invalid (text : String) : Error :=
  .configuration s!"Invalid server address: {text}"

/-- The address a text stands for. -/
def Address.read (text : String) : Except Error Address :=
  (Address.parse? text).elim (.error (Address.invalid text)) .ok

/-- The error for a name of no mechanism. -/
def Mechanism.unsupported (name : String) : Error :=
  .configuration s!"Unsupported authentication mechanism: {name}"

/-- The mechanism with a name. -/
def Mechanism.read (name : String) : Except Error Mechanism :=
  (Mechanism.ofName? name).elim (.error (Mechanism.unsupported name)) .ok

/-- The error for a name of no compressor. -/
def Compressor.unsupported (name : String) : Error :=
  .configuration s!"Unsupported compressor: {name}"

/-- The compressor with a name. -/
def Compressor.read (name : String) : Except Error Compressor :=
  (Compressor.ofName? name).elim (.error (Compressor.unsupported name)) .ok

end DocumentLink
