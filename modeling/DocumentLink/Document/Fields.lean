import DocumentLink.Error
import DocumentLink.Json.Printer

/-!
# Reading Fields

What a field of a document says, for readers that want a value of one kind.

Servers are free in how they write a number, so numbers are read by their value:
`1`, `1.0` and, as a flag, `true` say the same. A 64-bit reading always finds
something in a number and cuts it off where it must. A 32-bit reading finds a
number only if it is exactly one of that range, since an error code that was
merely rounded would be another code.

Binary data is carried as text in base64.

## Main definitions

* `Document.integer?`: A number as 64 bits, truncated and clamped.
* `Document.int32?`: A number that is exactly one of 32 bits.
* `Document.flag`: A flag, numbers counting as true unless they are zero.
* `Document.string?`, `Document.strings`: Texts.
* `Document.document?`: A document inside.
* `Document.bytes`: Binary data, none if the field is missing.
* `Document.checked`: A reply, or the refusal it reports.
-/

namespace DocumentLink

namespace Json

namespace Number

/-- The signed words of 32 bits end before this number, and begin at its negative. -/
def narrowLimit : Int := 0x80000000

/-- The range of a 64-bit integer, kept by taking the nearer end. -/
def clamp64 (n : Int) : Int :=
  max (-signedLimit) (min n (signedLimit - 1))

/-- The number as a 64-bit integer, if it is a whole number of that range. -/
def integer64? : Number → Option Int
  | whole n _ => if n < signedLimit then some n else none
  | fraction _ => none

/-- The number as a 64-bit integer: toward zero, and into the range. -/
def toInteger64 (n : Number) : Int :=
  n.integer64?.getD (clamp64 n.toBinary64.truncate)

/-- The number as a 32-bit integer, if it is exactly one. -/
def toInteger32? (n : Number) : Option Int :=
  let whole? := match n.integer64? with
    | some i => some i
    | none => if n.toBinary64.isWhole then some (clamp64 n.toBinary64.truncate) else none
  whole?.filter fun i => -narrowLimit ≤ i && i < narrowLimit

/-- Whether the number counts as true. -/
def toFlag (n : Number) : Bool :=
  !n.toBinary64.isZero

end Number

end Json

namespace Document

/-- The number of a field. -/
def number? (d : Document) (key : String) : Option Json.Number :=
  match d.get? key with
  | some (.number n) => some n
  | _ => none

/-- A number as 64 bits. -/
def integer? (d : Document) (key : String) : Option Int :=
  (d.number? key).map Json.Number.toInteger64

/-- A number that is exactly one of 32 bits. -/
def int32? (d : Document) (key : String) : Option Int :=
  (d.number? key).bind Json.Number.toInteger32?

/-- A flag. Whatever is neither a truth value nor a number counts as false. -/
def flag (d : Document) (key : String) : Bool :=
  match d.get? key with
  | some (.bool b) => b
  | some (.number n) => n.toFlag
  | _ => false

/-- A text. -/
def string? (d : Document) (key : String) : Option String :=
  (d.get? key).bind Json.Value.text?

/-- A document inside. -/
def document? (d : Document) (key : String) : Option Document :=
  (d.get? key).bind Json.Value.document?

/-- The texts of an array, whatever else is in it left out. -/
def strings (d : Document) (key : String) : List String :=
  match d.get? key with
  | some (.array items) => items.filterMap Json.Value.text?
  | _ => []

/-- The error for a value where binary data was expected. -/
def notBinary (key : String) (value : Json.Value) : Error :=
  .protocol s!"Expected binary data in '{key}', got: {value.text}"

/-- Binary data. A field that is missing or null holds none. -/
def bytes (d : Document) (key : String) : Except Error Bytes :=
  match d.get? key with
  | none | some .null => .ok []
  | some (.string s) => (Base64.decode s).mapError .base64
  | some value => .error (notBinary key value)

/-- Whether a reply reports success. -/
def isOk (reply : Document) : Bool :=
  reply.flag "ok"

/-- The error that a reply without success reports. -/
def refusal (reply : Document) (address : Address) : Error :=
  .command ((reply.int32? "code").getD (-1)) ((reply.string? "codeName").getD "")
    ((reply.string? "errmsg").getD "") address

/-- A reply, or the refusal it reports. -/
def checked (reply : Document) (address : Address) : Except Error Document :=
  if reply.isOk then .ok reply else .error (reply.refusal address)

end Document

/-- Binary data, as a value. -/
def Json.Value.ofBytes (bytes : Bytes) : Value :=
  .string (Base64.encode bytes)

end DocumentLink
