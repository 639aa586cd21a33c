/-!
# Bytes and Base Sixteen

Bytes, the bytes of a text, and bytes written as two digits each.

## Main definitions

* `Bytes`: Bytes in order.
* `Bytes.ofText`: The bytes of a text.
* `Bytes.hex`: Two digits for each byte, in lower case.
* `Bytes.ofHex?`: The bytes that digits stand for.
-/

namespace DocumentLink

/-- Bytes in order. -/
abbrev Bytes := List UInt8

namespace Bytes

/-- The bytes of a text. -/
def ofText (s : String) : Bytes :=
  s.toUTF8.toList

/-- The two digits of a byte. -/
def hexOfByte (b : UInt8) : List Char :=
  [Nat.digitChar (b.toNat / 16), Nat.digitChar (b.toNat % 16)]

/-- Two digits for each byte, in lower case. -/
def hex (bytes : Bytes) : String :=
  String.ofList (bytes.flatMap hexOfByte)

/-- The value of a digit in either case. -/
def digit? (c : Char) : Option Nat :=
  if c.isDigit then some (c.toNat - '0'.toNat)
  else if 'a' ≤ c && c ≤ 'f' then some (c.toNat - 'a'.toNat + 10)
  else if 'A' ≤ c && c ≤ 'F' then some (c.toNat - 'A'.toNat + 10)
  else none

/-- The bytes that digits stand for, two for each. -/
def ofHexDigits? : List Char → Option Bytes
  | [] => some []
  | high :: low :: rest => do
    let high ← digit? high
    let low ← digit? low
    let rest ← ofHexDigits? rest
    return UInt8.ofNat (16 * high + low) :: rest
  | [_] => none

/-- The bytes that a text of digits stands for. -/
def ofHex? (s : String) : Option Bytes :=
  ofHexDigits? s.toList

end Bytes

end DocumentLink
