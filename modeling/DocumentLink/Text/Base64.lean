import DocumentLink.Text.Hex

/-!
# Base64

Bytes written with the 64 characters of the standard alphabet, in groups of four
for three bytes, the last group padded to four.

Reading accepts exactly what writing produces. The padding is required, a
character outside the alphabet is refused, and so is a last character with bits
that stand for no byte, since otherwise two texts would mean the same bytes. A
refusal names the first thing wrong in a fixed order: the text before the last
group from left to right, then the last group from left to right, then its
length, its padding and its spare bits.

Offsets count bytes of the text.

## Main definitions

* `Base64.encode`: Bytes to text.
* `Base64.Fault`: Why a text is refused.
* `Base64.decode`: Text to bytes, or the fault.
-/

namespace DocumentLink

namespace Base64

/-- The character for six bits. -/
def symbol (n : Nat) : Char :=
  if n < 26 then Char.ofNat ('A'.toNat + n)
  else if n < 52 then Char.ofNat ('a'.toNat + (n - 26))
  else if n < 62 then Char.ofNat ('0'.toNat + (n - 52))
  else if n = 62 then '+'
  else '/'

/-- The six bits a byte of text stands for, if it is in the alphabet. -/
def sextet? (b : UInt8) : Option Nat :=
  let n := b.toNat
  if 'A'.toNat ≤ n && n ≤ 'Z'.toNat then some (n - 'A'.toNat)
  else if 'a'.toNat ≤ n && n ≤ 'z'.toNat then some (n - 'a'.toNat + 26)
  else if '0'.toNat ≤ n && n ≤ '9'.toNat then some (n - '0'.toNat + 52)
  else if n = '+'.toNat then some 62
  else if n = '/'.toNat then some 63
  else none

/-- The characters for bytes, the last group padded. -/
def encodeChars : Bytes → List Char
  | a :: b :: c :: rest =>
    symbol (a.toNat / 4) :: symbol (a.toNat % 4 * 16 + b.toNat / 16) ::
      symbol (b.toNat % 16 * 4 + c.toNat / 64) :: symbol (c.toNat % 64) :: encodeChars rest
  | [a, b] =>
    [symbol (a.toNat / 4), symbol (a.toNat % 4 * 16 + b.toNat / 16), symbol (b.toNat % 16 * 4), '=']
  | [a] => [symbol (a.toNat / 4), symbol (a.toNat % 4 * 16), '=', '=']
  | [] => []

/-- Bytes to text. -/
def encode (bytes : Bytes) : String :=
  String.ofList (encodeChars bytes)

/-- Why a text is refused. -/
inductive Fault where
  /-- A byte that may not stand where it does. -/
  | symbol (byte : UInt8) (offset : Nat)
  /-- Too few characters in the last group; the length of the text without padding. -/
  | length (n : Nat)
  /-- A last group that is not padded to four. -/
  | padding
  /-- A last character with bits that stand for nothing. -/
  | spareBits (byte : UInt8) (offset : Nat)
  deriving DecidableEq, Repr

/-- The wording of a refusal. -/
def Fault.message : Fault → String
  | .symbol byte offset => s!"Invalid symbol {byte.toNat}, offset {offset}."
  | .length n => s!"Invalid input length: {n}"
  | .padding => "Invalid padding"
  | .spareBits byte offset => s!"Invalid last symbol {byte.toNat}, offset {offset}."

/-- The padding character, as a byte. -/
def pad : UInt8 := 61

/-- The bits of characters that must all be in the alphabet. -/
def sextets (offset : Nat) : Bytes → Except Fault (List Nat)
  | [] => .ok []
  | b :: rest =>
    match sextet? b with
    | none => .error (.symbol b offset)
    | some n => (sextets (offset + 1) rest).map (n :: ·)

/-- The length of the last group of a text. -/
def tailLength (length : Nat) : Nat :=
  if length = 0 then 0 else (length - 1) % 4 + 1

/-- What a last group holds. -/
structure Tail where
  /-- The bits of its characters. -/
  bits : List Nat
  /-- The number of padding characters after them. -/
  pads : Nat

/-- Read a last group that starts at an offset. Padding may begin at the third
    place and nothing else may follow it. -/
def readTail (offset : Nat) : Nat → Bytes → Except Fault Tail
  | _, [] => .ok ⟨[], 0⟩
  | place, b :: rest =>
    if b = pad then
      if place < 2 then .error (.symbol pad (offset + place))
      else if rest.all (· = pad) then .ok ⟨[], rest.length + 1⟩
      else .error (.symbol pad (offset + place))
    else
      match sextet? b with
      | none => .error (.symbol b (offset + place))
      | some n => (readTail offset (place + 1) rest).map fun tail => ⟨n :: tail.bits, tail.pads⟩

/-- The bytes of whole groups of characters, and of a shorter one at the end. -/
def bytesOfSextets : List Nat → Bytes
  | a :: b :: c :: d :: rest =>
    UInt8.ofNat (a * 4 + b / 16) :: UInt8.ofNat (b % 16 * 16 + c / 4) ::
      UInt8.ofNat (c % 4 * 64 + d) :: bytesOfSextets rest
  | [a, b, c] => [UInt8.ofNat (a * 4 + b / 16), UInt8.ofNat (b % 16 * 16 + c / 4)]
  | [a, b] => [UInt8.ofNat (a * 4 + b / 16)]
  | _ => []

/-- The bits of the last character that stand for no byte. -/
def spareBits : List Nat → Nat
  | [_, b] => b % 16
  | [_, _, c] => c % 4
  | _ => 0

/-- A text one character too long whose last byte could never stand there is
    refused for that byte, before anything else is looked at. -/
def strayEnd? (text : Bytes) : Option Fault :=
  match text.getLast? with
  | some b =>
    if text.length % 4 = 1 && b ≠ pad && (sextet? b).isNone then
      some (.symbol b (text.length - 1))
    else none
  | none => none

/-- The bytes that the bytes of a text stand for. -/
def decodeBytes (text : Bytes) : Except Fault Bytes := do
  if let some fault := strayEnd? text then throw fault
  let headLength := text.length - tailLength text.length
  let head ← sextets 0 (text.take headLength)
  let tail ← readTail headLength 0 (text.drop headLength)
  let symbols := tail.bits.length
  if !text.isEmpty && symbols < 2 then throw (.length (headLength + symbols))
  if (symbols + tail.pads) % 4 ≠ 0 then throw .padding
  if spareBits tail.bits ≠ 0 then
    throw (.spareBits ((text[headLength + symbols - 1]?).getD 0) (headLength + symbols - 1))
  return bytesOfSextets (head ++ tail.bits)

/-- Text to bytes, or the fault. -/
def decode (text : String) : Except Fault Bytes :=
  decodeBytes (.ofText text)

end Base64

end DocumentLink
