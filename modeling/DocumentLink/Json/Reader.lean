import DocumentLink.Json.Value

/-!
# Reading Text

The value a text stands for, if it stands for one.

A reader takes characters from the front and gives back what is left. A value
can hold values to any depth, so the readers call each other; each call takes at
least one character, and `depth` counts them down. Reading starts with as many
as the text has, which is always enough.

A key that comes twice keeps the place of its first field and the value of its
last, as `Document.insert` does.

## Main definitions

* `Json.readNumber`: A numeral at the front.
* `Json.readString`: What follows an opening quote, up to the closing one.
* `Json.readValue`: A value at the front.
* `Json.Value.read?`: A whole text.
-/

namespace DocumentLink

namespace Json

/-- The characters that may stand between values. -/
def isBlank (c : Char) : Bool :=
  c = ' ' || c = '\t' || c = '\n' || c = '\r'

/-- Leave out blanks at the front. -/
def skipBlanks (cs : List Char) : List Char :=
  cs.dropWhile isBlank

/-- The whole number that decimal digits stand for. -/
def natOfDigits (digits : List Char) : Nat :=
  digits.foldl (fun n c => 10 * n + (c.toNat - '0'.toNat)) 0

/-- The fraction nearest to `significand * 10 ^ exponent`, if there is one. -/
def fractionOfDecimal? (negative : Bool) (significand : Nat) (exponent : Int) :
    Option Binary64 :=
  if significand = 0 then some (.zero negative)
  else
    -- Far outside the range the powers of ten need not be computed.
    let scale := exponent + (Nat.toDigits 10 significand).length
    if scale < -400 then some (.zero negative)
    else if 400 < scale then none
    else Binary64.ofQuotient? negative (significand * power 10 exponent)
      (power 10 (-exponent))

/-- The number a numeral stands for, by its parts. -/
def numberOfParts? (negative : Bool) (whole : List Char) (places : Option (List Char))
    (exponent : Option Int) : Option Number :=
  match places, exponent with
  | none, none =>
    let n : Int := natOfDigits whole
    if negative && n = 0 then some (.fraction (.zero true))
    else
      let n := if negative then -n else n
      if h : WholeRange n then some (.whole n h)
      else (fractionOfDecimal? negative n.natAbs 0).map .fraction
  | places, exponent =>
    let places := places.getD []
    (fractionOfDecimal? negative (natOfDigits (whole ++ places))
      (exponent.getD 0 - places.length)).map .fraction

/-- The digits before the point: a single zero, or a run that starts with none. -/
def readWhole : List Char → Option (List Char × List Char)
  | '0' :: rest => if (rest.head?.map Char.isDigit).getD false then none else some (['0'], rest)
  | cs =>
    let digits := cs.takeWhile Char.isDigit
    if digits.isEmpty then none else some (digits, cs.dropWhile Char.isDigit)

/-- The digits after the point, if there is a point. -/
def readPlaces : List Char → Option (Option (List Char) × List Char)
  | '.' :: rest =>
    let digits := rest.takeWhile Char.isDigit
    if digits.isEmpty then none else some (some digits, rest.dropWhile Char.isDigit)
  | cs => some (none, cs)

/-- The exponent, if there is one. -/
def readExponent : List Char → Option (Option Int × List Char)
  | c :: rest =>
    if c = 'e' || c = 'E' then
      let (negative, rest) : Bool × List Char := match rest with
        | '+' :: rest => (false, rest)
        | '-' :: rest => (true, rest)
        | rest => (false, rest)
      let digits := rest.takeWhile Char.isDigit
      let n : Int := natOfDigits digits
      if digits.isEmpty then none
      else some (some (if negative then -n else n), rest.dropWhile Char.isDigit)
    else some (none, c :: rest)
  | [] => some (none, [])

/-- A numeral at the front. -/
def readNumber (cs : List Char) : Option (Number × List Char) := do
  let (negative, cs) : Bool × List Char := match cs with
    | '-' :: rest => (true, rest)
    | cs => (false, cs)
  let (whole, cs) ← readWhole cs
  let (places, cs) ← readPlaces cs
  let (exponent, cs) ← readExponent cs
  let n ← numberOfParts? negative whole places exponent
  return (n, cs)

/-- The value of a digit of base sixteen, in either case. -/
def hexValue? (c : Char) : Option Nat :=
  if '0' ≤ c && c ≤ '9' then some (c.toNat - '0'.toNat)
  else if 'a' ≤ c && c ≤ 'f' then some (c.toNat - 'a'.toNat + 10)
  else if 'A' ≤ c && c ≤ 'F' then some (c.toNat - 'A'.toNat + 10)
  else none

/-- Four digits of base sixteen at the front. -/
def readUnit : List Char → Option (Nat × List Char)
  | a :: b :: c :: d :: rest => do
    let a ← hexValue? a
    let b ← hexValue? b
    let c ← hexValue? c
    let d ← hexValue? d
    return (((a * 16 + b) * 16 + c) * 16 + d, rest)
  | _ => none

/-- The character with a code point that must not be half of a pair. -/
def charOfPoint? (n : Nat) : Option Char :=
  if n.isValidChar then some (Char.ofNat n) else none

/-- What follows a backslash and a `u`: a character, or the first half of a pair
    together with the second. -/
def readEscapedUnit (cs : List Char) : Option (Char × List Char) := do
  let (unit, rest) ← readUnit cs
  if 0xD800 ≤ unit && unit < 0xDC00 then
    match rest with
    | '\\' :: 'u' :: rest =>
      let (second, rest) ← readUnit rest
      if 0xDC00 ≤ second && second < 0xE000 then
        let c ← charOfPoint? (0x10000 + (unit - 0xD800) * 0x400 + (second - 0xDC00))
        return (c, rest)
      else none
    | _ => none
  else
    let c ← charOfPoint? unit
    return (c, rest)

/-- What follows a backslash. -/
def readEscape : List Char → Option (Char × List Char)
  | '"' :: rest => some ('"', rest)
  | '\\' :: rest => some ('\\', rest)
  | '/' :: rest => some ('/', rest)
  | 'b' :: rest => some ('\x08', rest)
  | 'f' :: rest => some ('\x0c', rest)
  | 'n' :: rest => some ('\n', rest)
  | 'r' :: rest => some ('\r', rest)
  | 't' :: rest => some ('\t', rest)
  | 'u' :: rest => readEscapedUnit rest
  | _ => none

/-- What follows an opening quote, up to the closing one. The characters read so
    far come last one first. -/
def readChars : Nat → List Char → List Char → Option (List Char × List Char)
  | 0, _, _ => none
  | _ + 1, _, [] => none
  | depth + 1, read, c :: rest =>
    if c = '"' then some (read.reverse, rest)
    else if c = '\\' then
      match readEscape rest with
      | some (c, rest) => readChars depth (c :: read) rest
      | none => none
    else if c.toNat < 32 then none
    else readChars depth (c :: read) rest

/-- What follows an opening quote, as a text. -/
def readString (cs : List Char) : Option (String × List Char) :=
  (readChars (cs.length + 1) [] cs).map fun (read, rest) => (String.ofList read, rest)

/-- A fixed word at the front. -/
def readWord (word : String) (value : Value) (cs : List Char) : Option (Value × List Char) :=
  if word.toList.isPrefixOf cs then some (value, cs.drop word.length) else none

mutual

/-- A value at the front, after blanks. -/
def readValue : Nat → List Char → Option (Value × List Char)
  | 0, _ => none
  | depth + 1, cs =>
    match skipBlanks cs with
    | 'n' :: rest => readWord "null" .null ('n' :: rest)
    | 't' :: rest => readWord "true" (.bool true) ('t' :: rest)
    | 'f' :: rest => readWord "false" (.bool false) ('f' :: rest)
    | '"' :: rest => (readString rest).map fun (s, rest) => (.string s, rest)
    | '[' :: rest =>
      match skipBlanks rest with
      | ']' :: rest => some (.array [], rest)
      | rest => (readItems depth rest).map fun (items, rest) => (.array items, rest)
    | '\x7b' :: rest =>
      match skipBlanks rest with
      | '\x7d' :: rest => some (.object [], rest)
      | rest => (readFields depth .empty rest).map fun (d, rest) => (.ofDocument d, rest)
    | cs => (readNumber cs).map fun (n, rest) => (.number n, rest)

/-- Items with commas between them, up to the closing bracket. -/
def readItems : Nat → List Char → Option (List Value × List Char)
  | 0, _ => none
  | depth + 1, cs =>
    match readValue depth cs with
    | none => none
    | some (item, rest) =>
      match skipBlanks rest with
      | ',' :: rest => (readItems depth rest).map fun (items, rest) => (item :: items, rest)
      | ']' :: rest => some ([item], rest)
      | _ => none

/-- Fields with commas between them, up to the closing brace, put into a document
    one after the other. -/
def readFields : Nat → Document → List Char → Option (Document × List Char)
  | 0, _, _ => none
  | depth + 1, d, cs =>
    match skipBlanks cs with
    | '"' :: rest =>
      match readString rest with
      | none => none
      | some (key, rest) =>
        match skipBlanks rest with
        | ':' :: rest =>
          match readValue depth rest with
          | none => none
          | some (value, rest) =>
            match skipBlanks rest with
            | ',' :: rest => readFields depth (d.insert key value) rest
            | '\x7d' :: rest => some (d.insert key value, rest)
            | _ => none
        | _ => none
    | _ => none

end

/-- The value a text stands for, if it stands for one and nothing follows it. -/
def Value.read? (text : String) : Option Value :=
  let cs := text.toList
  match readValue (2 * cs.length + 2) cs with
  | some (value, rest) => if (skipBlanks rest).isEmpty then some value else none
  | none => none

end Json

end DocumentLink
