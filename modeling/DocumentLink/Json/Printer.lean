import DocumentLink.Json.Value

/-!
# Compact Text

How a value is written: without blanks, fields in their order, and as few
escapes as the format allows. Messages quote values in this form, and limits on
the size of a document count its bytes.

## Main definitions

* `Json.escape`: How a character stands inside a quoted text.
* `Json.Value.text`: The compact text of a value.
* `Document.text`: The compact text of a document.
* `Document.size`: The bytes of that text.
-/

namespace DocumentLink

namespace Json

/-- A digit of base sixteen, in lower case. -/
def hexDigit (n : Nat) : Char :=
  (Nat.digitChar (n % 16))

/-- How a character stands inside a quoted text. The quote, the backslash and the
    control characters are escaped; everything else stands for itself. -/
def escape (c : Char) : String :=
  match c with
  | '"' => "\\\""
  | '\\' => "\\\\"
  | '\x08' => "\\b"
  | '\t' => "\\t"
  | '\n' => "\\n"
  | '\x0c' => "\\f"
  | '\r' => "\\r"
  | c =>
    if c.toNat < 32 then
      String.ofList ['\\', 'u', '0', '0', hexDigit (c.toNat / 16), hexDigit c.toNat]
    else c.toString

/-- A quoted text. -/
def quote (s : String) : String :=
  "\"" ++ String.join (s.toList.map escape) ++ "\""

mutual

/-- The compact text of a value. -/
def Value.text : Value → String
  | .null => "null"
  | .bool b => if b then "true" else "false"
  | .number n => n.text
  | .string s => quote s
  | .array items => "[" ++ itemsText items ++ "]"
  | .object fields => "\x7b" ++ fieldsText fields ++ "\x7d"

/-- The texts of items, with commas between them. -/
def itemsText : List Value → String
  | [] => ""
  | [item] => item.text
  | item :: next :: rest => item.text ++ "," ++ itemsText (next :: rest)

/-- The texts of fields, with commas between them. -/
def fieldsText : List (String × Value) → String
  | [] => ""
  | [(key, value)] => quote key ++ ":" ++ value.text
  | (key, value) :: next :: rest =>
    quote key ++ ":" ++ value.text ++ "," ++ fieldsText (next :: rest)

end

end Json

namespace Document

/-- The compact text of a document. -/
def text (d : Document) : String :=
  (Json.Value.ofDocument d).text

/-- The size of a document: the bytes of its compact text. -/
def size (d : Document) : Nat :=
  d.text.utf8ByteSize

end Document

end DocumentLink
