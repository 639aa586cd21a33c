import DocumentLink.Text.Quoted.Table

/-!
# Quoted Text

A text as it is shown to a person who has to see every character of it: in
double quotes, with an escape for whatever would not be visible or would be
mistaken for the end.

## Main definitions

* `Text.shown`: How one character is shown.
* `Text.quoted`: A text in double quotes.
-/

namespace DocumentLink

namespace Text

/-- A character shown by its number, in base sixteen. -/
def byNumber (c : Char) : String :=
  "\\u\x7b" ++ String.ofList (Nat.toDigits 16 c.toNat) ++ "\x7d"

/-- How a character is shown between double quotes. -/
def shown (c : Char) : String :=
  match c with
  | '\x00' => "\\0"
  | '\t' => "\\t"
  | '\r' => "\\r"
  | '\n' => "\\n"
  | '"' => "\\\""
  | '\\' => "\\\\"
  | c => if extending.has c || invisible.has c then byNumber c else c.toString

/-- A text in double quotes. -/
def quoted (s : String) : String :=
  "\"" ++ String.join (s.toList.map shown) ++ "\""

end Text

end DocumentLink
