import DocumentLink.Text.Case.Table

/-!
# Lower Case

A text in lower case.

A letter is replaced by its small letter without regard to its neighbours, with
two exceptions. The dotted capital I has a small form of two characters, because
its dot is kept as a mark. And the capital sigma has two small forms: at the end
of a word it is written `ς`. A sigma ends a word if a letter comes before it and
none comes after it, marks and apostrophes in between not counting.

## Main definitions

* `Text.smallLetter`: The small letter of one character.
* `Text.endsWord`: Whether a sigma between two texts ends a word.
* `Text.lowerCase`: A text in lower case.
-/

namespace DocumentLink

namespace Text

/-- The small letter of a character within a run, if it belongs to the run. -/
def CaseRun.small? (run : CaseRun) (n : Nat) : Option Nat :=
  if run.first ≤ n && n ≤ run.last && (n - run.first) % run.step = 0 then
    some (run.target + (n - run.first))
  else none

/-- The small letter of a character that changes into one other, or the
    character itself. -/
def smallLetter (c : Char) : Char :=
  if c.toNat < 128 then c.toLower
  else Char.ofNat ((caseRuns.findSome? fun run => run.small? c.toNat).getD c.toNat)

/-- Whether the nearest character that is not passed over is a letter. -/
def letterFollows (cs : List Char) : Bool :=
  match cs.dropWhile caseIgnorable.has with
  | [] => false
  | c :: _ => cased.has c

/-- Whether a sigma ends a word. The characters before it come nearest first. -/
def endsWord (before after : List Char) : Bool :=
  letterFollows before && !letterFollows after

/-- The small form of a character between others. -/
def smallForm (before : List Char) (c : Char) (after : List Char) : List Char :=
  if c = 'Σ' then [if endsWord before after then 'ς' else 'σ']
  else if c = 'İ' then ['i', '\u0307']
  else [smallLetter c]

/-- Lower-case what follows some characters, which come nearest first. -/
def lowerAfter : List Char → List Char → List Char
  | _, [] => []
  | before, c :: rest => smallForm before c rest ++ lowerAfter (c :: before) rest

/-- A text in lower case. -/
def lowerCase (s : String) : String :=
  String.ofList (lowerAfter [] s.toList)

end Text

end DocumentLink
