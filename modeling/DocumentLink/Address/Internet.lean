import DocumentLink.Address

/-!
# Internet Addresses

The host text of an internet address.

Four bytes are written in decimal with points. Eight groups of 16 bits are
written in base sixteen with colons, and the longest run of two or more zero
groups, the first of them if there are several, shrinks to a double colon. An
address that embeds four bytes behind `::ffff:` shows those with points.

## Main definitions

* `Internet.Ip`: Four bytes or eight groups.
* `Internet.Ip.text`: The written form.
* `Address.ofSocket`: The address of a socket.
-/

namespace DocumentLink

namespace Internet

/-- An internet address. -/
inductive Ip where
  | v4 (a b c d : UInt8)
  | v6 (a b c d e f g h : UInt16)
  deriving DecidableEq, Repr

/-- Four bytes in decimal. -/
def pointText (bytes : List Nat) : String :=
  ".".intercalate (bytes.map toString)

/-- A group in base sixteen, without leading zeros. -/
def groupText (group : UInt16) : String :=
  String.ofList (Nat.toDigits 16 group.toNat)

/-- Groups with colons between them. -/
def groupsText (groups : List UInt16) : String :=
  ":".intercalate (groups.map groupText)

/-- The number of zero groups at the front. -/
def zeroRun (groups : List UInt16) : Nat :=
  (groups.takeWhile (· = 0)).length

/-- Where the longest run of zero groups starts, and its length; the first of
    several. -/
def longestZeros (groups : List UInt16) : Nat × Nat :=
  (List.range groups.length).foldl
    (fun best start =>
      let run := zeroRun (groups.drop start)
      if best.2 < run then (start, run) else best)
    (0, 0)

/-- Eight groups, the longest run of zeros shrunk. -/
def compressedText (groups : List UInt16) : String :=
  let (start, run) := longestZeros groups
  if run < 2 then groupsText groups
  else groupsText (groups.take start) ++ "::" ++ groupsText (groups.drop (start + run))

/-- The high and the low byte of a group. -/
def bytesOfGroup (group : UInt16) : List Nat :=
  [group.toNat / 256, group.toNat % 256]

/-- The written form. -/
def Ip.text : Ip → String
  | .v4 a b c d => pointText [a.toNat, b.toNat, c.toNat, d.toNat]
  | .v6 0 0 0 0 0 0xffff g h => "::ffff:" ++ pointText (bytesOfGroup g ++ bytesOfGroup h)
  | .v6 a b c d e f g h => compressedText [a, b, c, d, e, f, g, h]

end Internet

/-- The address of a socket. -/
def Address.ofSocket (ip : Internet.Ip) (port : UInt16) : Address :=
  .make ip.text port

end DocumentLink
