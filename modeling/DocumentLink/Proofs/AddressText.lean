import DocumentLink.Address.Internet
import DocumentLink.Proofs.Lookups
import DocumentLink.Proofs.SmallLetters

/-!
# Written Addresses

Which addresses can be read back from what is written for them.

Writing and reading go by different signs. Writing puts a host into brackets if there is a colon
in it. Reading takes a host to be in brackets if the text starts with one, and looks for the
first closing bracket then and for the first colon otherwise; and it lower-cases what it has
found. `Reads` says what is read without the scanning, with one constructor for each form of a
text.

The hosts that survive are the legible ones. They are in lower case, and the signs in them do not
mislead: a host with colons has no closing bracket, which would end it too early, and a host
without is there at all and does not start as if it were in brackets. What is read from a text
that misleads lacks a sign that the host has, because lower-casing adds none.

The hosts of sockets are all legible. Four bytes are written with digits and points alone. Eight
groups always have a colon, and nothing but digits in base sixteen and points besides.

## Main definitions

* `Address.Reads`: A text stands for a host and a port.
* `Address.Clear`: The signs in a host do not mislead.
* `Address.Legible`: A host that can be told in a written address.
* `Address.TextExact`: What is written and read back.

## Theorems

* `Address.port?_toDigits`: A port is read back.
* `Address.parseChars?_eq_some_iff`: What a text stands for.
* `Address.parse?_text_eq_some_iff`: The legible hosts are those that are read back.
* `Address.legible_ofSocket`: The hosts of sockets are legible.
* `Address.text_exact`: Writing and reading agree exactly on the legible hosts.
-/

namespace DocumentLink

namespace Address

/-- Digits are read as the number they are written for. -/
theorem number?_toDigits (n : Nat) : number? (Nat.toDigits 10 n) = some n := by
  have hdigits : (Nat.toDigits 10 n).all Char.isDigit = true :=
    List.all_eq_true.mpr fun c hc => Nat.isDigit_of_mem_toDigits (by decide) (by decide) hc
  have hnonempty : (Nat.toDigits 10 n).isEmpty = false :=
    List.isEmpty_eq_false_iff.mpr Nat.toDigits_ne_nil
  rw [number?, hdigits, hnonempty, ← Nat.ofDigitChars_eq_foldl, Nat.ofDigitChars_ten_toDigits]
  rfl

/-- No mark that is no digit stands in a port. -/
theorem not_mem_toDigits {c : Char} (hc : c.isDigit = false) (n : Nat) :
    c ∉ Nat.toDigits 10 n := by
  intro hmem
  rw [Nat.isDigit_of_mem_toDigits (by decide) (by decide) hmem] at hc
  cases hc

/-- A port is read back. -/
theorem port?_toDigits (port : UInt16) : port? (Nat.toDigits 10 port.toNat) = some port := by
  have hnumber := number?_toDigits port.toNat
  cases hdigits : Nat.toDigits 10 port.toNat with
  | nil => exact absurd hdigits Nat.toDigits_ne_nil
  | cons c rest =>
      have hplus : c ≠ '+' := by
        rintro rfl
        exact not_mem_toDigits (by decide) port.toNat (hdigits ▸ List.mem_cons_self)
      rw [hdigits] at hnumber
      simp [port?, hplus, hnumber, port.toNat_lt, UInt16.size]

/-- A text stands for a host and a port. -/
inductive Reads : List Char → List Char → UInt16 → Prop where
  /-- The host stands in brackets, and ends at the first closing one. -/
  | bracketed {host rest : List Char} {port : UInt16} : ']' ∉ host →
      portAfterBracket? rest = some port → Reads ('[' :: (host ++ ']' :: rest)) host port
  /-- There is nothing but a host. -/
  | bare {host : List Char} : host ≠ [] → host.head? ≠ some '[' → ':' ∉ host →
      Reads host host defaultPort
  /-- The port follows the first colon, and there is no other one. -/
  | ported {host digits : List Char} {port : UInt16} : host ≠ [] → host.head? ≠ some '[' →
      ':' ∉ host → ':' ∉ digits → port? digits = some port →
      Reads (host ++ ':' :: digits) host port

/-- A text starts as its front does, if there is one. -/
theorem head?_front {front : List Char} (hne : front ≠ []) (back : List Char) :
    (front ++ back).head? = front.head? := by
  rw [List.head?_append, List.head?_eq_some_head hne, Option.some_or]

/-- Nothing is found where the mark is not. -/
theorem splitAt?_eq_none_iff {mark : Char} {cs : List Char} :
    splitAt? mark cs = none ↔ mark ∉ cs := by
  constructor
  · intro hnone hmem
    rcases List.eq_append_cons_of_mem hmem with ⟨before, after, hcs, hbefore⟩
    rw [splitAt?_eq_some_iff.mpr ⟨hcs, hbefore⟩] at hnone
    cases hnone
  · intro hmem
    rw [Option.eq_none_iff_forall_ne_some]
    rintro ⟨before, after⟩ hsome
    rw [(splitAt?_eq_some_iff.mp hsome).1] at hmem
    exact hmem (List.mem_append_right before List.mem_cons_self)

/-- What a text in brackets stands for. -/
theorem parseChars?_bracket {rest host : List Char} {port : UInt16} :
    parseChars? ('[' :: rest) = some (host, port) ↔
      ∃ after, rest = host ++ ']' :: after ∧ ']' ∉ host ∧
        portAfterBracket? after = some port := by
  simp only [parseChars?, Option.bind_eq_bind, Option.bind_eq_some_iff, Option.pure_def,
    Option.some.injEq, Prod.mk.injEq, Prod.exists, splitAt?_eq_some_iff]
  constructor
  · rintro ⟨host', after, ⟨hrest, hhost⟩, port', hport, rfl, rfl⟩
    exact ⟨after, hrest, hhost, hport⟩
  · rintro ⟨after, hrest, hhost, hport⟩
    exact ⟨host, after, ⟨hrest, hhost⟩, port, hport, rfl, rfl⟩

/-- What another text stands for. -/
theorem parseChars?_plain {cs host : List Char} {port : UInt16} (hne : cs ≠ [])
    (hhead : cs.head? ≠ some '[') :
    parseChars? cs = some (host, port) ↔
      (':' ∉ cs ∧ cs = host ∧ defaultPort = port) ∨
        ∃ digits, (cs = host ++ ':' :: digits ∧ ':' ∉ host) ∧ host ≠ [] ∧ ':' ∉ digits ∧
          port? digits = some port := by
  unfold parseChars?
  split
  next => exact absurd rfl hne
  next => exact absurd rfl hhead
  next =>
    cases hsplit : splitAt? ':' cs with
    | none =>
        have hnone := splitAt?_eq_none_iff.mp hsplit
        simp only [Option.some.injEq, Prod.mk.injEq, hnone, not_false_eq_true, true_and]
        refine (or_iff_left ?_).symm
        rintro ⟨digits, ⟨rfl, -⟩, -⟩
        exact hnone (List.mem_append_right host List.mem_cons_self)
    | some found =>
        rcases found with ⟨before, after⟩
        rcases splitAt?_eq_some_iff.mp hsplit with ⟨hcs, hbefore⟩
        -- There is one way only to cut at the first colon.
        have hcut : ∀ digits, (cs = host ++ ':' :: digits ∧ ':' ∉ host) ↔
            before = host ∧ after = digits := by
          intro digits
          rw [← splitAt?_eq_some_iff, hsplit, Option.some.injEq, Prod.mk.injEq]
        have hcolon : ':' ∈ cs := hcs ▸ List.mem_append_right before List.mem_cons_self
        simp only [hcolon, not_true_eq_false, false_and, false_or, hcut, Bool.or_eq_true,
          List.isEmpty_iff, List.contains_iff_mem]
        split
        next hbad =>
          refine iff_of_false (by simp only [reduceCtorEq, not_false_eq_true]) ?_
          rintro ⟨digits, ⟨rfl, rfl⟩, hhost, hdigits, -⟩
          exact hbad.elim hhost hdigits
        next hgood =>
          rw [not_or] at hgood
          simp only [Option.map_eq_some_iff, Prod.mk.injEq]
          constructor
          · rintro ⟨port', hport, rfl, rfl⟩
            exact ⟨after, ⟨rfl, rfl⟩, hgood.1, hgood.2, hport⟩
          · rintro ⟨digits, ⟨rfl, rfl⟩, -, -, hport⟩
            exact ⟨port, hport, rfl, rfl⟩

/-- What a text stands for. -/
theorem parseChars?_eq_some_iff {cs host : List Char} {port : UInt16} :
    parseChars? cs = some (host, port) ↔ Reads cs host port := by
  constructor
  · intro hparse
    by_cases hne : cs = []
    · subst hne
      cases hparse
    by_cases hhead : cs.head? = some '['
    · rcases List.head?_eq_some_iff.mp hhead with ⟨rest, rfl⟩
      rcases parseChars?_bracket.mp hparse with ⟨after, rfl, hhost, hport⟩
      exact .bracketed hhost hport
    · rcases (parseChars?_plain hne hhead).mp hparse with
        ⟨hcolon, rfl, rfl⟩ | ⟨digits, ⟨rfl, hhost⟩, hnonempty, hdigits, hport⟩
      · exact .bare hne hhead hcolon
      · refine .ported hnonempty ?_ hhost hdigits hport
        rwa [head?_front hnonempty] at hhead
  · intro hreads
    cases hreads with
    | bracketed hhost hport => exact parseChars?_bracket.mpr ⟨_, rfl, hhost, hport⟩
    | bare hne hhead hcolon =>
        exact (parseChars?_plain hne hhead).mpr (.inl ⟨hcolon, rfl, rfl⟩)
    | @ported _ digits _ hne hhead hcolon hdigits hport =>
        refine (parseChars?_plain ?_ ?_).mpr (.inr ⟨digits, ⟨rfl, hcolon⟩, hne, hdigits, hport⟩)
        · exact List.append_ne_nil_of_left_ne_nil hne _
        · rwa [head?_front hne]

/-- The address a text stands for. -/
theorem parse?_eq_some_iff {s : String} {a : Address} :
    parse? s = some a ↔
      ∃ host, Reads s.toList host a.port ∧ Text.lowerCase (String.ofList host) = a.host := by
  simp only [parse?, Option.map_eq_some_iff, Prod.exists, parseChars?_eq_some_iff]
  constructor
  · rintro ⟨host, port, hreads, rfl⟩
    exact ⟨host, hreads, rfl⟩
  · rintro ⟨host, hreads, hhost⟩
    refine ⟨host, a.port, hreads, ?_⟩
    rw [make, hhost]

/-- The text of an address whose host has a colon. -/
theorem text_bracketed {host : String} (hcolon : ':' ∈ host.toList) (port : UInt16) :
    (text ⟨host, port⟩).toList =
      '[' :: (host.toList ++ ']' :: ':' :: Nat.toDigits 10 port.toNat) := by
  have hcontains : host.contains ':' = true := by simpa using hcolon
  rw [text, if_pos hcontains]
  change ("[" ++ host ++ "]:" ++ toString port.toNat).toList = _
  simp

/-- The text of an address whose host has none. -/
theorem text_plain {host : String} (hcolon : ':' ∉ host.toList) (port : UInt16) :
    (text ⟨host, port⟩).toList = host.toList ++ ':' :: Nat.toDigits 10 port.toNat := by
  have hcontains : ¬host.contains ':' = true := by simpa using hcolon
  rw [text, if_neg hcontains]
  change (host ++ ":" ++ toString port.toNat).toList = _
  simp

/-- The signs in a host do not mislead whoever reads its address. -/
def Clear (host : String) : Prop :=
  (':' ∈ host.toList ∧ ']' ∉ host.toList) ∨
    (host ≠ "" ∧ ':' ∉ host.toList ∧ host.toList.head? ≠ some '[')

/-- A host that can be told in a written address. -/
def Legible (host : String) : Prop :=
  Text.lowerCase host = host ∧ Clear host

/-- A legible host is read from what is written for it. -/
theorem Legible.reads {host : String} (h : Legible host) (port : UInt16) :
    Reads (text ⟨host, port⟩).toList host.toList port := by
  have hport := port?_toDigits port
  rcases h.2 with ⟨hcolon, hbracket⟩ | ⟨hne, hcolon, hhead⟩
  · rw [text_bracketed hcolon]
    exact .bracketed hbracket hport
  · rw [text_plain hcolon]
    refine .ported ?_ hhead hcolon (not_mem_toDigits (by decide) _) hport
    rwa [ne_eq, String.toList_eq_nil_iff]

/-- If what is read from the text of an address is the host, but for letter case, then nothing
    in the host has misled. -/
theorem clear_of_reads {host : String} {port : UInt16} {found : List Char}
    (hreads : Reads (text ⟨host, port⟩).toList found port)
    (hfound : Text.lowerCase (String.ofList found) = host) : Clear host := by
  -- A bracket or a colon is in the host if it is in what was found.
  have hmark : ∀ mark, Text.IsMark mark → (mark ∈ host.toList ↔ mark ∈ found) := by
    intro mark hmark
    rw [← hfound, Text.mem_lowerCase_iff hmark, String.toList_ofList]
  by_cases hcolon : ':' ∈ host.toList
  · rw [text_bracketed hcolon, ← parseChars?_eq_some_iff, parseChars?_bracket] at hreads
    rcases hreads with ⟨after, -, hbracket, -⟩
    exact .inl ⟨hcolon, (not_congr (hmark ']' (by decide))).mpr hbracket⟩
  · refine .inr ?_
    rw [text_plain hcolon] at hreads
    generalize htext : host.toList ++ ':' :: Nat.toDigits 10 port.toNat = cs at hreads
    cases hreads with
    | @bracketed _ rest _ hbracket _ =>
        -- The closing bracket is neither in the host nor in the port.
        have hmem : ']' ∈ '[' :: (found ++ ']' :: rest) := by simp
        rw [← htext, List.mem_append, hmark ']' (by decide), List.mem_cons] at hmem
        rcases hmem with hmem | hmem | hmem
        · exact absurd hmem hbracket
        · exact absurd hmem (by decide)
        · exact absurd hmem (not_mem_toDigits (by decide) _)
    | bare _ _ hnone =>
        exact absurd (htext ▸ List.mem_append_right _ List.mem_cons_self) hnone
    | @ported _ digits _ hne hhead hfront _ _ =>
        -- Both cuts are made at the first colon.
        have hcut := splitAt?_eq_some_iff.mpr ⟨htext.symm, hcolon⟩
        rw [splitAt?_eq_some_iff.mpr ⟨rfl, hfront⟩, Option.some.injEq, Prod.mk.injEq] at hcut
        refine ⟨?_, hcolon, hcut.1 ▸ hhead⟩
        rwa [ne_eq, ← String.toList_eq_nil_iff, ← hcut.1]

/-- The legible hosts are those that are read back. -/
theorem parse?_text_eq_some_iff {host : String} {port : UInt16} :
    parse? (text ⟨host, port⟩) = some ⟨host, port⟩ ↔ Legible host := by
  rw [parse?_eq_some_iff]
  constructor
  · rintro ⟨found, hreads, hfound⟩
    refine ⟨?_, clear_of_reads hreads hfound⟩
    change Text.lowerCase (String.ofList found) = host at hfound
    rw [← hfound, Text.lowerCase_lowerCase]
  · intro h
    refine ⟨host.toList, h.reads port, ?_⟩
    rw [String.ofList_toList]
    exact h.1

end Address

namespace Internet

/-- What stands in a list of texts with a separator between them. -/
theorem mem_intercalate {separator : String} {texts : List String} {c : Char}
    (h : c ∈ (separator.intercalate texts).toList) :
    c ∈ separator.toList ∨ ∃ t ∈ texts, c ∈ t.toList := by
  induction texts with
  | nil => simp at h
  | cons first rest ih =>
      by_cases hrest : rest = []
      · rw [hrest, String.intercalate_singleton] at h
        exact .inr ⟨first, List.mem_cons_self, h⟩
      · rw [String.intercalate_cons_of_ne_nil hrest, String.toList_append, String.toList_append,
          List.mem_append, List.mem_append] at h
        rcases h with (h | h) | h
        · exact .inr ⟨first, List.mem_cons_self, h⟩
        · exact .inl h
        · rcases ih h with hseparator | ⟨t, ht, hc⟩
          · exact .inl hseparator
          · exact .inr ⟨t, List.mem_cons_of_mem first ht, hc⟩

/-- The separator stands in it if there are two texts or more. -/
theorem mem_intercalate_cons_cons {separator first second : String} {rest : List String}
    {c : Char} (hc : c ∈ separator.toList) :
    c ∈ (separator.intercalate (first :: second :: rest)).toList := by
  rw [String.intercalate_cons_cons, String.toList_append, String.toList_append]
  exact List.mem_append_left _ (List.mem_append_right _ hc)

/-- Bytes are written with digits and points. -/
theorem mem_pointText {bytes : List Nat} {c : Char} (h : c ∈ (pointText bytes).toList) :
    c = '.' ∨ c.isDigit = true := by
  rcases mem_intercalate h with hc | ⟨t, ht, hc⟩
  · exact .inl (List.mem_singleton.mp hc)
  · rcases List.mem_map.mp ht with ⟨n, -, rfl⟩
    rw [Nat.toString_eq_ofList_toDigits, String.toList_ofList] at hc
    exact .inr (Nat.isDigit_of_mem_toDigits (by decide) (by decide) hc)

/-- The digits of a number stand for numbers below the base. -/
theorem exists_digitChar {base n : Nat} (hbase : 1 < base) {c : Char}
    (h : c ∈ Nat.toDigits base n) : ∃ d < base, c = d.digitChar := by
  induction n using Nat.base_induction base hbase with
  | single m hm =>
      rw [Nat.toDigits_of_lt_base hm, List.mem_singleton] at h
      exact ⟨m, hm, h⟩
  | digit m k hk hm ih =>
      rw [← Nat.toDigits_append_toDigits hbase hm hk, List.mem_append,
        Nat.toDigits_of_lt_base hk, List.mem_singleton] at h
      rcases h with h | h
      · exact ih h
      · exact ⟨k, hk, h⟩

/-- Groups are written with colons and digits in base sixteen, and none of those is a bracket. -/
theorem bracket_not_mem_groupsText (groups : List UInt16) : ']' ∉ (groupsText groups).toList := by
  intro h
  have hdigits : ∀ d < 16, ']' ≠ d.digitChar := by decide
  rcases mem_intercalate h with hc | ⟨t, ht, hc⟩
  · exact absurd hc (by decide)
  · rcases List.mem_map.mp ht with ⟨group, -, rfl⟩
    rw [groupText, String.toList_ofList] at hc
    rcases exists_digitChar (by decide) hc with ⟨d, hd, hbracket⟩
    exact hdigits d hd hbracket

/-- Groups have a colon, shrunk or not, and no bracket. -/
theorem compressedText_spec (first second : UInt16) (rest : List UInt16) :
    ':' ∈ (compressedText (first :: second :: rest)).toList ∧
      ']' ∉ (compressedText (first :: second :: rest)).toList := by
  unfold compressedText
  rcases longestZeros (first :: second :: rest) with ⟨start, run⟩
  dsimp only
  split
  next => exact ⟨mem_intercalate_cons_cons (by decide), bracket_not_mem_groupsText _⟩
  next => simp [bracket_not_mem_groupsText]

/-- Four bytes have points and digits only. -/
theorem v4_text_spec (a b c d : UInt8) : '.' ∈ (Ip.v4 a b c d).text.toList ∧
    ∀ mark ∈ (Ip.v4 a b c d).text.toList, mark = '.' ∨ mark.isDigit = true := by
  refine ⟨?_, fun mark => mem_pointText⟩
  exact mem_intercalate_cons_cons (by decide)

/-- Eight groups have a colon and no bracket, and so have four bytes embedded in them. -/
theorem v6_text_spec (a b c d e f g h : UInt16) :
    ':' ∈ (Ip.v6 a b c d e f g h).text.toList ∧ ']' ∉ (Ip.v6 a b c d e f g h).text.toList := by
  unfold Ip.text
  split
  next hip => cases hip
  next g h _ =>
    have hbracket : ']' ∉ (pointText (bytesOfGroup g ++ bytesOfGroup h)).toList := by
      intro hmem
      exact absurd (mem_pointText hmem) (by decide)
    simp [hbracket]
  next hip =>
    cases hip
    exact compressedText_spec _ _ _

end Internet

namespace Address

/-- The host of a socket is legible. -/
theorem legible_ofSocket (ip : Internet.Ip) (port : UInt16) : Legible (ofSocket ip port).host := by
  refine ⟨Text.lowerCase_lowerCase _, ?_⟩
  change Clear (Text.lowerCase ip.text)
  have hmark : ∀ mark, Text.IsMark mark →
      (mark ∈ (Text.lowerCase ip.text).toList ↔ mark ∈ ip.text.toList) :=
    fun mark h => Text.mem_lowerCase_iff h
  cases ip with
  | v4 a b c d =>
      rcases Internet.v4_text_spec a b c d with ⟨hpoint, honly⟩
      -- There is a point, so the text is not empty, and there are no signs besides.
      refine .inr ⟨?_, ?_, ?_⟩
      · intro hempty
        have hmem := (hmark '.' (by decide)).mpr hpoint
        rw [hempty] at hmem
        exact absurd hmem List.not_mem_nil
      · rw [hmark ':' (by decide)]
        exact fun hmem => absurd (honly ':' hmem) (by decide)
      · intro hhead
        have hmem := (hmark '[' (by decide)).mp (List.mem_of_head? hhead)
        exact absurd (honly '[' hmem) (by decide)
  | v6 a b c d e f g h =>
      rcases Internet.v6_text_spec a b c d e f g h with ⟨hcolon, hbracket⟩
      rw [← hmark ':' (by decide)] at hcolon
      rw [← hmark ']' (by decide)] at hbracket
      exact .inl ⟨hcolon, hbracket⟩

/-- What is written for an address and what is read. -/
structure TextExact : Prop where
  /-- An address is read back if its host is legible, and only then. -/
  reads_iff : ∀ host port, parse? (text ⟨host, port⟩) = some ⟨host, port⟩ ↔ Legible host
  /-- The address of a socket is read back. -/
  socket : ∀ ip port, parse? (text (ofSocket ip port)) = some (ofSocket ip port)
  /-- Addresses with legible hosts are told apart by what is written for them. -/
  injective : ∀ a b : Address, Legible a.host → Legible b.host → text a = text b → a = b

/-- Writing and reading agree on the legible hosts, and on no others. -/
theorem text_exact : TextExact where
  reads_iff _ _ := parse?_text_eq_some_iff
  socket ip port := parse?_text_eq_some_iff.mpr (legible_ofSocket ip port)
  injective a b ha hb hsame := by
    have hread : parse? (text a) = some a := parse?_text_eq_some_iff.mpr ha
    rw [hsame] at hread
    exact Option.some.inj (hread.symm.trans (parse?_text_eq_some_iff.mpr hb))

end Address

end DocumentLink
