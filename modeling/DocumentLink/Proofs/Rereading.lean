import DocumentLink.Proofs.AddressText

/-!
# Addresses Read Again

What becomes of an address that has been read when it is written and read once more.

More hosts are read than can be told in a written address. A host without brackets has been
looked at: there is something in it, no colon is in it, and no bracket stands in front. Nothing is
asked of a host in brackets but that it ends at the first closing one. With a colon in it that is
enough, because it goes back into brackets. Without a colon it is written bare, and then it is
missing if there is nothing of it, and makes a bracket out of its own first sign if that is one.

`Astray` names the texts that put such a host into brackets. They are the only ones whose address
is not read back. It is not taken for another one either: what is written for it is refused, and
is written for no other address that can be read.

## Main definitions

* `Address.Astray`: A text puts a host into brackets that cannot be told without them.
* `Address.Reread`: What becomes of an address that has been read.

## Theorems

* `Text.head?_lowerCase_iff`: A text starts with a mark if its lower case does.
* `Address.legible_iff_of_parse?`: The hosts that are read and can be told.
* `Address.parse?_text_of_astray`: What is written for the others is refused.
* `Address.reread`: An address that has been read is read back unless its text leads astray.
-/

namespace DocumentLink

namespace Text

/-- A character becomes one character at least. -/
theorem smallForm_ne_nil (before : List Char) (c : Char) (after : List Char) :
    smallForm before c after ≠ [] := by
  unfold smallForm
  split
  · exact List.cons_ne_nil _ _
  · split
    · exact List.cons_ne_nil _ _
    · exact List.cons_ne_nil _ _

/-- A text starts with a mark if its lower case does. -/
theorem head?_lowerCase_iff {mark : Char} (hmark : IsMark mark) {s : String} :
    (lowerCase s).toList.head? = some mark ↔ s.toList.head? = some mark := by
  rw [lowerCase, String.toList_ofList]
  cases hs : s.toList with
  | nil => rfl
  | cons c rest =>
      rw [lowerAfter, Address.head?_front (smallForm_ne_nil [] c rest), List.head?_cons,
        Option.some.injEq]
      constructor
      · intro hhead
        exact ((of_mem_smallForm (List.mem_of_head? hhead)).2 hmark).symm
      · rintro rfl
        rw [hmark.isSmall, List.head?_singleton]

/-- There is nothing of a text if there is nothing of its lower case. -/
theorem lowerCase_eq_empty_iff {s : String} : lowerCase s = "" ↔ s = "" := by
  rw [← String.toList_eq_nil_iff, ← String.toList_eq_nil_iff, lowerCase, String.toList_ofList]
  cases s.toList with
  | nil => exact Iff.rfl
  | cons c rest =>
      rw [lowerAfter, List.append_eq_nil_iff]
      exact iff_of_false (fun h => smallForm_ne_nil [] c rest h.1) (List.cons_ne_nil c rest)

end Text

namespace Address

/-- A text puts a host into brackets that is written bare and cannot be told then, as there is
    nothing of it or it starts as if it were in brackets. -/
def Astray (s : String) : Prop :=
  ∃ host rest, s.toList = '[' :: (host ++ ']' :: rest) ∧ ']' ∉ host ∧ ':' ∉ host ∧
    (host = [] ∨ host.head? = some '[')

/-- Lower-casing does not change whether the signs in a host mislead. -/
theorem clear_lowerCase_iff {host : String} : Clear (Text.lowerCase host) ↔ Clear host := by
  have hmem : ∀ mark, Text.IsMark mark →
      (mark ∈ (Text.lowerCase host).toList ↔ mark ∈ host.toList) :=
    fun mark h => Text.mem_lowerCase_iff h
  rw [Clear, Clear, hmem ':' (by decide), hmem ']' (by decide), ne_eq,
    Text.lowerCase_eq_empty_iff, ne_eq, Text.head?_lowerCase_iff (by decide)]

/-- A host that a text puts into brackets has ended at the first closing one. -/
theorem host_of_bracketed {host host' rest rest' : List Char} (hhost : ']' ∉ host)
    (hhost' : ']' ∉ host') (hsame : '[' :: (host ++ ']' :: rest) = '[' :: (host' ++ ']' :: rest')) :
    host = host' := by
  have hcut := splitAt?_eq_some_iff.mpr ⟨List.tail_eq_of_cons_eq hsame, hhost'⟩
  rw [splitAt?_eq_some_iff.mpr ⟨rfl, hhost⟩, Option.some.injEq, Prod.mk.injEq] at hcut
  exact hcut.1

/-- The signs in a host that is read do not mislead unless the text leads astray. -/
theorem Reads.clear_iff {s : String} {host : List Char} {port : UInt16}
    (h : Reads s.toList host port) : Clear (String.ofList host) ↔ ¬Astray s := by
  have hempty : String.ofList host = "" ↔ host = [] := by
    rw [← String.toList_eq_nil_iff, String.toList_ofList]
  rw [Clear, String.toList_ofList, ne_eq, hempty]
  -- Only a text that starts with a bracket can lead astray.
  have hstraight : s.toList.head? ≠ some '[' → ¬Astray s := by
    rintro hhead ⟨host', rest, hs, -⟩
    exact hhead (by rw [hs, List.head?_cons])
  generalize hs : s.toList = cs at h
  cases h with
  | @bracketed _ rest _ hbracket _ =>
      constructor
      · rintro hclear ⟨host', rest', hs', hbracket', hcolon', hbad⟩
        obtain rfl := host_of_bracketed hbracket hbracket' (hs.symm.trans hs')
        rcases hclear with ⟨hcolon, -⟩ | ⟨hne, -, hhead⟩
        · exact hcolon' hcolon
        · exact hbad.elim hne hhead
      · intro hastray
        by_cases hcolon : ':' ∈ host
        · exact .inl ⟨hcolon, hbracket⟩
        · refine .inr ⟨fun hnil => ?_, hcolon, fun hhead => ?_⟩
          · exact hastray ⟨host, rest, hs, hbracket, hcolon, .inl hnil⟩
          · exact hastray ⟨host, rest, hs, hbracket, hcolon, .inr hhead⟩
  | bare hne hhead hcolon =>
      exact iff_of_true (.inr ⟨hne, hcolon, hhead⟩) (hstraight (hs ▸ hhead))
  | ported hne hhead hcolon _ _ =>
      refine iff_of_true (.inr ⟨hne, hcolon, hhead⟩) (hstraight ?_)
      rwa [hs, head?_front hne]

variable {s t : String} {a b : Address}

/-- The hosts that are read and can be told in a written address. -/
theorem legible_iff_of_parse? (h : parse? s = some a) : Legible a.host ↔ ¬Astray s := by
  rcases parse?_eq_some_iff.mp h with ⟨host, hreads, hhost⟩
  rw [Legible, ← hhost, Text.lowerCase_lowerCase, clear_lowerCase_iff, hreads.clear_iff]
  exact and_iff_right rfl

/-- A host that is read and cannot be told has neither a colon nor a closing bracket. -/
theorem not_mem_host_of_astray (h : parse? s = some a) (hastray : Astray s) :
    ':' ∉ a.host.toList ∧ ']' ∉ a.host.toList := by
  rcases parse?_eq_some_iff.mp h with ⟨host, hreads, hhost⟩
  rcases hastray with ⟨host', rest, hs, hbracket, hcolon, -⟩
  rw [hs, ← parseChars?_eq_some_iff, parseChars?_bracket] at hreads
  rcases hreads with ⟨after, hrest, hbracket', -⟩
  obtain rfl := host_of_bracketed hbracket hbracket' (congrArg ('[' :: ·) hrest)
  rw [← hhost, Text.mem_lowerCase_iff (by decide), Text.mem_lowerCase_iff (by decide),
    String.toList_ofList]
  exact ⟨hcolon, hbracket⟩

/-- If a host is written bare and something is read from it, its signs do not mislead. -/
theorem clear_of_reads_bare {host : String} {port port' : UInt16} {found : List Char}
    (hcolon : ':' ∉ host.toList) (hbracket : ']' ∉ host.toList)
    (hreads : Reads (text ⟨host, port⟩).toList found port') : Clear host := by
  rw [text_plain hcolon] at hreads
  generalize htext : host.toList ++ ':' :: Nat.toDigits 10 port.toNat = cs at hreads
  cases hreads with
  | @bracketed _ rest _ _ _ =>
      -- There is no closing bracket in the host, and none in the port.
      have hmem : ']' ∈ '[' :: (found ++ ']' :: rest) := by simp
      rw [← htext, List.mem_append, List.mem_cons] at hmem
      rcases hmem with hmem | hmem | hmem
      · exact absurd hmem hbracket
      · exact absurd hmem (by decide)
      · exact absurd hmem (not_mem_toDigits (by decide) _)
  | bare _ _ hnone => exact absurd (htext ▸ List.mem_append_right _ List.mem_cons_self) hnone
  | @ported _ digits _ hne hhead hfront _ _ =>
      -- Both cuts are made at the first colon.
      have hcut := splitAt?_eq_some_iff.mpr ⟨htext.symm, hcolon⟩
      rw [splitAt?_eq_some_iff.mpr ⟨rfl, hfront⟩, Option.some.injEq, Prod.mk.injEq] at hcut
      refine .inr ⟨?_, hcolon, hcut.1 ▸ hhead⟩
      rwa [ne_eq, ← String.toList_eq_nil_iff, ← hcut.1]

/-- An address is read back unless its text leads astray. -/
theorem parse?_text_of_not_astray (h : parse? s = some a) (hstraight : ¬Astray s) :
    parse? (text a) = some a :=
  parse?_text_eq_some_iff.mpr ((legible_iff_of_parse? h).mpr hstraight)

/-- Nothing is read from what is written for an address whose text leads astray. -/
theorem parse?_text_of_astray (h : parse? s = some a) (hastray : Astray s) :
    parse? (text a) = none := by
  rcases not_mem_host_of_astray h hastray with ⟨hcolon, hbracket⟩
  refine Option.eq_none_iff_forall_ne_some.mpr fun b hb => ?_
  rcases parse?_eq_some_iff.mp hb with ⟨found, hreads, -⟩
  rcases parse?_eq_some_iff.mp h with ⟨host, -, hhost⟩
  refine (legible_iff_of_parse? h).mp ⟨?_, clear_of_reads_bare hcolon hbracket hreads⟩ hastray
  rw [← hhost, Text.lowerCase_lowerCase]

/-- Hosts without a colon are told apart by what is written for them. -/
theorem eq_of_text_eq_of_bare (ha : ':' ∉ a.host.toList) (hb : ':' ∉ b.host.toList)
    (hsame : text a = text b) : a = b := by
  have htexts := congrArg String.toList hsame
  rw [text_plain ha, text_plain hb] at htexts
  have hcut := splitAt?_eq_some_iff.mpr ⟨htexts, hb⟩
  rw [splitAt?_eq_some_iff.mpr ⟨rfl, ha⟩, Option.some.injEq, Prod.mk.injEq] at hcut
  rcases hcut with ⟨hhost, hdigits⟩
  have hport := port?_toDigits a.port
  rw [hdigits, port?_toDigits b.port] at hport
  rcases a with ⟨host, port⟩
  rcases b with ⟨host', port'⟩
  rw [mk.injEq]
  exact ⟨String.toList_inj.mp hhost, (Option.some.inj hport).symm⟩

/-- What becomes of an address that has been read from a text. -/
structure Reread (s : String) (a : Address) : Prop where
  /-- Its host is there and it is read back, unless the text leads astray. -/
  usable_iff : (a.host ≠ "" ∧ parse? (text a) = some a) ↔ ¬Astray s
  /-- If the text leads astray, what is written for the address is refused. -/
  refused : Astray s → parse? (text a) = none
  /-- It is told from any other address that is read by what is written for it. -/
  apart : ∀ t b, parse? t = some b → text a = text b → a = b

/-- An address that has been read is read back, unless its text leads astray; and what is written
    for it is written for no other. -/
theorem reread (h : parse? s = some a) : Reread s a where
  usable_iff := by
    rw [parse?_text_eq_some_iff, legible_iff_of_parse? h, and_iff_right_iff_imp,
      ← legible_iff_of_parse? h]
    rintro ⟨-, ⟨hcolon, -⟩ | ⟨hne, -⟩⟩ hempty
    · rw [hempty] at hcolon
      exact absurd hcolon List.not_mem_nil
    · exact hne hempty
  refused := parse?_text_of_astray h
  apart t b hb hsame := by
    by_cases ha : Astray s
    · have hnone := parse?_text_of_astray h ha
      rw [hsame] at hnone
      by_cases hastray : Astray t
      · exact eq_of_text_eq_of_bare (not_mem_host_of_astray h ha).1
          (not_mem_host_of_astray hb hastray).1 hsame
      · rw [parse?_text_of_not_astray hb hastray] at hnone
        cases hnone
    · have hread := parse?_text_of_not_astray h ha
      rw [hsame] at hread
      by_cases hastray : Astray t
      · rw [parse?_text_of_astray hb hastray] at hread
        cases hread
      · rw [parse?_text_of_not_astray hb hastray] at hread
        exact (Option.some.inj hread).symm

/-- A bracket in front of a host does no harm if there is a colon in the host, and an empty host
    is read but not read back. -/
theorem reread_brackets :
    (parse? "[[A:b]:+080" = some ⟨"[a:b", 80⟩ ∧ Reread "[[A:b]:+080" ⟨"[a:b", 80⟩) ∧
      parse? "[]:80" = some ⟨"", 80⟩ ∧ Reread "[]:80" ⟨"", 80⟩ := by
  have hcolon : parse? "[[A:b]:+080" = some ⟨"[a:b", 80⟩ := by decide +kernel
  have hempty : parse? "[]:80" = some ⟨"", 80⟩ := by decide +kernel
  exact ⟨⟨hcolon, reread hcolon⟩, hempty, reread hempty⟩

end Address

end DocumentLink
