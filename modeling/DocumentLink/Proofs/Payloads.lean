import DocumentLink.Document.Fields
import DocumentLink.Proofs.Sextets

/-!
# Payloads in Documents

Binary data survives a document, and there is one text for it.

Documents carry bytes as text in base64. Signatures are computed over these bytes, so both ways
have to be exact: what is put under a key is what is found there, and if bytes are found, the text
is the one that would have been put there for them.

Three things can be wrong with a text, and each is said here of the characters alone. A character
may be foreign. The padding may be wrong: too little or too much of it, or in a place where it
does not belong. And the last character before the padding may have bits that stand for no byte. A
text without any of these is the text of some bytes, so nothing else is ever refused.

## Main definitions

* `Base64.alphabet`: The characters for sextets, in order.
* `Base64.Foreign`, `Base64.Mispadded`, `Base64.Discards`: What can be wrong with a text.
* `Document.PayloadExact`: How a document carries binary data.

## Theorems

* `Base64.exists_decode_iff_layout`: The texts that are read are sextets and padding.
* `Base64.exists_decode_iff`: A text is read if nothing is wrong with it.
* `Document.payload_exact`: Binary data is found as it was put, and under no other text.
-/

namespace DocumentLink

namespace Base64

/-- The characters for sextets, in order. -/
def alphabet : List Char :=
  "ABCDEFGHIJKLMNOPQRSTUVWXYZabcdefghijklmnopqrstuvwxyz0123456789+/".toList

/-- There is a character that is neither for a sextet nor for padding. -/
def Foreign (text : List Char) : Prop :=
  ∃ c ∈ text, c ∉ alphabet ∧ c ≠ '='

/-- Groups are not filled, or padding stands where two places follow or anything else does. -/
def Mispadded (text : List Char) : Prop :=
  text.length % 4 ≠ 0 ∨
    ∃ front back, text = front ++ '=' :: back ∧ (2 ≤ back.length ∨ ∃ c ∈ back, c ≠ '=')

/-- The last character before the padding has bits that stand for no byte, two of them for each
    place of padding, and they are not all zero. -/
def Discards (text : List Char) : Prop :=
  ∃ front c pads, text = front ++ c :: List.replicate pads '=' ∧ c ∈ alphabet ∧
    alphabet.idxOf c % (1 <<< (2 * pads)) ≠ 0

theorem alphabet_eq : alphabet = (List.range 64).map symbol := by
  decide +kernel

/-- A sextet has its place in the alphabet, and its character is not the padding. -/
theorem idxOf_symbol : ∀ n < 64, alphabet.idxOf (symbol n) = n ∧ symbol n ≠ '=' := by
  decide +kernel

theorem symbol_mem {n : Nat} (h : n < 64) : symbol n ∈ alphabet := by
  rw [alphabet_eq]
  exact List.mem_map_of_mem (List.mem_range.mpr h)

/-- A character of the alphabet is the one for its place. -/
theorem exists_symbol {c : Char} (h : c ∈ alphabet) : ∃ n < 64, c = symbol n := by
  rw [alphabet_eq, List.mem_map] at h
  rcases h with ⟨n, hn, rfl⟩
  exact ⟨n, List.mem_range.mp hn, rfl⟩

theorem symbol_idxOf {c : Char} (h : c ∈ alphabet) :
    alphabet.idxOf c < 64 ∧ symbol (alphabet.idxOf c) = c := by
  rcases exists_symbol h with ⟨n, hn, rfl⟩
  rw [(idxOf_symbol n hn).1]
  exact ⟨hn, rfl⟩

/-- The texts that are read are sextets and padding, laid out as they have to be. -/
theorem exists_decode_iff_layout {text : String} : (∃ bytes, decode text = .ok bytes) ↔
    ∃ bits pads, Layout bits pads ∧ text.toList = spelled bits pads := by
  simp only [decode_eq_ok_iff]
  constructor
  · rintro ⟨bytes, rfl⟩
    refine ⟨sextetsOf bytes, padding bytes.length, layout_sextetsOf bytes, ?_⟩
    rw [encode, String.toList_ofList, encodeChars_eq]
  · rintro ⟨bits, pads, hlayout, htext⟩
    refine ⟨bytesOfSextets bits, String.toList_inj.mp ?_⟩
    rw [encode, String.toList_ofList, encodeChars_eq, sextetsOf_bytesOfSextets hlayout,
      hlayout.padding_eq, htext]

/-- There is one way to take repetitions of an item off the end of a list. -/
theorem append_replicate_inj {α : Type} {xs ys : List α} {a : α} {m n : Nat}
    (hxs : xs.getLast? ≠ some a) (hys : ys.getLast? ≠ some a)
    (h : xs ++ List.replicate m a = ys ++ List.replicate n a) : xs = ys ∧ m = n := by
  have hlast : ∀ (zs : List α) k, (zs ++ List.replicate (k + 1) a).getLast? = some a := by
    intro zs k
    rw [List.replicate_succ', ← List.append_assoc, List.getLast?_concat]
  induction m generalizing n with
  | zero =>
      rw [List.replicate_zero, List.append_nil] at h
      cases n with
      | zero => exact ⟨h.trans (List.append_nil ys), rfl⟩
      | succ n => exact absurd (h ▸ hlast ys n) hxs
  | succ m ih =>
      cases n with
      | zero =>
          rw [List.replicate_zero, List.append_nil] at h
          exact absurd (h ▸ hlast xs m) hys
      | succ n =>
          rw [List.replicate_succ', List.replicate_succ', ← List.append_assoc,
            ← List.append_assoc] at h
          rcases ih (List.append_cancel_right h) with ⟨hsame, hcount⟩
          exact ⟨hsame, congrArg Nat.succ hcount⟩

/-- Nothing is wrong with sextets and padding that are laid out as they have to be. -/
theorem Layout.not_foreign {bits : List Nat} {pads : Nat} (h : Layout bits pads) :
    ¬Foreign (spelled bits pads) := by
  rintro ⟨c, hc, halphabet, hpad⟩
  rw [spelled, List.mem_append, List.mem_map, List.mem_replicate] at hc
  rcases hc with ⟨n, hn, rfl⟩ | ⟨-, rfl⟩
  · exact halphabet (symbol_mem (h.lt n hn))
  · exact hpad rfl

theorem Layout.pad_not_mem {bits : List Nat} {pads : Nat} (h : Layout bits pads) :
    '=' ∉ bits.map symbol := by
  intro hpad
  rcases List.mem_map.mp hpad with ⟨n, hn, hsymbol⟩
  exact (idxOf_symbol n (h.lt n hn)).2 hsymbol

theorem Layout.not_mispadded {bits : List Nat} {pads : Nat} (h : Layout bits pads) :
    ¬Mispadded (spelled bits pads) := by
  rintro (hlength | ⟨front, back, htext, hback⟩)
  · rw [spelled, List.length_append, List.length_map, List.length_replicate] at hlength
    exact hlength h.whole
  · -- What follows a padding is among the paddings.
    have hpads : ∃ before, List.replicate pads '=' = before ++ '=' :: back := by
      rcases List.append_eq_append_iff.mp htext with ⟨before, -, hreplicate⟩ | ⟨after, hbits, hrest⟩
      · exact ⟨before, hreplicate⟩
      · cases after with
        | nil => exact ⟨[], hrest.symm⟩
        | cons c after =>
            obtain rfl := (List.cons.inj hrest).1
            exact absurd (hbits ▸ List.mem_append_right front List.mem_cons_self) h.pad_not_mem
    rcases hpads with ⟨before, hpads⟩
    have hcount := congrArg List.length hpads
    have hle := h.pads_le
    rw [List.length_replicate, List.length_append, List.length_cons] at hcount
    rcases hback with hlong | ⟨c, hc, hother⟩
    · omega
    · have hmem : c ∈ List.replicate pads '=' :=
        hpads ▸ List.mem_append_right before (List.mem_cons_of_mem _ hc)
      exact hother (List.mem_replicate.mp hmem).2

theorem Layout.not_discards {bits : List Nat} {pads : Nat} (h : Layout bits pads) :
    ¬Discards (spelled bits pads) := by
  rintro ⟨front, c, pads', htext, hc, hspare⟩
  have hbits : (bits.map symbol).getLast? ≠ some '=' := fun hlast =>
    h.pad_not_mem (List.mem_of_getLast? hlast)
  have hfront : (front ++ [c]).getLast? ≠ some '=' := by
    rw [List.getLast?_concat, ne_eq, Option.some.injEq]
    rintro rfl
    exact absurd hc (by decide +kernel)
  -- So the padding is the same on both sides, and the sextet before it as well.
  rw [spelled, ← List.singleton_append, ← List.append_assoc] at htext
  rcases append_replicate_inj hbits hfront htext with ⟨hsame, rfl⟩
  have hlast := congrArg List.getLast? hsame
  rw [List.getLast?_map, List.getLast?_concat, Option.map_eq_some_iff] at hlast
  rcases hlast with ⟨n, hn, rfl⟩
  rw [(idxOf_symbol n (h.lt n (List.mem_of_getLast? hn))).1] at hspare
  exact hspare (h.spare_eq n hn)

/-- A text with its padding where it belongs has two places of it at most, and none before. -/
theorem exists_front {text : List Char} (h : ¬Mispadded text) : ∃ front pads,
    text = front ++ List.replicate pads '=' ∧ '=' ∉ front ∧ pads ≤ 2 := by
  rw [Mispadded, not_or] at h
  by_cases hpad : '=' ∈ text
  · rcases List.eq_append_cons_of_mem hpad with ⟨front, back, rfl, hfront⟩
    have hback : ¬(2 ≤ back.length ∨ ∃ c ∈ back, c ≠ '=') := fun hback =>
      h.2 ⟨front, back, rfl, hback⟩
    rw [not_or, Nat.not_le] at hback
    refine ⟨front, back.length + 1, ?_, hfront, hback.1⟩
    rw [List.replicate_succ, ← List.eq_replicate_iff.mpr ⟨rfl, fun c hc => ?_⟩]
    exact Decidable.not_not.mp fun hother => hback.2 ⟨c, hc, hother⟩
  · exact ⟨text, 0, (List.append_nil text).symm, hpad, Nat.zero_le 2⟩

/-- A text with nothing wrong with it is sextets and padding that are laid out as they have to
    be. -/
theorem exists_layout {text : List Char} (hforeign : ¬Foreign text) (hpadded : ¬Mispadded text)
    (hdiscards : ¬Discards text) : ∃ bits pads, Layout bits pads ∧ text = spelled bits pads := by
  rcases exists_front hpadded with ⟨front, pads, rfl, hfront, hpads⟩
  -- No padding is in front, so what is there can only stand for sextets.
  have halphabet : ∀ c ∈ front, c ∈ alphabet := fun c hc =>
    Decidable.not_not.mp fun hother => hforeign
      ⟨c, List.mem_append_left _ hc, hother, fun hpad => hfront (hpad ▸ hc)⟩
  have hsymbols : (front.map alphabet.idxOf).map symbol = front := by
    rw [List.map_map]
    exact (List.map_congr_left fun c hc => (symbol_idxOf (halphabet c hc)).2).trans
      (List.map_id front)
  refine ⟨front.map alphabet.idxOf, pads, ⟨?_, hpads, ?_, ?_⟩, by rw [spelled, hsymbols]⟩
  · rintro n hn
    rcases List.mem_map.mp hn with ⟨c, hc, rfl⟩
    exact (symbol_idxOf (halphabet c hc)).1
  · rw [Mispadded, not_or, Decidable.not_not, List.length_append, List.length_replicate] at hpadded
    rw [List.length_map]
    exact hpadded.1
  · intro n hn
    rw [Option.mem_def, List.getLast?_map, Option.map_eq_some_iff] at hn
    rcases hn with ⟨c, hc, rfl⟩
    refine Decidable.not_not.mp fun hspare => hdiscards ?_
    rcases List.getLast?_eq_some_iff.mp hc with ⟨before, rfl⟩
    refine ⟨before, c, pads, ?_, halphabet c (List.mem_append_right _ List.mem_cons_self), hspare⟩
    rw [List.append_assoc, List.singleton_append]

/-- A text is read if nothing is wrong with it, and only then. -/
theorem exists_decode_iff {text : String} : (∃ bytes, decode text = .ok bytes) ↔
    ¬(Foreign text.toList ∨ Mispadded text.toList ∨ Discards text.toList) := by
  rw [exists_decode_iff_layout]
  constructor
  · rintro ⟨bits, pads, hlayout, htext⟩
    rw [htext]
    exact not_or.mpr ⟨hlayout.not_foreign, not_or.mpr ⟨hlayout.not_mispadded, hlayout.not_discards⟩⟩
  · intro h
    rw [not_or, not_or] at h
    exact exists_layout h.1 h.2.1 h.2.2

end Base64

namespace Document

open Base64 (Foreign Mispadded Discards)

/-- How a document carries binary data. -/
structure PayloadExact : Prop where
  /-- What is put under a key is found there. -/
  kept : ∀ (d : Document) key bytes, (d.insert key (.ofBytes bytes)).bytes key = .ok bytes
  /-- If bytes are found in a text, the text is the one that is put for them. -/
  read_iff : ∀ (d : Document) key s, d.get? key = some (.string s) →
    ∀ bytes, d.bytes key = .ok bytes ↔ Json.Value.string s = .ofBytes bytes
  /-- Two texts never hold the same bytes. -/
  apart : ∀ (d d' : Document) key key' s s' bytes, d.get? key = some (.string s) →
    d'.get? key' = some (.string s') → d.bytes key = .ok bytes → d'.bytes key' = .ok bytes → s = s'
  /-- A text is refused if something is wrong with it. -/
  refused_iff : ∀ (d : Document) key s, d.get? key = some (.string s) →
    ((∃ fault, d.bytes key = .error (.base64 fault)) ↔
      Foreign s.toList ∨ Mispadded s.toList ∨ Discards s.toList)

theorem bytes_of_string {d : Document} {key s : String} (h : d.get? key = some (.string s)) :
    d.bytes key = (Base64.decode s).mapError .base64 := by
  rw [bytes, h]

theorem bytes_eq_ok_iff {d : Document} {key s : String} (h : d.get? key = some (.string s))
    {bytes : Bytes} : d.bytes key = .ok bytes ↔ s = Base64.encode bytes := by
  rw [bytes_of_string h, ← Base64.decode_eq_ok_iff]
  cases Base64.decode s with
  | ok found =>
      constructor
      · rintro ⟨⟩
        rfl
      · rintro ⟨⟩
        rfl
  | error fault => exact iff_of_false (by rintro ⟨⟩) (by rintro ⟨⟩)

/-- Binary data is found as it was put, and under no other text than the one for it. -/
theorem payload_exact : PayloadExact where
  kept d key bytes := (bytes_eq_ok_iff (get?_insert_self d key _)).mpr rfl
  read_iff d key s h bytes := by
    rw [bytes_eq_ok_iff h, Json.Value.ofBytes, Json.Value.string.injEq]
  apart d d' key key' s s' bytes h h' hbytes hbytes' := by
    rw [(bytes_eq_ok_iff h).mp hbytes, (bytes_eq_ok_iff h').mp hbytes']
  refused_iff d key s h := by
    have hread : (∃ bytes, Base64.decode s = .ok bytes) ↔ _ := Base64.exists_decode_iff
    rw [bytes_of_string h]
    cases hs : Base64.decode s with
    | ok found => exact iff_of_false (by rintro ⟨_, ⟨⟩⟩) (hread.mp ⟨found, hs⟩)
    | error fault =>
        refine iff_of_true ⟨fault, rfl⟩ (Classical.not_not.mp fun hnone => ?_)
        rcases hread.mpr hnone with ⟨found, hfound⟩
        rw [hs] at hfound
        cases hfound

end Document

end DocumentLink
