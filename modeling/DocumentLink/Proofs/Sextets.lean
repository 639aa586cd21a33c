import DocumentLink.Text.Base64

/-!
# Sextets

Reading and writing in base64 are inverse to each other.

Between bytes and characters there are numbers of six bits. Every character but the padding
stands for one, and each of them for one character, so on that side there is nothing to prove but
the table. On the other side three bytes make four sextets. What is left at the end makes two or
three with some bits to spare, and these have to be zero, or else different sextets would make
the same bytes. `Layout` says which sextets and how much padding go together.

The reader takes its text apart in another way: it sets a last group aside, reads the text before
it, and lets padding into that group only. `decodeBytes_eq_ok_iff` says that what it accepts is
sextets with their padding, laid out as they have to be, and nothing else.

## Main definitions

* `Base64.sextetsOf`: The sextets of bytes.
* `Base64.padding`: How much padding goes with so many bytes.
* `Base64.Layout`: Sextets and the padding that goes with them.
* `Base64.spelled`, `Base64.written`: A text made of sextets and padding, and its bytes.

## Theorems

* `Base64.bytesOfSextets_sextetsOf`, `Base64.sextetsOf_bytesOfSextets`: Bytes and their sextets.
* `Base64.readTail_written`, `Base64.eq_of_readTail`: What a last group holds.
* `Base64.decodeBytes_eq_ok_iff`: What is read.
* `Base64.decode_eq_ok_iff`: Bytes are read from the text that is written for them, and from no
  other.
-/

namespace DocumentLink

namespace Bytes

/-- Listing bytes from a place on puts the rest of them behind those that were listed. -/
theorem toList_loop (bytes : ByteArray) (place : Nat) (listed : List UInt8) :
    ByteArray.toList.loop bytes place listed =
      listed.reverse ++ bytes.data.toList.drop place := by
  induction place, listed using ByteArray.toList.loop.induct bytes with
  | case1 place listed hplace ih =>
      have hlisted : place < bytes.data.toList.length := hplace
      have hget : bytes.get! place = bytes.data.toList[place] :=
        getElem!_pos bytes.data place hplace
      rw [ByteArray.toList.loop, if_pos hplace, ih, List.reverse_cons, List.append_assoc,
        List.singleton_append, hget, ← List.drop_eq_getElem_cons]
  | case2 place listed hplace =>
      have hend : bytes.data.toList.length ≤ place := Nat.le_of_not_lt hplace
      rw [ByteArray.toList.loop, if_neg hplace, List.drop_of_length_le hend, List.append_nil]

/-- The bytes of a text are those of its characters. -/
theorem ofText_eq_flatMap (s : String) : ofText s = s.toList.flatMap String.utf8EncodeChar := by
  rw [ofText, ByteArray.toList, toList_loop, List.reverse_nil,
    List.nil_append, List.drop_zero, String.toUTF8_eq_toByteArray, ← String.utf8Encode_toList,
    List.utf8Encode, List.toList_data_toByteArray]

/-- Texts are told apart by their bytes. -/
theorem ofText_injective {s t : String} (h : ofText s = ofText t) : s = t := by
  rw [ofText_eq_flatMap, ofText_eq_flatMap] at h
  rw [← String.toByteArray_inj, ← String.utf8Encode_toList, ← String.utf8Encode_toList,
    List.utf8Encode, List.utf8Encode, h]

/-- Each of the first 128 characters is one byte. -/
theorem ofText_ofList {cs : List Char} (h : ∀ c ∈ cs, c.toNat < 128) :
    ofText (String.ofList cs) = cs.map fun c => UInt8.ofNat c.toNat := by
  rw [ofText_eq_flatMap, String.toList_ofList]
  induction cs with
  | nil => rfl
  | cons c rest ih =>
      rw [List.forall_mem_cons] at h
      have hchar : String.utf8EncodeChar c = [UInt8.ofNat c.toNat] := by
        have hle : c.val.toNat ≤ 0x7f := Nat.le_of_lt_succ h.1
        rw [String.utf8EncodeChar, if_pos hle]
        rfl
      rw [List.flatMap_cons, hchar, ih h.2, List.map_cons, List.singleton_append]

end Bytes

namespace Base64

/-! ## Sextets and characters -/

/-- The byte of the character for a sextet. -/
def letter (n : Nat) : UInt8 :=
  UInt8.ofNat (symbol n).toNat

/-- Every sextet has its character, among the first 128 and not the padding. -/
theorem sextet?_letter : ∀ n < 64, sextet? (letter n) = some n ∧ (symbol n).toNat < 128 := by
  decide

/-- A byte that stands for a sextet is the character for it. -/
theorem sextet?_eq_some_iff {b : UInt8} {n : Nat} : sextet? b = some n ↔ n < 64 ∧ b = letter n := by
  constructor
  · intro h
    have htable : ∀ k < 256, ∀ m ∈ sextet? (UInt8.ofNat k), m < 64 ∧ UInt8.ofNat k = letter m := by
      decide +kernel
    have hb := htable b.toNat b.toNat_lt n
    rw [UInt8.ofNat_toNat] at hb
    exact hb h
  · rintro ⟨hn, rfl⟩
    exact (sextet?_letter n hn).1

/-! ## Sextets and bytes -/

/-- The sextets of bytes. -/
def sextetsOf : Bytes → List Nat
  | a :: b :: c :: rest =>
    a.toNat / 4 :: (a.toNat % 4 * 16 + b.toNat / 16) :: (b.toNat % 16 * 4 + c.toNat / 64) ::
      c.toNat % 64 :: sextetsOf rest
  | [a, b] => [a.toNat / 4, a.toNat % 4 * 16 + b.toNat / 16, b.toNat % 16 * 4]
  | [a] => [a.toNat / 4, a.toNat % 4 * 16]
  | [] => []

/-- How much padding goes with so many bytes. -/
def padding (count : Nat) : Nat :=
  (3 - count % 3) % 3

/-- The bits that stand for nothing in a last sextet, with so much padding after it. -/
def spare (pads n : Nat) : Nat :=
  n % (1 <<< (2 * pads))

/-- Sextets and the padding that goes with them. -/
structure Layout (bits : List Nat) (pads : Nat) : Prop where
  /-- A sextet has six bits. -/
  lt : ∀ n ∈ bits, n < 64
  /-- There are two sextets at least in the last group. -/
  pads_le : pads ≤ 2
  /-- The groups are whole. -/
  whole : (bits.length + pads) % 4 = 0
  /-- The spare bits of the last sextet are zero. -/
  spare_eq : ∀ n ∈ bits.getLast?, spare pads n = 0

/-- There is one padding that goes with sextets. -/
theorem Layout.pads_eq {bits : List Nat} {pads pads' : Nat} (h : Layout bits pads)
    (h' : Layout bits pads') : pads = pads' := by
  have := h.whole
  have := h'.whole
  have := h.pads_le
  have := h'.pads_le
  omega

/-- The last of sextets is the last of those behind a group, if there are any. -/
theorem mem_getLast?_group {p q r s n : Nat} {bits : List Nat} :
    n ∈ (p :: q :: r :: s :: bits).getLast? ↔ n ∈ bits.getLast? ∨ bits = [] ∧ n = s := by
  cases bits with
  | nil => simp [eq_comm]
  | cons t bits => simp [List.getLast?_cons]

/-- Whole groups of sextets may stand in front of others. -/
theorem layout_group_iff {p q r s pads : Nat} {bits : List Nat} :
    Layout (p :: q :: r :: s :: bits) pads ↔
      (p < 64 ∧ q < 64 ∧ r < 64 ∧ s < 64) ∧ Layout bits pads := by
  constructor
  · intro h
    have hlt := h.lt
    have hwhole := h.whole
    simp only [List.forall_mem_cons] at hlt
    simp only [List.length_cons] at hwhole
    refine ⟨⟨hlt.1, hlt.2.1, hlt.2.2.1, hlt.2.2.2.1⟩, hlt.2.2.2.2, h.pads_le, by omega, ?_⟩
    exact fun n hn => h.spare_eq n (mem_getLast?_group.mpr (.inl hn))
  · rintro ⟨⟨hp, hq, hr, hs⟩, h⟩
    have hwhole := h.whole
    have hpads := h.pads_le
    refine ⟨?_, hpads, ?_, fun n hn => ?_⟩
    · simp only [List.forall_mem_cons]
      exact ⟨hp, hq, hr, hs, h.lt⟩
    · simp only [List.length_cons]
      omega
    · rcases mem_getLast?_group.mp hn with hn | ⟨rfl, rfl⟩
      · exact h.spare_eq n hn
      · -- A whole group has no padding after it, and so nothing to spare.
        rw [List.length_nil] at hwhole
        have hnone : pads = 0 := by omega
        rw [hnone]
        exact Nat.mod_one n

/-- Three bytes in front of others change nothing about the padding. -/
theorem padding_add_three (count : Nat) : padding (count + 3) = padding count := by
  rw [padding, padding, Nat.add_mod_right]

/-- The characters of sextets, with padding after them. -/
def spelled (bits : List Nat) (pads : Nat) : List Char :=
  bits.map symbol ++ List.replicate pads '='

/-- What is written for bytes is their sextets, with padding after them. -/
theorem encodeChars_eq (bytes : Bytes) :
    encodeChars bytes = spelled (sextetsOf bytes) (padding bytes.length) := by
  induction bytes using sextetsOf.induct with
  | case1 a b c rest ih =>
      have hlength : padding (a :: b :: c :: rest).length = padding rest.length :=
        padding_add_three rest.length
      rw [encodeChars, ih, hlength]
      rfl
  | case2 => rfl
  | case3 => rfl
  | case4 => rfl

/-- The sextets of bytes are laid out as they have to be. -/
theorem layout_sextetsOf (bytes : Bytes) : Layout (sextetsOf bytes) (padding bytes.length) := by
  induction bytes using sextetsOf.induct with
  | case1 a b c rest ih =>
      have hlength : padding (a :: b :: c :: rest).length = padding rest.length :=
        padding_add_three rest.length
      have ha := a.toNat_lt
      have hb := b.toNat_lt
      have hc := c.toNat_lt
      rw [sextetsOf, hlength, layout_group_iff]
      exact ⟨by omega, ih⟩
  | case2 a b =>
      have ha := a.toNat_lt
      have hb := b.toNat_lt
      have hpads : padding [a, b].length = 1 := rfl
      rw [sextetsOf, hpads]
      refine ⟨?_, by decide, by simp, ?_⟩
      · simp only [List.forall_mem_cons, List.not_mem_nil, false_implies, implies_true,
          and_true]
        omega
      · rintro _ ⟨⟩
        exact Nat.mul_mod_left _ 4
  | case3 a =>
      have ha := a.toNat_lt
      have hpads : padding [a].length = 2 := rfl
      rw [sextetsOf, hpads]
      refine ⟨?_, by decide, by simp, ?_⟩
      · simp only [List.forall_mem_cons, List.not_mem_nil, false_implies, implies_true,
          and_true]
        omega
      · rintro _ ⟨⟩
        exact Nat.mul_mod_left _ 16
  | case4 => exact ⟨fun _ h => absurd h List.not_mem_nil, by decide, rfl, by rintro _ ⟨⟩⟩

/-- A byte is the one for its number. -/
theorem ofNat_eq_of_eq {n : Nat} {b : UInt8} (h : n = b.toNat) : UInt8.ofNat n = b := by
  rw [h, UInt8.ofNat_toNat]

/-- Bytes are told from their sextets. -/
theorem bytesOfSextets_sextetsOf (bytes : Bytes) : bytesOfSextets (sextetsOf bytes) = bytes := by
  induction bytes using sextetsOf.induct with
  | case1 a b c rest ih =>
      have hb := b.toNat_lt
      have hc := c.toNat_lt
      rw [sextetsOf, bytesOfSextets, ih, ofNat_eq_of_eq (b := a) (by omega),
        ofNat_eq_of_eq (b := b) (by omega), ofNat_eq_of_eq (b := c) (by omega)]
  | case2 a b =>
      have hb := b.toNat_lt
      rw [sextetsOf, bytesOfSextets, ofNat_eq_of_eq (b := a) (by omega),
        ofNat_eq_of_eq (b := b) (by omega)]
  | case3 a => rw [sextetsOf, bytesOfSextets, ofNat_eq_of_eq (b := a) (by omega)]
  | case4 => rfl

/-- Sextets are told from their bytes, as there is nothing in the spare bits. -/
theorem sextetsOf_bytesOfSextets {bits : List Nat} {pads : Nat} (h : Layout bits pads) :
    sextetsOf (bytesOfSextets bits) = bits := by
  induction bits using bytesOfSextets.induct with
  | case1 p q r s rest ih =>
      rcases layout_group_iff.mp h with ⟨⟨hp, hq, hr, hs⟩, hrest⟩
      rw [bytesOfSextets, sextetsOf, ih hrest]
      simp only [UInt8.toNat_ofNat', List.cons.injEq, and_true]
      omega
  | case2 p q r =>
      have hlt := h.lt
      have hwhole := h.whole
      have hpads := h.pads_le
      simp only [List.forall_mem_cons] at hlt
      simp only [List.length_cons, List.length_nil] at hwhole
      obtain rfl : pads = 1 := by omega
      have hspare : r % 4 = 0 := h.spare_eq r rfl
      rw [bytesOfSextets, sextetsOf]
      simp only [UInt8.toNat_ofNat', List.cons.injEq, and_true]
      omega
  | case3 p q =>
      have hlt := h.lt
      have hwhole := h.whole
      have hpads := h.pads_le
      simp only [List.forall_mem_cons] at hlt
      simp only [List.length_cons, List.length_nil] at hwhole
      obtain rfl : pads = 2 := by omega
      have hspare : q % 16 = 0 := h.spare_eq q rfl
      rw [bytesOfSextets, sextetsOf]
      simp only [UInt8.toNat_ofNat', List.cons.injEq, and_true]
      omega
  | case4 bits hfour hthree htwo =>
      have hwhole := h.whole
      have hpads := h.pads_le
      rcases bits with _ | ⟨p, _ | ⟨q, _ | ⟨r, _ | ⟨s, rest⟩⟩⟩⟩
      · rfl
      · -- A single sextet would need three paddings.
        simp only [List.length_cons, List.length_nil] at hwhole
        omega
      · exact absurd rfl (htwo p q)
      · exact absurd rfl (hthree p q r)
      · exact absurd rfl (hfour p q r s rest)

/-- The padding that goes with sextets is that of their bytes. -/
theorem Layout.padding_eq {bits : List Nat} {pads : Nat} (h : Layout bits pads) :
    padding (bytesOfSextets bits).length = pads := by
  have hbytes := layout_sextetsOf (bytesOfSextets bits)
  rw [sextetsOf_bytesOfSextets h] at hbytes
  exact hbytes.pads_eq h

/-! ## What the reader accepts -/

/-- The padding stands for no sextet. -/
theorem letter_ne_pad {n : Nat} (h : n < 64) : letter n ≠ pad := by
  intro hpad
  have hletter := (sextet?_letter n h).1
  have hnone : sextet? pad = none := by decide
  rw [hpad, hnone] at hletter
  cases hletter

/-- Characters of sextets are read as those. -/
theorem sextets_letters {bits : List Nat} (h : ∀ n ∈ bits, n < 64) (offset : Nat) :
    sextets offset (bits.map letter) = .ok bits := by
  induction bits generalizing offset with
  | nil => rfl
  | cons n bits ih =>
      rw [List.forall_mem_cons] at h
      rw [List.map_cons, sextets, (sextet?_letter n h.1).1, ih h.2]
      rfl

/-- Nothing else is read as sextets. -/
theorem eq_of_sextets {offset : Nat} {text : Bytes} {bits : List Nat}
    (h : sextets offset text = .ok bits) : (∀ n ∈ bits, n < 64) ∧ text = bits.map letter := by
  induction text generalizing offset bits with
  | nil =>
      cases h
      exact ⟨fun _ hn => absurd hn List.not_mem_nil, rfl⟩
  | cons b text ih =>
      rw [sextets] at h
      cases hb : sextet? b with
      | none =>
          rw [hb] at h
          cases h
      | some n =>
          rw [hb] at h
          cases hrest : sextets (offset + 1) text with
          | error fault =>
              rw [hrest] at h
              cases h
          | ok bits' =>
              rw [hrest] at h
              cases h
              rcases ih hrest with ⟨hbits, rfl⟩
              rcases sextet?_eq_some_iff.mp hb with ⟨hn, rfl⟩
              exact ⟨List.forall_mem_cons.mpr ⟨hn, hbits⟩, rfl⟩

/-- Characters of sextets and padding are read as those, if the padding does not come too
    early. -/
theorem readTail_written {bits : List Nat} {pads : Nat} (h : ∀ n ∈ bits, n < 64)
    (offset place : Nat) (hplace : pads ≠ 0 → 2 ≤ place + bits.length) :
    readTail offset place (bits.map letter ++ List.replicate pads pad) = .ok ⟨bits, pads⟩ := by
  induction bits generalizing place with
  | nil =>
      cases pads with
      | zero => rfl
      | succ pads =>
          have hlate : ¬place < 2 := Nat.not_lt.mpr (hplace (Nat.succ_ne_zero pads))
          rw [List.map_nil, List.nil_append, List.replicate_succ, readTail, if_pos rfl,
            if_neg hlate, if_pos (by simp), List.length_replicate]
  | cons n bits ih =>
      rw [List.forall_mem_cons] at h
      rw [List.length_cons] at hplace
      rw [List.map_cons, List.cons_append, readTail, if_neg (letter_ne_pad h.1),
        (sextet?_letter n h.1).1, ih h.2 (place + 1) (by omega)]
      rfl

/-- Nothing else is read as a last group. -/
theorem eq_of_readTail {offset place : Nat} {text : Bytes} {tail : Tail}
    (h : readTail offset place text = .ok tail) : (∀ n ∈ tail.bits, n < 64) ∧
      text = tail.bits.map letter ++ List.replicate tail.pads pad := by
  induction text generalizing place tail with
  | nil =>
      cases h
      exact ⟨fun _ hn => absurd hn List.not_mem_nil, rfl⟩
  | cons b text ih =>
      rw [readTail] at h
      split at h
      next hpad =>
        -- From the first padding on there has to be nothing else.
        split at h
        next => cases h
        next =>
          split at h
          next hall =>
            cases h
            refine ⟨fun _ hn => absurd hn List.not_mem_nil, ?_⟩
            rw [List.map_nil, List.nil_append, List.replicate_succ, hpad, List.cons.injEq]
            refine ⟨rfl, List.eq_replicate_iff.mpr ⟨rfl, fun c hc => ?_⟩⟩
            exact of_decide_eq_true (List.all_eq_true.mp hall c hc)
          next => cases h
      next =>
        split at h
        next => cases h
        next n hn =>
          cases hrest : readTail offset (place + 1) text with
          | error fault =>
              rw [hrest] at h
              cases h
          | ok tail' =>
              rw [hrest] at h
              cases h
              rcases ih hrest with ⟨hbits, rfl⟩
              rcases sextet?_eq_some_iff.mp hn with ⟨hlt, rfl⟩
              exact ⟨List.forall_mem_cons.mpr ⟨hlt, hbits⟩, rfl⟩

/-- The length of the text before the last group. -/
def headLength (text : Bytes) : Nat :=
  text.length - tailLength text.length

/-- A text is read if it has no stray end, its two parts are read, and the last group is as it has
    to be. -/
theorem decodeBytes_eq_ok_iff_parts {text bytes : Bytes} : decodeBytes text = .ok bytes ↔
    strayEnd? text = none ∧ ∃ head tail, sextets 0 (text.take (headLength text)) = .ok head ∧
      readTail (headLength text) 0 (text.drop (headLength text)) = .ok tail ∧
      (text = [] ∨ 2 ≤ tail.bits.length) ∧ (tail.bits.length + tail.pads) % 4 = 0 ∧
      spareBits tail.bits = 0 ∧ bytesOfSextets (head ++ tail.bits) = bytes := by
  simp only [decodeBytes, headLength, bind, Except.bind, pure, Except.pure, throw, throwThe,
    MonadExceptOf.throw]
  cases strayEnd? text with
  | some fault => simp only [reduceCtorEq, false_and]
  | none =>
      cases sextets 0 (text.take (text.length - tailLength text.length)) with
      | error fault => simp only [reduceCtorEq, false_and, exists_false, and_false]
      | ok head =>
          cases readTail (text.length - tailLength text.length) 0
              (text.drop (text.length - tailLength text.length)) with
          | error fault => simp only [reduceCtorEq, false_and, exists_false, and_false]
          | ok tail =>
              have hshort : (!text.isEmpty && decide (tail.bits.length < 2)) = true ↔
                  ¬(text = [] ∨ 2 ≤ tail.bits.length) := by
                rw [Bool.and_eq_true, Bool.not_eq_true', List.isEmpty_eq_false_iff,
                  decide_eq_true_eq, not_or, Nat.not_le]
              -- What is left is what the reader asks of the last group, in its order.
              simp only [hshort, true_and]
              constructor
              · intro h
                split at h
                next => cases h
                next hlong =>
                  split at h
                  next => cases h
                  next hwhole =>
                    split at h
                    next => cases h
                    next hspare =>
                      exact ⟨head, tail, rfl, rfl, Decidable.not_not.mp hlong,
                        Decidable.not_not.mp hwhole, Decidable.not_not.mp hspare, Except.ok.inj h⟩
              · rintro ⟨_, _, ⟨⟩, ⟨⟩, hlong, hwhole, hspare, rfl⟩
                rw [if_neg (not_not_intro hlong), if_neg (not_not_intro hwhole),
                  if_neg (not_not_intro hspare)]

/-- The bytes of a text made of sextets and padding. -/
def written (bits : List Nat) (pads : Nat) : Bytes :=
  bits.map letter ++ List.replicate pads pad

theorem length_written (bits : List Nat) (pads : Nat) :
    (written bits pads).length = bits.length + pads := by
  rw [written, List.length_append, List.length_map, List.length_replicate]

/-- The reader looks at the spare bits of a last group as it has to. -/
theorem spareBits_eq {bits : List Nat} {pads n : Nat} (hwhole : bits.length + pads = 4)
    (hlong : 2 ≤ bits.length) (hn : n ∈ bits.getLast?) : spareBits bits = spare pads n := by
  rcases bits with _ | ⟨a, _ | ⟨b, _ | ⟨c, _ | ⟨d, _ | ⟨e, rest⟩⟩⟩⟩⟩ <;>
    simp only [List.length_cons, List.length_nil] at hwhole hlong
  · omega
  · omega
  · obtain rfl : pads = 2 := by omega
    cases hn
    rfl
  · obtain rfl : pads = 1 := by omega
    cases hn
    rfl
  · obtain rfl : pads = 0 := by omega
    exact (Nat.mod_one n).symm
  · omega

/-- The length of a last group. -/
theorem tailLength_le (length : Nat) : tailLength length ≤ length ∧ tailLength length ≤ 4 ∧
    (tailLength length % 4 = 0 ↔ length % 4 = 0) := by
  rw [tailLength]
  split <;> omega

/-- A text that is read is made of sextets and padding that are laid out as they have to be. -/
theorem layout_of_decodeBytes {text bytes : Bytes} (hne : text ≠ [])
    (h : decodeBytes text = .ok bytes) :
    ∃ bits pads, Layout bits pads ∧ text = written bits pads ∧ bytesOfSextets bits = bytes := by
  rcases decodeBytes_eq_ok_iff_parts.mp h with
    ⟨-, head, ⟨bits, pads⟩, hhead, htail, hlong, hwhole, hspare, rfl⟩
  rcases eq_of_sextets hhead with ⟨hlt, hfront⟩
  rcases eq_of_readTail htail with ⟨hlt', hback⟩
  have htext : text = written (head ++ bits) pads := by
    rw [written, List.map_append, List.append_assoc, ← hfront, ← hback, List.take_append_drop]
  have hlong := hlong.resolve_left hne
  -- The last group has four places, so the whole text has whole groups.
  have hlength := congrArg List.length htext
  have hgroup := congrArg List.length hback
  rw [length_written] at hlength
  rw [List.length_append, List.length_map, List.length_replicate, List.length_drop,
    headLength] at hgroup
  have htailLength := tailLength_le text.length
  dsimp only at hlong hwhole hspare hgroup
  have hfour : bits.length + pads = 4 := by omega
  refine ⟨head ++ bits, pads, ⟨fun n hn => ?_, by omega, by omega, fun n hn => ?_⟩, htext, rfl⟩
  · exact (List.mem_append.mp hn).elim (hlt n) (hlt' n)
  · have hbits : bits ≠ [] := List.length_pos_iff.mp (by omega)
    rw [List.getLast?_append, List.getLast?_eq_some_getLast hbits, Option.some_or,
      ← List.getLast?_eq_some_getLast hbits] at hn
    rw [← spareBits_eq hfour hlong hn, hspare]

/-- Sextets end in a group of four places, padding counted. -/
theorem Layout.last_group {bits : List Nat} {pads : Nat} (h : Layout bits pads) (hne : bits ≠ []) :
    ∃ front last, bits = front ++ last ∧ last.length + pads = 4 ∧ 2 ≤ last.length := by
  have hwhole := h.whole
  have hpads := h.pads_le
  have hpos := List.length_pos_iff.mpr hne
  refine ⟨bits.take (bits.length + pads - 4), bits.drop (bits.length + pads - 4),
    (List.take_append_drop _ _).symm, ?_, ?_⟩ <;>
  · rw [List.length_drop]
    omega

/-- A text with whole groups has no stray end. -/
theorem strayEnd?_eq_none {text : Bytes} (h : text.length % 4 = 0) : strayEnd? text = none := by
  have hfour : decide (text.length % 4 = 1) = false := decide_eq_false (by omega)
  unfold strayEnd?
  split
  · rw [hfour, Bool.false_and, Bool.false_and, if_neg Bool.false_ne_true]
  · rfl

/-- What is laid out as it has to be is read. -/
theorem decodeBytes_written {bits : List Nat} {pads : Nat} (hne : bits ≠ [])
    (h : Layout bits pads) : decodeBytes (written bits pads) = .ok (bytesOfSextets bits) := by
  rcases h.last_group hne with ⟨front, last, rfl, hfour, hlong⟩
  have hwhole := h.whole
  rw [← length_written] at hwhole
  have htext : written (front ++ last) pads = front.map letter ++ written last pads := by
    rw [written, written, List.map_append, List.append_assoc]
  have hhead : headLength (written (front ++ last) pads) = (front.map letter).length := by
    have hlength := congrArg List.length htext
    rw [List.length_append, length_written last] at hlength
    rw [headLength, tailLength]
    split <;> omega
  have hlt := h.lt
  rw [List.forall_mem_append] at hlt
  refine decodeBytes_eq_ok_iff_parts.mpr ⟨strayEnd?_eq_none hwhole, front, ⟨last, pads⟩,
    ?_, ?_, .inr hlong, by dsimp only; omega, ?_, rfl⟩
  · rw [hhead, htext, List.take_left]
    exact sextets_letters hlt.1 0
  · rw [hhead, htext, List.drop_left]
    exact readTail_written hlt.2 _ 0 fun _ => by omega
  · have hlast : last ≠ [] := List.length_pos_iff.mp (by omega)
    have hmem := List.getLast?_eq_some_getLast hlast
    have hspare := h.spare_eq (last.getLast hlast)
    rw [List.getLast?_append, hmem, Option.some_or] at hspare
    rw [← spareBits_eq hfour hlong hmem] at hspare
    exact hspare rfl

/-- A text is read if it is made of sextets and padding that are laid out as they have to be. -/
theorem decodeBytes_eq_ok_iff {text bytes : Bytes} : decodeBytes text = .ok bytes ↔
    ∃ bits pads, Layout bits pads ∧ text = written bits pads ∧ bytesOfSextets bits = bytes := by
  constructor
  · intro h
    -- An empty text is the only one whose last group may be empty.
    by_cases hne : text = []
    · subst hne
      cases h
      exact ⟨[], 0, layout_sextetsOf [], rfl, rfl⟩
    · exact layout_of_decodeBytes hne h
  · rintro ⟨bits, pads, hlayout, rfl, rfl⟩
    by_cases hne : bits = []
    · subst hne
      rw [hlayout.pads_eq (layout_sextetsOf [])]
      rfl
    · exact decodeBytes_written hne hlayout

/-- What is written for bytes consists of one-byte characters. -/
theorem ofText_encode (bytes : Bytes) :
    Bytes.ofText (encode bytes) = written (sextetsOf bytes) (padding bytes.length) := by
  have hascii : ∀ c ∈ encodeChars bytes, c.toNat < 128 := by
    intro c hc
    rw [encodeChars_eq, spelled, List.mem_append, List.mem_map, List.mem_replicate] at hc
    rcases hc with ⟨n, hn, rfl⟩ | ⟨-, rfl⟩
    · exact (sextet?_letter n ((layout_sextetsOf bytes).lt n hn)).2
    · decide
  rw [encode, Bytes.ofText_ofList hascii, encodeChars_eq, spelled, List.map_append, List.map_map,
    List.map_replicate]
  rfl

/-- Bytes are read from the text that is written for them, and from no other. -/
theorem decode_eq_ok_iff {text : String} {bytes : Bytes} :
    decode text = .ok bytes ↔ text = encode bytes := by
  rw [decode, decodeBytes_eq_ok_iff]
  constructor
  · rintro ⟨bits, pads, hlayout, htext, rfl⟩
    refine Bytes.ofText_injective ?_
    rw [ofText_encode, sextetsOf_bytesOfSextets hlayout, hlayout.padding_eq, htext]
  · rintro rfl
    exact ⟨sextetsOf bytes, padding bytes.length, layout_sextetsOf bytes, ofText_encode bytes,
      bytesOfSextets_sextetsOf bytes⟩

end Base64

end DocumentLink
