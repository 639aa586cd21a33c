import DocumentLink.Cluster.ServerSet

/-!
# Lists of Hosts

What becomes of a list of addresses on its way into a server set.

Discovery puts the addresses of a lookup in order before it compares them with
those it knows, so that the comparison is one of sets: two lists are put into
the same order exactly if they have the same members. The order is that of the
bytes of the hosts, although it is decided by comparing code points. That the
two agree is a property of the encoding: its first byte tells how many follow,
and more of them belong to a later code point.

A server set leaves out repeats in a way of its own, without sorting, and keeps
what servers it can. Neither shows in the addresses of the set: they are the
addresses it was given, each at its first place.

## Main definitions

* `Text.utf8`: The bytes of a text.
* `Address.Before`: One address comes before another, by host bytes and port.
* `Address.keep`: Put an address behind others, unless it is there.
* `ServerSet.addresses`: The addresses of the servers there are.

## Theorems

* `Text.utf8_lt_iff`: Texts are in the order of their bytes.
* `Address.pairwise_ordered`: Ordered addresses are sorted, each once.
* `Address.ordered_eq_ordered_iff`: Ordering two lists gives one list exactly if
  they have the same members.
* `Address.nodup_distinct`, `Address.mem_distinct`: Leaving out repeats.
* `ServerSet.addresses_update`: The addresses of an updated set.
-/

namespace DocumentLink

namespace Text

/-- The bytes of a text. -/
def utf8 (s : String) : List UInt8 :=
  s.toUTF8.data.toList

/-- The bytes of a text are those of its characters. -/
theorem utf8_eq_flatMap (s : String) : utf8 s = s.toList.flatMap String.utf8EncodeChar := by
  rw [utf8, String.toUTF8_eq_toByteArray, ← String.utf8Encode_toList, List.utf8Encode,
    List.toList_data_toByteArray]

/-- The bytes of a character come before those of a later one, whatever follows either. -/
theorem utf8EncodeChar_append_lt {c d : Char} (h : c < d) (xs ys : List UInt8) :
    String.utf8EncodeChar c ++ xs < String.utf8EncodeChar d ++ ys := by
  have hlt : c.val.toNat < d.val.toNat := UInt32.lt_iff_toNat_lt.mp h
  have hlast : d.val.toNat < 0x110000 := by
    rcases d.valid with hv | hv
    · have : d.val.toNat < 0xd800 := hv
      omega
    · exact hv.2
  simp only [String.utf8EncodeChar]
  generalize c.val.toNat = v at *
  generalize d.val.toNat = w at *
  -- One case for each pair of lengths. Of one length, the bytes are digits of the two numbers.
  repeat' split
  all_goals
    simp only [List.cons_append, List.nil_append, List.cons_lt_cons_iff, UInt8.lt_iff_toNat_lt,
      ← UInt8.toNat_inj, UInt8.toNat_ofNat', Nat.reducePow]
    simp (disch := omega) only [Nat.mod_eq_of_lt]
    omega

/-- No character is written without bytes. -/
theorem nil_lt_utf8EncodeChar_append (c : Char) (xs : List UInt8) :
    [] < String.utf8EncodeChar c ++ xs := by
  have hlength : 0 < (String.utf8EncodeChar c).length := by
    rw [String.length_utf8EncodeChar]
    exact Char.utf8Size_pos c
  cases hbytes : String.utf8EncodeChar c with
  | nil => simp [hbytes] at hlength
  | cons b rest => exact List.nil_lt_cons _ _

/-- The bytes of a text come before those of a later one. -/
theorem flatMap_utf8EncodeChar_lt {cs ds : List Char} (h : cs < ds) :
    cs.flatMap String.utf8EncodeChar < ds.flatMap String.utf8EncodeChar := by
  induction cs generalizing ds with
  | nil =>
      cases ds with
      | nil => exact absurd h (List.lt_irrefl _)
      | cons d ds =>
          rw [List.flatMap_nil, List.flatMap_cons]
          exact nil_lt_utf8EncodeChar_append d _
  | cons c cs ih =>
      cases ds with
      | nil => exact absurd h (List.not_lt_nil _)
      | cons d ds =>
          rw [List.flatMap_cons, List.flatMap_cons]
          rcases List.cons_lt_cons_iff.mp h with hlt | ⟨rfl, hlt⟩
          · exact utf8EncodeChar_append_lt hlt _ _
          · exact List.append_left_lt (ih hlt)

/-- Texts are in the order of their bytes. -/
theorem utf8_lt_iff {s t : String} : utf8 s < utf8 t ↔ s < t := by
  have forward : ∀ {s t : String}, s < t → utf8 s < utf8 t := by
    intro s t h
    rw [utf8_eq_flatMap, utf8_eq_flatMap]
    exact flatMap_utf8EncodeChar_lt h
  refine ⟨fun hbytes => ?_, forward⟩
  by_cases h : s < t
  · exact h
  · -- The other order of the texts is the other order of the bytes.
    by_cases hne : s = t
    · rw [hne] at hbytes
      exact absurd hbytes (List.lt_irrefl _)
    · have hle : t ≤ s := String.not_lt.mp h
      have hlt : t < s := by
        by_cases hts : t < s
        · exact hts
        · exact absurd (String.le_antisymm (String.not_lt.mp hts) hle) hne
      exact absurd hbytes (List.lt_asymm (forward hlt))

end Text

namespace Address

/-- One address comes before another: by the bytes of the hosts, and then by port. -/
def Before (a b : Address) : Prop :=
  Text.utf8 a.host < Text.utf8 b.host ∨ a.host = b.host ∧ a.port < b.port

instance (a b : Address) : Decidable (a.Before b) :=
  inferInstanceAs (Decidable (_ ∨ _))

/-- No address comes before itself. -/
theorem Before.irrefl (a : Address) : ¬a.Before a := by
  rintro (h | ⟨-, h⟩)
  · exact List.lt_irrefl _ h
  · exact UInt16.lt_irrefl _ h

/-- What comes before something comes before what that comes before. -/
theorem Before.trans {a b c : Address} (hab : a.Before b) (hbc : b.Before c) : a.Before c := by
  rcases hab with hab | ⟨hhost, hab⟩ <;> rcases hbc with hbc | ⟨hhost', hbc⟩
  · exact .inl (List.lt_trans hab hbc)
  · exact .inl (hhost' ▸ hab)
  · exact .inl (hhost ▸ hbc)
  · exact .inr ⟨hhost.trans hhost', UInt16.lt_trans hab hbc⟩

/-- The order of addresses is that of bytes and ports. -/
theorem le_iff {a b : Address} : le a b = true ↔ a = b ∨ a.Before b := by
  rcases a with ⟨host, port⟩
  rcases b with ⟨host', port'⟩
  unfold le Before
  by_cases hhost : host = host'
  · have hirrefl : ¬Text.utf8 host < Text.utf8 host := List.lt_irrefl _
    simp only [← hhost, if_true, decide_eq_true_eq, true_and, mk.injEq, hirrefl, false_or]
    exact UInt16.le_iff_lt_or_eq.trans or_comm
  · simp only [hhost, if_false, decide_eq_true_eq, Text.utf8_lt_iff, mk.injEq, false_and, or_false,
      false_or]

theorem le_trans (a b c : Address) (hab : le a b = true) (hbc : le b c = true) :
    le a c = true := by
  rw [le_iff] at hab hbc ⊢
  rcases hab with rfl | hab
  · exact hbc
  · rcases hbc with rfl | hbc
    · exact .inr hab
    · exact .inr (hab.trans hbc)

theorem le_total (a b : Address) : (le a b || le b a) = true := by
  rcases a with ⟨host, port⟩
  rcases b with ⟨host', port'⟩
  simp only [Bool.or_eq_true]
  unfold le
  by_cases hhost : host = host'
  · simp only [hhost, if_true, decide_eq_true_eq]
    exact UInt16.le_total port port'
  · simp only [hhost, Ne.symm hhost, if_false, decide_eq_true_eq]
    by_cases hlt : host < host'
    · exact .inl hlt
    · by_cases hgt : host' < host
      · exact .inr hgt
      · exact absurd (String.le_antisymm (String.not_lt.mp hgt) (String.not_lt.mp hlt)) hhost

/-- Leaving out repeats keeps the members. -/
@[simp] theorem mem_dropRepeats {a : Address} {as : List Address} :
    a ∈ dropRepeats as ↔ a ∈ as := by
  fun_induction dropRepeats as with
  | case1 => exact Iff.rfl
  | case2 => exact Iff.rfl
  -- Of two in a row that are the same, one is left out.
  | case3 b rest ih => rw [ih]; simp
  | case4 b c rest hne ih => rw [List.mem_cons, List.mem_cons, ih]

/-- Leaving out repeats of a sorted list leaves each member once. -/
theorem pairwise_dropRepeats {as : List Address} (h : as.Pairwise fun a b => le a b = true) :
    (dropRepeats as).Pairwise Before := by
  fun_induction dropRepeats as with
  | case1 => exact .nil
  | case2 a => exact List.pairwise_singleton Before a
  | case3 b rest ih => exact ih h.tail
  | case4 a b rest hne ih =>
      obtain ⟨hfirst, hrest⟩ := List.pairwise_cons.mp h
      refine List.pairwise_cons.mpr ⟨fun c hc => ?_, ih hrest⟩
      rw [mem_dropRepeats] at hc
      have hab : a.Before b := (le_iff.mp (hfirst b List.mem_cons_self)).resolve_left hne
      -- What comes later is the second member or comes after it.
      rcases List.mem_cons.mp hc with rfl | hc
      · exact hab
      · rcases le_iff.mp (List.rel_of_pairwise_cons hrest hc) with rfl | hbc
        · exact hab
        · exact hab.trans hbc

/-- Ordering keeps the members. -/
@[simp] theorem mem_ordered {a : Address} {as : List Address} : a ∈ ordered as ↔ a ∈ as := by
  rw [ordered, mem_dropRepeats, List.mem_mergeSort]

/-- Ordered addresses are sorted, each once. -/
theorem pairwise_ordered (as : List Address) : (ordered as).Pairwise Before :=
  pairwise_dropRepeats (List.pairwise_mergeSort le_trans le_total as)

/-- Sorted addresses are different. -/
theorem nodup_of_pairwise {as : List Address} (h : as.Pairwise Before) : as.Nodup := by
  apply h.imp
  intro a b hab heq
  exact Before.irrefl a (heq ▸ hab)

theorem nodup_ordered (as : List Address) : (ordered as).Nodup :=
  nodup_of_pairwise (pairwise_ordered as)

/-- There is one sorted list of any members. -/
theorem eq_of_pairwise {as bs : List Address} (has : as.Pairwise Before)
    (hbs : bs.Pairwise Before) (h : ∀ a, a ∈ as ↔ a ∈ bs) : as = bs := by
  have hperm : as.Perm bs :=
    (List.perm_ext_iff_of_nodup (nodup_of_pairwise has) (nodup_of_pairwise hbs)).mpr h
  -- No two different members could change places.
  refine hperm.eq_of_pairwise ?_ has hbs
  intro a b _ _ hab hba
  exact absurd (hab.trans hba) (Before.irrefl a)

/-- Ordering two lists gives one list exactly if they have the same members. -/
theorem ordered_eq_ordered_iff {as bs : List Address} :
    ordered as = ordered bs ↔ ∀ a, a ∈ as ↔ a ∈ bs := by
  constructor
  · intro h a
    rw [← mem_ordered, h, mem_ordered]
  · intro h
    refine eq_of_pairwise (pairwise_ordered as) (pairwise_ordered bs) fun a => ?_
    rw [mem_ordered, mem_ordered, h]

@[simp] theorem ordered_eq_nil_iff {as : List Address} : ordered as = [] ↔ as = [] := by
  simp only [List.eq_nil_iff_forall_not_mem, mem_ordered]

/-- Put an address behind others, unless it is there. -/
def keep (kept : List Address) (a : Address) : List Address :=
  if a ∈ kept then kept else kept ++ [a]

theorem distinct_eq_foldl (as : List Address) : distinct as = as.foldl keep [] := rfl

theorem mem_keep {a b : Address} {kept : List Address} : b ∈ keep kept a ↔ b ∈ kept ∨ b = a := by
  unfold keep
  split
  next ha => exact ⟨.inl, fun h => h.elim id fun heq => heq ▸ ha⟩
  next => rw [List.mem_append, List.mem_singleton]

theorem nodup_keep {a : Address} {kept : List Address} (h : kept.Nodup) : (keep kept a).Nodup := by
  unfold keep
  split
  next => exact h
  next ha =>
    refine List.nodup_append.mpr ⟨h, List.pairwise_singleton _ a, fun b hb c hc heq => ha ?_⟩
    rwa [← List.mem_singleton.mp hc, ← heq]

theorem mem_foldl_keep {a : Address} {as kept : List Address} :
    a ∈ as.foldl keep kept ↔ a ∈ kept ∨ a ∈ as := by
  induction as generalizing kept with
  | nil => rw [List.foldl_nil, or_iff_left List.not_mem_nil]
  | cons b as ih => rw [List.foldl_cons, ih, mem_keep, List.mem_cons, or_assoc]

theorem nodup_foldl_keep {as kept : List Address} (h : kept.Nodup) :
    (as.foldl keep kept).Nodup := by
  induction as generalizing kept with
  | nil => exact h
  | cons a as ih => exact ih (nodup_keep h)

theorem foldl_keep_of_nodup {as kept : List Address} (h : (kept ++ as).Nodup) :
    as.foldl keep kept = kept ++ as := by
  induction as generalizing kept with
  | nil => rw [List.foldl_nil, List.append_nil]
  | cons a as ih =>
      have ha : a ∉ kept := fun hmem =>
        (List.nodup_append.mp h).2.2 a hmem a List.mem_cons_self rfl
      have hcons : kept ++ a :: as = kept ++ [a] ++ as := by
        rw [List.append_assoc, List.singleton_append]
      rw [List.foldl_cons, keep, if_neg ha, hcons]
      exact ih (hcons ▸ h)

@[simp] theorem mem_distinct {a : Address} {as : List Address} : a ∈ distinct as ↔ a ∈ as := by
  rw [distinct_eq_foldl, mem_foldl_keep, or_iff_right List.not_mem_nil]

theorem nodup_distinct (as : List Address) : (distinct as).Nodup :=
  nodup_foldl_keep List.nodup_nil

/-- Where nothing is repeated, nothing is left out. -/
theorem distinct_of_nodup {as : List Address} (h : as.Nodup) : distinct as = as :=
  foldl_keep_of_nodup h

/-- Addresses put behind others are those that are not there, without their later repeats. -/
theorem foldl_keep_eq (as kept : List Address) :
    as.foldl keep kept = kept ++ (as.filter fun a => a ∉ kept).eraseDups := by
  induction as generalizing kept with
  | nil => rw [List.foldl_nil, List.filter_nil, List.eraseDups_nil, List.append_nil]
  | cons a as ih =>
      rw [List.foldl_cons, ih, keep]
      by_cases ha : a ∈ kept
      · rw [if_pos ha, List.filter_cons_of_neg (by simpa using ha)]
      · -- What is left out from here on is what was left out before, and the new address.
        have hrest : (as.filter fun b => b ∉ kept ++ [a]) =
            (as.filter fun b => b ∉ kept).filter fun b => !b == a := by
          rw [List.filter_filter]
          refine List.filter_congr fun b _ => ?_
          by_cases hb : b = a <;> simp [hb]
        rw [if_neg ha, List.filter_cons_of_pos (by simpa using ha), List.eraseDups_cons, hrest,
          List.append_assoc, List.singleton_append]

/-- Keeping each address at its first place leaves out its later repeats. -/
theorem distinct_eq_eraseDups (as : List Address) : distinct as = as.eraseDups := by
  have hall : (as.filter fun a => a ∉ ([] : List Address)) = as :=
    List.filter_eq_self.mpr fun a _ => decide_eq_true List.not_mem_nil
  rw [distinct_eq_foldl, foldl_keep_eq, List.nil_append, hall]

end Address

namespace ServerSet

/-- The addresses of the servers there are. -/
def addresses (set : ServerSet) : List Address :=
  set.servers.map Server.address

@[simp] theorem addresses_eq_nil_iff {set : ServerSet} : set.addresses = [] ↔ set.servers = [] :=
  List.map_eq_nil_iff

/-- A server that is looked for by its address has that address. -/
theorem address_of_server? {set : ServerSet} {address : Address} {server : Server}
    (h : set.server? address = some server) : server.address = address := by
  have hfound := List.find?_some h
  simpa using hfound

/-- Whether a server is kept or made, it is one for the address. -/
theorem place_addresses (set : ServerSet) (placed : List Server × Nat) (address : Address) :
    (set.place placed address).1.map Server.address =
      placed.1.map Server.address ++ [address] := by
  unfold place
  split
  next server hserver =>
    rw [List.map_append, List.map_singleton, address_of_server? hserver]
  next => rw [List.map_append, List.map_singleton]; rfl

theorem foldl_place_addresses (set : ServerSet) (hosts : List Address)
    (placed : List Server × Nat) :
    (hosts.foldl set.place placed).1.map Server.address =
      placed.1.map Server.address ++ hosts := by
  induction hosts generalizing placed with
  | nil => rw [List.foldl_nil, List.append_nil]
  | cons host hosts ih =>
      rw [List.foldl_cons, ih, place_addresses, List.append_assoc, List.singleton_append]

/-- The addresses of an updated set are those it was given, each at its first place. -/
@[simp] theorem addresses_update (set : ServerSet) (hosts : List Address) :
    (set.update hosts).addresses = Address.distinct hosts :=
  foldl_place_addresses set (Address.distinct hosts) ([], set.created)

@[simp] theorem addresses_resolve (set : ServerSet) (hosts : List Address) :
    (set.resolve hosts).addresses = Address.distinct hosts :=
  addresses_update _ hosts

@[simp] theorem failure_resolve (set : ServerSet) (hosts : List Address) :
    (set.resolve hosts).failure = none := rfl

end ServerSet

end DocumentLink
