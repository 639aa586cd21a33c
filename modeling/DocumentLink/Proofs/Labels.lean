import DocumentLink.Proofs.Lookups
import Mathlib.Data.List.DropRight

/-!
# Domains by Labels

What the check of looked-up hosts means for the names themselves.

A name is a list of labels with dots between them, and a domain contains the names that end in
its labels. The check does not look at labels. It asks whether a text ends with a dot and
another text, and counts nothing. That comes to the same only because the dot is part of what
is asked for: a name that merely ends in the same characters as the domain does not end in the
same labels, and the domain itself has no label in front.

Empty labels count as labels. They come from dots in a row and from a dot at either end, and
nothing here depends on there being none. Dots at the end of the host that is looked up have
been trimmed before.

## Main definitions

* `Discovery.labels`: The labels of a name.
* `Discovery.parentLabels`: The labels of the domain that a host is looked up in.
* `Discovery.LabelExact`: The check of hosts, said of labels.

## Theorems

* `Discovery.suffix_iff_labels`: Ending with a dot and a text is ending in its labels, and
  having one more.
* `Discovery.below_iff_labels`: The addresses below the domain of a host.
* `Discovery.validate_label_exact`: Which hosts are accepted, and what that depends on.
-/

namespace DocumentLink

namespace Discovery

/-- The labels of a name: what stands between its dots. -/
def labels (host : String) : List (List Char) :=
  host.toList.splitOn '.'

/-- The labels of the domain that a host is looked up in: all but the first one of the host
    in its canonical form. -/
def parentLabels (srvHost : String) : List (List Char) :=
  (labels (canonicalHost srvHost)).tail

/-- There is a dot in a name that has more labels than one. -/
theorem one_lt_length_splitOn_iff {cs : List Char} :
    1 < (cs.splitOn '.').length ↔ '.' ∈ cs := by
  constructor
  · intro hmany
    by_contra hnone
    rw [List.splitOn_eq_singleton hnone] at hmany
    exact Nat.lt_irrefl 1 hmany
  · intro hdot
    rcases List.append_of_mem hdot with ⟨front, back, rfl⟩
    have hfront := List.length_pos_iff.mpr (List.splitOn_ne_nil '.' front)
    have hback := List.length_pos_iff.mpr (List.splitOn_ne_nil '.' back)
    rw [List.splitOn_append_cons_self, List.length_append]
    omega

/-- Labels with dots between them, some in front of others. -/
theorem intercalate_append {front back : List (List Char)} (hfront : front ≠ [])
    (hback : back ≠ []) :
    ['.'].intercalate (front ++ back) =
      ['.'].intercalate front ++ '.' :: ['.'].intercalate back := by
  induction front with
  | nil => exact absurd rfl hfront
  | cons label front ih =>
      cases front with
      | nil =>
          rw [List.singleton_append, List.intercalate_cons_of_ne_nil hback,
            List.intercalate_singleton, List.append_assoc, List.singleton_append]
      | cons next front =>
          have hne : (next :: front) ++ back ≠ [] := List.cons_ne_nil _ _
          rw [List.cons_append, List.intercalate_cons_of_ne_nil hne,
            List.intercalate_cons_of_ne_nil (List.cons_ne_nil _ _), ih (List.cons_ne_nil _ _),
            List.append_assoc, List.append_assoc, List.append_assoc]

/-- Ending with a dot and a text is ending in the labels of the text, with a label more. -/
theorem suffix_iff_labels {domain host : List Char} :
    ('.' :: domain) <:+ host ↔
      (domain.splitOn '.').length < (host.splitOn '.').length ∧
        (host.splitOn '.').rtake (domain.splitOn '.').length = domain.splitOn '.' := by
  constructor
  · rintro ⟨front, rfl⟩
    have hfront := List.length_pos_iff.mpr (List.splitOn_ne_nil '.' front)
    rw [List.splitOn_append_cons_self, List.rtake, List.length_append, Nat.add_sub_cancel,
      List.drop_left]
    exact ⟨by omega, rfl⟩
  · rintro ⟨hlength, hlast⟩
    -- What is in front of the labels of the domain is not empty.
    have hparts := List.take_append_drop
      ((host.splitOn '.').length - (domain.splitOn '.').length) (host.splitOn '.')
    rw [← List.rtake, hlast] at hparts
    have hfront : (host.splitOn '.').take
        ((host.splitOn '.').length - (domain.splitOn '.').length) ≠ [] := by
      rw [← List.length_pos_iff, List.length_take]
      omega
    -- Its labels with dots between them are the host again.
    have hhost : ['.'].intercalate (host.splitOn '.') = host := List.intercalate_splitOn '.'
    rw [← hparts, intercalate_append hfront (List.splitOn_ne_nil '.' domain),
      List.intercalate_splitOn] at hhost
    exact ⟨_, hhost⟩

/-- A name has a label. -/
theorem labels_ne_nil (host : String) : labels host ≠ [] :=
  List.splitOn_ne_nil '.' host.toList

/-- The labels of a name that starts with a label, and a dot behind it. -/
theorem labels_eq_cons {host : String} {label domain : List Char}
    (hhost : host.toList = label ++ '.' :: domain) (hlabel : '.' ∉ label) :
    labels host = label :: domain.splitOn '.' := by
  rw [labels, hhost, List.splitOn_append_cons_self_of_not_mem hlabel]

/-- A name without a dot has no label but the first. -/
theorem tail_labels_eq_nil {host : String} (hnone : '.' ∉ host.toList) :
    (labels host).tail = [] := by
  rw [labels, List.splitOn_eq_singleton hnone, List.tail_cons]

/-- The labels of the domain are those of what stands behind the first dot. -/
theorem parentLabels_eq {srvHost : String} {label domain : List Char}
    (hhost : (canonicalHost srvHost).toList = label ++ '.' :: domain) (hlabel : '.' ∉ label) :
    parentLabels srvHost = domain.splitOn '.' := by
  rw [parentLabels, labels_eq_cons hhost hlabel, List.tail_cons]

/-- The host that is looked up has one label more than its domain. -/
theorem length_parentLabels (srvHost : String) :
    (parentLabels srvHost).length + 1 = (labels (canonicalHost srvHost)).length := by
  have hpos := List.length_pos_iff.mpr (labels_ne_nil (canonicalHost srvHost))
  rw [parentLabels, List.length_tail]
  omega

/-- What lies below the domain of a host: the domain has two labels at least, and the name
    ends in them, with a label more. -/
theorem below_iff_labels {srvHost : String} {a : Address} :
    Below srvHost a ↔ 2 ≤ (parentLabels srvHost).length ∧
      (parentLabels srvHost).length < (labels a.host).length ∧
      (labels a.host).rtake (parentLabels srvHost).length = parentLabels srvHost := by
  by_cases hdot : '.' ∈ (canonicalHost srvHost).toList
  · -- The first dot ends the first label.
    rcases List.eq_append_cons_of_mem hdot with ⟨label, domain, hhost, hlabel⟩
    rw [parentLabels_eq hhost hlabel, labels, ← suffix_iff_labels, ← Nat.lt_iff_add_one_le,
      one_lt_length_splitOn_iff]
    constructor
    · rintro ⟨label', domain', hhost', hlabel', hdot', hsuffix⟩
      -- Two domains with the same labels are the same text.
      have hsplit := (parentLabels_eq hhost' hlabel').symm.trans (parentLabels_eq hhost hlabel)
      have hdomain : ['.'].intercalate (domain'.splitOn '.') = domain' :=
        List.intercalate_splitOn '.'
      rw [hsplit, List.intercalate_splitOn] at hdomain
      exact hdomain ▸ ⟨hdot', hsuffix⟩
    · rintro ⟨hdot', hsuffix⟩
      exact ⟨label, domain, hhost, hlabel, hdot', hsuffix⟩
  · refine iff_of_false ?_ ?_
    · rintro ⟨label, domain, hhost, -⟩
      exact hdot (hhost ▸ List.mem_append_right label List.mem_cons_self)
    · rintro ⟨htwo, -⟩
      rw [parentLabels, tail_labels_eq_nil hdot] at htwo
      exact absurd htwo (by decide)

/-- What a host is taken for does not depend on dots at its end. -/
theorem canonicalHost_append_dots (srvHost : String) (n : Nat) :
    canonicalHost (srvHost ++ String.ofList (List.replicate n '.')) = canonicalHost srvHost := by
  have htrim : trimDots (srvHost.toList ++ List.replicate n '.') = trimDots srvHost.toList := by
    rw [trimDots, List.reverse_append, List.reverse_replicate,
      List.dropWhile_append_of_pos, trimDots]
    intro c hc
    rw [List.eq_of_mem_replicate hc, decide_eq_true_eq]
  rw [canonicalHost, String.toList_append, String.toList_ofList, htrim, canonicalHost]

/-- The domain, counted from the end of the host. -/
theorem rtake_labels (srvHost : String) :
    (labels (canonicalHost srvHost)).rtake (parentLabels srvHost).length =
      parentLabels srvHost := by
  have hlength := length_parentLabels srvHost
  rw [List.rtake, ← hlength, Nat.add_sub_cancel_left, List.drop_one, parentLabels]

/-- The hosts that get through the check: some, all of them below the domain. The host that is
    looked up counts once for all of them. -/
theorem validate_eq_ok_iff_labels {srvHost : String} {hosts accepted : List Address} :
    validate srvHost hosts = .ok accepted ↔
      accepted = hosts ∧ hosts ≠ [] ∧ 2 ≤ (parentLabels srvHost).length ∧
        ∀ a ∈ hosts, (parentLabels srvHost).length < (labels a.host).length ∧
          (labels a.host).rtake (parentLabels srvHost).length = parentLabels srvHost := by
  rw [validate_eq_ok_iff]
  refine and_congr_right fun _ => and_congr_right fun hne => ?_
  simp only [below_iff_labels]
  constructor
  · intro hbelow
    rcases List.exists_mem_of_ne_nil hosts hne with ⟨a, ha⟩
    exact ⟨(hbelow a ha).1, fun a ha => (hbelow a ha).2⟩
  · rintro ⟨htwo, hhosts⟩ a ha
    exact ⟨htwo, hhosts a ha⟩

/-- Something below a domain that ends in the text of the domain has a dot in front of that
    text. The domain itself would be too short. -/
theorem Below.getLast?_front {srvHost : String} {a : Address} (hbelow : Below srvHost a)
    {front : List Char}
    (hfront : a.host.toList = front ++ ['.'].intercalate (parentLabels srvHost)) :
    front.getLast? = some '.' := by
  rcases hbelow with ⟨label, domain, hhost, hlabel, -, before, hbefore⟩
  -- The two ways to cut the host come out at the same place.
  rw [hfront, parentLabels_eq hhost hlabel, List.intercalate_splitOn, ← List.singleton_append,
    ← List.append_assoc] at hbefore
  rw [← List.append_cancel_right hbefore, List.getLast?_append, List.getLast?_singleton,
    Option.some_or]

/-- The check of the hosts found for a host, said of labels. -/
structure LabelExact (srvHost : String) : Prop where
  /-- What is accepted is what was found. There have to be hosts, the host that is looked up
      has three labels or more, and every host has as many, all but the first in common with
      it when counted from the end. -/
  accepts : ∀ hosts accepted, validate srvHost hosts = .ok accepted ↔
    accepted = hosts ∧ hosts ≠ [] ∧ 3 ≤ (labels (canonicalHost srvHost)).length ∧
      ∀ a ∈ hosts, (labels (canonicalHost srvHost)).length ≤ (labels a.host).length ∧
        (labels a.host).rtake ((labels (canonicalHost srvHost)).length - 1) =
          (labels (canonicalHost srvHost)).rtake ((labels (canonicalHost srvHost)).length - 1)
  /-- What stands in front of the domain in a host that is accepted ends with a dot. A host
      that shares no more than the text is not accepted. -/
  proper : ∀ hosts accepted, validate srvHost hosts = .ok accepted → ∀ a ∈ accepted, ∀ front,
    a.host.toList = front ++ ['.'].intercalate (parentLabels srvHost) →
      front.getLast? = some '.'
  /-- A host that is accepted is not the domain itself. -/
  parent : ∀ hosts accepted, validate srvHost hosts = .ok accepted → ∀ a ∈ accepted,
    a.host.toList ≠ ['.'].intercalate (parentLabels srvHost)
  /-- Two checks succeed alike where the domains are the same, label by label, and the hosts
      are the same as a set. -/
  depends : ∀ other hosts others, parentLabels other = parentLabels srvHost →
    (∀ a, a ∈ others ↔ a ∈ hosts) →
      ((∃ accepted, validate other others = .ok accepted) ↔
        ∃ accepted, validate srvHost hosts = .ok accepted)
  /-- Dots at the end of the host that is looked up make no difference, not even to why hosts
      are refused. -/
  dots : ∀ n hosts, validate (srvHost ++ String.ofList (List.replicate n '.')) hosts =
    validate srvHost hosts

/-- The check of the hosts found for a host is exact in their labels, whatever the host that is
    looked up and whatever was found. -/
theorem validate_label_exact (srvHost : String) : LabelExact srvHost where
  accepts hosts accepted := by
    have hlength := length_parentLabels srvHost
    rw [validate_eq_ok_iff_labels, ← hlength, Nat.add_sub_cancel, rtake_labels]
    simp only [Nat.succ_le_succ_iff, Nat.succ_le_iff]
  proper hosts accepted hok a ha front hfront := by
    rcases validate_eq_ok_iff.mp hok with ⟨rfl, -, hbelow⟩
    exact (hbelow a ha).getLast?_front hfront
  parent hosts accepted hok a ha hsame := by
    rcases validate_eq_ok_iff.mp hok with ⟨rfl, -, hbelow⟩
    have hfront := (hbelow a ha).getLast?_front (hsame.trans (List.nil_append _).symm)
    rw [List.getLast?_nil] at hfront
    cases hfront
  depends other hosts others hparent hmem := by
    have hempty : others ≠ [] ↔ hosts ≠ [] := by
      simp only [ne_eq, List.eq_nil_iff_forall_not_mem, hmem]
    simp only [validate_eq_ok_iff_labels, hparent, hempty, hmem, exists_eq_left]
  dots n hosts := by
    unfold validate
    rw [canonicalHost_append_dots]

end Discovery

end DocumentLink
