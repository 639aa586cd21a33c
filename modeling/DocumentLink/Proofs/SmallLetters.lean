import DocumentLink.Text.Case

/-!
# Small Letters

Putting a text into lower case twice is putting it there once, and marks stay where they are.

Both are matters of the tables. No small letter is a capital as well, so that what has been
changed once is not changed again; and the only ones of the first 128 characters that a letter
beyond them can become are small letters of the basic alphabet. There are too many letters to
hold each against each. Capitals and small letters are taken as the bits of two numbers
instead, which have none in common.

The two exceptions among the letters fit in. The dot of the dotted capital I is a character of
its own when it is kept, and neither small form of the sigma is a capital.

## Main definitions

* `Text.capitals`, `Text.smalls`: The code points that runs change, and those they change into.
* `Text.IsSmall`: A character stays as it is, whatever stands around it.
* `Text.IsMark`: A character of the first 128 is no letter.

## Theorems

* `Text.disjoint_smalls`: No small letter is a capital.
* `Text.of_mem_smallForm`: What a character becomes stays, and none becomes a mark.
* `Text.lowerCase_lowerCase`: Once is enough.
* `Text.mem_lowerCase_iff`: The marks of a text are those of its lower case.
-/

namespace DocumentLink

namespace Text

/-- The number with the bits of some numbers. -/
def bits (ns : List Nat) : Nat :=
  ns.foldr (fun n set => 1 <<< n ||| set) 0

/-- The number of letters in a run. -/
def CaseRun.count (run : CaseRun) : Nat :=
  (run.last - run.first) / run.step + 1

/-- The code points that runs change. -/
def capitals : List Nat :=
  caseRuns.flatMap fun run => List.range' run.first run.count run.step

/-- The code points that runs change into. -/
def smalls : List Nat :=
  caseRuns.flatMap fun run => List.range' run.target run.count run.step

/-- The small letters of a run are code points below the surrogates or above them, and those
    among the first 128 are of the basic alphabet. -/
def CaseRun.Placed (run : CaseRun) : Prop :=
  (128 ≤ run.target ∨ (97 ≤ run.target ∧ run.target + (run.last - run.first) ≤ 122)) ∧
    (run.target + (run.last - run.first) < 0xD800 ∨
      (0xDFFF < run.target ∧ run.target + (run.last - run.first) < 0x110000))

instance (run : CaseRun) : Decidable run.Placed :=
  inferInstanceAs (Decidable ((_ ∨ _) ∧ (_ ∨ _)))

/-- A character stays as it is, whatever stands around it. -/
def IsSmall (c : Char) : Prop :=
  ∀ before after, smallForm before c after = [c]

/-- A character of the first 128 is no letter. -/
def IsMark (c : Char) : Prop :=
  c.toNat < 128 ∧ c.isAlpha = false

instance (c : Char) : Decidable (IsMark c) :=
  inferInstanceAs (Decidable (_ ∧ _))

/-- The small letter of a code point beyond the first 128, if a run has it. -/
def changed? (n : Nat) : Option Nat :=
  caseRuns.findSome? fun run => run.small? n

theorem testBit_bits (ns : List Nat) (n : Nat) : (bits ns).testBit n = decide (n ∈ ns) := by
  induction ns with
  | nil => simp [bits]
  | cons m ns ih =>
      rw [bits, List.foldr_cons, ← bits, Nat.testBit_or, ih, Nat.one_shiftLeft,
        Nat.testBit_two_pow]
      simp only [List.mem_cons, Bool.decide_or, eq_comm]

/-- Lists of numbers without a bit in common have no number in common. -/
theorem not_mem_of_bits_and_eq_zero {ns ms : List Nat} (h : bits ns &&& bits ms = 0) {n : Nat}
    (hn : n ∈ ns) : n ∉ ms := by
  intro hm
  have hbit := congrArg (Nat.testBit · n) h
  simp [Nat.testBit_and, testBit_bits, hn, hm] at hbit

/-- No small letter is a capital, and none is the capital with a small form of two characters. -/
theorem disjoint_smalls : bits smalls &&& bits (0x130 :: capitals) = 0 := by
  decide +kernel

theorem caseRuns_placed : ∀ run ∈ caseRuns, run.Placed := by
  decide +kernel

/-- What a run changes and what it changes it into come at the same place in it. -/
theorem CaseRun.small?_eq_some {run : CaseRun} {n m : Nat} (h : run.small? n = some m) :
    ∃ i < run.count, n = run.first + run.step * i ∧ m = run.target + run.step * i ∧
      run.step * i ≤ run.last - run.first := by
  unfold small? at h
  split at h
  next hrun =>
    simp only [Bool.and_eq_true, decide_eq_true_eq] at hrun
    rcases hrun with ⟨⟨hfirst, hlast⟩, hstep⟩
    have hle := Nat.sub_le_sub_right hlast run.first
    have hmul := Nat.mul_div_cancel' (Nat.dvd_of_mod_eq_zero hstep)
    refine ⟨(n - run.first) / run.step, ?_, ?_, ?_, ?_⟩
    · exact Nat.lt_succ_of_le (Nat.div_le_div_right hle)
    · omega
    · rw [hmul, Option.some.inj h]
    · rwa [hmul]
  next => cases h

/-- A run has changed what is changed. -/
theorem exists_run_of_changed? {n m : Nat} (h : changed? n = some m) :
    ∃ run ∈ caseRuns, ∃ i < run.count, n = run.first + run.step * i ∧
      m = run.target + run.step * i ∧ run.step * i ≤ run.last - run.first := by
  rcases List.exists_of_findSome?_eq_some h with ⟨run, hrun, hm⟩
  exact ⟨run, hrun, run.small?_eq_some hm⟩

/-- What is changed is a capital, and what it is changed into is a small letter. -/
theorem mem_capitals_and_mem_smalls {n m : Nat} (h : changed? n = some m) :
    n ∈ capitals ∧ m ∈ smalls := by
  rcases exists_run_of_changed? h with ⟨run, hrun, i, hi, hn, hm, -⟩
  exact ⟨List.mem_flatMap.mpr ⟨run, hrun, List.mem_range'.mpr ⟨i, hi, hn⟩⟩,
    List.mem_flatMap.mpr ⟨run, hrun, List.mem_range'.mpr ⟨i, hi, hm⟩⟩⟩

/-- What is changed is not changed again. -/
theorem changed?_of_changed? {n m : Nat} (h : changed? n = some m) :
    changed? m = none ∧ m ≠ 0x130 := by
  have hsmall := (mem_capitals_and_mem_smalls h).2
  have hnot := not_mem_of_bits_and_eq_zero disjoint_smalls hsmall
  rw [List.mem_cons, not_or] at hnot
  refine ⟨Option.eq_none_iff_forall_ne_some.mpr fun k hk => ?_, hnot.1⟩
  exact hnot.2 (mem_capitals_and_mem_smalls hk).1

/-- What is changed becomes a character, and one of the basic alphabet if it is among the
    first 128. -/
theorem isValidChar_of_changed? {n m : Nat} (h : changed? n = some m) :
    m.isValidChar ∧ (128 ≤ m ∨ (97 ≤ m ∧ m ≤ 122)) := by
  rcases exists_run_of_changed? h with ⟨run, hrun, i, -, -, hm, hi⟩
  rcases caseRuns_placed run hrun with ⟨halpha, hvalid⟩
  unfold Nat.isValidChar
  omega

/-- The alphabet. Its small letters stay, and its marks stay and are the small letters of
    nothing else. -/
theorem alphabet : ∀ n < 128, (Char.ofNat n).toLower.toNat < 128 ∧
    (Char.ofNat n).toLower.toLower = (Char.ofNat n).toLower ∧
      (IsMark (Char.ofNat n).toLower ∨ IsMark (Char.ofNat n) →
        (Char.ofNat n).toLower = Char.ofNat n) := by
  decide +kernel

theorem toLower_ascii {c : Char} (h : c.toNat < 128) : c.toLower.toNat < 128 ∧
    c.toLower.toLower = c.toLower ∧ (IsMark c.toLower ∨ IsMark c → c.toLower = c) := by
  have hc := alphabet c.toNat h
  rwa [Char.ofNat_toNat] at hc

/-- A character that is its own small letter, and none of the two exceptions, stays. -/
theorem isSmall_of_smallLetter {c : Char} (hsigma : c ≠ 'Σ') (hdot : c ≠ 'İ')
    (hletter : smallLetter c = c) : IsSmall c := by
  intro before after
  rw [smallForm, if_neg hsigma, if_neg hdot, hletter]

/-- Among the first 128 characters those stay that the alphabet leaves alone. -/
theorem isSmall_of_toLower {c : Char} (hascii : c.toNat < 128) (hlower : c.toLower = c) :
    IsSmall c := by
  refine isSmall_of_smallLetter ?_ ?_ ?_
  · rintro rfl
    exact absurd hascii (by decide)
  · rintro rfl
    exact absurd hascii (by decide)
  · rw [smallLetter, if_pos hascii, hlower]

/-- Beyond them those stay that no run changes, but for one of the two exceptions. -/
theorem isSmall_of_changed?_eq_none {c : Char} (hascii : 128 ≤ c.toNat)
    (hnone : changed? c.toNat = none) (hdot : c ≠ 'İ') : IsSmall c := by
  refine isSmall_of_smallLetter ?_ hdot ?_
  · rintro rfl
    exact absurd hnone (by decide +kernel)
  · rw [smallLetter, if_neg (Nat.not_lt.mpr hascii), ← changed?, hnone, Option.getD_none,
      Char.ofNat_toNat]

/-- What a run changes something into stays, and is no mark. -/
theorem isSmall_of_changed? {n m : Nat} (h : changed? n = some m) :
    IsSmall (Char.ofNat m) ∧ ¬IsMark (Char.ofNat m) := by
  rcases changed?_of_changed? h with ⟨hnone, hdot⟩
  rcases isValidChar_of_changed? h with ⟨hvalid, hascii | ⟨hfirst, hlast⟩⟩
  · have hm : (Char.ofNat m).toNat = m := by
      rw [Char.ofNat, dif_pos hvalid]
      rfl
    refine ⟨isSmall_of_changed?_eq_none (hm.symm ▸ hascii) (hm.symm ▸ hnone) ?_, ?_⟩
    · intro hc
      exact hdot (hm.symm.trans (congrArg Char.toNat hc))
    · intro hmark
      exact absurd (hm ▸ hmark.1) (Nat.not_lt.mpr hascii)
  · -- The small letters of the alphabet are few.
    have hletter : ∀ k < 123, 97 ≤ k → (Char.ofNat k).toNat < 128 ∧
        (Char.ofNat k).toLower = Char.ofNat k ∧ ¬IsMark (Char.ofNat k) := by decide +kernel
    rcases hletter m (Nat.lt_succ_of_le hlast) hfirst with ⟨hascii, hlower, hmark⟩
    exact ⟨isSmall_of_toLower hascii hlower, hmark⟩

/-- The small letter of a character stays, and is no mark unless the character was it. -/
theorem isSmall_smallLetter {c : Char} (hdot : c ≠ 'İ') :
    IsSmall (smallLetter c) ∧ (IsMark (smallLetter c) → smallLetter c = c) := by
  unfold smallLetter
  split
  next hascii =>
    rcases toLower_ascii hascii with ⟨hlower, hagain, hmark⟩
    exact ⟨isSmall_of_toLower hlower hagain, fun hm => hmark (.inl hm)⟩
  next hascii =>
    rw [← changed?]
    cases hc : changed? c.toNat with
    | none =>
        rw [Option.getD_none, Char.ofNat_toNat]
        exact ⟨isSmall_of_changed?_eq_none (Nat.not_lt.mp hascii) hc hdot, fun _ => rfl⟩
    | some m =>
        rcases isSmall_of_changed? hc with ⟨hsmall, hmark⟩
        exact ⟨hsmall, fun hm => absurd hm hmark⟩

/-- So do the characters that the two exceptions become, and no mark is among them. -/
theorem isSmall_exceptions {c : Char} (hc : c ∈ ['ς', 'σ', 'i', '\u0307']) :
    IsSmall c ∧ ¬IsMark c := by
  simp only [List.mem_cons, List.not_mem_nil, or_false] at hc
  rcases hc with rfl | rfl | rfl | rfl
  · exact ⟨isSmall_of_changed?_eq_none (by decide) (by decide +kernel) (by decide), by decide⟩
  · exact ⟨isSmall_of_changed?_eq_none (by decide) (by decide +kernel) (by decide), by decide⟩
  · exact ⟨isSmall_of_toLower (by decide) (by decide), by decide⟩
  · exact ⟨isSmall_of_changed?_eq_none (by decide) (by decide +kernel) (by decide), by decide⟩

/-- What a character becomes stays as it is, and is no mark unless the character was it. -/
theorem of_mem_smallForm {before after : List Char} {c d : Char}
    (h : d ∈ smallForm before c after) : IsSmall d ∧ (IsMark d → d = c) := by
  have hexception : d ∈ ['ς', 'σ', 'i', '\u0307'] → IsSmall d ∧ (IsMark d → d = c) := by
    intro hd
    rcases isSmall_exceptions hd with ⟨hsmall, hmark⟩
    exact ⟨hsmall, fun hm => absurd hm hmark⟩
  unfold smallForm at h
  split at h
  next =>
    refine hexception ?_
    rw [List.mem_singleton] at h
    split at h <;> simp [h]
  next =>
    split at h
    next =>
      refine hexception ?_
      simp only [List.mem_cons, List.not_mem_nil, or_false] at h
      rcases h with rfl | rfl <;> decide
    next hdot =>
      rw [List.mem_singleton] at h
      exact h ▸ isSmall_smallLetter hdot

/-- A mark stays as it is. -/
theorem IsMark.isSmall {mark : Char} (h : IsMark mark) : IsSmall mark :=
  isSmall_of_toLower h.1 ((toLower_ascii h.1).2.2 (.inr h))

/-- In lower case there are only characters that stay. -/
theorem isSmall_of_mem_lowerAfter {before cs : List Char} {c : Char}
    (h : c ∈ lowerAfter before cs) : IsSmall c := by
  induction cs generalizing before with
  | nil => exact absurd h List.not_mem_nil
  | cons d rest ih =>
      rw [lowerAfter, List.mem_append] at h
      rcases h with h | h
      · exact (of_mem_smallForm h).1
      · exact ih h

/-- Characters that stay are in lower case. -/
theorem lowerAfter_eq_self {before cs : List Char} (h : ∀ c ∈ cs, IsSmall c) :
    lowerAfter before cs = cs := by
  induction cs generalizing before with
  | nil => rfl
  | cons c rest ih =>
      rw [List.forall_mem_cons] at h
      rw [lowerAfter, h.1, ih h.2, List.singleton_append]

/-- Marks are neither added nor removed. -/
theorem mem_lowerAfter_iff {mark : Char} (hmark : IsMark mark) {before cs : List Char} :
    mark ∈ lowerAfter before cs ↔ mark ∈ cs := by
  induction cs generalizing before with
  | nil => rw [lowerAfter]
  | cons c rest ih =>
      have hform : mark ∈ smallForm before c rest ↔ mark = c := by
        constructor
        · intro h
          exact (of_mem_smallForm h).2 hmark
        · rintro rfl
          rw [hmark.isSmall]
          exact List.mem_singleton_self mark
      rw [lowerAfter, List.mem_append, List.mem_cons, ih, hform]

/-- A text in lower case is in lower case. -/
theorem lowerCase_lowerCase (s : String) : lowerCase (lowerCase s) = lowerCase s := by
  rw [lowerCase, lowerCase, String.toList_ofList,
    lowerAfter_eq_self fun c => isSmall_of_mem_lowerAfter]

/-- The marks of a text are those of its lower case. -/
theorem mem_lowerCase_iff {mark : Char} (hmark : IsMark mark) {s : String} :
    mark ∈ (lowerCase s).toList ↔ mark ∈ s.toList := by
  rw [lowerCase, String.toList_ofList, mem_lowerAfter_iff hmark]

end Text

end DocumentLink
