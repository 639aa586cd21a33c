import DocumentLink.Error

/-!
# Copies of Errors

An error that is handed out is a copy, and whoever gets it walks its chain: the failed
authentications from the outermost inward, each with its credential, then the failure they
wrap, and behind that the error of the stream or of the decoder, if it came from one. The
error of a stream may carry an error of somebody else, and the chain goes on with what is
behind that.

A chain is its refusals and the failure at its end. A copy has the same refusals and a copy
of that failure, so all that can be lost is lost there, however deep it is. The failure of a
stream is described anew, by the text of the error that it carries. If it carries none, the
text is empty: the text of the kind, the text that the system has for a number and a text
that is part of the program are lost. In a chain two errors show that text, the failure and
the error of the stream behind it. If it carries one, the text is kept, and the chain ends
there: what was behind is lost. Nothing else is lost, and nothing more by copying the copy.

## Main definitions

* `Error.root`, `Error.refusals`: The failure at the end, and the refusals before it.
* `Error.behind`: What is behind the error of the stream at the end.
* `StreamReport.Survives`: A report that shows the same in a copy.
* `Error.Copied`: What a copy keeps and what it loses.

## Theorems

* `Error.links_eq`: A chain is its refusals and the failure at its end.
* `Error.refusals_copy`, `Error.root_copy`: The chain of a copy.
* `Error.copy_exact`: A copy loses the texts of stream failures that carry no error, and
  what is behind those that carry one, and nothing else.
-/

namespace DocumentLink

/-- The text that stands for a kind of stream failure is not empty. -/
theorem StreamFailure.text_ne_empty (failure : StreamFailure) : failure.text ≠ "" := by
  cases failure <;> decide

namespace StreamReport

/-- A report of which a copy shows all that the report shows. -/
inductive Survives : StreamReport → Prop where
  | carried (text : String) : Survives (.carried text [])
  | empty : Survives (.fixed "")

variable (failure : StreamFailure) {report : StreamReport}

/-- The text that the system has for a number is not empty, as the number is a part of it. -/
theorem text_system_ne_empty (number : Int) (text : String) :
    (system number text).text failure ≠ "" := by
  intro h
  have hlength := congrArg (fun s : String => s.toList.length) h
  simp only [StreamReport.text, toString, String.toList_append, List.length_append] at hlength
  have hopening : (" (os error ").toList.length = 11 := by decide
  have hempty : "".toList.length = 0 := by decide
  omega

/-- A report shows the same in a copy exactly if its text is kept and nothing is behind. -/
theorem survives_iff :
    report.Survives ↔ report.copy.text failure = report.text failure ∧ report.behind = [] := by
  refine ⟨fun h => ?_, fun ⟨htext, hbehind⟩ => ?_⟩
  · cases h <;> exact ⟨rfl, rfl⟩
  · cases report with
    | bare => exact absurd htext.symm failure.text_ne_empty
    | system number text => exact absurd htext.symm (text_system_ne_empty failure number text)
    | fixed text =>
        rw [show text = "" from htext.symm]
        exact .empty
    | carried text behind =>
        rw [show behind = [] from hbehind]
        exact .carried text

end StreamReport

namespace Error

/-- A link without its text. -/
def Link.unworded (link : Link) : Link :=
  { link with level.text := "" }

/-- What is seen of a failed authentication. -/
def Link.refusal (refusal : Refusal) : Link where
  level := ⟨some .authentication, none, refusal.message⟩
  credential := some refusal.toCredential

/-- What is seen of a stream failure, and of the error of the stream behind it. -/
def Link.broken (failure : StreamFailure) (text : String) : List Link :=
  [⟨⟨some .transport, none, "IO error: " ++ text⟩, none, none⟩,
    ⟨⟨none, none, text⟩, none, some failure⟩]

/-- The failure at the end of a chain of failed authentications. -/
def root : Error → Error
  | authentication _ source => source.root
  | e => e

/-- The refusals of a chain of failed authentications, from the outermost inward. -/
def refusals : Error → List Refusal
  | authentication refusal source => refusal :: source.refusals
  | _ => []

/-- What is behind the error of the stream at the end of a chain, if there is one. -/
def behind (e : Error) : List Link :=
  match e.root with
  | broken _ report => report.behind
  | _ => []

variable (e : Error)

/-- A chain is its refusals and the failure at its end. -/
theorem links_eq : e.links = e.refusals.map Link.refusal ++ e.root.links := by
  induction e with
  | authentication refusal source ih => exact congrArg (Link.refusal refusal :: ·) ih
  | _ => rfl

theorem refusals_copy : e.copy.refusals = e.refusals := by
  induction e with
  | authentication refusal source ih => exact congrArg (refusal :: ·) ih
  | _ => rfl

theorem root_copy : e.copy.root = e.root.copy := by
  induction e with
  | authentication refusal source ih => exact ih
  | _ => rfl

/-- A copy is what the error is exactly if that holds of the failures at the end. -/
theorem copy_eq_iff_root : e.copy = e ↔ e.root.copy = e.root := by
  induction e with
  | authentication refusal source ih =>
      show authentication refusal source.copy = authentication refusal source ↔ _
      rw [authentication.injEq]
      exact (and_iff_right rfl).trans ih
  | _ => exact .rfl

/-- An error whose chain does not end with a stream is copied as it is. -/
theorem copy_of_not_broken (h : ∀ failure report, e.root ≠ broken failure report) : e.copy = e := by
  induction e with
  | authentication refusal source ih => exact congrArg (authentication refusal) (ih h)
  | broken failure report => exact absurd rfl (h failure report)
  | _ => rfl

/-- Copying a copy loses no more: what it carries is a text with nothing behind it. -/
theorem copy_copy : e.copy.copy = e.copy := by
  induction e with
  | authentication refusal source ih => exact congrArg (authentication refusal) ih
  | _ => rfl

section Broken

variable {e} {failure : StreamFailure} {report : StreamReport} (h : e.root = broken failure report)
include h

theorem links_of_root :
    e.links = e.refusals.map Link.refusal ++ Link.broken failure (report.text failure) ++
      report.behind := by
  rw [links_eq, h, List.append_assoc]
  rfl

/-- Both errors that show the text of the failure show that of the error it carries in a
    copy, and nothing is behind them. -/
theorem links_copy_of_root :
    e.copy.links =
      e.refusals.map Link.refusal ++ Link.broken failure (report.carried?.getD "") := by
  rw [links_eq, refusals_copy, root_copy, h]
  rfl

theorem behind_of_root : e.behind = report.behind := by
  rw [behind, h]

/-- The chain of a copy is that of the error exactly if the report shows the same in it. -/
theorem links_copy_eq_iff : e.copy.links = e.links ↔ report.Survives := by
  rw [links_of_root h, links_copy_of_root h, List.append_assoc, List.append_cancel_left_eq,
    StreamReport.survives_iff failure]
  refine ⟨fun hlinks => ?_, fun ⟨htext, hbehind⟩ => ?_⟩
  · -- The error of the stream shows the text of the report as it is.
    injection hlinks with _ hlinks
    injection hlinks with hlink hbehind
    exact ⟨congrArg (fun link => link.level.text) hlink, hbehind.symm⟩
  · rw [hbehind, List.append_nil, ← htext]
    rfl

/-- The copy is all that the error is exactly if the report is a text that is carried. -/
theorem copy_eq_iff : e.copy = e ↔ ∃ text, report = .carried text [] := by
  rw [copy_eq_iff_root, h]
  show broken failure report.copy = broken failure report ↔ _
  rw [broken.injEq]
  refine (and_iff_right rfl).trans ⟨fun hreport => ⟨_, hreport.symm⟩, ?_⟩
  rintro ⟨text, rfl⟩
  rfl

end Broken

/-- What holds of an error that is copied as it is, and of one that ends with a stream exactly
    if something holds of the report, depends on the report at the end of the chain only. -/
theorem iff_forall_report {p : StreamReport → Prop} {q : Prop}
    (hreport : ∀ {failure report}, e.root = broken failure report → (q ↔ p report))
    (hwhole : e.copy = e → q) :
    q ↔ ∀ failure report, e.root = broken failure report → p report := by
  refine ⟨fun h failure report hroot => (hreport hroot).mp h, fun hall => ?_⟩
  by_cases hbroken : ∃ failure report, e.root = broken failure report
  · rcases hbroken with ⟨failure, report, hroot⟩
    exact (hreport hroot).mpr (hall failure report hroot)
  · exact hwhole (e.copy_of_not_broken fun failure report hroot =>
      hbroken ⟨failure, report, hroot⟩)

/-- The errors of a chain are the same in a copy, up to the error of a stream. -/
theorem unworded_links :
    e.links.map Link.unworded = e.copy.links.map Link.unworded ++ e.behind.map Link.unworded := by
  by_cases hbroken : ∃ failure report, e.root = broken failure report
  · rcases hbroken with ⟨failure, report, hroot⟩
    rw [links_of_root hroot, links_copy_of_root hroot, behind_of_root hroot, List.map_append,
      List.map_append, List.map_append]
    rfl
  · rw [not_exists] at hbroken
    have hbehind : e.behind = [] := by
      rw [behind]
      split
      · rename_i failure report hroot
        exact absurd ⟨report, hroot⟩ (hbroken failure)
      · rfl
    rw [copy_of_not_broken e fun failure report hroot => hbroken failure ⟨report, hroot⟩, hbehind]
    exact (List.append_nil _).symm

/-- What a copy keeps and what it loses. -/
structure Copied : Prop where
  /-- The failed authentications are the same, with their credentials and their texts. -/
  refusals : e.copy.refusals = e.refusals
  /-- The chain has the same errors, in the same order, up to the error of a stream: their
      kinds, their codes, their credentials and what broke. -/
  unworded : e.links.map Link.unworded = e.copy.links.map Link.unworded ++
    e.behind.map Link.unworded
  /-- They show the same texts, and none is missing, exactly if the chain does not end with
      a stream or the report of it survives. -/
  links_eq_iff : e.copy.links = e.links ↔
    ∀ failure report, e.root = broken failure report → report.Survives
  /-- The copy is all that the error is exactly if the report is a text that is carried. -/
  whole : e.copy = e ↔ ∀ failure report, e.root = broken failure report →
    ∃ text, report = .carried text []
  /-- Of a stream failure that carries an error the text is kept, and what is behind it is
      lost. -/
  carried : ∀ failure text behind, e.root = broken failure (.carried text behind) →
    e.links = e.copy.links ++ behind ∧
      e.copy.links = e.refusals.map Link.refusal ++ Link.broken failure text
  /-- Of one that carries none the text is lost: the failure and the error of the stream
      behind it show it, and show none in the copy. -/
  uncarried : ∀ failure report, e.root = broken failure report → report.carried? = none →
    e.links = e.refusals.map Link.refusal ++ Link.broken failure (report.text failure) ∧
      e.copy.links = e.refusals.map Link.refusal ++ Link.broken failure ""
  /-- A copy of the copy loses no more. -/
  again : e.copy.copy = e.copy

/-- A copy loses the texts of stream failures that carry no error, and what is behind those
    that carry one, at whatever depth, and nothing else. -/
theorem copy_exact : Copied e where
  refusals := e.refusals_copy
  unworded := e.unworded_links
  links_eq_iff := e.iff_forall_report links_copy_eq_iff (congrArg links)
  whole := e.iff_forall_report copy_eq_iff id
  carried failure text behind hroot := by
    rw [links_of_root hroot, links_copy_of_root hroot]
    exact ⟨rfl, rfl⟩
  uncarried failure report hroot hcarried := by
    have hbehind : report.behind = [] := by
      cases report with
      | carried => cases hcarried
      | _ => rfl
    rw [links_of_root hroot, links_copy_of_root hroot, hcarried, hbehind, List.append_nil]
    exact ⟨rfl, rfl⟩
  again := e.copy_copy

example (refusal : Refusal) :
    (authentication refusal (stream .notFound none)).copy.links.map (·.level.text) =
      [refusal.message, "IO error: ", ""] :=
  rfl

end Error

end DocumentLink
