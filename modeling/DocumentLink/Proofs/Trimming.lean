import DocumentLink.ClientMetadata
import Mathlib.Algebra.Ring.Nat

/-!
# Introductions That Fit

How much a client says about itself, and what that depends on.

There are three forms of the document, each with less in it than the one before. What comes out is
the first that fits, or nothing if not even the last one does. `Form.document` writes the forms down
field by field, apart from the way they are reached, which is by taking a field out and by putting
another value in its place.

The size of a document is the sum over its fields, each with the sign that ends it. It follows at
once that every form is smaller than the one before. It also follows that entries which libraries
add to the driver make no form smaller, as the text of a field grows with what is appended to it,
whatever has to be escaped. So a form that does not fit will not fit with more entries either, and
what comes out with more of them is never fuller.

## Main definitions

* `Json.fieldSize`: The bytes of a field, with the sign that ends it.
* `DriverInformation.Grows`: Entries have been added.
* `ClientMetadata.Form`: How much of the document is left.
* `ClientMetadata.Form.Fits`: A form is small enough.
* `ClientMetadata.Yields`: What comes out is a form, or nothing.
* `ClientMetadata.Trimmed`: What comes out, and when.

## Theorems

* `Document.size_eq_sum`: The size of a document by its fields.
* `Json.utf8ByteSize_quote_append_le`: A quoted text grows with what is appended.
* `ClientMetadata.reductions_eq`: The forms are what is tried.
* `ClientMetadata.Form.size_lt`: Each form is smaller than the one before.
* `ClientMetadata.Form.size_le_of_grows`: Entries make no form smaller.
* `ClientMetadata.trimmed`: What comes out is the first form that fits.
-/

namespace DocumentLink

open Json (Value)

namespace Json

/-- The bytes of a field: of its key, its value, the colon between them, and the comma after it or
    the brace that ends the document. -/
def fieldSize (field : String × Value) : Nat :=
  (quote field.1).utf8ByteSize + field.2.text.utf8ByteSize + 2

/-- The bytes of fields. There is no comma after the last one. -/
theorem utf8ByteSize_fieldsText {fields : List (String × Value)} (h : fields ≠ []) :
    (fieldsText fields).utf8ByteSize + 1 = (fields.map fieldSize).sum := by
  have hcolon : ":".utf8ByteSize = 1 := by decide
  have hcomma : ",".utf8ByteSize = 1 := by decide
  induction fields with
  | nil => exact absurd rfl h
  | cons field rest ih =>
      cases rest with
      | nil =>
          rw [fieldsText, String.utf8ByteSize_append, String.utf8ByteSize_append, hcolon,
            List.map_singleton, List.sum_singleton, fieldSize]
          omega
      | cons next rest =>
          rw [List.map_cons, List.sum_cons, ← ih (List.cons_ne_nil next rest), fieldsText,
            String.utf8ByteSize_append, String.utf8ByteSize_append, String.utf8ByteSize_append,
            String.utf8ByteSize_append, hcolon, hcomma, fieldSize]
          omega

/-- The bytes of an object. -/
theorem utf8ByteSize_text_object {fields : List (String × Value)} (h : fields ≠ []) :
    (Value.object fields).text.utf8ByteSize = 1 + (fields.map fieldSize).sum := by
  have hopen : "\x7b".utf8ByteSize = 1 := by decide
  have hclose : "\x7d".utf8ByteSize = 1 := by decide
  rw [Value.text, String.utf8ByteSize_append, String.utf8ByteSize_append, hopen, hclose,
    ← utf8ByteSize_fieldsText h]
  omega

/-- A quoted text grows with what is appended to it. -/
theorem utf8ByteSize_quote_append_le (s t : String) :
    (quote s).utf8ByteSize ≤ (quote (s ++ t)).utf8ByteSize := by
  rw [quote, quote, String.toList_append, List.map_append, String.join_append]
  simp only [String.utf8ByteSize_append]
  omega

/-- A field takes at least the signs that divide it from others. -/
theorem fieldSize_pos (field : String × Value) : 0 < fieldSize field :=
  Nat.succ_pos _

/-- A field grows with its value. -/
theorem fieldSize_le {value value' : Value} (key : String)
    (h : value.text.utf8ByteSize ≤ value'.text.utf8ByteSize) :
    fieldSize (key, value) ≤ fieldSize (key, value') :=
  Nat.add_le_add_right (Nat.add_le_add_left h _) 2

theorem fieldSize_lt {value value' : Value} (key : String)
    (h : value.text.utf8ByteSize < value'.text.utf8ByteSize) :
    fieldSize (key, value) < fieldSize (key, value') :=
  Nat.add_lt_add_right (Nat.add_lt_add_left h _) 2

end Json

open Json (fieldSize fieldSize_le fieldSize_lt fieldSize_pos)

/-- The size of a document by its fields. -/
theorem Document.size_eq_sum {d : Document} (h : d.fields ≠ []) :
    d.size = 1 + (d.fields.map fieldSize).sum :=
  Json.utf8ByteSize_text_object h

/-- Libraries have added entries to a driver's information: names, versions and platforms, each
    after those that were there. -/
structure DriverInformation.Grows (driver driver' : DriverInformation) : Prop where
  names : driver.names <+: driver'.names
  versions : driver.versions <+: driver'.versions
  platforms : driver.platforms <+: driver'.platforms

namespace ClientMetadata

/-- How much of a document is left. -/
inductive Form where
  /-- All of it. -/
  | whole
  /-- All but the platform. -/
  | noPlatform
  /-- The platform is left out and the machine reduced to its type. -/
  | typeOnly
  deriving DecidableEq, Repr

namespace Form

/-- What is left of the machine and the platform. -/
def ending (driver : DriverInformation) (machine : Machine) : Form → List (String × Value)
  | whole =>
    [("os", texts [("type", machine.type), ("name", machine.system),
      ("architecture", machine.architecture)]), ("platform", joined "Rust" driver.platforms)]
  | noPlatform =>
    [("os", texts [("type", machine.type), ("name", machine.system),
      ("architecture", machine.architecture)])]
  | typeOnly => [("os", texts [("type", machine.type)])]

/-- What is never touched: the application, if it has a name, and the driver. -/
def opening (application : Option String) (driver : DriverInformation) : List (String × Value) :=
  (application.toList.map fun name => ("application", texts [("name", name)])) ++
    [("driver", .object [("name", joined driverName driver.names),
      ("version", joined driverVersion driver.versions)])]

/-- The document in a form. -/
def document (form : Form) (application : Option String) (driver : DriverInformation)
    (machine : Machine) : Document :=
  ⟨opening application driver ++ form.ending driver machine⟩

/-- A form is small enough. -/
def Fits (form : Form) (application : Option String) (driver : DriverInformation)
    (machine : Machine) : Prop :=
  (form.document application driver machine).size ≤ 512

instance (form : Form) (application : Option String) (driver : DriverInformation)
    (machine : Machine) : Decidable (form.Fits application driver machine) :=
  inferInstanceAs (Decidable (_ ≤ _))

/-- The forms, each with more cut than the one before. -/
def all : List Form :=
  [whole, noPlatform, typeOnly]

/-- How much has been cut. -/
def cut : Form → Nat
  | whole => 0
  | noPlatform => 1
  | typeOnly => 2

end Form

/-- How much has been cut, nothing being left at last. -/
def cutOf : Option Form → Nat
  | some form => form.cut
  | none => 3

/-- The application may go unnamed, and its name has 128 bytes at most. -/
def Named (application : Option String) : Prop :=
  ∀ name ∈ application, name.utf8ByteSize ≤ 128

/-- What comes out is a document in a form, or nothing. -/
def Yields (application : Option String) (driver : DriverInformation)
    (machine : Machine) (chosen : Option Form) :
    Prop :=
  document application driver machine =
    .ok (chosen.map fun form => form.document application driver machine)

variable {application : Option String} {driver driver' : DriverInformation} {machine : Machine}

/-- The platform comes last, so that the other fields keep their order without it. -/
theorem remove_platform (application : Option String) (driver : DriverInformation)
    (machine : Machine) : (full application driver machine).remove "platform" =
      Form.noPlatform.document application driver machine := by
  have hfull : full application driver machine =
      ⟨(Form.noPlatform.document application driver machine).fields ++
        [("platform", joined platform driver.platforms)]⟩ := by
    cases application <;> rfl
  rw [hfull]
  refine Document.remove_last _ ?_
  cases application with
  | none =>
      show "platform" ∉ ["driver", "os"]
      decide
  | some name =>
      show "platform" ∉ ["application", "driver", "os"]
      decide

/-- The forms are what is tried. -/
theorem reductions_eq (application : Option String) (driver : DriverInformation)
    (machine : Machine) : reductions application driver machine =
      Form.all.map fun form => form.document application driver machine := by
  simp only [reductions, remove_platform]
  cases application <;> rfl

namespace Form

/-- The size of a form by its fields. -/
theorem size_eq_sum (form : Form) (application : Option String) (driver : DriverInformation)
    (machine : Machine) : (form.document application driver machine).size =
      1 + ((opening application driver).map fieldSize).sum +
        ((form.ending driver machine).map fieldSize).sum := by
  have hne : (form.document application driver machine).fields ≠ [] := by
    simp [document, opening]
  rw [Document.size_eq_sum hne, document, List.map_append, List.sum_append, Nat.add_assoc]

/-- A machine reduced to its type takes less, as two fields are gone. -/
theorem size_machineType_lt (machine : Machine) :
    (machineType machine).text.utf8ByteSize < (wholeMachine machine).text.utf8ByteSize := by
  simp only [machineType, wholeMachine, texts, List.map_cons, List.map_nil]
  rw [Json.utf8ByteSize_text_object (List.cons_ne_nil _ _),
    Json.utf8ByteSize_text_object (List.cons_ne_nil _ _)]
  simp only [List.map_cons, List.map_nil, List.sum_cons, List.sum_nil]
  have hname := fieldSize_pos ("name", .string machine.system)
  omega

/-- Each form is smaller than the one before. -/
theorem size_lt (application : Option String) (driver : DriverInformation)
    (machine : Machine) :
    (typeOnly.document application driver machine).size <
        (noPlatform.document application driver machine).size ∧
      (noPlatform.document application driver machine).size <
        (whole.document application driver machine).size := by
  rw [size_eq_sum, size_eq_sum, size_eq_sum]
  simp only [ending, List.map_cons, List.map_nil, List.sum_cons, List.sum_nil]
  have hmachine := fieldSize_lt "os" (size_machineType_lt machine)
  rw [machineType, wholeMachine] at hmachine
  have hplatform := fieldSize_pos ("platform", joined "Rust" driver.platforms)
  omega

/-- A joined text grows with the entries. -/
theorem size_joined_le (base : String) {entries entries' : List String}
    (h : entries <+: entries') :
    (joined base entries).text.utf8ByteSize ≤ (joined base entries').text.utf8ByteSize := by
  rcases h with ⟨added, rfl⟩
  cases added with
  | nil => exact Nat.le_of_eq (by rw [List.append_nil])
  | cons entry rest =>
      rw [joined, joined, Json.Value.text, Json.Value.text, ← List.cons_append,
        String.intercalate_append_of_ne_nil (List.cons_ne_nil base entries)
          (List.cons_ne_nil entry rest), String.append_assoc]
      exact Json.utf8ByteSize_quote_append_le _ _

/-- Entries make no form smaller. -/
theorem size_le_of_grows (h : driver.Grows driver') (form : Form) (application : Option String)
    (machine : Machine) : (form.document application driver machine).size ≤
      (form.document application driver' machine).size := by
  have hname := fieldSize_le "name" (size_joined_le driverName h.names)
  have hversion := fieldSize_le "version" (size_joined_le driverVersion h.versions)
  have hplatform := fieldSize_le "platform" (size_joined_le "Rust" h.platforms)
  -- Every form ends in fields that entries leave alone or make larger.
  have hending : ((form.ending driver machine).map fieldSize).sum ≤
      ((form.ending driver' machine).map fieldSize).sum := by
    cases form <;> simp only [ending, List.map_cons, List.map_nil, List.sum_cons, List.sum_nil] <;>
      omega
  rw [size_eq_sum, size_eq_sum]
  refine Nat.add_le_add (Nat.add_le_add_left ?_ 1) hending
  rw [opening, opening, List.map_append, List.map_append, List.sum_append, List.sum_append]
  refine Nat.add_le_add_left ?_ _
  simp only [List.map_cons, List.map_nil, List.sum_cons, List.sum_nil]
  refine Nat.add_le_add_right (fieldSize_le "driver" ?_) 0
  -- The driver is an object of two fields, and both have grown.
  rw [Json.utf8ByteSize_text_object (by simp), Json.utf8ByteSize_text_object (by simp)]
  simp only [List.map_cons, List.map_nil, List.sum_cons, List.sum_nil]
  omega

/-- A form is told by its document. -/
theorem document_injective {form form' : Form}
    (h : form.document application driver machine = form'.document application driver machine) :
    form = form' := by
  have hsize := congrArg Document.size h
  have hlt := size_lt application driver machine
  cases form <;> cases form' <;> first | rfl | omega

/-- A form that fits leaves room for the smaller ones. -/
theorem Fits.of_cut_le {form form' : Form} (h : form.Fits application driver machine)
    (hcut : form.cut ≤ form'.cut) : form'.Fits application driver machine := by
  have hlt := size_lt application driver machine
  unfold Fits at h ⊢
  cases form <;> cases form' <;> simp only [cut] at hcut <;> omega

theorem mem_all (form : Form) : form ∈ all := by
  cases form <;> decide

theorem pairwise_all : all.Pairwise fun form form' => form.cut < form'.cut := by
  decide

/-- Of forms in their order the one that is found has the property, and no fuller one does. -/
theorem find?_eq_some_iff {forms : List Form} {p : Form → Bool} {form : Form}
    (hforms : forms.Pairwise fun form form' => form.cut < form'.cut) (hmem : form ∈ forms) :
    forms.find? p = some form ↔
      p form = true ∧ ∀ fuller ∈ forms, fuller.cut < form.cut → ¬p fuller = true := by
  induction forms with
  | nil => exact absurd hmem List.not_mem_nil
  | cons first rest ih =>
      rw [List.pairwise_cons] at hforms
      rw [List.forall_mem_cons]
      -- The first form is fuller than all others, so it counts for each of them, and none for it.
      by_cases hfirst : p first = true
      · rw [List.find?_cons_of_pos hfirst, Option.some.injEq]
        constructor
        · rintro rfl
          refine ⟨hfirst, fun hcut => absurd hcut (Nat.lt_irrefl _), fun fuller hfuller hcut => ?_⟩
          exact absurd hcut (Nat.lt_asymm (hforms.1 fuller hfuller))
        · rintro ⟨-, hnot, -⟩
          rcases List.mem_cons.mp hmem with rfl | hrest
          · rfl
          · exact absurd hfirst (hnot (hforms.1 form hrest))
      · rw [List.find?_cons_of_neg hfirst]
        rcases List.mem_cons.mp hmem with rfl | hrest
        · exact iff_of_false (fun hfound => hfirst (List.find?_some hfound)) fun h => hfirst h.1
        · rw [ih hforms.2 hrest]
          exact and_congr_right fun _ => (and_iff_right fun _ => hfirst).symm

/-- The first form that fits, if there is one. -/
def first? (application : Option String) (driver : DriverInformation)
    (machine : Machine) : Option Form :=
  all.find? fun form => decide (form.Fits application driver machine)

/-- A form is the first to fit if those with more in them do not. -/
theorem first?_eq_some_iff {form : Form} : first? application driver machine = some form ↔
    form.Fits application driver machine ∧
      ∀ fuller : Form, fuller.cut < form.cut → ¬fuller.Fits application driver machine := by
  rw [first?, find?_eq_some_iff pairwise_all (mem_all form)]
  simp only [decide_eq_true_eq, mem_all, true_implies]

/-- No form fits if the last one does not. -/
theorem first?_eq_none_iff :
    first? application driver machine = none ↔ ¬typeOnly.Fits application driver machine := by
  rw [first?, List.find?_eq_none]
  constructor
  · intro hnone hfits
    exact hnone typeOnly (mem_all typeOnly) (decide_eq_true hfits)
  · intro hlast form _ hfits
    refine hlast ((of_decide_eq_true hfits).of_cut_le ?_)
    cases form <;> decide

end Form

/-- An application name that is too long is refused. -/
theorem document_of_long {name : String} (h : 128 < name.utf8ByteSize)
    (driver : DriverInformation)
    (machine : Machine) : document (some name) driver machine = .error (nameTooLong name) := by
  have hlong : nameLimit < name.utf8ByteSize := h
  rw [document, Option.filter_some, if_pos (decide_eq_true hlong)]

/-- With any other, what comes out is the first form that fits. -/
theorem document_of_named (h : Named application) (driver : DriverInformation)
    (machine : Machine) : document application driver machine =
      .ok ((Form.first? application driver machine).map fun form =>
        form.document application driver machine) := by
  have hshort : (application.filter fun name => nameLimit < name.utf8ByteSize) = none := by
    refine Option.filter_eq_none_iff.mpr fun name hname => ?_
    rw [decide_eq_true_eq, Nat.not_lt]
    exact h name hname
  rw [document, hshort, reductions_eq, List.find?_map]
  rfl

/-- Nothing but an application name that is too long is refused. -/
theorem document_eq_error_iff {e : Error} : document application driver machine = .error e ↔
    ∃ name, application = some name ∧ 128 < name.utf8ByteSize ∧ e = nameTooLong name := by
  constructor
  · intro herror
    by_cases hnamed : Named application
    · rw [document_of_named hnamed] at herror
      cases herror
    · simp only [Named, Classical.not_forall, exists_prop, Nat.not_le] at hnamed
      rcases hnamed with ⟨name, rfl, hlong⟩
      rw [document_of_long hlong, Except.error.injEq] at herror
      exact ⟨name, rfl, hlong, herror.symm⟩
  · rintro ⟨name, rfl, hlong, rfl⟩
    exact document_of_long hlong driver machine

/-- A form is told by its document, so that what comes out is one form or nothing. -/
theorem yields_iff (h : Named application) {chosen : Option Form} :
    Yields application driver machine chosen ↔ Form.first? application driver machine = chosen := by
  rw [Yields, document_of_named h, Except.ok.injEq]
  exact (Option.map_injective fun _ _ => Form.document_injective).eq_iff

/-- What comes out has a name that is not too long. -/
theorem named_of_ok {d : Option Document} (h : document application driver machine = .ok d) :
    Named application := by
  rintro name rfl
  refine Nat.not_lt.mp fun hlong => ?_
  rw [document_of_long hlong] at h
  cases h

/-- What comes out for an application and a driver. -/
structure Trimmed (application : Option String) (driver : DriverInformation)
    (machine : Machine) : Prop where
  /-- An application name over 128 bytes is refused, and nothing else is. -/
  refused_iff : ∀ e, document application driver machine = .error e ↔
    ∃ name, application = some name ∧ 128 < name.utf8ByteSize ∧ e = nameTooLong name
  /-- What comes out is a document in one of the forms, or nothing. -/
  answered : Named application → ∃ chosen, Yields application driver machine chosen
  /-- It is in a form that fits and no fuller one does. -/
  some_iff : Named application → ∀ form, Yields application driver machine (some form) ↔
    form.Fits application driver machine ∧
      ∀ fuller : Form, fuller.cut < form.cut → ¬fuller.Fits application driver machine
  /-- Nothing comes out if not even the last form fits. -/
  none_iff : Named application →
    (Yields application driver machine none ↔ ¬Form.typeOnly.Fits application driver machine)
  /-- Each form is smaller than the one before. -/
  smaller : (Form.typeOnly.document application driver machine).size <
      (Form.noPlatform.document application driver machine).size ∧
    (Form.noPlatform.document application driver machine).size <
      (Form.whole.document application driver machine).size
  /-- The application and the driver are left alone, and the keys keep their order. -/
  kept : ∀ d, document application driver machine = .ok (some d) →
    Form.opening application driver <+: d.fields ∧
      d.keys.Sublist (Form.whole.document application driver machine).keys
  /-- Entries that are added never lead back to a fuller form. -/
  grows : ∀ driver', driver.Grows driver' → ∀ chosen chosen',
    Yields application driver machine chosen → Yields application driver' machine chosen' →
      cutOf chosen ≤ cutOf chosen'

/-- What comes out is the first form that fits, if the name of the application does, and entries
    that libraries add to the driver never make it fuller. -/
theorem trimmed (application : Option String) (driver : DriverInformation)
    (machine : Machine) : Trimmed application driver machine where
  refused_iff e := document_eq_error_iff
  answered h := ⟨_, (yields_iff h).mpr rfl⟩
  some_iff h form := by rw [yields_iff h, Form.first?_eq_some_iff]
  none_iff h := by rw [yields_iff h, Form.first?_eq_none_iff]
  smaller := Form.size_lt application driver machine
  kept d hd := by
    rw [document_of_named (named_of_ok hd), Except.ok.injEq, Option.map_eq_some_iff] at hd
    rcases hd with ⟨form, -, rfl⟩
    refine ⟨List.prefix_append _ _, ?_⟩
    rw [Document.keys, Document.keys, Form.document, Form.document, List.map_append,
      List.map_append]
    refine List.Sublist.append_left ?_ _
    cases form with
    | whole => exact List.Sublist.refl _
    | noPlatform => exact List.Sublist.cons_cons _ (List.nil_sublist _)
    | typeOnly => exact List.Sublist.cons_cons _ (List.nil_sublist _)
  grows driver' hgrows chosen chosen' hchosen hchosen' := by
    have hnamed := named_of_ok hchosen
    rw [yields_iff hnamed] at hchosen hchosen'
    cases chosen' with
    | none => cases chosen with
      | none => exact Nat.le_refl _
      | some form => cases form <;> decide
    | some form' =>
        -- The form fitted before there were as many entries, so the first to fit is no later one.
        have hfits := (Form.first?_eq_some_iff.mp hchosen').1
        have hbefore : form'.Fits application driver machine :=
          Nat.le_trans (Form.size_le_of_grows hgrows form' application machine) hfits
        cases chosen with
        | none =>
            refine absurd (hbefore.of_cut_le ?_) (Form.first?_eq_none_iff.mp hchosen)
            cases form' <;> decide
        | some form =>
            refine Nat.not_lt.mp fun hcut => ?_
            exact (Form.first?_eq_some_iff.mp hchosen).2 form' hcut hbefore

end ClientMetadata

end DocumentLink
